import PamCertauth.FlowCollaborators

/-!
# The authentication flow

The two pipelines of `flow.rs`, step by step: hooks before the login, the device or token,
the PIN, the challenge, the chain, the binding to the host, the authorisation of the user,
the context, hooks after the login, and the report to the monitor. A mounted device is
unmounted and a session on a token is closed when a later step fails.
-/

namespace PamCertauth.Flow

open X509 X509.CryptoLibrary Hooks

variable {σ X509 : Type} [CryptoLibrary X509]

/-- A computation of the core library inside the flow. -/
def liftExcept {ε α : Type} (f : ε → FlowError) (x : Except ε α) : FlowProg σ X509 α :=
  Prog.ofExcept (x.mapError fun e => .error (f e))

/-- A request whose failure ends the flow. -/
def ask {ε α : Type} (op : σ → Except ε α × σ) (entry : Except ε α → Call X509)
    (f : ε → FlowError) : FlowProg σ X509 α :=
  Prog.request op entry fun e => .error (f e)

def notify (op : σ → σ) (entry : Call X509) {ε : Type} : Prog σ (Call X509) ε Unit :=
  Prog.call (fun s => ((), op s)) fun _ => entry

/-- The first eight bytes of the host id, for the screen. -/
def hostIdPrefix (hostIdHash : String) : Except (Halt FlowError) String :=
  match splitAtByte (min hostIdHash.utf8ByteSize 8) hostIdHash.toList with
  | some (front, _) => .ok (String.ofList front)
  | none => .error (.panicked "byte index 8 is not a char boundary")

section Steps

variable (deps : Deps σ X509) (platform : Platform σ X509) (login : Login)

def preAuthHooks : FlowProg σ X509 Unit :=
  Prog.mapError (fun e => .error (.preAuthHook e))
    (runHooksForStage deps.cfg.hooks .preAuth deps.hookExecutor Call.hook
      (HookVars.forPreAuth login.pamUser login.pamService deps.hostIdHash deps.hostIdHash
        deps.hostIdSource.display))

/-- The user is authorised by the certificate if its binding extension parses, and by
the configured mapping otherwise. -/
def authorizeUser (leaf : Certificate X509) : Except FlowError Unit :=
  if (UserBindingExt.parse leaf.inner).isOk then
    (verifyUserBinding leaf.inner login.pamUser).mapError .certScope
  else
    match matchUser leaf login.pamUser deps.userMappings with
    | .ok _ => .ok ()
    | .error e => .error (.mapping e)

def resolveHomeDir : FlowProg σ X509 (Option String) := do
  let answer ← Prog.call (platform.userFromName login.pamUser) (.userFromName login.pamUser)
  match answer with
  | .ok (some entry) => pure (some entry.dir)
  | _ => pure none

def resolveUid : FlowProg σ X509 UInt32 := do
  let answer ← Prog.call (platform.userFromName login.pamUser) (.userFromName login.pamUser)
  match answer with
  | .ok (some entry) => pure entry.uid
  | _ => pure 0

/-- The integrity bound of the leaf. One that does not parse is reported and dropped. -/
def certMaxIntegrity (leaf : VerifiedX509 X509) : FlowProg σ X509 (Option IntegrityLabel) :=
  match extractMaxIntegrity leaf with
  | .ok label => pure label
  | .error e => do
    notify id (.auditParseFailed login.pamUser (CertIdent.ofVerified leaf) e.toText)
    pure none

def assembleContext (leaf : Certificate X509) (verified : Stage2VerifiedChain X509)
    (usbSerial usbVidPid : Option String) : FlowProg σ X509 AuthContext := do
  let certMaxIntegrity ← certMaxIntegrity login verified.verifiedLeaf
  let homeDir ← resolveHomeDir platform login
  let authenticatedAt ← Prog.call platform.now .now
  pure
    { sessionId := login.sessionId
      certCn := leaf.subjectCn.toOption
      certSerial := some leaf.crlSerial
      usbSerial := usbSerial
      usbVidPid := usbVidPid
      pamService := login.pamService
      hostId := deps.hostIdHash
      hostIdSource := deps.hostIdSource
      authenticatedAt := authenticatedAt
      certNotAfter := some leaf.notAfter
      certMaxIntegrity := certMaxIntegrity
      certIdent := some (CertIdent.ofVerified verified.verifiedLeaf)
      homeDir := homeDir }

def postAuthHooks (ctx : AuthContext) : FlowProg σ X509 Unit :=
  Prog.mapError (fun e => .error (.postAuthHook e))
    (runHooksForStage deps.cfg.hooks .postAuthSuccess deps.hookExecutor Call.hook
      (HookVars.forPostAuthSuccess login.pamUser ctx))

def hexText (bytes : Bytes) : String := String.join (bytes.map hexByte)

def openSessionInfo (leaf : Certificate X509) (ctx : AuthContext) (uid : UInt32) :
    Ipc.OpenSessionInfo where
  sessionId := ctx.sessionId
  pamUser := login.pamUser
  pamService := login.pamService
  hostIdHash := deps.hostIdHash
  target := deps.pamTarget
  usbSerial := ctx.usbSerial
  certCn := ctx.certCn.getD ""
  certSerial := ctx.certSerial.getD ""
  engineerSki := (subjectKeyId leaf.inner).elim "" hexText
  engineerCertSha256 :=
    match toDer leaf.inner with
    | .ok der => hexText (sha256 X509 der).toList
    | .error _ => ""
  uid := uid

-- The answer of the monitor is logged by the source and has no further effect.
def reportSession (leaf : Certificate X509) (ctx : AuthContext) : FlowProg σ X509 Unit := do
  let uid ← resolveUid platform login
  let info := openSessionInfo deps login leaf ctx uid
  let _ ← Prog.call (deps.monitor.openSession info) (.openSession info)
  pure ()

/-- Steps 11b and 11c: the hooks after the login and the report. -/
def concludeLogin (leaf : Certificate X509) (ctx : AuthContext) (mount : Option MountSession) :
    FlowProg σ X509 FlowOutcome := do
  postAuthHooks deps login ctx
  reportSession deps platform login leaf ctx
  pure ⟨ctx, mount⟩

end Steps

section Pkcs12

variable (deps : Deps σ X509) (platform : Platform σ X509) (io : FlowIo σ)
  (promptPin : PinPrompter σ) (login : Login)

def defaultPkcs12PathPattern : String := "certs/user.p12"

/-- Mount the candidates in turn until one has a bundle that looks like one. -/
def bindCandidate (pattern : String) :
    List UsbDevice → Option DiscoveryError → Option Pkcs12.P12EnvelopeError →
      FlowProg σ X509 (UsbDevice × MountSession × DiscoveredCreds)
  | [], lastDiscoveryErr, lastEnvelopeErr =>
    match lastEnvelopeErr with
    | some e => Prog.fail (.error (.p12Envelope e))
    | none => Prog.fail (.error (.discovery (lastDiscoveryErr.getD (.p12NotFound pattern))))
  | candidate :: candidates, lastDiscoveryErr, lastEnvelopeErr => do
    let session ← ask (io.mount candidate) (.mount candidate) .mount
    let found ← Prog.call (io.discover session.mountpoint pattern login.pamUser)
      (.discover session.mountpoint pattern login.pamUser)
    match found with
    | .ok creds =>
      match Pkcs12.validateP12Envelope X509 creds.p12Bytes with
      | .ok () => pure (candidate, session, creds)
      | .error e => do
        notify (io.unmount session) (.unmount session)
        bindCandidate pattern candidates lastDiscoveryErr (some e)
    | .error (.p12NotFound path) => do
      notify (io.unmount session) (.unmount session)
      bindCandidate pattern candidates (some (.p12NotFound path)) lastEnvelopeErr
    | .error other => do
      notify (io.unmount session) (.unmount session)
      Prog.fail (.error (.discovery other))

/-- Ask for the PIN of the bundle a bounded number of times. -/
def acquireP12MaterialWithPrompter (bytes : Bytes) :
    ℕ → Prog σ (Call X509) Pkcs12.AcquireError (Pkcs12.LoadedKeyMaterial X509)
  | 0 => Prog.fail .maxTries
  | tries + 1 => do
    let pin ← Prog.request (promptPin "Smart-card PIN: ") (.prompt "Smart-card PIN: ") .conv
    match Pkcs12.LoadedKeyMaterial.fromP12 bytes pin with
    | .ok material => pure material
    | .error .wrongPin => acquireP12MaterialWithPrompter bytes tries
    | .error .missingKey => Prog.fail (.missing "key")
    | .error .missingCert => Prog.fail (.missing "cert")
    | .error (.corrupt m) => Prog.fail (.corrupt m)

def hostDescriptorText : HostDescriptor → String
  | .wildcard => "*"
  | .sha256Hex h => "sha256:" ++ h
  | .raw r => r

def userDescriptorText : UserDescriptor → String
  | .wildcard => "*"
  | .exact u => u

/-- What the screen says when the PIN was wrong too often. -/
def p12WrongPinDiagnostic (X509 : Type) [CryptoLibrary X509] (p12Bytes : Bytes) :
    Except (Halt FlowError) String :=
  match (Pkcs12.tryExtractCertWithoutPin p12Bytes : Option (Certificate X509)) with
  | none => .ok "Пароль .p12 неверный. Проверьте флешку и попробуйте ещё раз."
  | some cert => do
    let host ← match HostBindingExt.parse cert.inner with
      | .ok entries => .ok (", ".intercalate (entries.map hostDescriptorText))
      | .error (.error _) => .ok "<не указан>"
      | .error (.panicked message) => .error (.panicked message)
    let user := match UserBindingExt.parse cert.inner with
      | .ok entries => ", ".intercalate (entries.map userDescriptorText)
      | .error _ => "<не указан>"
    .ok ("Пароль .p12 неверный.\nЭтот сертификат выпущен для:\nhost_id_hash: " ++ host ++
      "\nпользователь: " ++ user ++ "\nПроверьте, что вставлена нужная флешка.")

def loadMaterial (bytes : Bytes) : FlowProg σ X509 (Pkcs12.LoadedKeyMaterial X509) := do
  let acquired ← Prog.attempt (acquireP12MaterialWithPrompter promptPin bytes 3)
  match acquired with
  | .ok material => pure material
  | .error .maxTries => do
    let text ← Prog.ofExcept (p12WrongPinDiagnostic X509 bytes)
    notify (io.showInfo text) (.showInfo text)
    Prog.fail (.error .maxTries)
  | .error e => Prog.fail (.error (.ofAcquire e))

/-- Sign a fresh nonce and verify the signature under the key of the certificate. -/
def challengeResponse (endEntity : Certificate X509) (key : PrivateKey X509)
    (gostEnginePath : Option String) : Prog σ (Call X509) Challenge.CryptoError Unit := do
  let pubKey ← Prog.ofExcept (Challenge.challengeKey endEntity)
  let scheme ← Prog.ofExcept (Challenge.challengeScheme pubKey gostEnginePath)
  let nonce ← Prog.request platform.fillNonce .fillNonce .rng
  let sig ← Prog.request (platform.sign key scheme nonce.toList) (.sign key scheme nonce.toList)
    .openssl
  Prog.ofExcept (Challenge.requireValid (verifyData pubKey scheme nonce.toList sig))

def parseChainPem (pem : Bytes) : Except TrustError (List (Certificate X509)) := do
  let stack : List X509 ← (x509StackFromPem pem).mapError fun e => .certParse e.text
  stack.mapM fun x => do
    let der ← (toDer x).mapError fun e => .certParse e.text
    Certificate.fromDer der

def presentedCertificates (loaded : Pkcs12.LoadedKeyMaterial X509) (chainPem : Option Bytes) :
    Except TrustError (List (Certificate X509)) :=
  match chainPem with
  | none => .ok loaded.presentedChain
  | some pem => (loaded.presentedChain ++ ·) <$> parseChainPem pem

/-- The binding to the host. A refusal is explained on the screen. -/
def checkHostBinding (leaf : Certificate X509) : FlowProg σ X509 Unit :=
  match verifyHostBinding leaf.inner deps.hostIdHash with
  | .ok () => pure ()
  | .error (.panicked message) => Prog.fail (.panicked message)
  | .error (.error e) => do
    let shown ← Prog.ofExcept (hostIdPrefix deps.hostIdHash)
    let text := "Сертификат выпущен для другого банкомата.\nhost_id этой машины: " ++ shown ++
      " (source=" ++ deps.hostIdSource.debug ++ ")\nПередайте администратору для перевыпуска."
    notify (io.showInfo text) (.showInfo text)
    Prog.fail (.error (.certScope e))

/-- Steps 5 to 9: PIN, challenge, chain and host. -/
def pkcs12Checks (creds : DiscoveredCreds) :
    FlowProg σ X509 (Certificate X509 × Stage2VerifiedChain X509) := do
  let loaded ← loadMaterial io promptPin creds.p12Bytes
  let privKey ← liftExcept .ofPkcs12 loaded.privateKey
  Prog.mapError (fun e => .error (.crypto e))
    (challengeResponse platform loaded.endEntity privKey deps.cfg.gostEnginePath)
  let presented ← liftExcept .trust (presentedCertificates loaded creds.chainPem)
  let verified ← ask (deps.trustVerify loaded.endEntity presented)
    (.trustVerify loaded.endEntity presented) .trust
  checkHostBinding deps io loaded.endEntity
  pure (loaded.endEntity, verified)

def hexWord (w : UInt16) : String :=
  hexByte (w >>> 8).toUInt8 ++ hexByte w.toUInt8

def vidPid (dev : UsbDevice) : String := hexWord dev.vid ++ ":" ++ hexWord dev.pid

/-- Steps 10 to 11c: the user, the context and the admission. -/
def pkcs12Verdict (dev : UsbDevice) (session : MountSession) (leaf : Certificate X509)
    (verified : Stage2VerifiedChain X509) : FlowProg σ X509 FlowOutcome := do
  liftExcept id (authorizeUser deps login leaf)
  let ctx ← assembleContext deps platform login leaf verified dev.serial (some (vidPid dev))
  concludeLogin deps platform login leaf ctx (some session)

/-- The rest of the flow behind a bound device, which it unmounts when it fails. -/
def withBoundDevice (dev : UsbDevice) (session : MountSession) (creds : DiscoveredCreds) :
    FlowProg σ X509 FlowOutcome :=
  Prog.onFailure
    (do
      let (leaf, verified) ← pkcs12Checks deps platform io promptPin creds
      pkcs12Verdict deps platform login dev session leaf verified)
    (notify (io.unmount session) (.unmount session))

def authenticatePkcs12 : FlowProg σ X509 FlowOutcome := do
  preAuthHooks deps login
  let usbDevices ← ask io.waitForUsb .waitForUsb .usb
  let pattern := deps.cfg.pkcs12PathPattern.getD defaultPkcs12PathPattern
  let (dev, session, creds) ← bindCandidate io login pattern usbDevices none none
  withBoundDevice deps platform io promptPin login dev session creds

end Pkcs12

section Pkcs11

open Pkcs11

variable (deps : Deps σ X509) (platform : Platform σ X509) (io : Pkcs11Io σ)
  (promptPin : PinPrompter σ) (login : Login)

/-- The first object whose value parses as a certificate. -/
def firstCertificate (session : Pkcs11Session σ) (labelFilter : Option String) :
    List ObjectHandle → Prog σ (Call X509) Pkcs11Error (FoundCertificate X509)
  | [] => Prog.fail (.certificateNotFound labelFilter)
  | handle :: handles => do
    let attrs ← Prog.call (session.getAttributes handle [.value, .id, .label])
      (.getAttributes handle [.value, .id, .label])
    match attrs with
    | .error _ => firstCertificate session labelFilter handles
    | .ok attrs =>
      match parseCertificateObject handle attrs with
      | .ok found => pure found
      | .error _ => firstCertificate session labelFilter handles

def findCertificate (session : Pkcs11Session σ) (labelFilter : Option String) :
    Prog σ (Call X509) Pkcs11Error (FoundCertificate X509) := do
  let handles ← Prog.request (session.findObjects (certificateTemplate labelFilter))
    (.findObjects (certificateTemplate labelFilter)) .cryptoki
  firstCertificate session labelFilter handles

/-- The private key with the identifier of the certificate. -/
def findPrivateKeyForCert (session : Pkcs11Session σ) (cert : FoundCertificate X509) :
    Prog σ (Call X509) Pkcs11Error FoundPrivateKey := do
  let handles ← Prog.request (session.findObjects (privateKeyTemplate cert.ckaId))
    (.findObjects (privateKeyTemplate cert.ckaId)) .cryptoki
  match handles with
  | [] => Prog.fail (.privateKeyNotFound (ckaIdLogPrefix cert.ckaId))
  | handle :: _ => do
    let attrs ← Prog.request (session.getAttributes handle [.keyType, .extractable])
      (.getAttributes handle [.keyType, .extractable]) .cryptoki
    Prog.ofExcept (parsePrivateKeyAttributes handle attrs)

/-- What the token is asked to sign, and how. -/
def tokenInput (X509 : Type) [CryptoLibrary X509] (mechanism : TokenSignMechanism)
    (nonce : Bytes) :
    Except Challenge.CryptoError (Mechanism × Bytes) :=
  match mechanism with
  | .rawSign m _ => .ok (m, nonce)
  | .preHashed m hostHash => do
    let digest ← (hashData X509 hostHash nonce).mapError .openssl
    .ok (m, digest)

def tokenChallengeKey (endEntity : Certificate X509) :
    Except Challenge.CryptoError (PublicKey X509) :=
  endEntity.publicKey.mapError fun e =>
    match e with
    | .openssl s => .rng ("pubkey extract: " ++ s.text)
    | other => .rng ("pubkey extract: " ++ other.toText)

/-- Let the token sign a fresh nonce and verify the signature on the host. -/
def pkcs11ChallengeResponse (session : Pkcs11Session σ) (keyHandle : ObjectHandle)
    (keyType : KeyType) (mechanism : TokenSignMechanism) (endEntity : Certificate X509) :
    Prog σ (Call X509) Challenge.CryptoError Unit := do
  let nonce ← Prog.request platform.fillNonce .fillNonce .rng
  let (m, data) ← Prog.ofExcept (tokenInput X509 mechanism nonce.toList)
  let signature ← Prog.request (session.sign m keyHandle data) (.tokenSign m keyHandle data)
    fun e => .rng ("token sign failed: " ++ e)
  let pubkey ← Prog.ofExcept (tokenChallengeKey endEntity)
  Prog.ofExcept (verifyOnHost pubkey keyType mechanism.hostHash nonce.toList signature)

/-- Steps 5 to 9: certificate, key, challenge, chain and host. -/
def pkcs11Checks (session : Pkcs11Session σ) :
    FlowProg σ X509 (Certificate X509 × Stage2VerifiedChain X509) := do
  let cert ← Prog.mapError (fun e => .error (.pkcs11 e))
    (findCertificate session deps.cfg.pkcs11ObjectLabel)
  let key ← Prog.mapError (fun e => .error (.pkcs11 e)) (findPrivateKeyForCert session cert)
  let pubkey ← liftExcept .trust cert.certificate.publicKey
  let mechanism ← liftExcept .pkcs11 (selectMechanism key.keyType pubkey)
  Prog.mapError (fun e => .error (.crypto e))
    (pkcs11ChallengeResponse platform session key.object key.keyType mechanism cert.certificate)
  let verified ← ask (deps.trustVerify cert.certificate []) (.trustVerify cert.certificate [])
    .trust
  Prog.ofExcept ((verifyHostBinding cert.certificate.inner deps.hostIdHash).mapError
    (Halt.map .certScope))
  pure (cert.certificate, verified)

/-- Steps 10 and 11: the user and the context. -/
def pkcs11Verdict (tokenSerial : String) (leaf : Certificate X509)
    (verified : Stage2VerifiedChain X509) : FlowProg σ X509 (Certificate X509 × AuthContext) := do
  liftExcept id (authorizeUser deps login leaf)
  let ctx ← assembleContext deps platform login leaf verified (some tokenSerial) none
  pure (leaf, ctx)

-- The source drops the session, and with it the login on the token, once the context
-- is assembled. An earlier failure drops it too.
def withSession (session : Pkcs11Session σ) (tokenSerial : String) :
    FlowProg σ X509 (Certificate X509 × AuthContext) := do
  let passed ← Prog.onFailure
    (do
      let (leaf, verified) ← pkcs11Checks deps platform session
      pkcs11Verdict deps platform login tokenSerial leaf verified)
    (notify session.close .closeSession)
  notify session.close .closeSession
  pure passed

/-- The prompter that shows the configured prompt in place of the default one. -/
def overridePrompt (promptOverride : Option String) : PinPrompter σ :=
  fun text => promptPin (promptOverride.getD text)

/-- The PIN dialogue on a slot, up to a session. -/
def acquireSession (slot : Slot) : FlowProg σ X509 (Pkcs11Session σ) :=
  Prog.mapError (fun e => .error (.pkcs11Acquire e))
    ((io.acquireSession slot).run (overridePrompt promptPin deps.cfg.pkcs11PinPrompt))

def authenticatePkcs11 : FlowProg σ X509 FlowOutcome := do
  preAuthHooks deps login
  let slot ← ask io.waitForToken .waitForToken .pkcs11
  let tokenSerial ← ask (io.readTokenSerial slot) (.readTokenSerial slot) .pkcs11
  let session ← acquireSession deps io promptPin slot
  let (leaf, ctx) ← withSession deps platform login session tokenSerial
  concludeLogin deps platform login leaf ctx none

end Pkcs11

section Dispatch

variable (deps : Deps σ X509) (platform : Platform σ X509) (io : FlowIo σ)
  (promptPin : PinPrompter σ) (login : Login)

def loadPkcs11Io : FlowProg σ X509 (Pkcs11Io σ) :=
  match deps.cfg.pkcs11Module with
  | none => Prog.fail (.error .pkcs11ModulePathMissingInConfig)
  | some path => do
    let backend ← ask (platform.loadBackend path deps.cfg.pkcs11LockingMode)
      (fun answer => .loadModule path (answer.map fun _ => ())) .pkcs11
    pure (realPkcs11Io deps.cfg backend)

/-- The line that identifies the machine before any prompt. -/
def banner : FlowProg σ X509 Unit := do
  let shown ← Prog.ofExcept (hostIdPrefix deps.hostIdHash)
  let text := "Этот банкомат: host_id=" ++ shown ++ " (source=" ++ deps.hostIdSource.debug ++ ")"
  notify (io.showInfo text) (.showInfo text)

-- The backend is a local variable of the source, and is dropped when the flow has ended.
def authenticateMode : Config.Mode → Config.CryptoBackend → FlowProg σ X509 FlowOutcome
  | .pkcs12, _ => authenticatePkcs12 deps platform io promptPin login
  | .pkcs11, .pkcs11Native => do
    let pkcs11Io ← loadPkcs11Io deps platform
    Prog.closing pkcs11Io.close (authenticatePkcs11 deps platform pkcs11Io promptPin login)
  | .pkcs11, .openssl => Prog.fail (.error .pkcs11OpensslEngineNotImplemented)

def authenticate : FlowProg σ X509 FlowOutcome := do
  banner deps io
  authenticateMode deps platform io promptPin login deps.cfg.mode deps.cfg.cryptoBackend

end Dispatch

end PamCertauth.Flow
