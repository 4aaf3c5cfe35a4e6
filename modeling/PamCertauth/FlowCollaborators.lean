import PamCertauth.Configuration
import PamCertauth.TrustVerifier

/-!
# The collaborators of the authentication flow

Everything that the flow asks for is an operation on an environment of arbitrary type:
USB devices, mounts, prompts, tokens, the verifier, the hooks, the monitor, the clock and
the user database. Every such call is logged with its answer. The PIN dialogue of a
token is a tree, since the token library decides how often it asks.
-/

namespace PamCertauth.Flow

open X509 X509.CryptoLibrary Hooks

structure UsbDevice where
  devnode : String
  serial : Option String
  vid : UInt16
  pid : UInt16
  fsType : Option String
  deriving DecidableEq, Repr

inductive UsbError where
  | udev (detail : String)
  | io (detail : String)
  | timeout
  | noMatchingDevice
  | missingProperty (name : String)
  | unsupportedPlatform
  | tooManyPartitions (devnode : String) (count limit : ℕ)
  deriving DecidableEq, Repr

inductive MountError where
  | mountSyscall (detail : String)
  | unsupportedFs (fs : String)
  | mountpointInvalid (path : String)
  | guard (detail : String)
  | unsupportedPlatform
  deriving DecidableEq, Repr

inductive DiscoveryError where
  | io (detail : String)
  | p12NotFound (path : String)
  | p12TooLarge (actual : ℕ)
  | chainTooLarge (actual : ℕ)
  deriving DecidableEq, Repr

structure DiscoveredCreds where
  p12Path : String
  p12Bytes : Bytes
  chainPem : Option Bytes
  deriving DecidableEq, Repr

/-- A mounted device; the guard unmounts it. -/
structure MountSession where
  mountpoint : String
  guard : ℕ
  deriving DecidableEq, Repr

inductive FlowError where
  | usb (e : UsbError)
  | mount (e : MountError)
  | discovery (e : DiscoveryError)
  | conv (e : PamConvError)
  | p12Envelope (e : Pkcs12.P12EnvelopeError)
  | maxTries
  | pkcs12 (detail : String)
  | crypto (e : Challenge.CryptoError)
  | trust (e : TrustError)
  | mapping (e : MappingError)
  | certScope (e : HostBindingError)
  | internal (what : String)
  | pkcs11 (e : Pkcs11.Pkcs11Error)
  | pkcs11Acquire (e : Pkcs11.AcquireError)
  | pkcs11OpensslEngineNotImplemented
  | pkcs11ModulePathMissingInConfig
  | preAuthHook (e : HookError)
  | postAuthHook (e : HookError)
  deriving DecidableEq, Repr

namespace FlowError

def ofAcquire : Pkcs12.AcquireError → FlowError
  | .maxTries => maxTries
  | .conv e => conv e
  | .corrupt m => pkcs12 m
  | .missing s => pkcs12 ("missing: " ++ s)

def ofPkcs12 : Pkcs12.Pkcs12Error → FlowError
  | .wrongPin => maxTries
  | .missingKey => pkcs12 "missing key"
  | .missingCert => pkcs12 "missing cert"
  | .corrupt m => pkcs12 m

end FlowError

structure PasswdEntry where
  uid : UInt32
  dir : String
  deriving DecidableEq, Repr

/-- One external call of the flow, with its answer. -/
inductive Call (X509 : Type) [CryptoLibrary X509] where
  | hook (hook : HookConfig) (vars : HookVars) (outcome : Except HookError HookOutcome)
  | showInfo (msg : String)
  | waitForUsb (answer : Except UsbError (List UsbDevice))
  | mount (dev : UsbDevice) (answer : Except MountError MountSession)
  | unmount (session : MountSession)
  | discover (mountpoint pattern pamUser : String) (answer : Except DiscoveryError DiscoveredCreds)
  | prompt (text : String) (answer : Except PamConvError String)
  | fillNonce (answer : Except String (Vector UInt8 32))
  | sign (key : PrivateKey X509) (scheme : SignatureScheme) (data : Bytes)
      (answer : Except ErrorStack Bytes)
  | trustVerify (leaf : Certificate X509) (presented : List (Certificate X509))
      (answer : Except TrustError (Stage2VerifiedChain X509))
  | now (t : SystemTime)
  | userFromName (name : String) (answer : Except String (Option PasswdEntry))
  | auditParseFailed (pamUser : String) (ident : CertIdent) (error : String)
  | loadModule (path : String) (answer : Except Pkcs11.Pkcs11Error Unit)
  | waitForToken (answer : Except Pkcs11.Pkcs11Error Pkcs11.Slot)
  | readTokenSerial (slot : Pkcs11.Slot) (answer : Except Pkcs11.Pkcs11Error String)
  | tokenStep
  | findObjects (template : List Pkcs11.Attribute)
      (answer : Except String (List Pkcs11.ObjectHandle))
  | getAttributes (object : Pkcs11.ObjectHandle) (types : List Pkcs11.AttributeType)
      (answer : Except String (List Pkcs11.Attribute))
  | tokenSign (mechanism : Pkcs11.Mechanism) (key : Pkcs11.ObjectHandle) (data : Bytes)
      (answer : Except String Bytes)
  | closeSession
  | openSession (info : Ipc.OpenSessionInfo) (answer : Except Ipc.IpcError Unit)

section Collaborators

variable (σ X509 : Type) [CryptoLibrary X509]

abbrev PinPrompter := String → σ → Except PamConvError String × σ

structure FlowIo where
  waitForUsb : σ → Except UsbError (List UsbDevice) × σ
  mount : UsbDevice → σ → Except MountError MountSession × σ
  unmount : MountSession → σ → σ
  discover : String → String → String → σ → Except DiscoveryError DiscoveredCreds × σ
  showInfo : String → σ → σ

/-- A logged-in session on a token. Errors of the token library are texts. -/
structure Pkcs11Session where
  findObjects : List Pkcs11.Attribute → σ → Except String (List Pkcs11.ObjectHandle) × σ
  getAttributes : Pkcs11.ObjectHandle → List Pkcs11.AttributeType → σ →
    Except String (List Pkcs11.Attribute) × σ
  sign : Pkcs11.Mechanism → Pkcs11.ObjectHandle → Bytes → σ → Except String Bytes × σ
  close : σ → σ

/-- A dialogue that may ask for a PIN any number of times and act in between. -/
inductive PinDialog (ε α : Type) where
  | done (result : Except ε α)
  | effect (next : σ → σ) (k : σ → PinDialog ε α)
  | ask (prompt : String) (k : Except PamConvError String → PinDialog ε α)

/-- The token as the flow sees it. `close` is the drop of what stands behind it. -/
structure Pkcs11Io where
  waitForToken : σ → Except Pkcs11.Pkcs11Error Pkcs11.Slot × σ
  readTokenSerial : Pkcs11.Slot → σ → Except Pkcs11.Pkcs11Error String × σ
  acquireSession : Pkcs11.Slot → PinDialog σ Pkcs11.AcquireError (Pkcs11Session σ)
  close : σ → σ

structure Pkcs11Backend where
  waitForToken : Duration → Option String → σ → Except Pkcs11.Pkcs11Error Pkcs11.Slot × σ
  readTokenSerial : Pkcs11.Slot → σ → Except Pkcs11.Pkcs11Error String × σ
  openWithPin : Pkcs11.Slot → String → σ → Except Pkcs11.Pkcs11Error (Pkcs11Session σ) × σ
  close : σ → σ

/-- The operating system and the randomness of OpenSSL. -/
structure Platform where
  fillNonce : σ → Except String (Vector UInt8 32) × σ
  sign : PrivateKey X509 → SignatureScheme → Bytes → σ → Except ErrorStack Bytes × σ
  now : σ → SystemTime × σ
  userFromName : String → σ → Except String (Option PasswdEntry) × σ
  loadBackend : String → Pkcs11.LockingMode → σ →
    Except Pkcs11.Pkcs11Error (Pkcs11Backend σ) × σ

structure Deps where
  cfg : Config.ValidatedConfig
  trustVerify : Certificate X509 → List (Certificate X509) → σ →
    Except TrustError (Stage2VerifiedChain X509) × σ
  monitor : Ipc.MonitorClient σ
  hookExecutor : HookExecutor σ
  hostIdHash : String
  hostIdSource : HostIdSourceKind
  userMappings : List UserMapping
  pamTarget : Ipc.SessionTarget

/-- Who logs in, through which service, under which session id. -/
structure Login where
  pamUser : String
  pamService : String
  sessionId : String
  deriving DecidableEq, Repr

structure FlowOutcome where
  authCtx : AuthContext
  mount : Option MountSession
  deriving DecidableEq

abbrev FlowProg := Prog σ (Call X509) (Halt FlowError)

end Collaborators

/-- Run a PIN dialogue against a prompter. -/
def PinDialog.run {σ X509 ε α : Type} [CryptoLibrary X509] (prompter : PinPrompter σ) :
    PinDialog σ ε α → Prog σ (Call X509) ε α
  | .done result => Prog.ofExcept result
  | .effect next k => do
    let s ← Prog.call (fun s => (s, next s)) fun _ => .tokenStep
    (k s).run prompter
  | .ask prompt k => do
    let answer ← Prog.call (prompter prompt) (.prompt prompt)
    (k answer).run prompter

theorem PinDialog.run_logsOnly {σ X509 ε α : Type} [CryptoLibrary X509]
    {prompter : PinPrompter σ} {P : Call X509 → Prop} (hstep : P .tokenStep)
    (hprompt : ∀ text answer, P (.prompt text answer)) (dialog : PinDialog σ ε α) :
    Prog.LogsOnly P (dialog.run prompter) := by
  induction dialog with
  | done result => exact Prog.LogsOnly.ofExcept result
  | effect next k ih => exact (Prog.LogsOnly.call fun _ => hstep).bind fun s => ih s
  | ask text k ih => exact (Prog.LogsOnly.call (hprompt text)).bind fun answer => ih answer

def defaultPrompt : String := "Введите PIN токена: "

/-- The bounded retry loop of the production token library. -/
def acquirePkcs11Session {σ : Type} (backend : Pkcs11Backend σ) (slot : Pkcs11.Slot) :
    ℕ → PinDialog σ Pkcs11.AcquireError (Pkcs11Session σ)
  | 0 => .done (.error .maxAttemptsExceeded)
  | attempts + 1 => .ask defaultPrompt fun answer =>
    match answer with
    | .error e => .done (.error (.conv e))
    | .ok pin =>
      .effect (fun s => (backend.openWithPin slot pin s).2) fun s =>
        match (backend.openWithPin slot pin s).1 with
        | .ok session => .done (.ok session)
        | .error .pinIncorrect => acquirePkcs11Session backend slot attempts
        | .error .pinLocked => .done (.error .pinLocked)
        | .error other => .done (.error (.pkcs11 other))

def realPkcs11Io {σ : Type} (cfg : Config.ValidatedConfig) (backend : Pkcs11Backend σ) :
    Pkcs11Io σ where
  waitForToken := backend.waitForToken cfg.pkcs11SlotWait cfg.pkcs11TokenLabel
  readTokenSerial := backend.readTokenSerial
  acquireSession slot := acquirePkcs11Session backend slot cfg.pkcs11MaxPinAttempts
  close := backend.close

end PamCertauth.Flow
