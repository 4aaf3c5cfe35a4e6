import PamCertauth.Authorization
import Mathlib.Data.List.Infix

/-!
# Key material

What the program reads from a PKCS#12 bundle (`pkcs12/mod.rs`) and from the objects
of a PKCS#11 token (`token/pkcs11`), and how it chooses the signature scheme of the
challenge. Only the parts without effects are here: prompting, signing and the calls
to the token belong to the flow.
-/

namespace PamCertauth

open X509 X509.CryptoLibrary

/-- Failures of the PAM conversation. -/
inductive PamConvError where
  | noConv
  | convFailed
  | nonUtf8
  deriving DecidableEq, Repr

def containsText (needle s : String) : Bool := decide (needle.toList <:+: s.toList)

variable {X509 : Type} [CryptoLibrary X509]

namespace Pkcs12

inductive Pkcs12Error where
  | wrongPin
  | missingKey
  | missingCert
  | corrupt (detail : String)
  deriving DecidableEq, Repr

inductive AcquireError where
  | maxTries
  | conv (e : PamConvError)
  | corrupt (detail : String)
  | missing (what : String)
  deriving DecidableEq, Repr

inductive P12EnvelopeError where
  | asn1 (detail : String)
  deriving DecidableEq, Repr

/-- The content of a bundle that was opened with its PIN. The key is in PKCS#8. -/
structure LoadedKeyMaterial (X509 : Type) where
  endEntity : Certificate X509
  presentedChain : List (Certificate X509)
  key : Bytes
  deriving DecidableEq

def classifyParseError (e : ErrorStack) : Pkcs12Error :=
  let lc := e.text.toLower
  if containsText "mac verify" lc ∨ containsText "wrong password" lc ∨
      containsText "bad decrypt" lc ∨ containsText "invalid mac" lc then .wrongPin
  else .corrupt e.text

/-- Re-read a certificate of the bundle from its serialization. -/
def reparse (label : String) (cert : X509) : Except Pkcs12Error (Certificate X509) := do
  let der ← (toDer cert).mapError fun e => .corrupt e.text
  (Certificate.fromDer der).mapError fun e => .corrupt (label ++ ": " ++ e.toText)

namespace LoadedKeyMaterial

def fromP12 (bytes : Bytes) (pin : String) : Except Pkcs12Error (LoadedKeyMaterial X509) := do
  let p12 : CryptoLibrary.Pkcs12 X509 ← (pkcs12FromDer bytes).mapError fun e => .corrupt e.text
  let (pkey, cert, chain) ← (pkcs12Parse2 p12 pin).mapError classifyParseError
  let pkey ← match pkey with
    | some pkey => .ok pkey
    | none => .error .missingKey
  let cert ← match cert with
    | some cert => .ok cert
    | none => .error .missingCert
  let endEntity ← reparse "end-entity" cert
  let presentedChain ← (chain.getD []).mapM (reparse "chain cert")
  let key ← (privateKeyToPkcs8 pkey).mapError fun e => .corrupt e.text
  .ok ⟨endEntity, presentedChain, key⟩

def privateKey (material : LoadedKeyMaterial X509) : Except Pkcs12Error (PrivateKey X509) :=
  (privateKeyFromPkcs8 material.key).mapError fun e => .corrupt e.text

end LoadedKeyMaterial

variable (X509) in
def validateP12Envelope (bytes : Bytes) : Except P12EnvelopeError Unit :=
  match (pkcs12FromDer bytes : Except ErrorStack (CryptoLibrary.Pkcs12 X509)) with
  | .ok _ => .ok ()
  | .error e => .error (.asn1 e.text)

def tryExtractCertWithoutPin (bytes : Bytes) : Option (Certificate X509) := do
  let p12 : CryptoLibrary.Pkcs12 X509 ← (pkcs12FromDer bytes).toOption
  let (_, cert, _) ← (pkcs12Parse2 p12 "").toOption
  let cert ← cert
  let der ← (toDer cert).toOption
  (Certificate.fromDer der).toOption

end Pkcs12

namespace Challenge

inductive CryptoError where
  | rng (detail : String)
  | openssl (e : ErrorStack)
  | badSignature
  | unsupportedKey (what : String)
  | engineLoadFailed (source : GostEngineError)
  deriving DecidableEq, Repr

def nidX962Prime256v1 : ℕ := 415
def nidSecp384r1 : ℕ := 715
def nidIdGostR34102012256 : ℤ := 979
def nidIdGostR34102012512 : ℤ := 980

def ecDigest (pk : PublicKey X509) : Except CryptoError MessageDigest := do
  match ← (ecCurve pk).mapError .openssl with
  | none => .error (.unsupportedKey "EC w/o named curve")
  | some curve =>
    if curve = nidX962Prime256v1 then .ok .sha256
    else if curve = nidSecp384r1 then .ok .sha384
    else .error (.unsupportedKey "EC curve not supported")

/-- The digest of a GOST key, once the engine is there. -/
def gostScheme (X509 : Type) [CryptoLibrary X509] (md : MessageDigest)
    (gostEnginePath : Option String) : Except CryptoError SignatureScheme := do
  (ensureEngineLoaded X509 gostEnginePath).mapError .engineLoadFailed
  (digestAvailable X509 md).mapError .engineLoadFailed
  .ok (.plain md)

/-- How a nonce is signed and verified with keys of this kind. -/
def challengeScheme (pubKey : PublicKey X509) (gostEnginePath : Option String) :
    Except CryptoError SignatureScheme :=
  match publicKeyId pubKey with
  | .rsa => .ok (.rsaPss .sha256)
  | .ec => .plain <$> ecDigest pubKey
  | .ed25519 => .error (.unsupportedKey "Ed25519 not in stage-2 scope")
  | .other raw =>
    if raw = nidIdGostR34102012256 then gostScheme X509 .streebog256 gostEnginePath
    else if raw = nidIdGostR34102012512 then gostScheme X509 .streebog512 gostEnginePath
    else .error (.unsupportedKey "unknown")

/-- The public key against which the possession of the private key is proved. -/
def challengeKey (endEntity : Certificate X509) : Except CryptoError (PublicKey X509) :=
  endEntity.publicKey.mapError fun e =>
    match e with
    | .openssl s => .openssl s
    | _ => .unsupportedKey "cannot extract pubkey"

/-- The signature of the nonce must verify. -/
def requireValid : Except ErrorStack Bool → Except CryptoError Unit
  | .error e => .error (.openssl e)
  | .ok true => .ok ()
  | .ok false => .error .badSignature

theorem requireValid_eq_ok_iff {answer : Except ErrorStack Bool} :
    requireValid answer = .ok () ↔ answer = .ok true := by
  rcases answer with e | b
  · simp [requireValid]
  · cases b <;> simp [requireValid]

end Challenge

namespace Pkcs11

inductive LockingMode where
  | os
  | mutex
  deriving DecidableEq, Repr

inductive KeyType where
  | rsa
  | ec
  | gostr3410
  | other (display : String)
  deriving DecidableEq, Repr

inductive ObjectClass where
  | certificate
  | privateKey
  deriving DecidableEq, Repr

inductive Attribute where
  | class (c : ObjectClass)
  | certificateTypeX509
  | label (bytes : Bytes)
  | id (bytes : Bytes)
  | value (bytes : Bytes)
  | keyType (kt : KeyType)
  | extractable (b : Bool)
  | other
  deriving DecidableEq, Repr

inductive AttributeType where
  | value
  | id
  | label
  | keyType
  | extractable
  deriving DecidableEq, Repr

abbrev ObjectHandle := ℕ
abbrev Slot := ℕ

/-- Errors of the token library are carried as texts. -/
inductive Pkcs11Error where
  | modulePathMissing (path : String)
  | moduleLoadFailed (path source : String)
  | initFailed (source : String)
  | noTokenAvailable
  | tokenNotFound (label : String)
  | tokenWaitTimeout (seconds : ℕ)
  | sessionOpenFailed (source : String)
  | pinIncorrect
  | pinLocked
  | logoutFailed (source : String)
  | closeSessionFailed (source : String)
  | certificateNotFound (labelFilter : Option String)
  | certificateValueMissing
  | certificateParseFailed (detail : String)
  | privateKeyNotFound (ckaIdHex : String)
  | keyTypeAttributeMissing
  | tokenSerialMissing
  | unsupportedKeyType (keyType : String)
  | mechanismNotSupported (mechanism : String)
  | openssl (e : ErrorStack)
  | cryptoki (detail : String)
  deriving DecidableEq, Repr

inductive AcquireError where
  | pinLocked
  | maxAttemptsExceeded
  | conv (e : PamConvError)
  | pkcs11 (e : Pkcs11Error)
  deriving DecidableEq, Repr

structure FoundCertificate (X509 : Type) where
  object : ObjectHandle
  ckaId : Bytes
  ckaLabel : Option String
  certificate : Certificate X509
  deriving DecidableEq

structure FoundPrivateKey where
  object : ObjectHandle
  keyType : KeyType
  extractable : Bool
  deriving DecidableEq, Repr

def certificateTemplate (labelFilter : Option String) : List Attribute :=
  [.class .certificate, .certificateTypeX509] ++
    labelFilter.toList.map fun label => .label label.toUTF8.toList

def privateKeyTemplate (ckaId : Bytes) : List Attribute := [.class .privateKey, .id ckaId]

/-- The value, the identifier and the label among the attributes; the last of each wins. -/
def certificateAttributes (attrs : List Attribute) :
    Option Bytes × Option Bytes × Option Bytes :=
  attrs.foldl (fun acc attr =>
    match attr with
    | .value v => (some v, acc.2.1, acc.2.2)
    | .id v => (acc.1, some v, acc.2.2)
    | .label v => (acc.1, acc.2.1, some v)
    | _ => acc) (none, none, none)

/-- A certificate object, if it has a value that parses. -/
def parseCertificateObject (handle : ObjectHandle) (attrs : List Attribute) :
    Except Pkcs11Error (FoundCertificate X509) :=
  match certificateAttributes attrs with
  | (none, _, _) => .error .certificateValueMissing
  | (some value, id, label) => do
    let certificate ←
      (Certificate.fromDer value).mapError fun e => .certificateParseFailed e.toText
    .ok ⟨handle, id.getD [], label.bind fun raw => String.fromUTF8? ⟨raw.toArray⟩, certificate⟩

def parsePrivateKeyAttributes (handle : ObjectHandle) (attrs : List Attribute) :
    Except Pkcs11Error FoundPrivateKey :=
  let (keyType, extractable) := attrs.foldl (fun acc attr =>
    match attr with
    | .keyType kt => (some kt, acc.2)
    | .extractable b => (acc.1, b)
    | _ => acc) ((none : Option KeyType), false)
  match keyType with
  | none => .error .keyTypeAttributeMissing
  | some kt => .ok ⟨handle, kt, extractable⟩

def ckaIdLogPrefix (id : Bytes) : String :=
  String.join ((id.take 4).map hexByte) ++ if id.length > 4 then "..." else ""

inductive Mechanism where
  | sha256RsaPkcsPss (saltLen : ℕ)
  | ecdsaSha256
  | ecdsaSha384
  deriving DecidableEq, Repr

/-- What the token signs: the nonce itself, or its digest. -/
inductive TokenSignMechanism where
  | rawSign (mechanism : Mechanism) (hostHash : MessageDigest)
  | preHashed (mechanism : Mechanism) (hostHash : MessageDigest)
  deriving DecidableEq, Repr

def TokenSignMechanism.hostHash : TokenSignMechanism → MessageDigest
  | rawSign _ h | preHashed _ h => h

def selectMechanism (keyType : KeyType) (pubkey : PublicKey X509) :
    Except Pkcs11Error TokenSignMechanism :=
  match keyType with
  | .rsa => .ok (.rawSign (.sha256RsaPkcsPss 32) .sha256)
  | .ec => do
    match ← (ecCurve pubkey).mapError .openssl with
    | none => .error (.unsupportedKeyType "EC w/o named curve")
    | some curve =>
      if curve = Challenge.nidX962Prime256v1 then .ok (.rawSign .ecdsaSha256 .sha256)
      else if curve = Challenge.nidSecp384r1 then .ok (.rawSign .ecdsaSha384 .sha384)
      else .error (.unsupportedKeyType ("EC curve nid " ++ toString curve))
  | .gostr3410 =>
    .error (.mechanismNotSupported "CKM_GOSTR3410 (cryptoki 0.7 has no enum variant)")
  | .other display => .error (.unsupportedKeyType display)

open Challenge in
def ecdsaRawToDer (X509 : Type) [CryptoLibrary X509] (raw : Bytes) : Except CryptoError Bytes :=
  if raw = [] ∨ raw.length % 2 ≠ 0 then .error .badSignature
  else
    let half := raw.length / 2
    (ecdsaSigToDer X509 (raw.take half) (raw.drop half)).mapError .openssl

open Challenge in
/-- The signature of the token in the encoding that the host verifies. -/
def hostSignature (X509 : Type) [CryptoLibrary X509] (keyType : KeyType) (signature : Bytes) :
    Except CryptoError Bytes :=
  if keyType = .ec then ecdsaRawToDer X509 signature else .ok signature

open Challenge in
/-- The token's signature must verify under the public key of the certificate. -/
def verifyOnHost (pubkey : PublicKey X509) (keyType : KeyType) (hostHash : MessageDigest)
    (nonce signature : Bytes) : Except CryptoError Unit := do
  let signature ← hostSignature X509 keyType signature
  let scheme : SignatureScheme := if keyType = .rsa then .rsaPss hostHash else .plain hostHash
  requireValid (verifyData pubkey scheme nonce signature)

end Pkcs11
end PamCertauth
