import PamCertauth.DerReading
import Mathlib.Data.Int.Notation

/-!
# Certificates

Parsed certificates and their accessors, after `x509/mod.rs`, `x509/ext.rs` and
`x509/der_helpers.rs`. What the program takes from OpenSSL and from the hash
crate is the class `CryptoLibrary`. The extensions that OpenSSL has no accessor
for are found by walking the DER encoding: `extensionValue` compares dotted
object identifiers and `extractExtensionByOid` compares encoded ones, over one
common walk.
-/

namespace PamCertauth.X509

/-- Nanoseconds relative to the Unix epoch. -/
abbrev SystemTime := ℤ

/-- Nanoseconds. -/
abbrev Duration := ℕ

def Duration.fromSecs (secs : ℕ) : Duration := secs * 10 ^ 9

/-- The first instant, in nanoseconds, that the monotonic clock cannot represent. -/
def instantLimit : ℕ := 2 ^ 63 * 10 ^ 9

inductive MessageDigest where
  | sha256
  | sha384
  | streebog256
  | streebog512
  deriving DecidableEq, Repr

/-- How a nonce is signed: with PSS padding and a salt of 32 bytes, or plainly. -/
inductive SignatureScheme where
  | rsaPss (digest : MessageDigest)
  | plain (digest : MessageDigest)
  deriving DecidableEq, Repr

/-- The algorithm of a public key. -/
inductive KeyId where
  | rsa
  | ec
  | ed25519
  | other (raw : ℤ)
  deriving DecidableEq, Repr

/-- The operations of OpenSSL and of the hash crate on certificates of type `X509`.
Texts that OpenSSL cannot render are `none`, times are offsets from the epoch in
days and seconds, curves are numbered. -/
class CryptoLibrary (X509 : Type) where
  Name : Type
  PublicKey : Type
  PrivateKey : Type
  X509Crl : Type
  Pkcs12 : Type
  x509FromDer : Bytes → Except ErrorStack X509
  x509FromPem : Bytes → Except ErrorStack X509
  x509StackFromPem : Bytes → Except ErrorStack (List X509)
  toDer : X509 → Except ErrorStack Bytes
  digestSha256 : X509 → Except ErrorStack Bytes
  issuerName : X509 → Name
  subjectName : X509 → Name
  tryCmp : Name → Name → Except ErrorStack Ordering
  nameToDer : Name → Except ErrorStack Bytes
  nameEntries : Name → List (Option String × Option String)
  commonNames : Name → List (Option String)
  subjectAltNameEmails : X509 → Option (List String)
  serialHex : X509 → Option String
  notBefore : X509 → Except ErrorStack (ℤ × ℤ)
  notAfter : X509 → Except ErrorStack (ℤ × ℤ)
  signatureAlgorithmObject : X509 → String
  version : X509 → ℤ
  subjectKeyId : X509 → Option Bytes
  authorityKeyId : X509 → Option Bytes
  publicKey : X509 → Except ErrorStack PublicKey
  publicKeyToDer : PublicKey → Except ErrorStack Bytes
  publicKeyId : PublicKey → KeyId
  ecCurve : PublicKey → Except ErrorStack (Option ℕ)
  verify : X509 → PublicKey → Except ErrorStack Bool
  verifyData : PublicKey → SignatureScheme → Bytes → Bytes → Except ErrorStack Bool
  hashData : MessageDigest → Bytes → Except ErrorStack Bytes
  ecdsaSigToDer : Bytes → Bytes → Except ErrorStack Bytes
  pkcs12FromDer : Bytes → Except ErrorStack Pkcs12
  pkcs12Parse2 : Pkcs12 → String →
    Except ErrorStack (Option PrivateKey × Option X509 × Option (List X509))
  privateKeyToPkcs8 : PrivateKey → Except ErrorStack Bytes
  privateKeyFromPkcs8 : Bytes → Except ErrorStack PrivateKey
  asn1ObjectFromStr : String → Except ErrorStack Bytes
  crlFromPem : Bytes → Except ErrorStack X509Crl
  crlLastUpdate : X509Crl → Except ErrorStack (ℤ × ℤ)
  crlNextUpdate : X509Crl → Option (Except ErrorStack (ℤ × ℤ))
  crlRevokedHex : X509Crl → Option (List (Except ErrorStack String))
  crlIssuerName : X509Crl → Name
  sha256 : Bytes → Vector UInt8 32
  ensureEngineLoaded : Option String → Except GostEngineError Unit
  digestAvailable : MessageDigest → Except GostEngineError Unit

open CryptoLibrary

/-- A parsed certificate with its DER serialization. -/
structure Certificate (X509 : Type) where
  inner : X509
  derCache : Bytes
  deriving DecidableEq

/-- Offsets that OpenSSL cannot compute count as the epoch. -/
def asn1ToSystem : Except ErrorStack (ℤ × ℤ) → SystemTime
  | .error _ => 0
  | .ok (days, secs) => (days * 86400 + secs) * 10 ^ 9

/-- The content of the `[3]` field of the certificate body, if it has one. -/
def extensionsField (certDer : Bytes) : Except TrustError (Option Bytes) := do
  let outer ← readTlvExpect certDer tagSequence
  let tbs ← readTlvExpect outer.value tagSequence
  tlvReader.readUntil
    (fun tlv => if tlv.tag = tagExtensions then some tlv.value else none) tbs.value

/-- Drop an optional BOOLEAN element. -/
def skipCritical (inner : Bytes) : Except TrustError Bytes :=
  if inner = [] then .ok inner
  else do
    let peek ← readTlv inner
    .ok (if peek.tag = tagBoolean then peek.rest else inner)

/-- One extension: the content of its object identifier and of its OCTET STRING. -/
def readExtension (walker : Bytes) : Except TrustError ((Bytes × Bytes) × Bytes) := do
  let extTlv ← readTlvExpect walker tagSequence
  let oid ← readTlvExpect extTlv.value tagOid
  let inner ← skipCritical oid.rest
  let octet ← readTlvExpect inner tagOctetString
  .ok ((oid.value, octet.value), extTlv.rest)

theorem readExtension_rest_lt {walker : Bytes} {item : Bytes × Bytes} {rest : Bytes}
    (h : readExtension walker = .ok (item, rest)) : rest.length < walker.length := by
  simp only [readExtension, bind_eq_ok_iff, Except.ok.injEq, Prod.mk.injEq] at h
  obtain ⟨extTlv, hext, -, -, -, -, -, -, -, rfl⟩ := h
  exact readTlvExpect_rest_lt hext

/-- Extensions one after another, each with its object identifier as encoded. -/
def extensionReader : ConsumingReader UInt8 TrustError (Bytes × Bytes) where
  read := readExtension
  consumes := readExtension_rest_lt

/-- Extensions one after another, each with its object identifier rendered. -/
def dottedExtensionReader : ConsumingReader UInt8 TrustError (String × Bytes) where
  read walker := do
    let ((oid, octets), rest) ← readExtension walker
    let dotted ← oidToDotted oid
    .ok ((dotted, octets), rest)
  consumes := by
    intro input item rest h
    simp only [bind_eq_ok_iff, Except.ok.injEq, Prod.mk.injEq, Prod.exists] at h
    obtain ⟨oid, octets, rest', hread, dotted, -, -, rfl⟩ := h
    exact readExtension_rest_lt hread

/-- The content of the first extension that `reader` pairs with `target`. -/
def findExtension {κ : Type} [DecidableEq κ] (reader : ConsumingReader UInt8 TrustError (κ × Bytes))
    (certDer : Bytes) (target : κ) : Except TrustError (Option Bytes) := do
  match ← extensionsField certDer with
  | none => .ok none
  | some extOuter =>
    let extSeq ← readTlvExpect extOuter tagSequence
    reader.readUntil (fun ext => if ext.1 = target then some ext.2 else none) extSeq.value

/-- Errors of the walk for project extensions. -/
inductive DerError where
  | unexpectedTag (tag : UInt8)
  | invalidUtf8
  | truncated
  | tlv (detail : String)
  | invalidOid (detail : String)
  deriving DecidableEq, Repr

def DerError.toText : DerError → String
  | unexpectedTag tag => "der: unexpected tag 0x" ++ hexByte tag
  | invalidUtf8 => "der: invalid utf-8 in utf8string"
  | truncated => "der: input truncated"
  | tlv detail => "der: tlv parse error: " ++ detail
  | invalidOid detail => "der: invalid target oid: " ++ detail

/-- Errors of the element reader, as they pass through the walk for project extensions. -/
def DerError.ofTrust (e : TrustError) : DerError := .tlv e.toText

/-- One string of a `SEQUENCE OF UTF8String`. -/
def readUtf8 (input : Bytes) : Except DerError (String × Bytes) := do
  let tlv ← (readTlv input).mapError DerError.ofTrust
  if tlv.tag ≠ tagUtf8String then .error (.unexpectedTag tlv.tag)
  else
    match String.fromUTF8? ⟨tlv.value.toArray⟩ with
    | none => .error .invalidUtf8
    | some s => .ok (s, tlv.rest)

theorem readUtf8_rest_lt {input : Bytes} {s : String} {rest : Bytes}
    (h : readUtf8 input = .ok (s, rest)) : rest.length < input.length := by
  simp only [readUtf8, bind_eq_ok_iff, mapError_eq_ok_iff, guard_bind_eq_ok_iff] at h
  obtain ⟨tlv, hread, -, hs⟩ := h
  split at hs
  · cases hs
  · cases hs
    exact readTlv_rest_lt hread

def utf8Reader : ConsumingReader UInt8 DerError String where
  read := readUtf8
  consumes := readUtf8_rest_lt

/-- The strings of an extension value of type `SEQUENCE OF UTF8String`, in order.
Bytes behind the sequence are ignored. -/
def parseSeqOfUtf8 (valueDer : Bytes) : Except DerError (List String) :=
  if valueDer = [] then .error .truncated
  else do
    let seq ← (readTlvExpect valueDer tagSequence).mapError DerError.ofTrust
    utf8Reader.readAll seq.value

section Accessors

variable {X509 : Type} [CryptoLibrary X509]

variable (X509) in
/-- The value of the first extension with this object identifier, by its encoding. -/
def extractExtensionByOid (certDer : Bytes) (targetOid : String) :
    Except DerError (Option Bytes) := do
  let targetBytes ← (asn1ObjectFromStr X509 targetOid).mapError fun e => .invalidOid e.text
  (findExtension extensionReader certDer targetBytes).mapError DerError.ofTrust

/-- The value of the first extension with this object identifier, by its rendering. -/
def extensionValue (cert : X509) (targetOid : String) : Except TrustError (Option Bytes) := do
  let stack ← (toDer cert).mapError .openssl
  findExtension dottedExtensionReader stack targetOid

def oidKeyUsage : String := "2.5.29.15"
def oidBasicConstraints : String := "2.5.29.19"
def oidExtKeyUsage : String := "2.5.29.37"

/-- One object identifier of a sequence, rendered. -/
def readDottedOid (input : Bytes) : Except TrustError (String × Bytes) := do
  let oid ← readTlvExpect input tagOid
  let dotted ← oidToDotted oid.value
  .ok (dotted, oid.rest)

theorem readDottedOid_rest_lt {input : Bytes} {dotted : String} {rest : Bytes}
    (h : readDottedOid input = .ok (dotted, rest)) : rest.length < input.length := by
  simp only [readDottedOid, bind_eq_ok_iff, Except.ok.injEq, Prod.mk.injEq] at h
  obtain ⟨oid, hread, -, -, -, rfl⟩ := h
  exact readTlvExpect_rest_lt hread

def dottedOidReader : ConsumingReader UInt8 TrustError String where
  read := readDottedOid
  consumes := readDottedOid_rest_lt

/-- The purposes listed in `extendedKeyUsage`. -/
def ekuOids (cert : X509) : Except TrustError (List String) := do
  match ← extensionValue cert oidExtKeyUsage with
  | none => .ok []
  | some value =>
    let seq ← readTlvExpect value tagSequence
    dottedOidReader.readAll seq.value

/-- Whether the content of a BIT STRING has the numbered bit. The count of unused
bits is subtracted in eight-bit arithmetic. -/
def bitStringBit (content : Bytes) (bit : UInt8) : Bool :=
  match content with
  | [] => false
  | unused :: bytes =>
    let byteIndex := (bit / 8).toNat
    let bitInByte := bit % 8
    let mask : UInt8 := 0x80 >>> bitInByte
    match bytes[byteIndex]? with
    | none => false
    | some byte =>
      if byteIndex = bytes.length - 1 ∧ bitInByte ≥ 8 - unused then false
      else byte &&& mask ≠ 0

/-- Whether `keyUsage` asserts the numbered bit, counted from the most significant
bit of the first byte. -/
def keyUsageBit (cert : X509) (bit : UInt8) : Except TrustError Bool := do
  match ← extensionValue cert oidKeyUsage with
  | none => .ok false
  | some value =>
    let bs ← readTlvExpect value tagBitString
    .ok (bitStringBit bs.value bit)

/-- The parsed view of `basicConstraints`. -/
structure BasicConstraintsView where
  isCa : Bool
  pathLen : Option ℕ
  deriving DecidableEq, Repr

/-- A path length in base 256, bounded by 32 bits. -/
def readPathLen (value : Bytes) : Except TrustError ℕ :=
  value.foldlM (fun acc b =>
    let acc := acc <<< 8 ||| b.toNat
    if acc > 2 ^ 32 - 1 then .error (.certParse "basicConstraints: pathLen overflow") else .ok acc) 0

/-- The two optional fields of `basicConstraints`, in order. -/
def parseBasicConstraints (rest : Bytes) : Except TrustError BasicConstraintsView := do
  let (isCa, rest) ←
    if rest = [] then .ok (false, rest)
    else do
      let first ← readTlv rest
      .ok (if first.tag = tagBoolean then (first.value.headD 0 != 0, first.rest) else (false, rest))
  let pathLen ←
    if rest = [] then .ok none
    else do
      let next ← readTlv rest
      if next.tag = tagInteger then some <$> readPathLen next.value else .ok none
  .ok ⟨isCa, pathLen⟩

/-- The view of the `basicConstraints` extension, if the certificate has one. -/
def basicConstraints (cert : X509) : Except TrustError (Option BasicConstraintsView) := do
  match ← extensionValue cert oidBasicConstraints with
  | none => .ok none
  | some value =>
    let seq ← readTlvExpect value tagSequence
    some <$> parseBasicConstraints seq.value

namespace Certificate

def fromDer (der : Bytes) : Except TrustError (Certificate X509) := do
  let inner ← (x509FromDer der).mapError fun e => .certParse e.text
  .ok ⟨inner, der⟩

def fromPem (pem : Bytes) : Except TrustError (Certificate X509) := do
  let inner : X509 ← (x509FromPem pem).mapError fun e => .certParse e.text
  let der ← (toDer inner).mapError fun e => .certParse e.text
  .ok ⟨inner, der⟩

/-- The first common name of the subject, if OpenSSL can render it. -/
def subjectCn (cert : Certificate X509) : Except TrustError String :=
  match (commonNames (subjectName cert.inner)).head? with
  | some (some cn) => .ok cn
  | _ => .error (.fieldMissing "subject CN")

def sanEmails (cert : Certificate X509) : List String :=
  (subjectAltNameEmails cert.inner).getD []

def serialHex (cert : Certificate X509) : String := (CryptoLibrary.serialHex cert.inner).getD ""

def notBefore (cert : Certificate X509) : SystemTime :=
  asn1ToSystem (CryptoLibrary.notBefore cert.inner)

def notAfter (cert : Certificate X509) : SystemTime :=
  asn1ToSystem (CryptoLibrary.notAfter cert.inner)

def signatureAlgorithm (cert : Certificate X509) : String := signatureAlgorithmObject cert.inner

def version (cert : Certificate X509) : ℤ := CryptoLibrary.version cert.inner

def keyUsageDigitalSignature (cert : Certificate X509) : Except TrustError Bool :=
  keyUsageBit cert.inner 0

def keyUsageKeyCertSign (cert : Certificate X509) : Except TrustError Bool :=
  keyUsageBit cert.inner 5

def ekuClientAuth (cert : Certificate X509) : Except TrustError Bool :=
  (fun oids => oids.any (· == "1.3.6.1.5.5.7.3.2")) <$> ekuOids cert.inner

def ski (cert : Certificate X509) : Option Bytes := subjectKeyId cert.inner

def aki (cert : Certificate X509) : Option Bytes := authorityKeyId cert.inner

def basicConstraints (cert : Certificate X509) : Except TrustError (Option BasicConstraintsView) :=
  PamCertauth.X509.basicConstraints cert.inner

def publicKey (cert : Certificate X509) : Except TrustError (PublicKey X509) :=
  (CryptoLibrary.publicKey cert.inner).mapError .openssl

end Certificate

/-- A leaf certificate that went through the verifier. -/
structure VerifiedX509 (X509 : Type) where
  cert : X509
  deriving DecidableEq

/-- Identifiers of a verified certificate for audit records. -/
structure CertIdent where
  serial : String
  issuer : String
  cn : String
  fingerprint : String
  deriving DecidableEq, Repr

def CertIdent.ofVerified (v : VerifiedX509 X509) : CertIdent where
  serial := (CryptoLibrary.serialHex v.cert).getD ""
  issuer := ",".intercalate ((nameEntries (issuerName v.cert)).map fun (nid, val) =>
    nid.getD "" ++ "=" ++ val.getD "")
  cn := ((commonNames (subjectName v.cert)).head?.getD none).getD ""
  fingerprint :=
    match digestSha256 v.cert with
    | .error _ => ""
    | .ok digest => String.join (digest.map hexByte)

end Accessors

end PamCertauth.X509
