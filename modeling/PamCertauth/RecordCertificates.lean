import PamCertauth.Authorization

/-!
# Certificates as records

A concrete library: certificates are records of the facts that OpenSSL reads from
them, and their encodings are assembled from DER elements. A private key signs by
prepending its name to the data, and a certificate verifies under the key that it
names as its signer. The parsers know the certificates of one small deployment: a
root, an intermediate and several leaf certificates that differ in their
extensions.
-/

namespace PamCertauth.X509

/-- One DER element with a definite length below 2^16. -/
def derElement (tag : UInt8) (content : Bytes) : Bytes :=
  let n := content.length
  let header : Bytes :=
    if n < 0x80 then [n.toUInt8]
    else if n < 0x100 then [0x81, n.toUInt8]
    else [0x82, (n / 256).toUInt8, (n % 256).toUInt8]
  tag :: header ++ content

def utf8Bytes (s : String) : Bytes := s.toUTF8.toList

def derUtf8 (s : String) : Bytes := derElement tagUtf8String (utf8Bytes s)

def derSeqOfUtf8 (strings : List String) : Bytes :=
  derElement tagSequence (strings.flatMap derUtf8)

/-- An extension with the given identifier octets and value. -/
def derExtension (oid value : Bytes) : Bytes :=
  derElement tagSequence (derElement tagOid oid ++ derElement tagOctetString value)

def hostBindingOidBytes : Bytes :=
  [0x69, 0x84, 0xC4, 0xC3, 0xC4, 0xF7, 0x9C, 0xA6, 0x93, 0xC7, 0xE4, 0xF4, 0xEA, 0xA4, 0xC7, 0xF5,
    0x3A]

def userBindingOidBytes : Bytes :=
  [0x69, 0x85, 0xA7, 0xE7, 0x8A, 0xF8, 0xED, 0xE8, 0xB9, 0xC2, 0xBA, 0xBE, 0xDA, 0x92, 0xCC, 0xB7,
    0x43]

def maxIntegrityOidBytes : Bytes :=
  [0x69, 0x83, 0x9C, 0x80, 0xD2, 0xAB, 0xFD, 0xFC, 0xDA, 0xBE, 0xF7, 0xB2, 0xE9, 0xFF, 0x91, 0xD4,
    0xC8, 0xD3, 0xEE, 0x03]

/-- A certificate by the facts that are read from it. Times are seconds. -/
structure RecordX509 where
  subject : String
  issuer : String
  serial : String
  notBefore : ℤ
  notAfter : ℤ
  signatureAlgorithm : String
  key : String
  signer : String
  extensions : List (Bytes × Bytes)
  deriving DecidableEq

namespace RecordX509

def der (c : RecordX509) : Bytes :=
  let extensions := derElement tagSequence (c.extensions.flatMap fun e => derExtension e.1 e.2)
  derElement tagSequence
    (derElement tagSequence
      (derUtf8 c.subject ++ derUtf8 c.serial ++ derElement tagExtensions extensions))

def pem (c : RecordX509) : Bytes := utf8Bytes ("-----BEGIN CERTIFICATE-----" ++ c.serial)

def certificate (c : RecordX509) : Certificate RecordX509 := ⟨c, c.der⟩

/-- An authority with the keyCertSign bit. -/
def authority (subject issuer serial signatureAlgorithm : String) : RecordX509 where
  subject := subject
  issuer := issuer
  serial := serial
  notBefore := 0
  notAfter := 1000
  signatureAlgorithm := signatureAlgorithm
  key := subject
  signer := issuer
  extensions :=
    [([0x55, 0x1D, 0x13], derElement tagSequence (derElement tagBoolean [0xFF])),
      ([0x55, 0x1D, 0x0F], derElement tagBitString [0x02, 0x04])]

/-- A client certificate for every host, with the given further extensions. -/
def client (issuer serial : String) (further : List (Bytes × Bytes)) : RecordX509 where
  subject := "engineer"
  issuer := issuer
  serial := serial
  notBefore := 0
  notAfter := 1000
  signatureAlgorithm := "sha256WithRSAEncryption"
  key := serial
  signer := issuer
  extensions :=
    [([0x55, 0x1D, 0x0F], derElement tagBitString [0x07, 0x80]),
      ([0x55, 0x1D, 0x25], derElement tagSequence
        (derElement tagOid [0x2B, 0x06, 0x01, 0x05, 0x05, 0x07, 0x03, 0x02])),
      (hostBindingOidBytes, derSeqOfUtf8 ["*"])] ++ further

def root : RecordX509 := authority "root" "root" "01" "sha256WithRSAEncryption"

/-- An intermediate whose own signature uses a retired digest. -/
def intermediate : RecordX509 := authority "intermediate" "root" "02" "sha1WithRSAEncryption"

/-- A leaf without a user-binding extension. -/
def leafUnbound : RecordX509 := client "root" "0A" []

/-- A leaf bound to the user `alice`. -/
def leafBound : RecordX509 := client "root" "0B" [(userBindingOidBytes, derSeqOfUtf8 ["alice"])]

/-- A leaf whose user-binding extension is an empty sequence. -/
def leafEmptyBinding : RecordX509 := client "root" "0C" [(userBindingOidBytes, derSeqOfUtf8 [])]

/-- A leaf below the intermediate. -/
def leafBelow : RecordX509 := client "intermediate" "0D" []

/-- A leaf whose integrity label has a level of two bytes. -/
def leafMalformedLabel : RecordX509 :=
  client "root" "0E" [(maxIntegrityOidBytes, derElement tagSequence [0x02, 0x02, 0x00, 0x80])]

def known : List RecordX509 :=
  [root, intermediate, leafUnbound, leafBound, leafEmptyBinding, leafBelow, leafMalformedLabel]

end RecordX509

/-- A revocation list by the facts that are read from it. -/
structure RecordCrl where
  issuer : String
  lastUpdate : ℤ
  nextUpdate : ℤ
  revoked : List String
  deriving DecidableEq

namespace RecordCrl

def pem (crl : RecordCrl) : Bytes := utf8Bytes ("-----BEGIN X509 CRL-----" ++ crl.issuer)

/-- The list of the root, in force until 500 seconds. -/
def ofRoot : RecordCrl := ⟨"root", 0, 500, ["0F"]⟩

end RecordCrl

/-- A key bundle under a PIN. -/
structure RecordPkcs12 where
  pin : String
  cert : RecordX509
  deriving DecidableEq

def lookup {α : Type} (known : List α) (p : α → Bool) : Except ErrorStack α :=
  match known.find? p with
  | some a => .ok a
  | none => .error ⟨"unknown encoding"⟩

instance : CryptoLibrary RecordX509 where
  Name := String
  PublicKey := String
  PrivateKey := String
  X509Crl := RecordCrl
  Pkcs12 := RecordPkcs12
  x509FromDer der := lookup RecordX509.known (·.der == der)
  x509FromPem pem := lookup RecordX509.known (·.pem == pem)
  x509StackFromPem pem := ([·]) <$> lookup RecordX509.known (·.pem == pem)
  toDer c := .ok c.der
  digestSha256 _ := .error ⟨"no digest"⟩
  issuerName := RecordX509.issuer
  subjectName := RecordX509.subject
  tryCmp a b := .ok (compare a b)
  nameToDer name := .ok (derUtf8 name)
  nameEntries name := [(some "CN", some name)]
  commonNames name := [some name]
  subjectAltNameEmails _ := none
  serialHex c := some c.serial
  notBefore c := .ok (0, c.notBefore)
  notAfter c := .ok (0, c.notAfter)
  signatureAlgorithmObject := RecordX509.signatureAlgorithm
  version _ := 2
  subjectKeyId _ := none
  authorityKeyId _ := none
  publicKey c := .ok c.key
  publicKeyToDer key := .ok (derUtf8 key)
  publicKeyId _ := .rsa
  ecCurve _ := .error ⟨"not an EC key"⟩
  verify c key := .ok (c.signer == key)
  verifyData key _ data signature := .ok (signature == utf8Bytes key ++ data)
  hashData _ data := .ok data
  ecdsaSigToDer r s := .ok (r ++ s)
  pkcs12FromDer bytes :=
    (RecordPkcs12.mk "1234" ·) <$> lookup RecordX509.known (utf8Bytes ·.serial == bytes)
  pkcs12Parse2 p12 pin :=
    if pin = p12.pin then .ok (some p12.cert.key, some p12.cert, none)
    else .error ⟨"mac verify failure"⟩
  privateKeyToPkcs8 key := .ok (utf8Bytes key)
  privateKeyFromPkcs8 bytes :=
    match String.fromUTF8? ⟨bytes.toArray⟩ with
    | some key => .ok key
    | none => .error ⟨"not a key"⟩
  asn1ObjectFromStr oid :=
    if oid = hostBindingOid then .ok hostBindingOidBytes
    else if oid = userBindingOid then .ok userBindingOidBytes
    else if oid = maxIntegrityOid then .ok maxIntegrityOidBytes
    else .error ⟨"unknown object"⟩
  crlFromPem pem := lookup [RecordCrl.ofRoot] (·.pem == pem)
  crlLastUpdate crl := .ok (0, crl.lastUpdate)
  crlNextUpdate crl := some (.ok (0, crl.nextUpdate))
  crlRevokedHex crl := some (crl.revoked.map .ok)
  crlIssuerName := RecordCrl.issuer
  sha256 _ := Vector.replicate 32 0
  ensureEngineLoaded _ := .error ⟨"gost-engine is not available"⟩
  digestAvailable _ := .error ⟨"gost digest unavailable"⟩

end PamCertauth.X509
