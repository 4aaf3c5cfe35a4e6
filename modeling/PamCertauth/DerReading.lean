import PamCertauth.ConsumingReaders
import Mathlib.Algebra.Ring.Int.Defs
import Mathlib.Algebra.Ring.Nat

/-!
# Reading DER

The TLV reader of `x509/der.rs`, the rendering of object identifiers, and the
error type of the trust subsystem in which both report malformed input. The
reader supports definite lengths of at most four length bytes. Element sequences
are read with `tlvReader`, whose consumption proof makes the loops over the
elements of a structure total.
-/

namespace PamCertauth.X509

abbrev Bytes := List UInt8

/-- The error stack of the OpenSSL library, by its rendered text. -/
structure ErrorStack where
  text : String
  deriving DecidableEq, Repr

/-- A failure of the process-wide gost-engine loader, by its rendered text. -/
structure GostEngineError where
  text : String
  deriving DecidableEq, Repr

/-- Errors raised by the trust-verification subsystem. -/
inductive TrustError where
  | certParse (detail : String)
  | fieldMissing (field : String)
  | validity (detail : String)
  | signatureAlgorithm (name : String)
  | keyUsage
  | eku
  | basicConstraints (detail : String)
  | pathBuild (detail : String)
  | depthExceeded (depth maxDepth : ℕ)
  | anchorMismatch
  | badSignature (depth : ℕ)
  | crl (detail : String)
  | revoked (serial : String)
  | pinMismatch
  | openssl (stack : ErrorStack)
  | engineLoadFailed (source : GostEngineError)
  deriving DecidableEq, Repr

/-- The rendered text of an error. -/
def TrustError.toText : TrustError → String
  | certParse detail => "certificate parse error: " ++ detail
  | fieldMissing field => "certificate field missing: " ++ field
  | validity detail => "validity error: " ++ detail
  | signatureAlgorithm name => "signature algorithm not allowed: " ++ name
  | keyUsage => "key usage missing required bit"
  | eku => "extended key usage does not include clientAuth"
  | basicConstraints detail => "basic constraints violation: " ++ detail
  | pathBuild detail => "path building failed: " ++ detail
  | depthExceeded depth maxDepth =>
      "chain depth exceeded: " ++ toString depth ++ " > " ++ toString maxDepth
  | anchorMismatch => "anchor mismatch: presented anchor not in trust store"
  | badSignature depth => "signature verification failed at depth " ++ toString depth
  | crl detail => "CRL error: " ++ detail
  | revoked serial => "certificate revoked: serial=" ++ serial
  | pinMismatch => "SPKI pin mismatch"
  | openssl stack => "openssl error: " ++ stack.text
  | engineLoadFailed source =>
      "gost-engine unavailable for chain verification: " ++ source.text

/-- The lowercase hexadecimal digit of a value below sixteen. -/
def hexDigit (n : ℕ) : Char := if n < 10 then Char.ofNat (48 + n) else Char.ofNat (87 + n)

/-- Two lowercase hexadecimal digits. -/
def hexByte (b : UInt8) : String := String.ofList [hexDigit (b.toNat / 16), hexDigit (b.toNat % 16)]

def tagBoolean : UInt8 := 0x01
def tagInteger : UInt8 := 0x02
def tagBitString : UInt8 := 0x03
def tagOctetString : UInt8 := 0x04
def tagOid : UInt8 := 0x06
def tagUtf8String : UInt8 := 0x0C
def tagSequence : UInt8 := 0x30
/-- The context tag `[3]` that wraps the extensions of a certificate. -/
def tagExtensions : UInt8 := 0xA3

/-- One element: its tag, its content and the input behind it. -/
structure Tlv where
  tag : UInt8
  value : Bytes
  rest : Bytes
  deriving DecidableEq, Repr

/-- A length in base 256, most significant byte first. -/
def readLength (bytes : Bytes) : ℕ := bytes.foldl (fun acc b => acc <<< 8 ||| b.toNat) 0

/-- The content length and the header length announced by the byte behind the tag. -/
def readHeader (input : Bytes) (lenByte : UInt8) : Except TrustError (ℕ × ℕ) :=
  if lenByte &&& 0x80 = 0 then .ok (lenByte.toNat, 2)
  else
    let nBytes := (lenByte &&& 0x7F).toNat
    if nBytes = 0 ∨ nBytes > 4 then .error (.certParse "der: indefinite or oversized length")
    else if input.length < 2 + nBytes then .error (.certParse "der: length truncated")
    else .ok (readLength ((input.drop 2).take nBytes), 2 + nBytes)

/-- Parse one element from the start of the input. Lengths are 64-bit. -/
def readTlv (input : Bytes) : Except TrustError Tlv :=
  match input with
  | tag :: lenByte :: _ => do
    let (len, headerLen) ← readHeader input lenByte
    if headerLen + len ≥ 2 ^ 64 then .error (.certParse "der: length overflow")
    else if input.length < headerLen + len then .error (.certParse "der: value truncated")
    else .ok ⟨tag, (input.drop headerLen).take len, input.drop (headerLen + len)⟩
  | _ => .error (.certParse "der: header truncated")

/-- Parse one element and insist on its tag. -/
def readTlvExpect (input : Bytes) (tag : UInt8) : Except TrustError Tlv := do
  let tlv ← readTlv input
  if tlv.tag ≠ tag then
    .error (.certParse ("der: expected tag 0x" ++ hexByte tag ++ ", got 0x" ++ hexByte tlv.tag))
  else .ok tlv

theorem readHeader_header_ge {input : Bytes} {lenByte : UInt8} {len headerLen : ℕ}
    (h : readHeader input lenByte = .ok (len, headerLen)) : 2 ≤ headerLen := by
  simp only [readHeader] at h
  split_ifs at h <;> simp at h <;> omega

/-- An element takes at least its two header bytes off the input. -/
theorem readTlv_rest_lt {input : Bytes} {tlv : Tlv} (h : readTlv input = .ok tlv) :
    tlv.rest.length < input.length := by
  match input with
  | [] => simp [readTlv] at h
  | [b] => simp [readTlv] at h
  | tag :: lenByte :: tail =>
    simp only [readTlv, bind_eq_ok_iff, guard_bind_eq_ok_iff, Prod.exists] at h
    obtain ⟨len, headerLen, hheader, -, -, htlv⟩ := h
    have hge := readHeader_header_ge hheader
    simp only [Except.ok.injEq] at htlv
    subst htlv
    simp only [List.length_drop, List.length_cons]
    omega

theorem readTlvExpect_eq_ok_iff {input : Bytes} {tag : UInt8} {tlv : Tlv} :
    readTlvExpect input tag = .ok tlv ↔ readTlv input = .ok tlv ∧ tlv.tag = tag := by
  simp only [readTlvExpect, bind_eq_ok_iff, guard_bind_eq_ok_iff, not_not, Except.ok.injEq]
  constructor
  · intro hparts
    obtain ⟨tlv', hread, htag, rfl⟩ := hparts
    exact ⟨hread, htag⟩
  · intro hparts
    obtain ⟨hread, htag⟩ := hparts
    exact ⟨tlv, hread, htag, rfl⟩

theorem readTlvExpect_rest_lt {input : Bytes} {tag : UInt8} {tlv : Tlv}
    (h : readTlvExpect input tag = .ok tlv) : tlv.rest.length < input.length :=
  readTlv_rest_lt (readTlvExpect_eq_ok_iff.mp h).1

/-- Elements one after another. -/
def tlvReader : ConsumingReader UInt8 TrustError Tlv where
  read input := (fun tlv => (tlv, tlv.rest)) <$> readTlv input
  consumes := by
    intro input item rest h
    obtain ⟨tlv, hread, htlv⟩ := map_eq_ok_iff.mp h
    cases htlv
    exact readTlv_rest_lt hread

/-- The remaining arcs of an object identifier in base 128. The accumulator holds
the arc being read, and `inArc` tells whether its last byte is still to come. -/
def oidArcs (value : ℕ) (inArc : Bool) : Bytes → Except TrustError (List ℕ)
  | [] => if inArc then .error (.certParse "der: truncated oid arc") else .ok []
  | b :: content =>
    if value > (2 ^ 128 - 1) >>> 7 then .error (.certParse "der: oid arc overflow")
    else
      let value := value <<< 7 ||| (b &&& 0x7F).toNat
      if b &&& 0x80 = 0 then (value :: ·) <$> oidArcs 0 false content
      else oidArcs value true content

/-- The canonical dotted notation of an object identifier. -/
def oidToDotted (content : Bytes) : Except TrustError String :=
  match content with
  | [] => .error (.certParse "der: empty oid")
  | first :: content => do
    let arcs ← oidArcs 0 false content
    .ok (".".intercalate (((first / 40).toNat :: (first % 40).toNat :: arcs).map toString))

example : oidToDotted [0x2B, 0x06, 0x01, 0x05, 0x05, 0x07, 0x03, 0x02] =
    .ok "1.3.6.1.5.5.7.3.2" := by decide +kernel

end PamCertauth.X509
