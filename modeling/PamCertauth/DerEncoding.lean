import PamCertauth.BigEndianDigits

/-!
# The distinguished encoding

What an issuer writes: elements with a tag, a length in its short or long form and a
content, lists of texts, object identifiers, and certificates as far as the place of their
extensions is concerned. An object identifier is also written as a dotted text, which
determines its arcs (`dotted_injective`).
-/

namespace PamCertauth.Der

open BigEndian

/-- A length: one byte below 128, and otherwise the number of its bytes and its bytes. -/
def lengthOctets (n : ℕ) : List UInt8 :=
  if n < 128 then [UInt8.ofNat n]
  else UInt8.ofNat (128 + (digits 256 n).length) :: (digits 256 n).map UInt8.ofNat

def element (tag : UInt8) (content : List UInt8) : List UInt8 :=
  tag :: lengthOctets content.length ++ content

theorem length_lt_element (tag : UInt8) (content : List UInt8) :
    content.length < (element tag content).length := by
  simp only [element, List.cons_append, List.length_cons, List.length_append]
  omega

theorem length_le_flatMap {α : Type} {f : α → List UInt8} {xs : List α} {x : α} (h : x ∈ xs) :
    (f x).length ≤ (xs.flatMap f).length := by
  obtain ⟨before, after, rfl⟩ := List.append_of_mem h
  simp only [List.flatMap_append, List.flatMap_cons, List.length_append]
  omega

theorem element_ne_nil (tag : UInt8) (content : List UInt8) : element tag content ≠ [] :=
  List.cons_ne_nil _ _

def utf8String (s : String) : List UInt8 := element 0x0C s.toByteArray.data.toList

def sequenceOfUtf8 (xs : List String) : List UInt8 := element 0x30 (xs.flatMap utf8String)

/-- An object identifier by its arcs. Only below the arc 2 is the second one unbounded. -/
structure ObjectIdentifier where
  first : ℕ
  second : ℕ
  further : List ℕ
  first_le : first ≤ 2
  second_lt : first < 2 → second < 40
  deriving DecidableEq

/-- A text for each arc, with dots between them. -/
def dotted (arcs : List ℕ) : String := ".".intercalate (arcs.map toString)

namespace ObjectIdentifier

def arcs (oid : ObjectIdentifier) : List ℕ := oid.first :: oid.second :: oid.further

/-- The content octets: the first two arcs share one number. -/
def content (oid : ObjectIdentifier) : List UInt8 :=
  base128 (40 * oid.first + oid.second) ++ oid.further.flatMap base128

theorem arcs_injective {oid oid' : ObjectIdentifier} (h : oid.arcs = oid'.arcs) : oid = oid' := by
  cases oid
  cases oid'
  simpa [arcs] using h

end ObjectIdentifier

theorem toList_dotted (arcs : List ℕ) :
    (dotted arcs).toList = ['.'].intercalate (arcs.map fun n => (toString n).toList) := by
  rw [dotted, String.toList_intercalate, List.map_map]
  rfl

theorem dot_notMem_toString (n : ℕ) : '.' ∉ (toString n).toList := by
  intro h
  rw [Nat.toString_eq_ofList_toDigits, String.toList_ofList] at h
  have hdigit := Nat.isDigit_of_mem_toDigits (by decide) (by decide) h
  revert hdigit
  decide

/-- A dotted text determines its arcs: it is split at the dots. -/
theorem dotted_injective {arcs arcs' : List ℕ} (hne : arcs ≠ []) (hne' : arcs' ≠ [])
    (h : dotted arcs = dotted arcs') : arcs = arcs' := by
  have hsplit : ∀ ns : List ℕ, ns ≠ [] →
      (dotted ns).toList.splitOn '.' = ns.map fun n => (toString n).toList := by
    intro ns hns
    rw [toList_dotted]
    refine List.splitOn_intercalate _ ?_ (by simpa using hns)
    simp only [List.mem_map, forall_exists_index, and_imp, forall_apply_eq_imp_iff₂]
    exact fun n _ => dot_notMem_toString n
  have hmap := hsplit arcs hne
  rw [h, hsplit arcs' hne'] at hmap
  refine (List.map_injective_iff.mpr ?_ hmap).symm
  intro n m hnm
  simp only [Nat.toString_eq_ofList_toDigits, String.toList_ofList] at hnm
  rw [← Nat.ofDigitChars_ten_toDigits (n := n), hnm, Nat.ofDigitChars_ten_toDigits]

/-- An extension: the content of its identifier, the content of the critical flag if the
flag is written, and its value. -/
structure Extension where
  oid : List UInt8
  critical : Option (List UInt8)
  value : List UInt8

def Extension.encode (e : Extension) : List UInt8 :=
  element 0x30 (element 0x06 e.oid ++ e.critical.elim [] (element 0x01) ++ element 0x04 e.value)

/-- A certificate: the fields of its body before the extensions, the extensions, and what
follows the body. -/
structure CertificateForm where
  fields : List (UInt8 × List UInt8)
  extensions : Option (List Extension)
  behind : List UInt8
  fields_tag : ∀ f ∈ fields, f.1 ≠ 0xA3

namespace CertificateForm

def encodeField (f : UInt8 × List UInt8) : List UInt8 := element f.1 f.2

def encodeList (es : List Extension) : List UInt8 := element 0x30 (es.flatMap Extension.encode)

/-- The content of the body. -/
def body (c : CertificateForm) : List UInt8 :=
  c.fields.flatMap encodeField ++ c.extensions.elim [] fun es => element 0xA3 (encodeList es)

/-- The body and what stands behind it. -/
def content (c : CertificateForm) : List UInt8 := element 0x30 c.body ++ c.behind

def encode (c : CertificateForm) : List UInt8 := element 0x30 c.content

/-- The value of the first extension with this identifier. -/
def firstValue (c : CertificateForm) (oid : List UInt8) : Option (List UInt8) :=
  ((c.extensions.getD []).find? (·.oid == oid)).map (·.value)

theorem length_body_lt (c : CertificateForm) : c.body.length < c.content.length := by
  have hbody := length_lt_element 0x30 c.body
  rw [content, List.length_append]
  omega

theorem length_field_lt {c : CertificateForm} {f : UInt8 × List UInt8} (hf : f ∈ c.fields) :
    f.2.length < c.content.length := by
  have hfield : f.2.length < (encodeField f).length := length_lt_element f.1 f.2
  have hfields := length_le_flatMap (f := encodeField) hf
  have hbody := c.length_body_lt
  rw [body, List.length_append] at hbody
  omega

theorem length_encodeList_lt {c : CertificateForm} {es : List Extension}
    (h : c.extensions = some es) : (encodeList es).length < c.content.length := by
  have hbody := c.length_body_lt
  have hlist := length_lt_element 0xA3 (encodeList es)
  rw [body, h, List.length_append, Option.elim_some] at hbody
  omega

theorem firstValue_eq {c : CertificateForm} {es : List Extension} (h : c.extensions = some es)
    (oid : List UInt8) :
    c.firstValue oid = es.findSome? fun e => if e.oid = oid then some e.value else none := by
  rw [firstValue, h, Option.getD_some]
  clear h
  induction es with
  | nil => rfl
  | cons e es ih =>
    by_cases heq : e.oid = oid
    · simp [heq]
    · simpa [heq] using ih

theorem length_firstValue_lt {c : CertificateForm} {oid v : List UInt8}
    (h : c.firstValue oid = some v) : v.length < c.content.length := by
  obtain ⟨e, he, rfl⟩ := Option.map_eq_some_iff.mp h
  have hmem := List.mem_of_find?_eq_some he
  cases hextensions : c.extensions with
  | none =>
    rw [hextensions] at hmem
    exact absurd hmem List.not_mem_nil
  | some es =>
    rw [hextensions, Option.getD_some] at hmem
    have hvalue := length_lt_element 0x04 e.value
    have hentry : (element 0x06 e.oid ++ e.critical.elim [] (element 0x01) ++
        element 0x04 e.value).length < e.encode.length := length_lt_element _ _
    have hentries := length_le_flatMap (f := Extension.encode) hmem
    have hlist : (es.flatMap Extension.encode).length < (encodeList es).length :=
      length_lt_element _ _
    have hbody := length_encodeList_lt hextensions
    simp only [List.length_append] at hentry
    omega

end CertificateForm

end PamCertauth.Der
