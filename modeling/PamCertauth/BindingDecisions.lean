import PamCertauth.DerRoundTrips
import Mathlib.Data.String.Basic

/-!
# Bindings as they were issued

What the two binding extensions decide, in terms of the lists that the issuer wrote into
them. A list of texts is read back as it was encoded, and the first extension of a
certificate with a given identifier is the one that is found. The decision about a user
follows the list. The decision about a host does too, unless an entry has a character
across its seventh byte: then the program panics instead of taking it for a machine id.
-/

namespace PamCertauth.X509

open CryptoLibrary Der

theorem readUtf8_utf8String {s : String} (hlen : (utf8String s).length < 2 ^ 32) (rest : Bytes) :
    readUtf8 (utf8String s ++ rest) = .ok (s, rest) := by
  have hread := readTlv_element 0x0C ((length_lt_element _ _).trans hlen) rest
  have htext : String.fromUTF8? ⟨s.toByteArray.data.toList.toArray⟩ = some s := by
    rw [Array.toArray_toList]
    exact dif_pos s.isValidUTF8
  rw [readUtf8, utf8String, hread]
  simp only [Except.mapError, bind, Except.bind, htext]
  rfl

/-- A list of texts is read back as it was encoded. -/
theorem parseSeqOfUtf8_sequenceOfUtf8 {xs : List String}
    (hlen : (sequenceOfUtf8 xs).length < 2 ^ 32) :
    parseSeqOfUtf8 (sequenceOfUtf8 xs) = .ok xs := by
  have hcontent := (length_lt_element _ _).trans hlen
  have hread : readTlvExpect (sequenceOfUtf8 xs) tagSequence =
      .ok ⟨tagSequence, xs.flatMap utf8String, []⟩ := by
    rw [← List.append_nil (sequenceOfUtf8 xs)]
    exact readTlvExpect_element tagSequence hcontent []
  have hitems : utf8Reader.readAll (xs.flatMap utf8String) = .ok (xs.map id) :=
    ConsumingReader.readAll_flatMap fun s hs rest =>
      readUtf8_utf8String ((length_le_flatMap hs).trans_lt hcontent) rest
  have hne : sequenceOfUtf8 xs ≠ [] := element_ne_nil _ _
  rw [parseSeqOfUtf8, if_neg hne, hread]
  simp only [Except.mapError, bind, Except.bind, hitems, List.map_id]

theorem skipCritical_encoded (critical : Option Bytes) (value : Bytes)
    (hlen : (critical.elim [] (element 0x01) ++ element 0x04 value).length < 2 ^ 32) :
    skipCritical (critical.elim [] (element 0x01) ++ element 0x04 value) =
      .ok (element 0x04 value) := by
  cases critical with
  | none =>
    have hread := readTlv_element 0x04 ((length_lt_element _ _).trans (by simpa using hlen)) []
    rw [List.append_nil] at hread
    rw [Option.elim_none, List.nil_append, skipCritical, if_neg (element_ne_nil _ _), hread]
    rfl
  | some flag =>
    rw [Option.elim_some, List.length_append] at hlen
    have hflag := length_lt_element 0x01 flag
    have hread := readTlv_element 0x01 (by omega : flag.length < 2 ^ 32) (element 0x04 value)
    rw [Option.elim_some, skipCritical, if_neg (by simp [element_ne_nil]), hread]
    rfl

theorem readExtension_encode {e : Extension} (hlen : e.encode.length < 2 ^ 32) (rest : Bytes) :
    readExtension (e.encode ++ rest) = .ok ((e.oid, e.value), rest) := by
  have hinner := (length_lt_element _ _).trans hlen
  have hlengths := hinner
  simp only [List.length_append] at hlengths
  have hoid := length_lt_element 0x06 e.oid
  have hvalue := length_lt_element 0x04 e.value
  have hread : readTlvExpect (e.encode ++ rest) tagSequence = .ok ⟨tagSequence, _, rest⟩ :=
    readTlvExpect_element tagSequence hinner rest
  have hreadOid : readTlvExpect (element 0x06 e.oid ++
      (e.critical.elim [] (element 0x01) ++ element 0x04 e.value)) tagOid = .ok ⟨tagOid, _, _⟩ :=
    readTlvExpect_element tagOid (by omega) _
  have hskip := skipCritical_encoded e.critical e.value (by rw [List.length_append]; omega)
  have hreadValue : readTlvExpect (element 0x04 e.value ++ []) tagOctetString =
      .ok ⟨tagOctetString, _, _⟩ := readTlvExpect_element tagOctetString (by omega) []
  rw [List.append_nil] at hreadValue
  rw [← List.append_assoc] at hreadOid
  simp only [readExtension, hread, bind, Except.bind, hreadOid, hskip, hreadValue]

theorem tlvReader_element (tag : UInt8) {content : Bytes} (hlen : content.length < 2 ^ 32)
    (rest : Bytes) :
    tlvReader.read (element tag content ++ rest) = .ok (⟨tag, content, rest⟩, rest) := by
  rw [tlvReader]
  simp only [readTlv_element tag hlen rest]
  rfl

/-- The field with the extensions is found behind the other fields of the body. -/
theorem extensionsField_encode {c : CertificateForm} (hlen : c.content.length < 2 ^ 32) :
    extensionsField c.encode = .ok (c.extensions.map CertificateForm.encodeList) := by
  have hreadOuter : readTlvExpect (c.encode ++ []) tagSequence = .ok ⟨tagSequence, _, []⟩ :=
    readTlvExpect_element tagSequence hlen []
  have hreadBody : readTlvExpect c.content tagSequence = .ok ⟨tagSequence, _, _⟩ :=
    readTlvExpect_element tagSequence (c.length_body_lt.trans hlen) c.behind
  have hskip : ∀ f ∈ c.fields, ∀ rest, ∃ tlv,
      tlvReader.read (CertificateForm.encodeField f ++ rest) = .ok (tlv, rest) ∧
        (if tlv.tag = tagExtensions then some tlv.value else none) = none := by
    intro f hf rest
    have hcontent := (CertificateForm.length_field_lt hf).trans hlen
    exact ⟨_, tlvReader_element f.1 hcontent rest, if_neg (c.fields_tag f hf)⟩
  rw [List.append_nil] at hreadOuter
  simp only [extensionsField, hreadOuter, bind, Except.bind, hreadBody]
  rw [CertificateForm.body, ConsumingReader.readUntil_append hskip]
  cases hextensions : c.extensions with
  | none => exact ConsumingReader.readUntil_nil
  | some es =>
    have hcontent := (CertificateForm.length_encodeList_lt hextensions).trans hlen
    have hread := tlvReader_element 0xA3 hcontent []
    rw [List.append_nil] at hread
    exact ConsumingReader.readUntil_of_some hread (if_pos rfl)

/-- The walk over encoded identifiers finds the first extension with the target. -/
theorem findExtension_encode {c : CertificateForm} (hlen : c.content.length < 2 ^ 32)
    (target : Bytes) :
    findExtension extensionReader c.encode target = .ok (c.firstValue target) := by
  rw [findExtension, extensionsField_encode hlen]
  cases hextensions : c.extensions with
  | none => simp [CertificateForm.firstValue, hextensions, bind, Except.bind]
  | some es =>
    have hcontent := (length_lt_element _ _).trans
      ((CertificateForm.length_encodeList_lt hextensions).trans hlen)
    have hread : readTlvExpect (CertificateForm.encodeList es ++ []) tagSequence =
        .ok ⟨tagSequence, _, []⟩ := readTlvExpect_element tagSequence hcontent []
    have hwalk : extensionReader.readUntil (valueFor target) (es.flatMap Extension.encode) =
        .ok (es.findSome? fun e => valueFor target (e.oid, e.value)) :=
      ConsumingReader.readUntil_flatMap fun e he rest =>
        readExtension_encode ((length_le_flatMap he).trans_lt hcontent) rest
    rw [List.append_nil] at hread
    simp only [Option.map_some, bind, Except.bind, hread, CertificateForm.firstValue_eq hextensions]
    exact hwalk

section

variable {X509 : Type} [CryptoLibrary X509]

/-- The certificate was encoded in this form, with lengths of at most four bytes. -/
structure IssuedAs (cert : X509) (c : CertificateForm) : Prop where
  toDer_eq : toDer cert = .ok c.encode
  length_lt : c.content.length < 2 ^ 32

theorem extractExtensionByOid_issued {cert : X509} {c : CertificateForm} (h : IssuedAs cert c)
    {oid : String} {target : Bytes} (hlibrary : asn1ObjectFromStr X509 oid = .ok target) :
    extractExtensionByOid X509 c.encode oid = .ok (c.firstValue target) := by
  simp only [extractExtensionByOid, hlibrary, findExtension_encode h.length_lt target,
    Except.mapError, bind, Except.bind]

theorem bindingStrings_missing {cert : X509} {c : CertificateForm} (h : IssuedAs cert c)
    {oid : String} {target : Bytes} (hlibrary : asn1ObjectFromStr X509 oid = .ok target)
    (habsent : c.firstValue target = none) : bindingStrings cert oid = .error .missing := by
  simp only [bindingStrings, h.toDer_eq, Except.mapError, bind, Except.bind,
    extractExtensionByOid_issued h hlibrary, habsent]

/-- The strings of an issued binding are the issued ones. -/
theorem bindingStrings_issued {cert : X509} {c : CertificateForm} (h : IssuedAs cert c)
    {oid : String} {target : Bytes} (hlibrary : asn1ObjectFromStr X509 oid = .ok target)
    {xs : List String} (hvalue : c.firstValue target = some (sequenceOfUtf8 xs)) :
    bindingStrings cert oid = if xs = [] then .error .empty else .ok xs := by
  have hparse := parseSeqOfUtf8_sequenceOfUtf8
    ((CertificateForm.length_firstValue_lt hvalue).trans h.length_lt)
  simp only [bindingStrings, h.toDer_eq, Except.mapError, bind, Except.bind,
    extractExtensionByOid_issued h hlibrary, hvalue, hparse]
  cases xs <;> rfl

/-- A longer certificate is malformed. -/
theorem bindingStrings_oversized {cert : X509} {c : CertificateForm}
    (hder : toDer cert = .ok c.encode) (hge : 2 ^ 32 ≤ c.content.length)
    (hlt : c.content.length < 2 ^ 64) {oid : String} {target : Bytes}
    (hlibrary : asn1ObjectFromStr X509 oid = .ok target) :
    ∃ m, bindingStrings cert oid = .error (.malformed m) := by
  have hread := readTlv_element_oversized 0x30 hge hlt []
  rw [List.append_nil] at hread
  have hfield : extensionsField c.encode =
      .error (.certParse "der: indefinite or oversized length") := by
    simp only [extensionsField, readTlvExpect, CertificateForm.encode, hread, bind, Except.bind]
  have hextract : ∃ e, extractExtensionByOid X509 c.encode oid = .error e := by
    simp only [extractExtensionByOid, hlibrary, findExtension, hfield, Except.mapError, bind,
      Except.bind]
    exact ⟨_, rfl⟩
  obtain ⟨e, he⟩ := hextract
  simp only [bindingStrings, hder, Except.mapError, bind, Except.bind, he]
  exact ⟨_, rfl⟩

end

theorem utf8ByteSize_eq (s : String) : s.utf8ByteSize = String.utf8Len s.toList := by
  rw [← String.utf8ByteSize_ofList, String.ofList_toList]

theorem splitAtByte_append (front back : List Char) :
    splitAtByte (String.utf8Len front) (front ++ back) = some (front, back) := by
  induction front with
  | nil => cases back <;> rfl
  | cons c front ih =>
    have hpos := Char.utf8Size_pos c
    obtain ⟨n, hn⟩ : ∃ n, String.utf8Len front + c.utf8Size = n + 1 :=
      ⟨String.utf8Len front + c.utf8Size - 1, by omega⟩
    rw [String.utf8Len_cons, hn, List.cons_append, splitAtByte, if_pos (by omega),
      show n + 1 - c.utf8Size = String.utf8Len front by omega, ih]
    rfl

theorem splitAtByte_spec {n : ℕ} {cs front back : List Char}
    (h : splitAtByte n cs = some (front, back)) :
    cs = front ++ back ∧ String.utf8Len front = n := by
  induction cs generalizing n front with
  | nil =>
    cases n with
    | zero =>
      cases h
      exact ⟨rfl, rfl⟩
    | succ n => cases h
  | cons c cs ih =>
    cases n with
    | zero =>
      cases h
      exact ⟨rfl, rfl⟩
    | succ n =>
      rw [splitAtByte] at h
      split at h
      · next hle =>
        obtain ⟨⟨front', back'⟩, hsplit, heq⟩ := Option.map_eq_some_iff.mp h
        cases heq
        obtain ⟨rfl, hsize⟩ := ih hsplit
        exact ⟨rfl, by rw [String.utf8Len_cons]; omega⟩
      · cases h

/-- A character begins behind the seventh byte, or the text ends there. -/
def BoundaryAt7 (s : String) : Prop := ∃ front back, s = front ++ back ∧ front.utf8ByteSize = 7

/-- The text is the digest marker, in any letter case, and `rest`. -/
def DigestEntry (s rest : String) : Prop := ∃ marker, s = marker ++ rest ∧ marker.toLower = "sha256:"

theorem boundaryAt7_iff {s : String} :
    BoundaryAt7 s ↔ ∃ front back, splitAtByte 7 s.toList = some (front, back) := by
  constructor
  · rintro ⟨front, back, rfl, hsize⟩
    rw [utf8ByteSize_eq] at hsize
    refine ⟨front.toList, back.toList, ?_⟩
    rw [String.toList_append, ← hsize]
    exact splitAtByte_append _ _
  · rintro ⟨front, back, hsplit⟩
    obtain ⟨hs, hsize⟩ := splitAtByte_spec hsplit
    refine ⟨String.ofList front, String.ofList back, ?_, ?_⟩
    · rw [← String.ofList_append, ← hs, String.ofList_toList]
    · rw [String.utf8ByteSize_ofList, hsize]

theorem toLower_cases (c : Char) :
    (65 ≤ c.toNat ∧ c.toNat ≤ 90 ∧ c.toLower.toNat = c.toNat + 32) ∨
      (¬ (65 ≤ c.toNat ∧ c.toNat ≤ 90) ∧ c.toLower = c) := by
  have hupper : (c.val ≥ 'A'.val ∧ c.val ≤ 'Z'.val) ↔ 65 ≤ c.toNat ∧ c.toNat ≤ 90 := by
    rw [ge_iff_le, UInt32.le_iff_toNat_le, UInt32.le_iff_toNat_le]
    rfl
  by_cases h : c.val ≥ 'A'.val ∧ c.val ≤ 'Z'.val
  · obtain ⟨hge, hle⟩ := hupper.mp h
    have hval : c.toLower.val = c.val + ('a'.val - 'A'.val) := congrArg Char.val (dif_pos h)
    have hgap : ('a'.val - 'A'.val).toNat = 32 := rfl
    refine .inl ⟨hge, hle, ?_⟩
    simp only [Char.toNat] at *
    rw [hval, UInt32.toNat_add, hgap]
    omega
  · exact .inr ⟨fun hbounds => h (hupper.mpr hbounds), dif_neg h⟩

theorem toLower_toLower (c : Char) : c.toLower.toLower = c.toLower := by
  rcases toLower_cases c with ⟨hge, -, hlower⟩ | ⟨-, hsame⟩
  · rcases toLower_cases c.toLower with ⟨-, h, -⟩ | ⟨-, h⟩
    · omega
    · exact h
  · rw [hsame, hsame]

theorem toList_toLower (s : String) : s.toLower.toList = s.toList.map Char.toLower :=
  String.toList_map

theorem eqIgnoreAsciiCase_toLower (s t : String) :
    eqIgnoreAsciiCase s.toLower t = eqIgnoreAsciiCase s t := by
  have hlower : s.toLower.toLower = s.toLower := by
    apply String.toList_inj.mp
    simp only [toList_toLower, List.map_map]
    exact List.map_congr_left fun c _ => toLower_toLower c
  rw [eqIgnoreAsciiCase, eqIgnoreAsciiCase, hlower]

theorem utf8Size_of_toLower_lt {c : Char} (h : c.toLower.toNat < 128) : c.utf8Size = 1 := by
  rw [Char.utf8Size_eq_one_iff, UInt32.le_iff_toNat_le]
  rcases toLower_cases c with ⟨-, hle, -⟩ | ⟨-, hsame⟩
  · exact hle.trans (by decide)
  · rw [hsame] at h
    exact Nat.le_of_lt_succ h

/-- A text that is ASCII in lower case has one byte for each character. -/
theorem utf8Len_of_toLower_lt {cs : List Char} (h : ∀ c ∈ cs, c.toLower.toNat < 128) :
    String.utf8Len cs = cs.length := by
  induction cs with
  | nil => rfl
  | cons c cs ih =>
    rw [String.utf8Len_cons, ih fun d hd => h d (List.mem_cons_of_mem c hd),
      utf8Size_of_toLower_lt (h c List.mem_cons_self), List.length_cons]

theorem isAsciiHexdigit_iff {c : Char} :
    isAsciiHexdigit c = true ↔ (48 ≤ c.toNat ∧ c.toNat ≤ 57) ∨ (97 ≤ c.toNat ∧ c.toNat ≤ 102) ∨
      (65 ≤ c.toNat ∧ c.toNat ≤ 70) := by
  simp only [isAsciiHexdigit, Bool.or_eq_true, Bool.and_eq_true, decide_eq_true_eq, Char.le_def,
    UInt32.le_iff_toNat_le, or_assoc]
  rfl

theorem isAsciiHexdigit_of_toLower {c : Char} (h : isAsciiHexdigit c.toLower = true) :
    isAsciiHexdigit c = true := by
  rw [isAsciiHexdigit_iff] at h ⊢
  rcases toLower_cases c with ⟨hge, hle, hlower⟩ | ⟨-, hsame⟩
  · omega
  · rwa [hsame] at h

/-- Exactly 64 hexadecimal digits, in any letter case. -/
def IsHexDigest (s : String) : Prop :=
  s.length = 64 ∧ ∀ c ∈ s.toList, isAsciiHexdigit c = true

theorem isHexDigest_of_lowered {rest : String} (hsize : rest.toLower.utf8ByteSize = 64)
    (hhex : rest.toLower.toList.all isAsciiHexdigit = true) : IsHexDigest rest := by
  rw [utf8ByteSize_eq] at hsize
  simp only [toList_toLower] at hsize hhex
  rw [List.all_map, List.all_eq_true] at hhex
  have hascii : ∀ c ∈ rest.toList.map Char.toLower, c.toLower.toNat < 128 := by
    intro c hc
    obtain ⟨d, hd, rfl⟩ := List.mem_map.mp hc
    have hdigit := isAsciiHexdigit_iff.mp (hhex d hd)
    rw [toLower_toLower]
    omega
  rw [utf8Len_of_toLower_lt hascii, List.length_map, String.length_toList] at hsize
  exact ⟨hsize, fun c hc => isAsciiHexdigit_of_toLower (hhex c hc)⟩

theorem toLower_sha256 : "sha256:".toLower = "sha256:" := by
  apply String.toList_inj.mp
  rw [toList_toLower]
  decide

theorem utf8Len_marker {marker : String} (h : marker.toLower = "sha256:") :
    String.utf8Len marker.toList = 7 := by
  have hlist : marker.toList.map Char.toLower = "sha256:".toList := by
    rw [← h, toList_toLower]
  have hascii : ∀ c ∈ marker.toList, c.toLower.toNat < 128 := by
    intro c hc
    have hmem : c.toLower ∈ "sha256:".toList := hlist ▸ List.mem_map_of_mem hc
    have hall : ("sha256:".toList.all fun d => d.toNat < 128) = true := by decide
    simpa using List.all_eq_true.mp hall _ hmem
  rw [utf8Len_of_toLower_lt hascii, ← List.length_map Char.toLower, hlist]
  rfl

/-- A text with the digest marker denotes the digest behind it, or the extension is
malformed. -/
theorem classify_digestEntry {s rest : String} (h : DigestEntry s rest) :
    (HostBindingExt.classify s = .ok (.sha256Hex rest.toLower) ∧ IsHexDigest rest) ∨
      ∃ m, HostBindingExt.classify s = .error (.error (.malformed m)) := by
  obtain ⟨marker, rfl, hmarker⟩ := h
  have hsize := utf8Len_marker hmarker
  have hsplit : splitAtByte 7 (marker ++ rest).toList = some (marker.toList, rest.toList) := by
    rw [String.toList_append, ← hsize]
    exact splitAtByte_append _ _
  have hlong : ¬ (marker ++ rest).utf8ByteSize < 7 := by
    rw [utf8ByteSize_eq, String.toList_append, String.utf8Len_append, hsize]
    omega
  have hstar : marker ++ rest ≠ "*" := by
    intro heq
    rw [heq] at hlong
    exact hlong (by decide)
  rw [HostBindingExt.classify, if_neg hstar, if_neg hlong, hsplit]
  simp only [String.ofList_toList]
  rw [if_pos (by rw [eqIgnoreAsciiCase, hmarker, toLower_sha256, beq_self_eq_true])]
  split
  · exact .inr ⟨_, rfl⟩
  · next hok =>
    simp only [not_or, not_not] at hok
    exact .inl ⟨rfl, isHexDigest_of_lowered hok.1 hok.2⟩

theorem classify_raw {s : String} (hstar : s ≠ "*") (hdigest : ¬ ∃ rest, DigestEntry s rest)
    (hboundary : s.utf8ByteSize < 7 ∨ BoundaryAt7 s) :
    HostBindingExt.classify s = .ok (.raw s) := by
  rw [HostBindingExt.classify, if_neg hstar]
  by_cases hshort : s.utf8ByteSize < 7
  · rw [if_pos hshort]
  · obtain ⟨front, back, hsplit⟩ := boundaryAt7_iff.mp (hboundary.resolve_left hshort)
    rw [if_neg hshort, hsplit]
    simp only
    rw [if_neg]
    intro heq
    have hs := (splitAtByte_spec hsplit).1
    refine hdigest ⟨String.ofList back, String.ofList front, ?_, ?_⟩
    · rw [← String.ofList_append, ← hs, String.ofList_toList]
    · rw [eqIgnoreAsciiCase, beq_iff_eq, toLower_sha256] at heq
      exact heq

/-- A text with a character across its seventh byte is not classified at all. -/
theorem classify_panics {s : String} (hlong : ¬ s.utf8ByteSize < 7) (h : ¬ BoundaryAt7 s) :
    HostBindingExt.classify s = .error (.panicked "byte index 7 is not a char boundary") := by
  have hstar : s ≠ "*" := by
    rintro rfl
    exact hlong (by decide)
  rw [HostBindingExt.classify, if_neg hstar, if_neg hlong]
  cases hsplit : splitAtByte 7 s.toList with
  | none => rfl
  | some parts => exact absurd (boundaryAt7_iff.mpr ⟨parts.1, parts.2, hsplit⟩) h

section

variable {X509 : Type} [CryptoLibrary X509]

/-- The entry admits the host: it is the wildcard, the marker with the digest of the host,
or a text with this digest. -/
inductive EntryAdmits (X509 : Type) [CryptoLibrary X509] (hostIdHash : String) : String → Prop where
  | wildcard : EntryAdmits X509 hostIdHash "*"
  | digest {s rest : String} (h : DigestEntry s rest)
      (heq : eqIgnoreAsciiCase rest hostIdHash = true) : EntryAdmits X509 hostIdHash s
  | text {s : String} (hstar : s ≠ "*") (hdigest : ¬ ∃ rest, DigestEntry s rest)
      (heq : eqIgnoreAsciiCase (sha256Hex X509 s) hostIdHash = true) : EntryAdmits X509 hostIdHash s

/-- What a text was taken for, if it was taken for anything. -/
theorem classify_ok_cases {s : String} {d : HostDescriptor}
    (h : HostBindingExt.classify s = .ok d) :
    (s = "*" ∧ d = .wildcard) ∨
      (∃ rest, DigestEntry s rest ∧ IsHexDigest rest ∧ d = .sha256Hex rest.toLower) ∨
      (s ≠ "*" ∧ (¬ ∃ rest, DigestEntry s rest) ∧ d = .raw s) := by
  by_cases hstar : s = "*"
  · rw [HostBindingExt.classify, if_pos hstar] at h
    cases h
    exact .inl ⟨hstar, rfl⟩
  by_cases hdigest : ∃ rest, DigestEntry s rest
  · obtain ⟨rest, hentry⟩ := hdigest
    rcases classify_digestEntry hentry with ⟨hok, hhex⟩ | ⟨m, hbad⟩
    · rw [hok] at h
      cases h
      exact .inr (.inl ⟨rest, hentry, hhex, rfl⟩)
    · rw [hbad] at h
      cases h
  · by_cases hboundary : s.utf8ByteSize < 7 ∨ BoundaryAt7 s
    · rw [classify_raw hstar hdigest hboundary] at h
      cases h
      exact .inr (.inr ⟨hstar, hdigest, rfl⟩)
    · simp only [not_or] at hboundary
      rw [classify_panics hboundary.1 hboundary.2] at h
      cases h

theorem entryAdmits_of_matchesHost {s hostIdHash : String} {d : HostDescriptor}
    (hclass : HostBindingExt.classify s = .ok d)
    (hmatch : d.matchesHost X509 hostIdHash = true) : EntryAdmits X509 hostIdHash s := by
  rcases classify_ok_cases hclass with
    ⟨rfl, -⟩ | ⟨rest, hentry, -, rfl⟩ | ⟨hstar, hdigest, rfl⟩
  · exact .wildcard
  · rw [HostDescriptor.matchesHost, eqIgnoreAsciiCase_toLower] at hmatch
    exact .digest hentry hmatch
  · exact .text hstar hdigest hmatch

/-- What the strings of the extension are like if the host is admitted. -/
theorem admitted_of_verifyHostBinding {cert : X509} {xs : List String} {hostIdHash : String}
    (hstrings : bindingStrings cert hostBindingOid = .ok xs)
    (h : verifyHostBinding cert hostIdHash = .ok ()) :
    (∀ s ∈ xs, ∀ rest, DigestEntry s rest → IsHexDigest rest) ∧
      ∃ s ∈ xs, EntryAdmits X509 hostIdHash s := by
  simp only [verifyHostBinding, HostBindingExt.parse, hstrings, bind_eq_ok_iff, mapError_eq_ok_iff,
    Except.ok.injEq, exists_eq_left'] at h
  obtain ⟨ds, hparse, hany⟩ := h
  constructor
  · intro s hs rest hentry
    obtain ⟨d, -, hd⟩ := exists_ok_of_mapM_eq_ok hparse hs
    rcases classify_digestEntry hentry with ⟨-, hhex⟩ | ⟨m, hbad⟩
    · exact hhex
    · rw [hbad] at hd
      cases hd
  · split at hany
    · next hmatches =>
      obtain ⟨d, hd, hmatch⟩ := List.any_eq_true.mp hmatches
      obtain ⟨s, hs, hclass⟩ := exists_mem_of_mapM_eq_ok hparse hd
      exact ⟨s, hs, entryAdmits_of_matchesHost hclass hmatch⟩
    · cases hany

/-- The decisions follow the issued lists. A list is read back as it was encoded; for a
certificate that carries one as its first binding extension, a user is admitted exactly if
the list has the wildcard or the user, and a host only if every digest in the list is well
formed and some entry admits it; and without the extension the answer is that it is
missing. -/
theorem bindings_follow_issued_lists
    (hhost : asn1ObjectFromStr X509 hostBindingOid = .ok hostBindingId.content)
    (huser : asn1ObjectFromStr X509 userBindingOid = .ok userBindingId.content) :
    (∀ xs, (sequenceOfUtf8 xs).length < 2 ^ 32 → parseSeqOfUtf8 (sequenceOfUtf8 xs) = .ok xs) ∧
      ∀ (cert : X509) (c : CertificateForm), IssuedAs cert c →
        (∀ xs, c.firstValue userBindingId.content = some (sequenceOfUtf8 xs) → ∀ user,
          verifyUserBinding cert user = .ok () ↔ xs ≠ [] ∧ ("*" ∈ xs ∨ user ∈ xs)) ∧
        (∀ xs, c.firstValue hostBindingId.content = some (sequenceOfUtf8 xs) → ∀ hostIdHash,
          verifyHostBinding cert hostIdHash = .ok () →
            xs ≠ [] ∧ (∀ s ∈ xs, ∀ rest, DigestEntry s rest → IsHexDigest rest) ∧
              ∃ s ∈ xs, EntryAdmits X509 hostIdHash s) ∧
        (c.firstValue userBindingId.content = none → ∀ user,
          verifyUserBinding cert user = .error .userExtensionMissing) ∧
        (c.firstValue hostBindingId.content = none → ∀ hostIdHash,
          verifyHostBinding cert hostIdHash = .error (.error .hostExtensionMissing)) := by
  refine ⟨fun xs hlen => parseSeqOfUtf8_sequenceOfUtf8 hlen, fun cert c hissued => ⟨?_, ?_, ?_, ?_⟩⟩
  · intro xs hvalue user
    rw [verifyUserBinding_eq_ok_iff, bindingStrings_issued hissued huser hvalue]
    by_cases hempty : xs = []
    · simp [hempty]
    · simp [hempty]
  · intro xs hvalue hostIdHash hok
    have hstrings := bindingStrings_issued hissued hhost hvalue
    by_cases hempty : xs = []
    · rw [if_pos hempty] at hstrings
      simp [verifyHostBinding, HostBindingExt.parse, hstrings, Except.mapError, bind,
        Except.bind] at hok
    · rw [if_neg hempty] at hstrings
      exact ⟨hempty, admitted_of_verifyHostBinding hstrings hok⟩
  · intro habsent user
    simp only [verifyUserBinding, UserBindingExt.parse,
      bindingStrings_missing hissued huser habsent, Functor.map, Except.map, Except.mapError, bind,
      Except.bind]
    rfl
  · intro habsent hostIdHash
    simp only [verifyHostBinding, HostBindingExt.parse,
      bindingStrings_missing hissued hhost habsent, Except.mapError, bind, Except.bind]
    rfl

theorem classify_panicked_iff {s : String} :
    (∃ m, HostBindingExt.classify s = .error (.panicked m)) ↔
      ¬ (s.utf8ByteSize < 7 ∨ BoundaryAt7 s) := by
  constructor
  · rintro ⟨m, hpanic⟩ hboundary
    by_cases hstar : s = "*"
    · rw [HostBindingExt.classify, if_pos hstar] at hpanic
      cases hpanic
    by_cases hdigest : ∃ rest, DigestEntry s rest
    · obtain ⟨rest, hentry⟩ := hdigest
      rcases classify_digestEntry hentry with ⟨hok, -⟩ | ⟨m', hbad⟩
      · rw [hok] at hpanic
        cases hpanic
      · rw [hbad] at hpanic
        cases hpanic
    · rw [classify_raw hstar hdigest hboundary] at hpanic
      cases hpanic
  · intro h
    simp only [not_or] at h
    exact ⟨_, classify_panics h.1 h.2⟩

theorem mapM_classify_not_panicked {xs : List String}
    (h : ∀ s ∈ xs, s.utf8ByteSize < 7 ∨ BoundaryAt7 s) (m : String) :
    xs.mapM HostBindingExt.classify ≠ .error (.panicked m) := by
  induction xs with
  | nil =>
    intro hnil
    cases hnil
  | cons s xs ih =>
    have hrest := ih fun t ht => h t (List.mem_cons_of_mem s ht)
    rw [List.mapM_cons]
    cases hclass : HostBindingExt.classify s with
    | error e =>
      cases e with
      | error e =>
        intro heq
        cases heq
      | panicked m' => exact absurd (h s List.mem_cons_self) (classify_panicked_iff.mp ⟨m', hclass⟩)
    | ok d =>
      intro hpanic
      cases hmap : xs.mapM HostBindingExt.classify with
      | error e =>
        rw [hmap] at hpanic
        cases hpanic
        exact hrest hmap
      | ok ds =>
        rw [hmap] at hpanic
        cases hpanic

/-- The entries of an issued list are classified one by one, unless the certificate is too
long for the readers. -/
theorem hostParse_issued (hhost : asn1ObjectFromStr X509 hostBindingOid = .ok hostBindingId.content)
    {cert : X509} {c : CertificateForm} (hder : toDer cert = .ok c.encode)
    (hsize : c.encode.length < 2 ^ 64) {xs : List String} (hne : xs ≠ [])
    (hvalue : c.firstValue hostBindingId.content = some (sequenceOfUtf8 xs)) :
    HostBindingExt.parse cert = xs.mapM HostBindingExt.classify ∨
      ∃ e, HostBindingExt.parse cert = .error (.error e) := by
  by_cases hlen : c.content.length < 2 ^ 32
  · left
    simp only [HostBindingExt.parse, bindingStrings_issued ⟨hder, hlen⟩ hhost hvalue, if_neg hne,
      Except.mapError, bind, Except.bind]
  · right
    have hcontent : c.content.length < c.encode.length := length_lt_element _ _
    obtain ⟨m, hstrings⟩ := bindingStrings_oversized hder (by omega) (by omega) hhost
    simp only [HostBindingExt.parse, hstrings, Except.mapError, bind, Except.bind]
    exact ⟨_, rfl⟩

theorem verifyHostBinding_not_panicked {cert : X509}
    (h : ∀ m, HostBindingExt.parse cert ≠ .error (.panicked m)) (hostIdHash m : String) :
    verifyHostBinding cert hostIdHash ≠ .error (.panicked m) := by
  rw [verifyHostBinding]
  cases hparse : HostBindingExt.parse cert with
  | error e =>
    cases e with
    | error e =>
      intro heq
      cases heq
    | panicked m' => exact absurd hparse (h m')
  | ok ds =>
    simp only [Except.mapError, bind, Except.bind]
    intro heq
    split at heq <;> cases heq

/-- For a certificate with a non-empty list of hosts, both entry points return and every
text that is neither the wildcard nor has the digest marker is taken for a machine id,
exactly if no text has a character across its seventh byte. -/
theorem hostBinding_panicFree_iff
    (hhost : asn1ObjectFromStr X509 hostBindingOid = .ok hostBindingId.content)
    (cert : X509) (c : CertificateForm) (hder : toDer cert = .ok c.encode)
    (hsize : c.encode.length < 2 ^ 64) (xs : List String) (hne : xs ≠ [])
    (hvalue : c.firstValue hostBindingId.content = some (sequenceOfUtf8 xs)) :
    ((∀ m, HostBindingExt.parse cert ≠ .error (.panicked m)) ∧
        (∀ hostIdHash m, verifyHostBinding cert hostIdHash ≠ .error (.panicked m)) ∧
        ∀ s ∈ xs, s ≠ "*" → (¬ ∃ rest, DigestEntry s rest) →
          HostBindingExt.classify s = .ok (.raw s) ∧
            ∀ hostIdHash, (HostDescriptor.raw s).matchesHost X509 hostIdHash =
              eqIgnoreAsciiCase (sha256Hex X509 s) hostIdHash) ↔
      ∀ s ∈ xs, s.utf8ByteSize < 7 ∨ BoundaryAt7 s := by
  constructor
  · rintro ⟨-, -, hraw⟩ s hs
    by_contra hacross
    have hpanic := classify_panics (fun h => hacross (.inl h)) (fun h => hacross (.inr h))
    have hstar : s ≠ "*" := by
      rintro rfl
      exact hacross (.inl (by decide))
    have hdigest : ¬ ∃ rest, DigestEntry s rest := by
      rintro ⟨rest, marker, rfl, hmarker⟩
      exact hacross (.inr ⟨marker, rest, rfl, by rw [utf8ByteSize_eq, utf8Len_marker hmarker]⟩)
    have hclass := (hraw s hs hstar hdigest).1
    rw [hpanic] at hclass
    cases hclass
  · intro h
    have hparse : ∀ m, HostBindingExt.parse cert ≠ .error (.panicked m) := by
      intro m
      rcases hostParse_issued hhost hder hsize hne hvalue with hmap | ⟨e, herror⟩
      · rw [hmap]
        exact mapM_classify_not_panicked h m
      · rw [herror]
        intro heq
        cases heq
    refine ⟨hparse, verifyHostBinding_not_panicked hparse, ?_⟩
    intro s hs hstar hdigest
    exact ⟨classify_raw hstar hdigest (h s hs), fun _ => rfl⟩

end

namespace RecordX509

/-- The form in which a record is encoded. -/
def form (c : RecordX509) : CertificateForm where
  fields := [(0x0C, utf8Bytes c.subject), (0x0C, utf8Bytes c.serial)]
  extensions := some (c.extensions.map fun e => ⟨e.1, none, e.2⟩)
  behind := []
  fields_tag := by simp

/-- A leaf for a host whose machine id has a character that ends with its seventh byte. -/
def leafUpTo : RecordX509 :=
  { leafUnbound with extensions := [(hostBindingOidBytes, derSeqOfUtf8 ["1касса-2"])] }

/-- A leaf for a host whose machine id has a character across its seventh byte. -/
def leafAcross : RecordX509 :=
  { leafUnbound with extensions := [(hostBindingOidBytes, derSeqOfUtf8 ["касса-12"])] }

theorem form_facts :
    leafBound.der = leafBound.form.encode ∧ leafBound.form.content.length < 2 ^ 32 ∧
      leafBound.form.firstValue userBindingOidBytes = some (sequenceOfUtf8 ["alice"]) ∧
      leafUpTo.der = leafUpTo.form.encode ∧ leafUpTo.form.encode.length < 2 ^ 64 ∧
      leafUpTo.form.firstValue hostBindingOidBytes = some (sequenceOfUtf8 ["1касса-2"]) ∧
      leafAcross.der = leafAcross.form.encode ∧ leafAcross.form.encode.length < 2 ^ 64 ∧
      leafAcross.form.firstValue hostBindingOidBytes = some (sequenceOfUtf8 ["касса-12"]) ∧
      HostBindingExt.parse leafAcross =
        .error (.panicked "byte index 7 is not a char boundary") ∧
      verifyHostBinding leafAcross "" =
        .error (.panicked "byte index 7 is not a char boundary") := by
  decide +kernel

theorem asn1ObjectFromStr_bindings :
    asn1ObjectFromStr RecordX509 hostBindingOid = .ok hostBindingId.content ∧
      asn1ObjectFromStr RecordX509 userBindingOid = .ok userBindingId.content := by
  obtain ⟨-, hhost, -, huser, -⟩ := bindingIds_dotted
  rw [hhost, huser]
  exact ⟨rfl, rfl⟩

end RecordX509

open RecordX509 in
theorem bindings_follow_issued_lists_leafBound :
    IssuedAs leafBound leafBound.form ∧
      leafBound.form.firstValue userBindingId.content = some (sequenceOfUtf8 ["alice"]) ∧
      verifyUserBinding leafBound "alice" = .ok () := by
  obtain ⟨hder, hlen, hvalue, -⟩ := form_facts
  have hissued : IssuedAs leafBound leafBound.form := ⟨congrArg Except.ok hder, hlen⟩
  rw [← bindingIds_dotted.2.2.2.1] at hvalue
  have hlists := bindings_follow_issued_lists asn1ObjectFromStr_bindings.1
    asn1ObjectFromStr_bindings.2
  exact ⟨hissued, hvalue, ((hlists.2 leafBound leafBound.form hissued).1 ["alice"] hvalue
    "alice").mpr (by simp)⟩

open RecordX509 in
theorem hostBinding_panicFree_iff_leafUpTo :
    toDer leafUpTo = .ok leafUpTo.form.encode ∧
      leafUpTo.form.firstValue hostBindingId.content = some (sequenceOfUtf8 ["1касса-2"]) ∧
      HostBindingExt.parse leafUpTo ≠
        .error (.panicked "byte index 7 is not a char boundary") ∧
      HostBindingExt.classify "1касса-2" = .ok (.raw "1касса-2") := by
  obtain ⟨-, -, -, hder, hsize, hvalue, -⟩ := form_facts
  have hencoded : toDer leafUpTo = .ok leafUpTo.form.encode := congrArg Except.ok hder
  have hboundary : ∀ s ∈ ["1касса-2"], s.utf8ByteSize < 7 ∨ BoundaryAt7 s := by
    intro s hs
    rw [List.mem_singleton.mp hs]
    exact .inr ⟨"1кас", "са-2", by decide, by decide⟩
  have hdigest : ¬ ∃ rest, DigestEntry "1касса-2" rest := by
    rintro ⟨rest, marker, hs, hmarker⟩
    have hlower : "1касса-2".toList.map Char.toLower =
        "sha256:".toList ++ rest.toList.map Char.toLower := by
      rw [hs, String.toList_append, List.map_append, ← toList_toLower, hmarker]
    cases congrArg List.head? hlower
  rw [← bindingIds_dotted.2.1] at hvalue
  obtain ⟨hparse, -, hraw⟩ := (hostBinding_panicFree_iff asn1ObjectFromStr_bindings.1 leafUpTo
    leafUpTo.form hencoded hsize ["1касса-2"] (by simp) hvalue).mpr hboundary
  exact ⟨hencoded, hvalue, hparse _, (hraw _ (by simp) (by decide) hdigest).1⟩

open RecordX509 in
/-- The list with the one machine id makes both entry points panic. -/
theorem hostBinding_panics_across :
    toDer leafAcross = .ok leafAcross.form.encode ∧
      leafAcross.form.encode.length < 2 ^ 64 ∧
      leafAcross.form.firstValue hostBindingId.content = some (sequenceOfUtf8 ["касса-12"]) ∧
      HostBindingExt.parse leafAcross =
        .error (.panicked "byte index 7 is not a char boundary") ∧
      verifyHostBinding leafAcross "" =
        .error (.panicked "byte index 7 is not a char boundary") := by
  obtain ⟨-, -, -, -, -, -, hder, hsize, hvalue, hparse, hverify⟩ := form_facts
  rw [← bindingIds_dotted.2.1] at hvalue
  exact ⟨congrArg Except.ok hder, hsize, hvalue, hparse, hverify⟩

end PamCertauth.X509
