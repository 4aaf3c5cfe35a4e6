import PamCertauth.DerEncoding
import PamCertauth.RecordCertificates

/-!
# The readers against the encoding

The element reader of `x509/der.rs` inverts the distinguished encoding for every content
below 2^32 bytes, in the short and in the long form of lengths. The rendering of object
identifiers divides the first byte by 40, whatever the first number is, so it is the
canonical one exactly for identifiers whose first number is below 120. For such
identifiers the two walks over the extensions of a certificate, one over rendered and one
over encoded identifiers, agree.
-/

namespace PamCertauth.X509

open BigEndian Der

theorem readLength_map_ofNat {ds : List ℕ} (h : ∀ d ∈ ds, d < 256) :
    readLength (ds.map UInt8.ofNat) = value 256 0 ds := by
  have hfold : ∀ acc, (ds.map UInt8.ofNat).foldl (fun acc b => acc <<< 8 ||| b.toNat) acc =
      value 256 acc ds := by
    induction ds with
    | nil => exact fun acc => rfl
    | cons d ds ih =>
      intro acc
      have hd : (UInt8.ofNat d).toNat = d := by
        rw [UInt8.toNat_ofNat', Nat.mod_eq_of_lt (h d List.mem_cons_self)]
      rw [List.map_cons, List.foldl_cons, value_cons, hd,
        shiftLeft_or (h d List.mem_cons_self : d < 2 ^ 8)]
      exact ih (fun e he => h e (List.mem_cons_of_mem d he)) _
  exact hfold 0

/-- The first byte of a long form holds the number of the bytes behind it. -/
theorem longForm_byte {count : ℕ} (h : count < 128) :
    ¬ UInt8.ofNat (128 + count) &&& 0x80 = 0 ∧
      (UInt8.ofNat (128 + count) &&& 0x7F).toNat = count := by
  have hbyte : (UInt8.ofNat (128 + count)).toNat = 128 + count := by
    rw [UInt8.toNat_ofNat']
    omega
  constructor
  · rw [and_mark_eq_zero_iff, hbyte]
    omega
  · rw [toNat_and_digit, hbyte]
    omega

/-- The header of an element announces the length of its content. -/
theorem readHeader_lengthOctets (tag : UInt8) {n : ℕ} (hn : n < 2 ^ 32) (rest : Bytes) :
    ∃ lenByte tail, lengthOctets n = lenByte :: tail ∧
      readHeader (tag :: lengthOctets n ++ rest) lenByte =
        .ok (n, 1 + (lengthOctets n).length) := by
  by_cases hshort : n < 128
  · have hbyte : (UInt8.ofNat n).toNat = n := by
      rw [UInt8.toNat_ofNat']
      omega
    refine ⟨UInt8.ofNat n, [], by rw [lengthOctets, if_pos hshort], ?_⟩
    rw [readHeader, if_pos (and_mark_eq_zero_iff.mpr (by rw [hbyte]; exact hshort)), hbyte,
      lengthOctets, if_pos hshort]
    rfl
  · have hcount := (length_digits_le_iff (by decide : 1 < 256) (by decide : 1 ≤ 4)).mpr
      (by omega : n < 256 ^ 4)
    have hpos := List.length_pos_iff.mpr (digits_ne_nil 256 n)
    obtain ⟨hmark, hdigit⟩ := longForm_byte (by omega : (digits 256 n).length < 128)
    have hoctets : lengthOctets n = UInt8.ofNat (128 + (digits 256 n).length) ::
        (digits 256 n).map UInt8.ofNat := by
      rw [lengthOctets, if_neg hshort]
    refine ⟨_, _, hoctets, ?_⟩
    rw [readHeader, if_neg hmark, hoctets]
    simp only [hdigit]
    rw [if_neg (by omega), if_neg (by simp; omega)]
    have htake : ((tag :: (UInt8.ofNat (128 + (digits 256 n).length) ::
        (digits 256 n).map UInt8.ofNat) ++ rest).drop 2).take (digits 256 n).length =
        (digits 256 n).map UInt8.ofNat := by
      rw [List.cons_append, List.cons_append, List.drop_succ_cons, List.drop_succ_cons,
        List.drop_zero]
      exact List.take_left' (List.length_map _)
    rw [htake, readLength_map_ofNat fun d hd => lt_of_mem_digits (by decide) hd, value_digits,
      List.length_cons, List.length_map]
    congr 2
    omega

/-- A length of more than four bytes is refused. -/
theorem readTlv_element_oversized (tag : UInt8) {content : Bytes}
    (hge : 2 ^ 32 ≤ content.length) (hlt : content.length < 2 ^ 64) (rest : Bytes) :
    readTlv (element tag content ++ rest) =
      .error (.certParse "der: indefinite or oversized length") := by
  have hmore : ¬ (digits 256 content.length).length ≤ 4 := by
    rw [length_digits_le_iff (by decide) (by decide)]
    omega
  have hless := (length_digits_le_iff (by decide : 1 < 256) (by decide : 1 ≤ 8)).mpr
    (by omega : content.length < 256 ^ 8)
  obtain ⟨hmark, hdigit⟩ := longForm_byte (by omega : (digits 256 content.length).length < 128)
  have hinput : element tag content ++ rest =
      tag :: UInt8.ofNat (128 + (digits 256 content.length).length) ::
        ((digits 256 content.length).map UInt8.ofNat ++ content ++ rest) := by
    rw [element, lengthOctets, if_neg (by omega)]
    simp only [List.cons_append]
  rw [hinput, readTlv, readHeader, if_neg hmark]
  simp only [hdigit]
  rw [if_pos (.inr (by omega))]
  rfl

/-- The reader takes an element off the input and leaves what follows it. -/
theorem readTlv_element (tag : UInt8) {content : Bytes} (hlen : content.length < 2 ^ 32)
    (rest : Bytes) : readTlv (element tag content ++ rest) = .ok ⟨tag, content, rest⟩ := by
  obtain ⟨lenByte, tail, hoctets, hheader⟩ :=
    readHeader_lengthOctets tag hlen (content ++ rest)
  have hinput : element tag content ++ rest =
      (tag :: lengthOctets content.length) ++ (content ++ rest) := by
    rw [element, List.append_assoc]
  have hshape : (tag :: lengthOctets content.length) ++ (content ++ rest) =
      tag :: lenByte :: (tail ++ (content ++ rest)) := by
    rw [hoctets]
    rfl
  have hheaderLen : (tag :: lengthOctets content.length).length =
      1 + (lengthOctets content.length).length := by
    rw [List.length_cons, Nat.add_comm]
  have hshortHeader : (lengthOctets content.length).length ≤ 5 := by
    rw [lengthOctets]
    split
    · simp
    · have hcount := (length_digits_le_iff (by decide : 1 < 256) (by decide : 1 ≤ 4)).mpr
        (by omega : content.length < 256 ^ 4)
      simp only [List.length_cons, List.length_map]
      omega
  rw [hinput, hshape, readTlv, ← hshape]
  rw [List.cons_append] at hheader
  simp only [List.cons_append, hheader, bind, Except.bind]
  rw [if_neg (by omega), if_neg (by simp only [List.length_cons, List.length_append]; omega)]
  rw [← List.cons_append, ← hheaderLen, ← List.drop_drop, List.drop_left, List.take_left,
    List.drop_left]

theorem readTlvExpect_element (tag : UInt8) {content : Bytes} (hlen : content.length < 2 ^ 32)
    (rest : Bytes) : readTlvExpect (element tag content ++ rest) tag = .ok ⟨tag, content, rest⟩ :=
  readTlvExpect_eq_ok_iff.mpr ⟨readTlv_element tag hlen rest, rfl⟩

/-- The digits of one arc are collected until the last one, which is not marked. -/
theorem oidArcs_continued {ds : List ℕ} (hne : ds ≠ []) (hdigit : ∀ d ∈ ds, d < 128) (acc : ℕ)
    (inArc : Bool) (rest : Bytes) (hvalue : value 128 acc ds < 2 ^ 128) :
    oidArcs acc inArc (continued ds ++ rest) =
      (value 128 acc ds :: ·) <$> oidArcs 0 false rest := by
  induction ds generalizing acc inArc with
  | nil => exact absurd rfl hne
  | cons d ds ih =>
    have hd := hdigit d List.mem_cons_self
    have hle : acc * 128 + d ≤ value 128 acc (d :: ds) := le_value (by decide) _ ds
    -- the guard against an overflow of 128 bits lets every prefix of the arc pass
    have hguard : ¬ acc > (2 ^ 128 - 1) >>> 7 := by
      rw [Nat.shiftRight_eq_div_pow]
      omega
    have hstep : ∀ b : UInt8, b.toNat % 128 = d →
        acc <<< 7 ||| (b &&& 0x7F).toNat = acc * 128 + d := by
      intro b hb
      rw [toNat_and_digit, hb]
      exact shiftLeft_or (hd : d < 2 ^ 7) acc
    cases ds with
    | nil =>
      have hbyte : (UInt8.ofNat d).toNat = d := by
        rw [UInt8.toNat_ofNat']
        omega
      rw [continued, List.singleton_append, oidArcs, if_neg hguard]
      simp only
      rw [if_pos (and_mark_eq_zero_iff.mpr (by rw [hbyte]; exact hd)),
        hstep _ (by rw [hbyte]; omega)]
      rfl
    | cons e ds =>
      have hbyte : (UInt8.ofNat (d + 128)).toNat = d + 128 := by
        rw [UInt8.toNat_ofNat']
        omega
      have hmark : ¬ UInt8.ofNat (d + 128) &&& 0x80 = 0 := by
        rw [and_mark_eq_zero_iff, hbyte]
        omega
      rw [continued_cons_cons, List.cons_append, oidArcs, if_neg hguard]
      simp only
      rw [if_neg hmark, hstep _ (by rw [hbyte]; omega),
        ih (List.cons_ne_nil e ds) (fun x hx => hdigit x (List.mem_cons_of_mem d hx)) _ true hvalue]
      rfl

theorem oidArcs_base128 {n : ℕ} (h : n < 2 ^ 128) (rest : Bytes) :
    oidArcs 0 false (base128 n ++ rest) = (n :: ·) <$> oidArcs 0 false rest := by
  have hread := oidArcs_continued (digits_ne_nil 128 n)
    (fun d hd => lt_of_mem_digits (by decide) hd) 0 false rest (by rw [value_digits]; exact h)
  rwa [value_digits] at hread

theorem oidArcs_flatMap {arcs : List ℕ} (h : ∀ a ∈ arcs, a < 2 ^ 128) :
    oidArcs 0 false (arcs.flatMap base128) = .ok arcs := by
  induction arcs with
  | nil => rfl
  | cons a arcs ih =>
    rw [List.flatMap_cons, oidArcs_base128 (h a List.mem_cons_self),
      ih fun x hx => h x (List.mem_cons_of_mem a hx)]
    rfl

/-- Whatever its first byte is, an identifier is rendered with a quotient and a remainder
of this byte as its first arcs. -/
theorem oidToDotted_cons (first : UInt8) {arcs : List ℕ} (h : ∀ a ∈ arcs, a < 2 ^ 128) :
    oidToDotted (first :: arcs.flatMap base128) =
      .ok (dotted (first.toNat / 40 :: first.toNat % 40 :: arcs)) := by
  rw [oidToDotted, oidArcs_flatMap h]
  simp only [bind, Except.bind, dotted, UInt8.toNat_div, UInt8.toNat_mod]
  rfl

theorem arcs_of_oidToDotted {first : UInt8} {content : Bytes} {s : String}
    (h : oidToDotted (first :: content) = .ok s) :
    ∃ arcs, s = dotted (first.toNat / 40 :: first.toNat % 40 :: arcs) := by
  rw [oidToDotted, bind_eq_ok_iff] at h
  obtain ⟨arcs, -, hs⟩ := h
  cases hs
  exact ⟨arcs, by simp only [dotted, UInt8.toNat_div, UInt8.toNat_mod]; rfl⟩

/-- The arcs fit into the 128 bits of the reader, and so does the number that the first
two of them share. -/
def InRange (oid : ObjectIdentifier) : Prop :=
  (∀ a ∈ oid.further, a < 2 ^ 128) ∧ (oid.first = 2 → 80 + oid.second < 2 ^ 128)

/-- The first two arcs share a number below 120. -/
def FirstBelow120 (oid : ObjectIdentifier) : Prop := oid.first < 2 ∨ oid.second < 40

theorem content_of_firstBelow120 {oid : ObjectIdentifier} (h : FirstBelow120 oid) :
    ∃ first : UInt8, first.toNat = 40 * oid.first + oid.second ∧ first.toNat < 120 ∧
      oid.second < 40 ∧ oid.content = first :: oid.further.flatMap base128 := by
  have hfirst := oid.first_le
  have hsecond : oid.second < 40 := h.elim oid.second_lt id
  have hbyte : (UInt8.ofNat (40 * oid.first + oid.second)).toNat = 40 * oid.first + oid.second := by
    rw [UInt8.toNat_ofNat']
    omega
  refine ⟨_, hbyte, by omega, hsecond, ?_⟩
  rw [ObjectIdentifier.content, base128_of_lt (by omega)]
  rfl

theorem content_of_not_firstBelow120 {oid : ObjectIdentifier} (h : ¬ FirstBelow120 oid) :
    ∃ (first : UInt8) (bs : Bytes), oid.content = first :: bs ∧ 120 ≤ first.toNat := by
  have hfirst := oid.first_le
  simp only [FirstBelow120, not_or, not_lt] at h
  obtain ⟨hfirst', hsecond⟩ := h
  by_cases hshort : 40 * oid.first + oid.second < 128
  · refine ⟨UInt8.ofNat (40 * oid.first + oid.second), oid.further.flatMap base128, ?_, ?_⟩
    · rw [ObjectIdentifier.content, base128_of_lt hshort]
      rfl
    · rw [UInt8.toNat_ofNat']
      omega
  · obtain ⟨b, bs, hbytes, hb⟩ := base128_of_le (Nat.not_lt.mp hshort)
    exact ⟨b, bs ++ oid.further.flatMap base128, by rw [ObjectIdentifier.content, hbytes]; rfl,
      by omega⟩

theorem oidToDotted_content {oid : ObjectIdentifier} (hrange : ∀ a ∈ oid.further, a < 2 ^ 128)
    (h : FirstBelow120 oid) : oidToDotted oid.content = .ok (dotted oid.arcs) := by
  obtain ⟨first, hfirst, -, hsecond, hcontent⟩ := content_of_firstBelow120 h
  rw [hcontent, oidToDotted_cons first hrange, hfirst,
    show (40 * oid.first + oid.second) / 40 = oid.first by omega,
    show (40 * oid.first + oid.second) % 40 = oid.second by omega]
  rfl

/-- An identifier whose first number is 120 or more is never rendered with a first arc
of an object identifier. -/
theorem oidToDotted_ne_dotted {oid : ObjectIdentifier} (h : ¬ FirstBelow120 oid)
    (oid' : ObjectIdentifier) : oidToDotted oid.content ≠ .ok (dotted oid'.arcs) := by
  intro hdotted
  obtain ⟨first, bs, hcontent, hfirst⟩ := content_of_not_firstBelow120 h
  rw [hcontent] at hdotted
  obtain ⟨arcs, harcs⟩ := arcs_of_oidToDotted hdotted
  have heq := dotted_injective (List.cons_ne_nil _ _) (List.cons_ne_nil _ _) harcs
  have hhead := (List.cons.inj heq).1
  have hle := oid'.first_le
  omega

/-- An identifier is rendered in its canonical form, and in a form that no other one has,
exactly if its first two arcs share a number below 120. -/
theorem oidToDotted_canonical_iff (oid : ObjectIdentifier) (hrange : InRange oid) :
    (oidToDotted oid.content = .ok (dotted oid.arcs) ∧
        ∀ oid', InRange oid' → oidToDotted oid'.content = oidToDotted oid.content → oid' = oid) ↔
      oid.first < 2 ∨ oid.second < 40 := by
  constructor
  · rintro ⟨hdotted, -⟩
    by_contra h
    exact oidToDotted_ne_dotted h oid hdotted
  · intro h
    have hdotted := oidToDotted_content hrange.1 h
    refine ⟨hdotted, fun oid' hrange' hsame => ?_⟩
    rw [hdotted] at hsame
    by_cases h' : FirstBelow120 oid'
    · rw [oidToDotted_content hrange'.1 h', Except.ok.injEq] at hsame
      exact ObjectIdentifier.arcs_injective
        (dotted_injective (List.cons_ne_nil _ _) (List.cons_ne_nil _ _) hsame)
    · exact absurd hsame (oidToDotted_ne_dotted h' oid)

/-- The identifier below the arc 2 with this second arc. -/
def jointIso (second : ℕ) : ObjectIdentifier := 
  ⟨2, second, [], le_refl 2, fun h => absurd h (Nat.lt_irrefl 2)⟩

/-- The purpose of client authentication. -/
def clientAuth : ObjectIdentifier := ⟨1, 3, [6, 1, 5, 5, 7, 3, 2], by decide, by decide⟩

theorem oidToDotted_canonical_iff_clientAuth :
    InRange clientAuth ∧ oidToDotted clientAuth.content = .ok (dotted clientAuth.arcs) := by
  have hrange : InRange clientAuth := ⟨by decide, by decide⟩
  exact ⟨hrange, ((oidToDotted_canonical_iff clientAuth hrange).mpr (by decide)).1⟩

/-- The identifier 2.40 is rendered as 3.0, and two different identifiers are rendered
as 3.9.0. -/
theorem oidToDotted_collision :
    oidToDotted (jointIso 40).content = .ok "3.0" ∧ dotted (jointIso 40).arcs = "2.40" ∧
      oidToDotted (jointIso 48).content = .ok "3.9.0" ∧
      oidToDotted (jointIso 16304).content = .ok "3.9.0" ∧ jointIso 48 ≠ jointIso 16304 := by
  decide +kernel

/-- Where the walk over the extensions starts, if the certificate has any. -/
def extensionsOf (certDer : Bytes) : Except TrustError (Option Bytes) := do
  match ← extensionsField certDer with
  | none => .ok none
  | some extOuter => (fun seq => some seq.value) <$> readTlvExpect extOuter tagSequence

/-- The extensions that can be read one after another, each by the contents of its
identifier and of its value. -/
inductive ReadsExtension : Bytes → Bytes × Bytes → Prop where
  | here {walker rest : Bytes} {item : Bytes × Bytes}
      (h : readExtension walker = .ok (item, rest)) : ReadsExtension walker item
  | later {walker rest : Bytes} {skipped item : Bytes × Bytes}
      (h : readExtension walker = .ok (skipped, rest)) (hrest : ReadsExtension rest item) :
      ReadsExtension walker item

/-- The first extension with this identifier has this value. -/
inductive FirstExtension (target : Bytes) : Bytes → Bytes → Prop where
  | here {walker rest value : Bytes} (h : readExtension walker = .ok ((target, value), rest)) :
      FirstExtension target walker value
  | later {walker rest value : Bytes} {skipped : Bytes × Bytes}
      (h : readExtension walker = .ok (skipped, rest)) (hne : skipped.1 ≠ target)
      (hrest : FirstExtension target rest value) : FirstExtension target walker value

/-- Minimally encoded, with a first byte below 120 and arcs of at most 128 bits. -/
def ShapedOid (content : Bytes) : Prop :=
  ∃ (first : UInt8) (arcs : List ℕ), first.toNat < 120 ∧ (∀ a ∈ arcs, a < 2 ^ 128) ∧
    content = first :: arcs.flatMap base128

theorem shapedOid_content {oid : ObjectIdentifier} (hrange : ∀ a ∈ oid.further, a < 2 ^ 128)
    (h : FirstBelow120 oid) : ShapedOid oid.content := by
  obtain ⟨first, -, hlt, -, hcontent⟩ := content_of_firstBelow120 h
  exact ⟨first, oid.further, hlt, hrange, hcontent⟩

/-- Contents of this shape are rendered differently if they are different. -/
theorem oidToDotted_shaped_inj {content content' : Bytes} (h : ShapedOid content)
    (h' : ShapedOid content') (hsame : oidToDotted content = oidToDotted content') :
    content = content' := by
  obtain ⟨first, arcs, -, harcs, rfl⟩ := h
  obtain ⟨first', arcs', -, harcs', rfl⟩ := h'
  rw [oidToDotted_cons first harcs, oidToDotted_cons first' harcs', Except.ok.injEq] at hsame
  have heq := dotted_injective (List.cons_ne_nil _ _) (List.cons_ne_nil _ _) hsame
  simp only [List.cons.injEq] at heq
  obtain ⟨hdiv, hmod, rfl⟩ := heq
  have hfirst : first = first' := UInt8.toNat_inj.mp (by omega)
  rw [hfirst]

theorem exists_oidToDotted_shaped {content : Bytes} (h : ShapedOid content) :
    ∃ s, oidToDotted content = .ok s := by
  obtain ⟨first, arcs, -, harcs, rfl⟩ := h
  exact ⟨_, oidToDotted_cons first harcs⟩

theorem read_dottedExtensionReader {walker rest oid octets : Bytes} {s : String}
    (h : readExtension walker = .ok ((oid, octets), rest)) (hs : oidToDotted oid = .ok s) :
    dottedExtensionReader.read walker = .ok ((s, octets), rest) := by
  simp only [dottedExtensionReader, h, hs, bind, Except.bind]

/-- What a walk answers for an extension with this key. -/
def valueFor {κ : Type} [DecidableEq κ] (target : κ) (ext : κ × Bytes) : Option Bytes :=
  if ext.1 = target then some ext.2 else none

/-- The results of two walks agree on the extensions behind `walker`. -/
def SameAnswer (target : Bytes) (walker : Bytes) (x y : Except TrustError (Option Bytes)) : Prop :=
  (∃ e, x = .error e ∧ y = .error e) ∨ (x = .ok none ∧ y = .ok none) ∨
    ∃ value, x = .ok (some value) ∧ y = .ok (some value) ∧ FirstExtension target walker value

/-- Both walks read an extension before they compare its identifier, so they stop at the
same entry: the induction is on what is left of the list. -/
theorem sameAnswer_readUntil {target : Bytes} {rendered : String} (hshape : ShapedOid target)
    (htarget : oidToDotted target = .ok rendered) (walker : Bytes)
    (hoids : ∀ item, ReadsExtension walker item → ShapedOid item.1) :
    SameAnswer target walker (dottedExtensionReader.readUntil (valueFor rendered) walker)
      (extensionReader.readUntil (valueFor target) walker) := by
  by_cases hnil : walker = []
  · subst hnil
    exact .inr (.inl ⟨ConsumingReader.readUntil_nil, ConsumingReader.readUntil_nil⟩)
  cases hread : readExtension walker with
  | error e =>
    have hdotted : dottedExtensionReader.read walker = .error e := by
      simp only [dottedExtensionReader, hread, bind, Except.bind]
    exact .inl ⟨e, ConsumingReader.readUntil_of_error hnil hdotted,
      ConsumingReader.readUntil_of_error hnil hread⟩
  | ok result =>
    obtain ⟨⟨oid, octets⟩, rest⟩ := result
    have hoid := hoids (oid, octets) (.here hread)
    obtain ⟨s, hs⟩ := exists_oidToDotted_shaped hoid
    have hdotted := read_dottedExtensionReader hread hs
    by_cases heq : oid = target
    · subst heq
      rw [hs, Except.ok.injEq] at htarget
      subst htarget
      refine .inr (.inr ⟨octets, ?_, ?_, .here hread⟩)
      · exact ConsumingReader.readUntil_of_some hdotted (by rw [valueFor, if_pos rfl])
      · exact ConsumingReader.readUntil_of_some hread (by rw [valueFor, if_pos rfl])
    · have hne : s ≠ rendered := by
        rintro rfl
        exact heq (oidToDotted_shaped_inj hoid hshape (hs.trans htarget.symm))
      have hlt := readExtension_rest_lt hread
      have hrest := sameAnswer_readUntil hshape htarget rest fun item hitem =>
        hoids item (.later hread hitem)
      rw [ConsumingReader.readUntil_of_none hdotted (by rw [valueFor, if_neg hne]),
        ConsumingReader.readUntil_of_none (p := extensionReader) hread
          (by rw [valueFor, if_neg heq])]
      rcases hrest with herror | hnone | ⟨value, hx, hy, hfirst⟩
      · exact .inl herror
      · exact .inr (.inl hnone)
      · exact .inr (.inr ⟨value, hx, hy, .later hread heq hfirst⟩)
termination_by walker.length

theorem findExtension_eq {κ : Type} [DecidableEq κ]
    (reader : ConsumingReader UInt8 TrustError (κ × Bytes)) (certDer : Bytes) (target : κ) :
    findExtension reader certDer target =
      (extensionsOf certDer >>= fun walker =>
        walker.elim (.ok none) (reader.readUntil (valueFor target))) := by
  rw [findExtension, extensionsOf]
  cases extensionsField certDer with
  | error e => rfl
  | ok field =>
    cases field with
    | none => rfl
    | some extOuter =>
      simp only [bind, Except.bind]
      cases readTlvExpect extOuter tagSequence <;> rfl

section

variable {X509 : Type} [CryptoLibrary X509]

open CryptoLibrary

/-- The walk over rendered identifiers and the walk over encoded ones both fail, both find
nothing, or both return the value of the first extension with the target. -/
theorem extensionWalks_agree (cert : X509) (certDer : Bytes) (hder : toDer cert = .ok certDer)
    (target : ObjectIdentifier) (hfirst : target.first < 2 ∨ target.second < 40)
    (hfurther : ∀ a ∈ target.further, a < 2 ^ 128)
    (hlibrary : asn1ObjectFromStr X509 (dotted target.arcs) = .ok target.content)
    (hoids : ∀ walker, extensionsOf certDer = .ok (some walker) →
      ∀ item, ReadsExtension walker item → ShapedOid item.1) :
    (∃ e e', extensionValue cert (dotted target.arcs) = .error e ∧
        extractExtensionByOid X509 certDer (dotted target.arcs) = .error e') ∨
      (extensionValue cert (dotted target.arcs) = .ok none ∧
        extractExtensionByOid X509 certDer (dotted target.arcs) = .ok none) ∨
      ∃ walker value, extensionsOf certDer = .ok (some walker) ∧
        FirstExtension target.content walker value ∧
        extensionValue cert (dotted target.arcs) = .ok (some value) ∧
        extractExtensionByOid X509 certDer (dotted target.arcs) = .ok (some value) := by
  have hvalue : extensionValue cert (dotted target.arcs) =
      findExtension dottedExtensionReader certDer (dotted target.arcs) := by
    simp only [extensionValue, hder, Except.mapError, bind, Except.bind]
  have hextract : extractExtensionByOid X509 certDer (dotted target.arcs) =
      (findExtension extensionReader certDer target.content).mapError DerError.ofTrust := by
    simp only [extractExtensionByOid, hlibrary, Except.mapError, bind, Except.bind]
  rw [hvalue, hextract, findExtension_eq, findExtension_eq]
  cases hwalker : extensionsOf certDer with
  | error e => exact .inl ⟨e, _, rfl, rfl⟩
  | ok start =>
    cases start with
    | none => exact .inr (.inl ⟨rfl, rfl⟩)
    | some walker =>
      have hsame := sameAnswer_readUntil (shapedOid_content hfurther hfirst)
        (oidToDotted_content hfurther hfirst) walker (hoids walker hwalker)
      simp only [bind, Except.bind, Option.elim]
      rcases hsame with ⟨e, hx, hy⟩ | ⟨hx, hy⟩ | ⟨value, hx, hy, hfirstExt⟩
      · exact .inl ⟨e, _, hx, by rw [hy]; rfl⟩
      · exact .inr (.inl ⟨hx, by rw [hy]; rfl⟩)
      · exact .inr (.inr ⟨walker, value, rfl, hfirstExt, hx, by rw [hy]; rfl⟩)

end

/-- The identifier of the host-binding extension. -/
def hostBindingId : ObjectIdentifier :=
  ⟨2, 25, [183976554325829274683049824615098], le_refl 2, fun h => absurd h (Nat.lt_irrefl 2)⟩

/-- The identifier of the user-binding extension. -/
def userBindingId : ObjectIdentifier :=
  ⟨2, 25, [215438916728501023845629178354627], le_refl 2, fun h => absurd h (Nat.lt_irrefl 2)⟩

namespace RecordX509

/-- A leaf with no extension but the host binding. -/
def leafHostOnly : RecordX509 :=
  { leafUnbound with extensions := [(hostBindingOidBytes, derSeqOfUtf8 ["*"])] }

theorem bindingIds_dotted :
    dotted hostBindingId.arcs = hostBindingOid ∧ hostBindingId.content = hostBindingOidBytes ∧
      dotted userBindingId.arcs = userBindingOid ∧ userBindingId.content = userBindingOidBytes ∧
      extensionsOf leafHostOnly.der =
        .ok (some (derExtension hostBindingOidBytes (derSeqOfUtf8 ["*"]))) ∧
      readExtension (derExtension hostBindingOidBytes (derSeqOfUtf8 ["*"])) =
        .ok ((hostBindingOidBytes, derSeqOfUtf8 ["*"]), []) := by
  decide +kernel

theorem shapedOid_leafHostOnly {walker : Bytes} {item : Bytes × Bytes}
    (hwalker : extensionsOf leafHostOnly.der = .ok (some walker))
    (hitem : ReadsExtension walker item) : ShapedOid item.1 := by
  obtain ⟨-, hcontent, -, -, hstart, hread⟩ := bindingIds_dotted
  rw [hstart] at hwalker
  cases hwalker
  have hshape : ShapedOid hostBindingOidBytes :=
    hcontent ▸ shapedOid_content (by decide) (.inr (by decide))
  cases hitem with
  | here h =>
    rw [hread] at h
    cases h
    exact hshape
  | later h hrest =>
    rw [hread] at h
    cases h
    -- nothing can be read behind the only extension
    cases hrest with
    | here h => cases h
    | later h _ => cases h

end RecordX509

open CryptoLibrary RecordX509 in
theorem extensionWalks_agree_leafHostOnly :
    toDer leafHostOnly = .ok leafHostOnly.der ∧
      asn1ObjectFromStr RecordX509 (dotted hostBindingId.arcs) = .ok hostBindingId.content ∧
      ((∃ e e', extensionValue leafHostOnly (dotted hostBindingId.arcs) = .error e ∧
          extractExtensionByOid RecordX509 leafHostOnly.der (dotted hostBindingId.arcs) =
            .error e') ∨
        (extensionValue leafHostOnly (dotted hostBindingId.arcs) = .ok none ∧
          extractExtensionByOid RecordX509 leafHostOnly.der (dotted hostBindingId.arcs) =
            .ok none) ∨
        ∃ walker value, extensionsOf leafHostOnly.der = .ok (some walker) ∧
          FirstExtension hostBindingId.content walker value ∧
          extensionValue leafHostOnly (dotted hostBindingId.arcs) = .ok (some value) ∧
          extractExtensionByOid RecordX509 leafHostOnly.der (dotted hostBindingId.arcs) =
            .ok (some value)) := by
  obtain ⟨hdotted, hcontent, -⟩ := bindingIds_dotted
  have hlibrary : asn1ObjectFromStr RecordX509 (dotted hostBindingId.arcs) =
      .ok hostBindingId.content := by
    rw [hdotted, hcontent]
    rfl
  exact ⟨rfl, hlibrary, extensionWalks_agree leafHostOnly leafHostOnly.der rfl hostBindingId
    (.inr (by decide)) (by decide) hlibrary fun _ hwalker _ hitem =>
      shapedOid_leafHostOnly hwalker hitem⟩

end PamCertauth.X509
