import PamCertauth.AuthContexts
import PamCertauth.BigEndianDigits

/-!
# The encoding of integrity labels

`IntegrityLabel::to_der` (`mac/label.rs`) writes the category mask without its leading
zero bytes and `from_der` fills them in again, so each label is read back as it was
written. What is accepted is one sequence in short form, with a level of one byte and at
most one BIT STRING behind it, and with no byte left over.
-/

namespace PamCertauth

open X509 BigEndian

namespace IntegrityLabel

/-- The eight bytes of a mask, most significant first. -/
def toBeBytes (mask : UInt64) : Bytes :=
  [(mask >>> 56).toUInt8, (mask >>> 48).toUInt8, (mask >>> 40).toUInt8, (mask >>> 32).toUInt8,
    (mask >>> 24).toUInt8, (mask >>> 16).toUInt8, (mask >>> 8).toUInt8, mask.toUInt8]

/-- The bytes of a mask from its first nonzero one on, and at least the last one. -/
def significantBytes (mask : UInt64) : Bytes :=
  let bytes := toBeBytes mask
  let start := (bytes.findIdx? (· ≠ 0)).getD 7
  bytes.drop start

/-- A length that fits into one byte. -/
def byteLength (n : ℕ) (field : String) : Except LabelDerError UInt8 :=
  if n < 256 then .ok (UInt8.ofNat n) else .error (.malformed field)

def toDer (label : IntegrityLabel) : Except LabelDerError Bytes := do
  let categories ←
    if label.categories = 0 then .ok [0x03, 0x01, 0x00]
    else do
      let payload := significantBytes label.categories
      let len ← byteLength (payload.length + 1) "len"
      .ok (0x03 :: len :: 0x00 :: payload)
  let inner := 0x02 :: 0x01 :: label.level.toUInt8 :: categories
  let len ← byteLength inner.length "seq len"
  .ok (0x30 :: len :: inner)

theorem toNat_shift_or {acc : UInt64} (h : acc.toNat < 2 ^ 56) (b : UInt8) :
    (acc <<< 8 ||| b.toUInt64).toNat = acc.toNat * 256 + b.toNat := by
  have hb := b.toNat_lt
  have hshift : acc.toNat <<< 8 < 2 ^ 64 := by
    rw [Nat.shiftLeft_eq]
    omega
  rw [UInt64.toNat_or, UInt64.toNat_shiftLeft, UInt8.toNat_toUInt64]
  simp only [UInt64.reduceToNat, Nat.reduceMod]
  rw [Nat.mod_eq_of_lt hshift]
  exact shiftLeft_or (hb : b.toNat < 2 ^ 8) acc.toNat

/-- Reading at most eight bytes into a mask loses nothing. -/
theorem toNat_foldl {bits : Bytes} {acc : UInt64} {k : ℕ} (hacc : acc.toNat < 256 ^ k)
    (hlen : k + bits.length ≤ 8) :
    (bits.foldl (fun (acc : UInt64) (b : UInt8) => acc <<< 8 ||| b.toUInt64) acc).toNat =
      value 256 acc.toNat (bits.map UInt8.toNat) := by
  induction bits generalizing acc k with
  | nil => rfl
  | cons b bits ih =>
    rw [List.length_cons] at hlen
    have hpow : 256 ^ k ≤ 256 ^ 7 := Nat.pow_le_pow_right (by decide) (by omega)
    have hstep := toNat_shift_or (by omega : acc.toNat < 2 ^ 56) b
    have hb := b.toNat_lt
    have hnext : (acc <<< 8 ||| b.toUInt64).toNat < 256 ^ (k + 1) := by
      rw [hstep, Nat.pow_succ]
      omega
    rw [List.foldl_cons, List.map_cons, value_cons, ih hnext (by omega), hstep]

theorem value_toBeBytes (mask : UInt64) :
    value 256 0 ((toBeBytes mask).map UInt8.toNat) = mask.toNat := by
  have hlt := mask.toNat_lt
  simp only [toBeBytes, List.map_cons, List.map_nil, value_cons, value_nil,
    UInt64.toNat_toUInt8, UInt64.toNat_shiftRight, Nat.shiftRight_eq_div_pow, UInt64.reduceToNat,
    Nat.reduceMod]
  omega

/-- Leading zero bytes do not count. -/
theorem value_drop_zeros {bytes : Bytes} {start : ℕ} (h : ∀ b ∈ bytes.take start, b = 0) :
    value 256 0 ((bytes.drop start).map UInt8.toNat) = value 256 0 (bytes.map UInt8.toNat) := by
  induction start generalizing bytes with
  | zero => rfl
  | succ start ih =>
    cases bytes with
    | nil => rfl
    | cons b bytes =>
      rw [List.take_succ_cons, List.forall_mem_cons] at h
      rw [List.drop_succ_cons, ih h.2, List.map_cons, value_cons, h.1]
      rfl

theorem readMask_eq_iff {bits : Bytes} (hlen : bits.length ≤ 8) {mask : UInt64} :
    bits.foldl (fun (acc : UInt64) (b : UInt8) => acc <<< 8 ||| b.toUInt64) 0 = mask ↔
      value 256 0 (bits.map UInt8.toNat) = mask.toNat := by
  rw [← UInt64.toNat_inj, toNat_foldl (k := 0) (by decide) (by omega)]
  rfl

theorem length_significantBytes_le (mask : UInt64) : (significantBytes mask).length ≤ 8 := by
  rw [significantBytes, List.length_drop]
  exact Nat.sub_le 8 _

theorem value_significantBytes (mask : UInt64) :
    value 256 0 ((significantBytes mask).map UInt8.toNat) = mask.toNat := by
  rw [significantBytes]
  refine Eq.trans (value_drop_zeros ?_) (value_toBeBytes mask)
  cases hstart : (toBeBytes mask).findIdx? (· ≠ 0) with
  | none =>
    have hzero : ∀ b ∈ toBeBytes mask, b = 0 := by simpa using hstart
    exact fun b hb => hzero b (List.mem_of_mem_take hb)
  | some start =>
    obtain ⟨hlt, -, hbefore⟩ := List.findIdx?_eq_some_iff_getElem.mp hstart
    intro b hb
    obtain ⟨i, hi, rfl⟩ := List.mem_iff_getElem.mp hb
    rw [Option.getD_some, List.length_take] at hi
    rw [List.getElem_take]
    simpa using hbefore i (by omega)

/-- The BIT STRING element of a mask. -/
def categoriesElement (mask : UInt64) : Bytes :=
  if mask = 0 then [0x03, 0x01, 0x00]
  else 0x03 :: UInt8.ofNat ((significantBytes mask).length + 1) :: 0x00 :: significantBytes mask

theorem toDer_eq (label : IntegrityLabel) :
    toDer label =
      .ok (0x30 :: UInt8.ofNat (3 + (categoriesElement label.categories).length) :: 0x02 :: 0x01 ::
        label.level.toUInt8 :: categoriesElement label.categories) := by
  have hlen := length_significantBytes_le label.categories
  by_cases hzero : label.categories = 0
  · simp only [toDer, hzero, if_true, bind, Except.bind, categoriesElement]
    rfl
  · rw [categoriesElement, if_neg hzero]
    simp only [toDer, if_neg hzero, byteLength, bind, Except.bind, List.length_cons]
    rw [if_pos (by omega)]
    simp only
    rw [if_pos (by omega), Nat.add_comm 3]

theorem readCategories_categoriesElement (mask : UInt64) :
    readCategories (categoriesElement mask) = .ok mask := by
  by_cases hzero : mask = 0
  · rw [categoriesElement, if_pos hzero, hzero]
    rfl
  · have hlen := length_significantBytes_le mask
    have hbyte : (UInt8.ofNat ((significantBytes mask).length + 1)).toNat =
        (significantBytes mask).length + 1 := by
      rw [UInt8.toNat_ofNat']
      omega
    have hne : UInt8.ofNat ((significantBytes mask).length + 1) ≠ 0 := by
      rw [ne_eq, ← UInt8.toNat_inj, hbyte]
      exact Nat.succ_ne_zero _
    rw [categoriesElement, if_neg hzero, readCategories]
    simp only [hbyte, hne, List.length_cons, gt_iff_lt, lt_irrefl, or_self, ne_eq,
      not_true_eq_false, if_false]
    rw [if_neg (by decide), if_neg (by omega), Except.ok.injEq]
    exact (readMask_eq_iff hlen).mpr (value_significantBytes mask)

theorem fromDer_toDer (label : IntegrityLabel) :
    ∃ der, toDer label = .ok der ∧ fromDer der = .ok label := by
  have hlen : (categoriesElement label.categories).length ≤ 11 := by
    have hsignificant := length_significantBytes_le label.categories
    rw [categoriesElement]
    split
    · decide
    · simp only [List.length_cons]
      omega
  have hbyte : (UInt8.ofNat (3 + (categoriesElement label.categories).length)).toNat =
      3 + (categoriesElement label.categories).length := by
    rw [UInt8.toNat_ofNat']
    omega
  have hshort : UInt8.ofNat (3 + (categoriesElement label.categories).length) &&& 0x80 = 0 :=
    and_mark_eq_zero_iff.mpr (by omega)
  have hbody : (0x02 :: 0x01 :: label.level.toUInt8 ::
      categoriesElement label.categories).length =
        3 + (categoriesElement label.categories).length := by
    simp only [List.length_cons]
    omega
  refine ⟨_, toDer_eq label, ?_⟩
  rw [fromDer, hbyte, hbody, hshort, if_neg (by decide), if_neg (by simp), if_neg (by simp),
    readBody, if_neg (by decide), if_neg (by simp), if_neg (by decide),
    readCategories_categoriesElement]
  simp only [bind, Except.bind, Int8.toInt8_toUInt8]

/-- What a mask of categories may be read from: nothing, or one BIT STRING of at most eight
bytes with their value. -/
inductive HoldsMask (mask : UInt64) : Bytes → Prop where
  | absent (h : mask = 0) : HoldsMask mask []
  | present (unused : UInt8) (bits : Bytes) (hunused : unused ≤ 7) (hlen : bits.length ≤ 8)
      (hvalue : value 256 0 (bits.map UInt8.toNat) = mask.toNat) :
      HoldsMask mask (0x03 :: UInt8.ofNat (bits.length + 1) :: unused :: bits)

theorem holdsMask_of_readCategories {bytes : Bytes} {mask : UInt64}
    (h : readCategories bytes = .ok mask) : HoldsMask mask bytes := by
  match bytes, h with
  | [], h =>
    cases h
    exact .absent rfl
  | [_], h => cases h
  | tag :: len :: payload, h =>
    simp only [readCategories, guard_bind_eq_ok_iff, not_not] at h
    obtain ⟨htag, hlen, hexact, h⟩ := h
    cases payload with
    | nil => cases h
    | cons unused bits =>
      simp only [guard_bind_eq_ok_iff, Except.ok.injEq, not_lt] at h
      obtain ⟨hunused, hbits, hmask⟩ := h
      have hlenByte : len = UInt8.ofNat (bits.length + 1) := by
        rw [← UInt8.toNat_inj, hexact, UInt8.toNat_ofNat', List.length_cons]
        omega
      rw [htag, hlenByte]
      exact .present unused bits (UInt8.not_lt.mp hunused) hbits ((readMask_eq_iff hbits).mp hmask)

/-- One sequence in short form with a level of one byte and the mask, and nothing else. -/
def Encodes (label : IntegrityLabel) (der : Bytes) : Prop :=
  ∃ tail, der = 0x30 :: UInt8.ofNat (3 + tail.length) :: 0x02 :: 0x01 :: label.level.toUInt8 :: tail ∧
    3 + tail.length < 128 ∧ HoldsMask label.categories tail

theorem encodes_of_fromDer {der : Bytes} {label : IntegrityLabel}
    (h : fromDer der = .ok label) : Encodes label der := by
  match der, h with
  | [], h => cases h
  | [_], h => cases h
  | tag :: len :: body, h =>
    simp only [fromDer, guard_bind_eq_ok_iff, not_not, not_or] at h
    obtain ⟨htag, ⟨-, hshort⟩, hexact, h⟩ := h
    match body, h with
    | [], h => cases h
    | [_], h => cases h
    | [_, _], h => cases h
    | itag :: ilen :: b :: tail, h =>
      simp only [readBody, guard_bind_eq_ok_iff, bind_eq_ok_iff, not_not] at h
      obtain ⟨hitag, -, hilen, mask, hmask, hlabel⟩ := h
      cases hlabel
      have hlt := and_mark_eq_zero_iff.mp hshort
      simp only [List.length_cons] at hexact
      have hlenByte : len = UInt8.ofNat (3 + tail.length) := by
        rw [← UInt8.toNat_inj, hexact, UInt8.toNat_ofNat']
        omega
      refine ⟨tail, ?_, by omega, holdsMask_of_readCategories hmask⟩
      rw [htag, hlenByte, hitag, hilen, UInt8.toUInt8_toInt8]

/-- Each label is encoded and read back as it was, so different labels have different
encodings; and what is read as a label is one encoding of it with no byte left over. -/
theorem label_der_exact :
    (∀ label, ∃ der, toDer label = .ok der ∧ fromDer der = .ok label) ∧
      (∀ label label', toDer label = toDer label' → label = label') ∧
      ∀ der label, fromDer der = .ok label → Encodes label der := by
  refine ⟨fromDer_toDer, fun label label' hsame => ?_, fun der label => encodes_of_fromDer⟩
  obtain ⟨der, hder, hlabel⟩ := fromDer_toDer label
  obtain ⟨der', hder', hlabel'⟩ := fromDer_toDer label'
  rw [hsame, hder', Except.ok.injEq] at hder
  rw [← hder, hlabel', Except.ok.injEq] at hlabel
  exact hlabel.symm

end IntegrityLabel

end PamCertauth
