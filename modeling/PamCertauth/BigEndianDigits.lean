import Mathlib.Data.Nat.Bitwise
import Mathlib.Data.Nat.Digits.Lemmas

/-!
# Numbers by their digits, most significant first

Binary formats write numbers with the most significant digit first, and readers collect
them with an accumulator. `value` is what such a reader computes, from any accumulator;
`digits` are the digits a writer produces, none of them a leading zero. In base 128 the
eighth bit of a byte tells whether another digit follows (`continued`).
-/

namespace PamCertauth.BigEndian

/-- The number that a reader holds behind the digits, with `acc` before them. -/
def value (base : ℕ) : ℕ → List ℕ → ℕ := List.foldl fun acc d => acc * base + d

/-- The digits of a number. Zero has one digit. -/
def digits (base n : ℕ) : List ℕ := if n = 0 then [0] else (Nat.digits base n).reverse

@[simp] theorem value_nil (base acc : ℕ) : value base acc [] = acc := rfl

@[simp] theorem value_cons (base acc d : ℕ) (ds : List ℕ) :
    value base acc (d :: ds) = value base (acc * base + d) ds := rfl

theorem value_eq_ofDigits (base : ℕ) (ds : List ℕ) :
    value base 0 ds = Nat.ofDigits base ds.reverse := by
  rw [Nat.ofDigits_eq_foldr, List.foldr_reverse]
  simp only [Nat.cast_id]
  exact List.foldl_ext _ _ _ fun acc d _ => by rw [Nat.mul_comm, Nat.add_comm]

theorem le_value {base : ℕ} (hbase : 0 < base) (acc : ℕ) (ds : List ℕ) :
    acc ≤ value base acc ds := by
  induction ds generalizing acc with
  | nil => exact le_refl acc
  | cons d ds ih =>
    calc acc ≤ acc * base := Nat.le_mul_of_pos_right acc hbase
      _ ≤ acc * base + d := Nat.le_add_right _ _
      _ ≤ value base acc (d :: ds) := ih _

theorem value_digits (base n : ℕ) : value base 0 (digits base n) = n := by
  by_cases hn : n = 0
  · subst hn
    simp [digits]
  · rw [digits, if_neg hn, value_eq_ofDigits, List.reverse_reverse, Nat.ofDigits_digits]

theorem digits_ne_nil (base n : ℕ) : digits base n ≠ [] := by
  by_cases hn : n = 0
  · simp [digits, hn]
  · rw [digits, if_neg hn, ne_eq, List.reverse_eq_nil_iff]
    exact Nat.digits_ne_nil_iff_ne_zero.mpr hn

theorem lt_of_mem_digits {base n d : ℕ} (hbase : 1 < base) (h : d ∈ digits base n) : d < base := by
  by_cases hn : n = 0
  · rw [digits, if_pos hn, List.mem_singleton] at h
    omega
  · rw [digits, if_neg hn, List.mem_reverse] at h
    exact Nat.digits_lt_base hbase h

theorem digits_of_lt {base n : ℕ} (h : n < base) : digits base n = [n] := by
  by_cases hn : n = 0
  · rw [digits, if_pos hn, hn]
  · rw [digits, if_neg hn, Nat.digits_of_lt base n hn h]
    rfl

theorem length_digits_le_iff {base n k : ℕ} (hbase : 1 < base) (hk : 1 ≤ k) :
    (digits base n).length ≤ k ↔ n < base ^ k := by
  by_cases hn : n = 0
  · rw [digits, if_pos hn, hn]
    exact ⟨fun _ => Nat.pow_pos (by omega), fun _ => hk⟩
  · rw [digits, if_neg hn, List.length_reverse]
    exact Nat.digits_length_le_iff hbase n

theorem digits_of_base_le {base n : ℕ} (hbase : 1 < base) (h : base ≤ n) :
    ∃ d e ds, digits base n = d :: e :: ds := by
  cases hdigits : digits base n with
  | nil => exact absurd hdigits (digits_ne_nil base n)
  | cons d rest =>
    cases rest with
    | nil =>
      -- a single digit is less than the base
      have hvalue := value_digits base n
      have hlt : d < base := lt_of_mem_digits hbase (hdigits ▸ List.mem_singleton_self d)
      rw [hdigits, value_cons, value_nil] at hvalue
      omega
    | cons e ds => exact ⟨d, e, ds, rfl⟩

/-- Shifting a digit in is multiplying and adding. -/
theorem shiftLeft_or {k d : ℕ} (h : d < 2 ^ k) (acc : ℕ) :
    acc <<< k ||| d = acc * 2 ^ k + d := by
  rw [← Nat.shiftLeft_add_eq_or_of_lt h, Nat.shiftLeft_eq]

theorem and_mark_eq_zero_iff {b : UInt8} : b &&& 0x80 = 0 ↔ b.toNat < 128 := by
  have hb := b.toNat_lt
  have hbit : (b &&& 0x80).toNat = (b.toNat.testBit 7).toNat * 2 ^ 7 := by
    rw [UInt8.toNat_and]
    exact Nat.and_two_pow b.toNat 7
  rw [← UInt8.toNat_inj, hbit, Nat.testBit_eq_decide_div_mod_eq, UInt8.toNat_zero]
  by_cases h : b.toNat / 2 ^ 7 % 2 = 1
  · simp only [h, decide_true, Bool.toNat_true]
    omega
  · simp only [h, decide_false, Bool.toNat_false]
    omega

theorem toNat_and_digit (b : UInt8) : (b &&& 0x7F).toNat = b.toNat % 128 := by
  rw [UInt8.toNat_and]
  exact Nat.and_two_pow_sub_one_eq_mod b.toNat 7

/-- One byte for each digit, marked if another one follows. -/
def continued : List ℕ → List UInt8
  | [] => []
  | [d] => [UInt8.ofNat d]
  | d :: e :: ds => UInt8.ofNat (d + 128) :: continued (e :: ds)

/-- A number in base 128. -/
def base128 (n : ℕ) : List UInt8 := continued (digits 128 n)

theorem continued_cons_cons (d e : ℕ) (ds : List ℕ) :
    continued (d :: e :: ds) = UInt8.ofNat (d + 128) :: continued (e :: ds) := rfl

theorem base128_of_lt {n : ℕ} (h : n < 128) : base128 n = [UInt8.ofNat n] := by
  rw [base128, digits_of_lt h]
  rfl

/-- The first byte of a number that needs several has its mark. -/
theorem base128_of_le {n : ℕ} (h : 128 ≤ n) : ∃ b bs, base128 n = b :: bs ∧ 128 ≤ b.toNat := by
  obtain ⟨d, e, ds, hds⟩ := digits_of_base_le (by decide : 1 < 128) h
  have hlt : d < 128 := lt_of_mem_digits (by decide) (n := n) (by rw [hds]; simp)
  refine ⟨UInt8.ofNat (d + 128), continued (e :: ds), by rw [base128, hds]; rfl, ?_⟩
  rw [UInt8.toNat_ofNat']
  omega

end PamCertauth.BigEndian
