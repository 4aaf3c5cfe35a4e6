import Mathlib.Data.List.TakeWhile
import Mathlib.Data.Nat.Digits.Lemmas
import Mathlib.Tactic.IntervalCases
import Mathlib.Tactic.Linarith

/-!
# Numbers as text

A number of a bounded integer type as a text in some radix, and the reader of such texts:
an optional sign, then digits, with an error as soon as the value leaves the bounds of the
type. A reader of a negative number counts down, since the type may have one number more
below zero than above. The second part splits a text at a delimiter into a bounded number
of fields.
-/

namespace PamCertauth.RadixNumerals

inductive NumeralError where
  | empty
  | invalidDigit
  | posOverflow
  | negOverflow
  deriving DecidableEq, Repr

/-- The value of a digit below the radix. Letters count on from ten, in either case. -/
def toDigit (radix : ℕ) (c : Char) : Option ℕ :=
  let value :=
    if '0' ≤ c ∧ c ≤ '9' then some (c.toNat - 48)
    else if 'a' ≤ c ∧ c ≤ 'z' then some (c.toNat - 87)
    else if 'A' ≤ c ∧ c ≤ 'Z' then some (c.toNat - 55)
    else none
  value.filter (· < radix)

/-- A magnitude with its sign. -/
def signed (negative : Bool) (n : ℕ) : ℤ := if negative then -n else n

section

variable (radix : ℕ) (lo hi : ℤ)

/-- Read digits behind a value; each step stays within the bounds. -/
def readDigits (negative : Bool) : ℤ → List Char → Except NumeralError ℤ
  | acc, [] => .ok acc
  | acc, c :: cs =>
    match toDigit radix c with
    | none => .error .invalidDigit
    | some d =>
      let shifted := acc * radix
      let next := shifted + signed negative d
      if lo ≤ shifted ∧ shifted ≤ hi ∧ lo ≤ next ∧ next ≤ hi then readDigits negative next cs
      else .error (if negative then .negOverflow else .posOverflow)

/-- Read a number between two bounds. A minus sign is one only for a type with negative
numbers. -/
def fromStrRadix : List Char → Except NumeralError ℤ
  | [] => .error .empty
  | ['+'] => .error .invalidDigit
  | ['-'] => .error .invalidDigit
  | '+' :: digits => readDigits radix lo hi false 0 digits
  | '-' :: digits =>
    if lo < 0 then readDigits radix lo hi true 0 digits
    else readDigits radix lo hi false 0 ('-' :: digits)
  | digits => readDigits radix lo hi false 0 digits

end

/-- A number as its digits, behind a minus sign if it is negative. -/
def numeral (radix : ℕ) (i : ℤ) : List Char :=
  if i < 0 then '-' :: Nat.toDigits radix i.natAbs else Nat.toDigits radix i.natAbs

theorem toDigit_digitChar {radix d : ℕ} (hradix : radix ≤ 16) (h : d < radix) :
    toDigit radix (Nat.digitChar d) = some d := by
  have hd : d < 16 := by omega
  have hvalue : toDigit 16 (Nat.digitChar d) = some d := by
    interval_cases d <;> rfl
  rw [toDigit, Option.filter_eq_some_iff] at hvalue ⊢
  exact ⟨hvalue.1, by simpa using h⟩

theorem exists_digitChar_of_mem_toDigits {radix : ℕ} (hradix : 1 < radix) {n : ℕ} {c : Char}
    (h : c ∈ Nat.toDigits radix n) : ∃ d < radix, c = Nat.digitChar d := by
  induction n using Nat.strong_induction_on with
  | h n ih =>
    by_cases hn : n < radix
    · rw [Nat.toDigits_of_lt_base hn, List.mem_singleton] at h
      exact ⟨n, hn, h⟩
    · rw [Nat.toDigits_of_base_le hradix (by omega), List.mem_append, List.mem_singleton] at h
      rcases h with h | h
      · exact ih (n / radix) (Nat.div_lt_self (by omega) hradix) h
      · exact ⟨n % radix, Nat.mod_lt n (by omega), h⟩

/-- What holds of the sixteen digits and of the minus sign holds throughout a numeral. -/
theorem forall_mem_numeral {P : Char → Prop} (hsign : P '-') (hdigit : ∀ d < 16, P (Nat.digitChar d))
    {radix : ℕ} (hradix : 1 < radix) (hle : radix ≤ 16) (i : ℤ) : ∀ c ∈ numeral radix i, P c := by
  have hdigits : ∀ c ∈ Nat.toDigits radix i.natAbs, P c := by
    intro c hc
    obtain ⟨d, hd, rfl⟩ := exists_digitChar_of_mem_toDigits hradix hc
    exact hdigit d (by omega)
  intro c hc
  unfold numeral at hc
  split at hc
  · rcases List.mem_cons.mp hc with rfl | hc
    · exact hsign
    · exact hdigits c hc
  · exact hdigits c hc

theorem numeral_ne_nil (radix : ℕ) (i : ℤ) : numeral radix i ≠ [] := by
  unfold numeral
  split
  · exact List.cons_ne_nil _ _
  · exact Nat.toDigits_ne_nil

section

variable {radix : ℕ} {lo hi : ℤ}

theorem readDigits_append (negative : Bool) (acc : ℤ) (xs ys : List Char) :
    readDigits radix lo hi negative acc (xs ++ ys) =
      readDigits radix lo hi negative acc xs >>= fun value =>
        readDigits radix lo hi negative value ys := by
  induction xs generalizing acc with
  | nil => rfl
  | cons c xs ih =>
    simp only [List.cons_append, readDigits]
    split
    · rfl
    · split
      · exact ih _
      · rfl

theorem readDigits_singleton {negative : Bool} {acc : ℤ} {c : Char} {d : ℕ}
    (hdigit : toDigit radix c = some d) (hshifted : lo ≤ acc * radix ∧ acc * radix ≤ hi)
    (hnext : lo ≤ acc * radix + signed negative d ∧ acc * radix + signed negative d ≤ hi) :
    readDigits radix lo hi negative acc [c] = .ok (acc * radix + signed negative d) := by
  simp only [readDigits, hdigit]
  rw [if_pos ⟨hshifted.1, hshifted.2, hnext.1, hnext.2⟩]

theorem signed_div_add_mod (negative : Bool) (radix n : ℕ) :
    signed negative (n / radix) * radix + signed negative (n % radix) = signed negative n := by
  have h : ((n / radix : ℕ) : ℤ) * radix + ((n % radix : ℕ) : ℤ) = n := by
    exact_mod_cast Nat.div_add_mod' n radix
  cases negative with
  | false => simpa [signed] using h
  | true =>
    simp only [signed, if_true]
    linarith

/-- A smaller magnitude of the same sign is within the same bounds. -/
theorem signed_bounds {negative : Bool} {m n : ℕ} (hmn : m ≤ n) (hlo : lo ≤ 0) (hhi : 0 ≤ hi)
    (h : lo ≤ signed negative n ∧ signed negative n ≤ hi) :
    lo ≤ signed negative m ∧ signed negative m ≤ hi := by
  cases negative with
  | false =>
    simp only [signed, Bool.false_eq_true, if_false] at h ⊢
    omega
  | true =>
    simp only [signed, if_true] at h ⊢
    omega

/-- The digits of a magnitude are read as the number with the sign, up to the last number
within the bounds. -/
theorem readDigits_toDigits {negative : Bool} (hradix : 1 < radix) (hle : radix ≤ 16) (hlo : lo ≤ 0)
    (hhi : 0 ≤ hi) {n : ℕ} (h : lo ≤ signed negative n ∧ signed negative n ≤ hi) :
    readDigits radix lo hi negative 0 (Nat.toDigits radix n) = .ok (signed negative n) := by
  induction n using Nat.strong_induction_on with
  | h n ih =>
    by_cases hn : n < radix
    · rw [Nat.toDigits_of_lt_base hn, readDigits_singleton (toDigit_digitChar hle hn)]
      · rw [zero_mul, zero_add]
      · rw [zero_mul]
        exact ⟨hlo, hhi⟩
      · rwa [zero_mul, zero_add]
    · -- The leading digits are a smaller number; the last one is added to it.
      have hleading : n / radix < n := Nat.div_lt_self (by omega) hradix
      have hshifted : signed negative (n / radix) * radix = signed negative (n / radix * radix) := by
        cases negative <;> simp [signed]
      rw [Nat.toDigits_of_base_le hradix (by omega), readDigits_append,
        ih (n / radix) hleading (signed_bounds hleading.le hlo hhi h)]
      change readDigits radix lo hi negative (signed negative (n / radix)) _ = _
      rw [readDigits_singleton (toDigit_digitChar hle (Nat.mod_lt n (by omega))),
        signed_div_add_mod]
      · rw [hshifted]
        exact signed_bounds (Nat.div_mul_le_self n radix) hlo hhi h
      · rwa [signed_div_add_mod]

theorem fromStrRadix_of_digit {c : Char} (hplus : c ≠ '+') (hminus : c ≠ '-') (cs : List Char) :
    fromStrRadix radix lo hi (c :: cs) = readDigits radix lo hi false 0 (c :: cs) := by
  unfold fromStrRadix
  split <;> simp_all

theorem fromStrRadix_minus {cs : List Char} (hne : cs ≠ []) (hlo : lo < 0) :
    fromStrRadix radix lo hi ('-' :: cs) = readDigits radix lo hi true 0 cs := by
  unfold fromStrRadix
  split <;> simp_all

theorem fromStrRadix_numeral (hradix : 1 < radix) (hle : radix ≤ 16) {i : ℤ} (hlo : lo ≤ 0)
    (hhi : 0 ≤ hi) (h : lo ≤ i ∧ i ≤ hi) :
    fromStrRadix radix lo hi (numeral radix i) = .ok i := by
  by_cases hnegative : i < 0
  · have hsigned : signed true i.natAbs = i := by
      simp only [signed, if_true]
      omega
    have hread : readDigits radix lo hi true 0 (Nat.toDigits radix i.natAbs) =
        .ok (signed true i.natAbs) :=
      readDigits_toDigits hradix hle hlo hhi (by rwa [hsigned])
    rw [numeral, if_pos hnegative, fromStrRadix_minus Nat.toDigits_ne_nil (by omega), hread, hsigned]
  · have hsigned : signed false i.natAbs = i := by
      simp only [signed, Bool.false_eq_true, if_false]
      omega
    have hread : readDigits radix lo hi false 0 (Nat.toDigits radix i.natAbs) =
        .ok (signed false i.natAbs) :=
      readDigits_toDigits hradix hle hlo hhi (by rwa [hsigned])
    rw [numeral, if_neg hnegative]
    rw [hsigned] at hread
    -- The first character is a digit, so it is not taken for a sign.
    cases hdigits : Nat.toDigits radix i.natAbs with
    | nil => exact absurd hdigits Nat.toDigits_ne_nil
    | cons c cs =>
      have hmem : c ∈ Nat.toDigits radix i.natAbs := hdigits ▸ List.mem_cons_self
      obtain ⟨d, hd, rfl⟩ := exists_digitChar_of_mem_toDigits hradix hmem
      have hsign : ∀ d < 16, Nat.digitChar d ≠ '+' ∧ Nat.digitChar d ≠ '-' := by decide
      obtain ⟨hplus, hminus⟩ := hsign d (by omega)
      rw [fromStrRadix_of_digit hplus hminus, ← hdigits, hread]

end

section

variable {α : Type} [DecidableEq α]

/-- Split at a delimiter into at most so many parts; the last part is all the rest. -/
def splitN (delim : α) : ℕ → List α → List (List α)
  | 0, _ => []
  | 1, xs => [xs]
  | n + 2, xs =>
    match xs.dropWhile (· ≠ delim) with
    | [] => [xs]
    | _ :: rest => xs.takeWhile (· ≠ delim) :: splitN delim (n + 1) rest

theorem splitN_of_notMem {delim : α} {xs : List α} (h : delim ∉ xs) (n : ℕ) :
    splitN delim (n + 1) xs = [xs] := by
  cases n with
  | zero => rfl
  | succ n =>
    have hdrop : xs.dropWhile (· ≠ delim) = [] := by
      rw [List.dropWhile_eq_nil_iff]
      intro x hx
      have hne : x ≠ delim := fun heq => h (heq ▸ hx)
      simpa using hne
    rw [splitN, hdrop]

theorem splitN_append_cons {delim : α} {xs : List α} (h : delim ∉ xs) (rest : List α) (n : ℕ) :
    splitN delim (n + 2) (xs ++ delim :: rest) = xs :: splitN delim (n + 1) rest := by
  have hall : ∀ x ∈ xs, decide (x ≠ delim) = true := by
    intro x hx
    have hne : x ≠ delim := fun heq => h (heq ▸ hx)
    simpa using hne
  have hdrop : (xs ++ delim :: rest).dropWhile (· ≠ delim) = delim :: rest := by
    rw [List.dropWhile_append_of_pos hall]
    simp
  have htake : (xs ++ delim :: rest).takeWhile (· ≠ delim) = xs := by
    rw [List.takeWhile_append_of_pos hall]
    simp
  rw [splitN, hdrop]
  simp only [htake]

omit [DecidableEq α] in
theorem mem_intercalate {delim x : α} {fields : List (List α)}
    (h : x ∈ [delim].intercalate fields) : x = delim ∨ ∃ f ∈ fields, x ∈ f := by
  induction fields with
  | nil => simp at h
  | cons f fields ih =>
    cases fields with
    | nil => exact .inr ⟨f, List.mem_cons_self, by simpa using h⟩
    | cons g fields =>
      rw [List.intercalate_cons_cons, List.mem_append, List.mem_append, List.mem_singleton] at h
      rcases h with (h | h) | h
      · exact .inr ⟨f, List.mem_cons_self, h⟩
      · exact .inl h
      · rcases ih h with h | ⟨f', hf', hx⟩
        · exact .inl h
        · exact .inr ⟨f', List.mem_cons_of_mem _ hf', hx⟩

/-- Fields that lack the delimiter are found again if there are not too many. -/
theorem splitN_intercalate {delim : α} {fields : List (List α)} (hdelim : ∀ f ∈ fields, delim ∉ f)
    (hne : fields ≠ []) {n : ℕ} (hn : fields.length ≤ n) :
    splitN delim n ([delim].intercalate fields) = fields := by
  induction fields generalizing n with
  | nil => exact absurd rfl hne
  | cons f fields ih =>
    obtain ⟨n, rfl⟩ : ∃ k, n = k + 1 := ⟨n - 1, by simp at hn; omega⟩
    have hf := hdelim f List.mem_cons_self
    cases fields with
    | nil => simpa using splitN_of_notMem hf n
    | cons g fields =>
      obtain ⟨n, rfl⟩ : ∃ k, n = k + 1 := ⟨n - 1, by simp at hn; omega⟩
      have htail := ih (fun f hf => hdelim f (List.mem_cons_of_mem _ hf)) (List.cons_ne_nil _ _)
        (n := n + 1) (by simpa using hn)
      rw [List.intercalate_cons_cons, List.append_assoc, List.singleton_append,
        splitN_append_cons hf, htail]

end

end PamCertauth.RadixNumerals
