import PamCertauth.FallibleComputations

/-!
# Readers that consume their input

A reader takes one item off the front of a list of symbols and returns the
remaining symbols. Bundling it with a proof that it consumes something makes
its iterations total: `readAll` reads items until the input is empty, and
`readUntil` reads items until one of them is accepted. Both stop at the first
failure, and `readUntil` never looks at the input behind the accepted item.
-/

namespace PamCertauth

variable {β ε α ρ : Type}

/-- A reader of items of type `α` from lists of symbols, with failures in `ε`. -/
structure ConsumingReader (β ε α : Type) where
  /-- One item and the symbols behind it. -/
  read : List β → Except ε (α × List β)
  /-- A successful read makes the input strictly shorter. -/
  consumes : ∀ {input item rest}, read input = .ok (item, rest) → rest.length < input.length

namespace ConsumingReader

/-- Read items until the input is empty. -/
def readAll (p : ConsumingReader β ε α) (input : List β) : Except ε (List α) :=
  match input with
  | [] => .ok []
  | b :: bs =>
    match _hread : p.read (b :: bs) with
    | .error e => .error e
    | .ok (item, rest) => (item :: ·) <$> readAll p rest
termination_by input.length
decreasing_by exact p.consumes ‹_›

/-- Read items until `accept` answers for one of them. An input without such an
item gives `none`. -/
def readUntil (p : ConsumingReader β ε α) (accept : α → Option ρ) (input : List β) :
    Except ε (Option ρ) :=
  match input with
  | [] => .ok none
  | b :: bs =>
    match _hread : p.read (b :: bs) with
    | .error e => .error e
    | .ok (item, rest) =>
      match accept item with
      | some r => .ok (some r)
      | none => readUntil p accept rest
termination_by input.length
decreasing_by exact p.consumes ‹_›

section

variable {p : ConsumingReader β ε α} {accept : α → Option ρ} {input rest : List β} {item : α}

theorem ne_nil_of_read (h : p.read input = .ok (item, rest)) : input ≠ [] := by
  rintro rfl
  exact Nat.not_lt_zero _ (p.consumes h)

theorem readAll_nil : p.readAll [] = .ok [] := by
  rw [readAll]

theorem readAll_of_read (h : p.read input = .ok (item, rest)) :
    p.readAll input = (item :: ·) <$> p.readAll rest := by
  obtain ⟨b, bs, rfl⟩ := List.exists_cons_of_ne_nil (ne_nil_of_read h)
  rw [readAll]
  split
  · next hread => rw [h] at hread; cases hread
  · next hread => rw [h] at hread; cases hread; rfl

theorem readUntil_nil : p.readUntil accept [] = .ok none := by
  rw [readUntil]

theorem readUntil_of_error {e : ε} (hne : input ≠ []) (h : p.read input = .error e) :
    p.readUntil accept input = .error e := by
  obtain ⟨b, bs, rfl⟩ := List.exists_cons_of_ne_nil hne
  rw [readUntil]
  split
  · next hread => rw [h] at hread; cases hread; rfl
  · next hread => rw [h] at hread; cases hread

theorem readUntil_of_some {r : ρ} (h : p.read input = .ok (item, rest))
    (haccept : accept item = some r) : p.readUntil accept input = .ok (some r) := by
  obtain ⟨b, bs, rfl⟩ := List.exists_cons_of_ne_nil (ne_nil_of_read h)
  rw [readUntil]
  split
  · next hread => rw [h] at hread; cases hread
  · next hread => rw [h] at hread; cases hread; rw [haccept]

theorem readUntil_of_none (h : p.read input = .ok (item, rest)) (haccept : accept item = none) :
    p.readUntil accept input = p.readUntil accept rest := by
  obtain ⟨b, bs, rfl⟩ := List.exists_cons_of_ne_nil (ne_nil_of_read h)
  rw [readUntil]
  split
  · next hread => rw [h] at hread; cases hread
  · next hread => rw [h] at hread; cases hread; rw [haccept]

end

section

variable {γ : Type} {p : ConsumingReader β ε α} {accept : α → Option ρ} {encode : γ → List β}
  {item : γ → α} {xs : List γ}

theorem readAll_flatMap (h : ∀ x ∈ xs, ∀ rest, p.read (encode x ++ rest) = .ok (item x, rest)) :
    p.readAll (xs.flatMap encode) = .ok (xs.map item) := by
  induction xs with
  | nil => exact readAll_nil
  | cons x xs ih =>
    have hread := h x List.mem_cons_self (xs.flatMap encode)
    rw [List.flatMap_cons, readAll_of_read hread, ih fun y hy => h y (List.mem_cons_of_mem x hy)]
    rfl

/-- Items that are not accepted are skipped. -/
theorem readUntil_append (h : ∀ x ∈ xs, ∀ rest, ∃ a, p.read (encode x ++ rest) = .ok (a, rest) ∧
    accept a = none) (rest : List β) :
    p.readUntil accept (xs.flatMap encode ++ rest) = p.readUntil accept rest := by
  induction xs with
  | nil => rfl
  | cons x xs ih =>
    obtain ⟨a, hread, haccept⟩ := h x List.mem_cons_self (xs.flatMap encode ++ rest)
    rw [List.flatMap_cons, List.append_assoc, readUntil_of_none hread haccept]
    exact ih fun y hy => h y (List.mem_cons_of_mem x hy)

theorem readUntil_flatMap (h : ∀ x ∈ xs, ∀ rest, p.read (encode x ++ rest) = .ok (item x, rest)) :
    p.readUntil accept (xs.flatMap encode) = .ok (xs.findSome? fun x => accept (item x)) := by
  induction xs with
  | nil => exact readUntil_nil
  | cons x xs ih =>
    have hread := h x List.mem_cons_self (xs.flatMap encode)
    rw [List.flatMap_cons]
    cases haccept : accept (item x) with
    | none =>
      rw [readUntil_of_none hread haccept, ih fun y hy => h y (List.mem_cons_of_mem x hy),
        List.findSome?_cons, haccept]
    | some r => rw [readUntil_of_some hread haccept, List.findSome?_cons, haccept]

end

end ConsumingReader
end PamCertauth
