import PamCertauth.FallibleComputations

/-!
# Checks that report a fault

A check stops at the first fault it comes to, and which one that is depends on the order
of its steps. What it has to get right does not: it reports only faults that are there,
and it passes only what has none. `Finds` says so, with the faults given on their own,
and the rules carry it through the ways checks are put together.
-/

namespace PamCertauth.FaultFinding

variable {ε ε' α β : Type}

/-- Every reported fault is one, and what passes has none. -/
structure Finds (x : Except ε α) (Fault : ε → Prop) : Prop where
  reported : ∀ {e}, x = .error e → Fault e
  passed : ∀ {a}, x = .ok a → ∀ e, ¬ Fault e

namespace Finds

variable {x : Except ε α} {Fault Fault' : ε → Prop}

theorem passes_iff (h : Finds x Fault) : (∃ a, x = .ok a) ↔ ∀ e, ¬ Fault e := by
  constructor
  · intro hok
    obtain ⟨a, ha⟩ := hok
    exact h.passed ha
  · intro hnone
    cases hx : x with
    | error e => exact absurd (h.reported hx) (hnone e)
    | ok a => exact ⟨a, rfl⟩

theorem congr (h : Finds x Fault) (hiff : ∀ e, Fault e ↔ Fault' e) : Finds x Fault' := by
  refine ⟨fun hx => (hiff _).mp (h.reported hx), ?_⟩
  intro a ha e he
  exact h.passed ha e ((hiff e).mpr he)

/-- A step without a check. -/
theorem pass (a : α) : Finds (.ok a : Except ε α) fun _ => False := by
  refine ⟨?_, fun _ _ h => h⟩
  intro e h
  cases h

/-- A check that has come to a fault. -/
theorem fail {e : ε} (h : Fault e) : Finds (.error e : Except ε α) Fault := by
  constructor
  · intro e' he'
    cases he'
    exact h
  · intro a ha
    cases ha

/-- A check of one condition. -/
theorem reject {p : Prop} [Decidable p] (e : ε) (a : α) :
    Finds (if p then .error e else .ok a) fun e' => p ∧ e' = e := by
  by_cases hp : p
  · rw [if_pos hp]
    exact fail ⟨hp, rfl⟩
  · rw [if_neg hp]
    exact (pass a).congr fun e' => by simp [hp]

theorem require {p : Prop} [Decidable p] (e : ε) (a : α) :
    Finds (if p then .ok a else .error e) fun e' => ¬ p ∧ e' = e := by
  simpa only [ite_not] using reject (p := ¬ p) e a

/-- Checks that are made under a condition only. -/
theorem checkIf {p : Prop} [Decidable p] (h : Finds x Fault) (a : α) :
    Finds (if p then x else .ok a) fun e => p ∧ Fault e := by
  by_cases hp : p
  · rw [if_pos hp]
    exact h.congr fun e => (and_iff_right hp).symm
  · rw [if_neg hp]
    exact (pass a).congr fun e => by simp [hp]

/-- A check in front of others, which may rely on it. -/
theorem guard {p : Prop} [Decidable p] {e : ε} (h : ¬ p → Finds x Fault) :
    Finds (if p then .error e else x) fun e' => p ∧ e' = e ∨ Fault e' := by
  by_cases hp : p
  · rw [if_pos hp]
    exact fail (.inl ⟨hp, rfl⟩)
  · rw [if_neg hp]
    refine ⟨fun hx => .inr ((h hp).reported hx), ?_⟩
    intro a ha e' he'
    rcases he' with he' | he'
    · exact hp he'.1
    · exact (h hp).passed ha e' he'

/-- Two steps, the second with the result of the first. Its faults do not depend on that
result. -/
theorem bind {f : α → Except ε β} (hx : Finds x Fault)
    (hf : ∀ a, x = .ok a → Finds (f a) Fault') :
    Finds (x >>= f) fun e => Fault e ∨ Fault' e := by
  cases hxa : x with
  | error e => exact fail (.inl (hx.reported hxa))
  | ok a =>
    refine ⟨fun h => .inr ((hf a hxa).reported h), ?_⟩
    intro b hb e he
    rcases he with he | he
    · exact hx.passed hxa e he
    · exact (hf a hxa).passed hb e he

theorem mapError {g : ε → ε'} (h : Finds x Fault) :
    Finds (x.mapError g) fun e' => ∃ e, Fault e ∧ e' = g e := by
  cases hx : x with
  | error e => exact fail ⟨e, h.reported hx, rfl⟩
  | ok a =>
    refine (pass a).congr fun e' => ⟨False.elim, fun he' => ?_⟩
    obtain ⟨e, he, -⟩ := he'
    exact h.passed hx e he

/-- A check of every element of a list. -/
theorem mapM {f : α → Except ε β} {Fault : α → ε → Prop} (xs : List α)
    (h : ∀ x, Finds (f x) (Fault x)) : Finds (xs.mapM f) fun e => ∃ x ∈ xs, Fault x e := by
  induction xs with
  | nil => exact (pass _).congr fun e => by simp
  | cons x xs ih =>
    rw [List.mapM_cons]
    refine (bind (h x) fun y _ => bind ih fun ys _ => pass (y :: ys)).congr fun e => ?_
    simp only [or_false, List.exists_mem_cons_iff]

theorem forM {f : α → Except ε Unit} {Fault : α → ε → Prop} (xs : List α)
    (h : ∀ x, Finds (f x) (Fault x)) : Finds (xs.forM f) fun e => ∃ x ∈ xs, Fault x e := by
  rw [List.forM_eq_forM]
  induction xs with
  | nil => exact (pass _).congr fun e => by simp
  | cons x xs ih =>
    rw [List.forM_cons]
    exact (bind (h x) fun _ _ => ih).congr fun e => by simp only [List.exists_mem_cons_iff]

end Finds
end PamCertauth.FaultFinding
