import Mathlib.Data.List.Forall2

/-!
# Computations that may fail

Inversion rules for sequences of `Except` computations: what is known about the
parts when the whole succeeds. Loops over a list succeed exactly when every
iteration does, and a loop that collects results is described by `List.Forall₂`.
-/

namespace PamCertauth

/-- The ways a computation stops early: with an error value, or by a panic. -/
inductive Halt (ε : Type) where
  | error (e : ε)
  | panicked (message : String)
  deriving DecidableEq, Repr

/-- Translate the error value and let panics pass. -/
def Halt.map {ε ε' : Type} (f : ε → ε') : Halt ε → Halt ε'
  | error e => error (f e)
  | panicked message => panicked message

section

variable {ε α β : Type}

theorem bind_eq_ok_iff {x : Except ε α} {f : α → Except ε β} {b : β} :
    (x >>= f) = .ok b ↔ ∃ a, x = .ok a ∧ f a = .ok b := by
  cases x <;> simp [bind, Except.bind]

theorem seq_eq_ok_iff {x : Except ε Unit} {k : Except ε β} {b : β} :
    (do x; k) = .ok b ↔ x = .ok () ∧ k = .ok b := by
  cases x <;> simp [bind, Except.bind]

theorem map_eq_ok_iff {x : Except ε α} {f : α → β} {b : β} :
    f <$> x = .ok b ↔ ∃ a, x = .ok a ∧ f a = b := by
  cases x <;> simp [Functor.map, Except.map]

theorem mapError_eq_ok_iff {ε' : Type} {x : Except ε α} {f : ε → ε'} {a : α} :
    x.mapError f = .ok a ↔ x = .ok a := by
  cases x <;> simp [Except.mapError]

/-- A guard that raises an error and then continues. -/
theorem guard_bind_eq_ok_iff {p : Prop} [Decidable p] {e : ε} {k : Except ε β} {b : β} :
    (if p then .error e else k) = .ok b ↔ ¬ p ∧ k = .ok b := by
  split <;> simp [*]

theorem forM_eq_ok_iff {f : α → Except ε Unit} {xs : List α} :
    xs.forM f = .ok () ↔ ∀ x ∈ xs, f x = .ok () := by
  rw [List.forM_eq_forM]
  induction xs with
  | nil => simp [pure, Except.pure]
  | cons x xs ih =>
    rw [List.forM_cons, seq_eq_ok_iff, List.forall_mem_cons, ih]

theorem exists_ok_of_isOk {x : Except ε α} (h : x.isOk = true) : ∃ a, x = .ok a := by
  cases x with
  | error e => cases h
  | ok a => exact ⟨a, rfl⟩

theorem mapM_eq_ok_iff {f : α → Except ε β} {xs : List α} {ys : List β} :
    xs.mapM f = .ok ys ↔ List.Forall₂ (fun x y => f x = .ok y) xs ys := by
  induction xs generalizing ys with
  | nil => simp [pure, Except.pure, eq_comm]
  | cons x xs ih =>
    simp only [List.mapM_cons, bind_eq_ok_iff, ih, List.forall₂_cons_left_iff, pure, Except.pure,
      Except.ok.injEq]
    constructor
    · intro hparts
      obtain ⟨y, hy, ys', hys, rfl⟩ := hparts
      exact ⟨y, ys', hy, hys, rfl⟩
    · intro hparts
      obtain ⟨y, ys', hy, hys, rfl⟩ := hparts
      exact ⟨y, hy, ys', hys, rfl⟩

theorem exists_mapM_eq_ok {f : α → Except ε β} {xs : List α}
    (h : ∀ x ∈ xs, ∃ y, f x = .ok y) : ∃ ys, xs.mapM f = .ok ys := by
  induction xs with
  | nil => exact ⟨[], rfl⟩
  | cons x xs ih =>
    obtain ⟨y, hy⟩ := h x List.mem_cons_self
    obtain ⟨ys, hys⟩ := ih fun x' hx' => h x' (List.mem_cons_of_mem x hx')
    refine ⟨y :: ys, ?_⟩
    rw [mapM_eq_ok_iff] at hys ⊢
    exact List.Forall₂.cons hy hys

/-- What a loop collects comes from elements of its list. -/
theorem exists_mem_of_mapM_eq_ok {f : α → Except ε β} {xs : List α} {ys : List β}
    (h : xs.mapM f = .ok ys) {y : β} (hy : y ∈ ys) : ∃ x ∈ xs, f x = .ok y := by
  rw [mapM_eq_ok_iff] at h
  induction h with
  | nil => cases hy
  | cons hxy _ ih =>
    rcases List.mem_cons.mp hy with rfl | hmem
    · exact ⟨_, List.mem_cons_self, hxy⟩
    · obtain ⟨x, hx, hfx⟩ := ih hmem
      exact ⟨x, List.mem_cons_of_mem _ hx, hfx⟩

/-- Every element of the list contributes to what a loop collects. -/
theorem exists_ok_of_mapM_eq_ok {f : α → Except ε β} {xs : List α} {ys : List β}
    (h : xs.mapM f = .ok ys) {x : α} (hx : x ∈ xs) : ∃ y ∈ ys, f x = .ok y := by
  rw [mapM_eq_ok_iff] at h
  induction h with
  | nil => cases hx
  | cons hxy _ ih =>
    rcases List.mem_cons.mp hx with rfl | hmem
    · exact ⟨_, List.mem_cons_self, hxy⟩
    · obtain ⟨y, hy, hfy⟩ := ih hmem
      exact ⟨y, List.mem_cons_of_mem _ hy, hfy⟩

/-- A sequence fails with an error only if one of its parts does. -/
theorem bind_ne_error {x : Except ε α} {f : α → Except ε β} {e : ε} (hx : x ≠ .error e)
    (hf : ∀ a, f a ≠ .error e) : (x >>= f) ≠ .error e := by
  cases x with
  | error e' => exact fun h => hx (congrArg Except.error (Except.error.inj h))
  | ok a => exact hf a

theorem mapM_ne_error {f : α → Except ε β} {e : ε} (hf : ∀ x, f x ≠ .error e) (xs : List α) :
    xs.mapM f ≠ .error e := by
  induction xs with
  | nil => simp [pure, Except.pure]
  | cons x xs ih =>
    rw [List.mapM_cons]
    exact bind_ne_error (hf x) fun y => bind_ne_error ih fun ys => by simp [pure, Except.pure]

end
end PamCertauth
