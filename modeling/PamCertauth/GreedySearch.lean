import Mathlib.Data.List.Chain
import Mathlib.Data.List.Infix

/-!
# Greedy searches

A search that knows at most one successor for each node and never goes back. At each node
it first looks for a goal and goes on to the successor only if there is none; a budget
bounds how often it goes on. The outcome is a fact about the `trail`, the nodes in the
order in which a walk along the successors visits them, so it needs no assumption about
cycles among the successors.
-/

namespace PamCertauth.GreedySearch

variable {α β : Type}

/-- The first nodes of the walk, fewer than asked for if a node has no successor. -/
def trail (next : α → Option α) : ℕ → α → List α
  | 0, _ => []
  | n + 1, a =>
    match next a with
    | none => [a]
    | some b => a :: trail next n b

/-- How a search ends, with the nodes it has collected. -/
inductive Outcome (α β : Type) where
  | reached (path : List α) (goal : β)
  | stuck (path : List α)
  | exhausted (path : List α)

/-- Search from a node, behind the nodes that were collected before. -/
def search (next : α → Option α) (goal : α → Option β) : ℕ → List α → α → Outcome α β
  | budget, before, a =>
    match goal a with
    | some b => .reached (before ++ [a]) b
    | none =>
      match next a with
      | none => .stuck (before ++ [a])
      | some c =>
        match budget with
        | 0 => .exhausted (before ++ [a] ++ [c])
        | budget + 1 => search next goal budget (before ++ [a]) c

section

variable {next : α → Option α}

theorem trail_of_none {a : α} (h : next a = none) (n : ℕ) : trail next (n + 1) a = [a] := by
  rw [trail, h]

theorem trail_of_some {a b : α} (h : next a = some b) (n : ℕ) :
    trail next (n + 1) a = a :: trail next n b := by
  rw [trail, h]

theorem trail_one (a : α) : trail next 1 a = [a] := by
  cases h : next a with
  | none => exact trail_of_none h 0
  | some b => exact trail_of_some h 0

theorem head?_trail (n : ℕ) (a : α) : (trail next (n + 1) a).head? = some a := by
  cases h : next a with
  | none => rw [trail_of_none h]; rfl
  | some b => rw [trail_of_some h]; rfl

theorem take_trail {k n : ℕ} (h : k ≤ n) (a : α) : (trail next n a).take k = trail next k a := by
  induction k generalizing n a with
  | zero => rw [List.take_zero]; rfl
  | succ k ih =>
    obtain ⟨n, rfl⟩ : ∃ m, n = m + 1 := ⟨n - 1, by omega⟩
    cases hnext : next a with
    | none => rw [trail_of_none hnext, trail_of_none hnext]; simp
    | some b =>
      rw [trail_of_some hnext, trail_of_some hnext, List.take_succ_cons, ih (by omega)]

end

variable {next : α → Option α} {goal : α → Option β}

theorem search_of_goal {a : α} {b : β} (h : goal a = some b) (budget : ℕ) (before : List α) :
    search next goal budget before a = .reached (before ++ [a]) b := by
  rw [search, h]

theorem search_of_stuck {a : α} (hgoal : goal a = none) (hnext : next a = none) (budget : ℕ)
    (before : List α) : search next goal budget before a = .stuck (before ++ [a]) := by
  rw [search, hgoal, hnext]

theorem search_zero {a c : α} (hgoal : goal a = none) (hnext : next a = some c)
    (before : List α) : search next goal 0 before a = .exhausted (before ++ [a] ++ [c]) := by
  rw [search, hgoal, hnext]

theorem search_succ {a c : α} (hgoal : goal a = none) (hnext : next a = some c) (budget : ℕ)
    (before : List α) :
    search next goal (budget + 1) before a = search next goal budget (before ++ [a]) c := by
  rw [search, hgoal, hnext]

/-- The walk has its first goal `b` at its node number `k`, counted from 0. -/
structure FirstGoal (next : α → Option α) (goal : α → Option β) (a : α) (k : ℕ) (b : β) :
    Prop where
  length_eq : (trail next (k + 1) a).length = k + 1
  before_none : ∀ c ∈ trail next k a, goal c = none
  last_goal : ∃ c, (trail next (k + 1) a).getLast? = some c ∧ goal c = some b

theorem firstGoal_zero {a : α} {b : β} : FirstGoal next goal a 0 b ↔ goal a = some b := by
  constructor
  · intro h
    obtain ⟨c, hc, hb⟩ := h.last_goal
    rw [trail_one] at hc
    cases hc
    exact hb
  · intro h
    have hempty : ∀ c ∈ trail next 0 a, goal c = none := fun c hc => absurd hc List.not_mem_nil
    exact ⟨by rw [trail_one]; rfl, hempty, a, by rw [trail_one]; rfl, h⟩

theorem firstGoal_succ {a : α} {k : ℕ} {b : β} :
    FirstGoal next goal a (k + 1) b ↔
      goal a = none ∧ ∃ c, next a = some c ∧ FirstGoal next goal c k b := by
  cases hnext : next a with
  | none =>
    simp only [reduceCtorEq, false_and, exists_false, and_false, iff_false]
    intro h
    have hlen := h.length_eq
    rw [trail_of_none hnext] at hlen
    simp at hlen
  | some c =>
    have hlast : (trail next (k + 1 + 1) a).getLast? = (trail next (k + 1) c).getLast? := by
      rw [trail_of_some hnext, List.getLast?_cons_of_ne_nil]
      intro hnil
      have hhead : (trail next (k + 1) c).head? = some c := head?_trail k c
      rw [hnil] at hhead
      cases hhead
    constructor
    · intro h
      have hlen := h.length_eq
      have hnone := h.before_none
      rw [trail_of_some hnext] at hlen hnone
      rw [List.length_cons] at hlen
      refine ⟨hnone a (by simp), c, rfl, by omega, fun x hx => hnone x (by simp [hx]), ?_⟩
      rw [← hlast]
      exact h.last_goal
    · rintro ⟨hgoal, _, ⟨⟩, h⟩
      refine ⟨by rw [trail_of_some hnext, List.length_cons, h.length_eq], ?_, ?_⟩
      · rw [trail_of_some hnext]
        intro x hx
        rcases List.mem_cons.mp hx with rfl | hx
        · exact hgoal
        · exact h.before_none x hx
      · rw [hlast]
        exact h.last_goal

theorem firstGoal_of_goal {a : α} {k : ℕ} {b b' : β} (h : goal a = some b') :
    FirstGoal next goal a k b ↔ k = 0 ∧ b = b' := by
  cases k with
  | zero =>
    rw [firstGoal_zero, h]
    simp [eq_comm]
  | succ k => simp [firstGoal_succ, h]

theorem firstGoal_of_none {a : α} {k : ℕ} {b : β} (h : goal a = none) :
    FirstGoal next goal a k b ↔
      ∃ c j, next a = some c ∧ k = j + 1 ∧ FirstGoal next goal c j b := by
  cases k with
  | zero => simp [firstGoal_zero, h]
  | succ k => simp [firstGoal_succ, h]

/-- A goal is reached exactly if the walk has its first goal within the budget. -/
theorem search_eq_reached_iff {budget : ℕ} {before path : List α} {a : α} {b : β} :
    search next goal budget before a = .reached path b ↔
      ∃ k ≤ budget, FirstGoal next goal a k b ∧ path = before ++ trail next (k + 1) a := by
  cases hgoal : goal a with
  | some b' =>
    simp only [search_of_goal hgoal, firstGoal_of_goal hgoal, Outcome.reached.injEq]
    constructor
    · rintro ⟨rfl, rfl⟩
      exact ⟨0, Nat.zero_le budget, ⟨rfl, rfl⟩, by rw [trail_one]⟩
    · rintro ⟨k, -, ⟨rfl, rfl⟩, rfl⟩
      rw [trail_one]
      exact ⟨rfl, rfl⟩
  | none =>
    simp only [firstGoal_of_none hgoal]
    cases hnext : next a with
    | none => simp [search_of_stuck hgoal hnext]
    | some c =>
      cases budget with
      | zero =>
        rw [search_zero hgoal hnext]
        simp only [reduceCtorEq, false_iff]
        rintro ⟨k, hk, ⟨_, j, -, rfl, -⟩, -⟩
        omega
      | succ budget =>
        rw [search_succ hgoal hnext, search_eq_reached_iff]
        constructor
        · rintro ⟨k, hk, hfirst, rfl⟩
          refine ⟨k + 1, by omega, ⟨c, k, rfl, rfl, hfirst⟩, ?_⟩
          rw [trail_of_some hnext, List.append_assoc, List.singleton_append]
        · rintro ⟨_, hk, ⟨_, k, ⟨⟩, rfl, hfirst⟩, rfl⟩
          refine ⟨k, by omega, hfirst, ?_⟩
          rw [trail_of_some hnext, List.append_assoc, List.singleton_append]

/-- The budget runs out exactly if the walk has more nodes than it admits and none of the
admitted ones has a goal. -/
theorem search_eq_exhausted_iff {budget : ℕ} {before path : List α} {a : α} :
    search next goal budget before a = .exhausted path ↔
      (trail next (budget + 2) a).length = budget + 2 ∧
        (∀ c ∈ trail next (budget + 1) a, goal c = none) ∧
        path = before ++ trail next (budget + 2) a := by
  have hself : ∀ n, a ∈ trail next (n + 1) a := fun n =>
    List.mem_of_mem_head? (head?_trail n a)
  cases hgoal : goal a with
  | some b =>
    rw [search_of_goal hgoal]
    simp only [reduceCtorEq, false_iff, not_and]
    intro _ hnone
    rw [hnone a (hself budget)] at hgoal
    cases hgoal
  | none =>
    cases hnext : next a with
    | none =>
      rw [search_of_stuck hgoal hnext, trail_of_none hnext]
      simp
    | some c =>
      rw [trail_of_some hnext, trail_of_some hnext]
      cases budget with
      | zero =>
        rw [search_zero hgoal hnext, trail_one]
        simp [trail, hgoal, eq_comm]
      | succ budget =>
        rw [search_succ hgoal hnext, search_eq_exhausted_iff]
        simp [hgoal]

/-- Whatever the successors are, a search collects at most two nodes more than its budget. -/
theorem search_cases (next : α → Option α) (goal : α → Option β) (budget : ℕ) (before : List α)
    (a : α) :
    (∃ path b, search next goal budget before a = .reached path b ∧
        path.length ≤ before.length + (budget + 1)) ∨
      (∃ path, search next goal budget before a = .stuck path ∧
        path.length ≤ before.length + (budget + 1)) ∨
      ∃ path, search next goal budget before a = .exhausted path ∧
        path.length = before.length + (budget + 2) := by
  induction budget generalizing before a with
  | zero =>
    cases hgoal : goal a with
    | some b => exact .inl ⟨_, b, search_of_goal hgoal 0 before, by simp⟩
    | none =>
      cases hnext : next a with
      | none => exact .inr (.inl ⟨_, search_of_stuck hgoal hnext 0 before, by simp⟩)
      | some c => exact .inr (.inr ⟨_, search_zero hgoal hnext before, by simp⟩)
  | succ budget ih =>
    cases hgoal : goal a with
    | some b => exact .inl ⟨_, b, search_of_goal hgoal _ before, by simp⟩
    | none =>
      cases hnext : next a with
      | none => exact .inr (.inl ⟨_, search_of_stuck hgoal hnext _ before, by simp⟩)
      | some c =>
        rw [search_succ hgoal hnext]
        have hlen : (before ++ [a]).length = before.length + 1 := by simp
        rcases ih (before ++ [a]) c with ⟨path, b, h, hle⟩ | ⟨path, h, hle⟩ | ⟨path, h, heq⟩
        · exact .inl ⟨path, b, h, by omega⟩
        · exact .inr (.inl ⟨path, h, by omega⟩)
        · exact .inr (.inr ⟨path, h, by omega⟩)

theorem getElem_behind {front rest : List α} {c : α} {j : ℕ} (hj : j < rest.length)
    (h : front.length + 1 + j < (front ++ c :: rest).length) :
    (front ++ c :: rest)[front.length + 1 + j] = rest[j] := by
  apply Option.some.inj
  rw [← List.getElem?_eq_getElem, ← List.getElem?_eq_getElem, Nat.add_assoc, Nat.add_comm 1 j,
    List.getElem?_append_right (Nat.le_add_right _ _), Nat.add_sub_cancel_left,
    List.getElem?_cons_succ]

/-- Two paths with a common part have the same nodes there. -/
theorem getElem_in_front {front rest rest' : List α} {c : α} {i : ℕ} (hi : i < front.length + 1)
    (h : i < (front ++ c :: rest).length) (h' : i < (front ++ c :: rest').length) :
    (front ++ c :: rest)[i] = (front ++ c :: rest')[i] := by
  have hlen : i < (front ++ [c]).length := by simpa using hi
  apply Option.some.inj
  rw [← List.getElem?_eq_getElem, ← List.getElem?_eq_getElem, List.append_cons front c rest,
    List.append_cons front c rest', List.getElem?_append_left hlen, List.getElem?_append_left hlen]

/-- The walk leads over the nodes `front`, none of which has a goal, to `c`. -/
inductive Leads (next : α → Option α) (goal : α → Option β) (c : α) : α → List α → Prop where
  | here : Leads next goal c c []
  | step {a b : α} {front : List α} (hgoal : goal a = none) (hnext : next a = some b)
      (hrest : Leads next goal c b front) : Leads next goal c a (a :: front)

namespace Leads

variable {a c : α} {front : List α}

theorem firstGoal_iff (h : Leads next goal c a front) {k : ℕ} {b : β} :
    FirstGoal next goal a k b ↔ ∃ m, k = front.length + m ∧ FirstGoal next goal c m b := by
  induction h generalizing k with
  | here => simp
  | step hgoal hnext hrest ih =>
    rw [firstGoal_of_none hgoal, hnext]
    constructor
    · rintro ⟨_, j, ⟨⟩, rfl, hfirst⟩
      obtain ⟨m, rfl, hm⟩ := ih.mp hfirst
      exact ⟨m, by rw [List.length_cons]; omega, hm⟩
    · rintro ⟨m, rfl, hm⟩
      refine ⟨_, _, rfl, ?_, ih.mpr ⟨m, rfl, hm⟩⟩
      rw [List.length_cons]
      omega

theorem trail_eq (h : Leads next goal c a front) (n : ℕ) :
    trail next (front.length + n) a = front ++ trail next n c := by
  induction h with
  | here => rw [List.length_nil, Nat.zero_add, List.nil_append]
  | step hgoal hnext hrest ih =>
    rw [List.length_cons, Nat.add_right_comm, trail_of_some hnext, ih, List.cons_append]

theorem trans {b d : α} {front' : List α} (h : Leads next goal b a front)
    (h' : Leads next goal d b front') : Leads next goal d a (front ++ front') := by
  induction h with
  | here => exact h'
  | step hgoal hnext hrest ih => exact .step hgoal hnext ih

/-- Another walk goes the same way while it takes the same successors. -/
theorem congr {next' : α → Option α} (h : Leads next goal c a front)
    (hsame : ∀ x ∈ front, next' x = next x) : Leads next' goal c a front := by
  induction h with
  | here => exact .here
  | step hgoal hnext hrest ih =>
    obtain ⟨hfirst, hothers⟩ := List.forall_mem_cons.mp hsame
    exact .step hgoal (hfirst.trans hnext) (ih hothers)

/-- Another walk takes the same successors, or there is a first node where it does not. -/
theorem same_or_parts (h : Leads next goal c a front) (next' : α → Option α) :
    (∀ x ∈ front, next' x = next x) ∨
      ∃ before x, Leads next goal x a before ∧ (∀ y ∈ before, next' y = next y) ∧
        goal x = none ∧ next' x ≠ next x := by
  induction h with
  | here => exact .inl fun x hx => absurd hx List.not_mem_nil
  | step hgoal hnext hrest ih =>
    rename_i a b front
    by_cases hsame : next' a = next a
    · rcases ih with hall | ⟨before, x, hleads, hbefore, hx, hparts⟩
      · exact .inl (List.forall_mem_cons.mpr ⟨hsame, hall⟩)
      · exact .inr ⟨a :: before, x, .step hgoal hnext hleads,
          List.forall_mem_cons.mpr ⟨hsame, hbefore⟩, hx, hparts⟩
    · exact .inr ⟨[], a, .here, fun y hy => absurd hy List.not_mem_nil, hgoal, hsame⟩

end Leads

/-- A walk leads to its first goal. -/
theorem FirstGoal.leads {a : α} {k : ℕ} {b : β} (h : FirstGoal next goal a k b) :
    ∃ front c, front.length = k ∧ Leads next goal c a front ∧ goal c = some b := by
  induction k generalizing a with
  | zero => exact ⟨[], a, rfl, .here, firstGoal_zero.mp h⟩
  | succ k ih =>
    obtain ⟨hgoal, c, hnext, hfirst⟩ := firstGoal_succ.mp h
    obtain ⟨front, d, hlen, hleads, hd⟩ := ih hfirst
    exact ⟨a :: front, d, by rw [List.length_cons, hlen], .step hgoal hnext hleads, hd⟩

end PamCertauth.GreedySearch
