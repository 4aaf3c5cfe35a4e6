import Mathlib.Algebra.BigOperators.Intervals
import Mathlib.Data.List.Range

/-!
# Timers under keys

A bank of timers holds at most one timer for each key. A request for a key that is held
is ignored. A key is released by a cancellation and not by the expiry of its timer, so a
request is accepted only if no accepted request for its key came before it since the last
cancellation of the key. An accepted timer expires one period later unless its key is
cancelled before. This describes, for every sequence of operations and delays, exactly
which timers have expired, each one once, and when. What happens under one key does not
depend on the operations on other keys.
-/

namespace PamCertauth.KeyedTimers

variable {K V : Type}

inductive Action (K V : Type) where
  | arm (key : K) (value : V)
  | cancel (key : K)
  | cancelAll
  | skip

/-- An action, and the time that passes behind it. -/
abbrev Op (K V : Type) := Action K V × ℕ

structure Timer (K V : Type) where
  key : K
  value : V
  deadline : ℕ

/-- An expired timer is recorded with the time at which it expired. -/
structure State (K V : Type) where
  now : ℕ
  held : List K
  pending : List (Timer K V)
  expired : List (Timer K V × ℕ)

section Machine

variable [DecidableEq K] (period : ℕ)

def act (st : State K V) : Action K V → State K V
  | .arm k v =>
    if k ∈ st.held then st
    else { st with held := k :: st.held, pending := st.pending ++ [⟨k, v, st.now + period⟩] }
  | .cancel k =>
    { st with held := st.held.filter (· ≠ k), pending := st.pending.filter (·.key ≠ k) }
  | .cancelAll => { st with held := [], pending := [] }
  | .skip => st

/-- The timers that are due expire. -/
def fire (st : State K V) : State K V :=
  { st with
    pending := st.pending.filter fun t => st.now < t.deadline
    expired := st.expired ++ (st.pending.filter fun t => t.deadline ≤ st.now).map (·, st.now) }

/-- Let time pass, one tick after another. Timers that are due expire before each tick and
at the end. -/
def pass : ℕ → State K V → State K V
  | 0, st => fire st
  | d + 1, st => pass d { fire st with now := st.now + 1 }

def step (st : State K V) (op : Op K V) : State K V := pass op.2 (act period st op.1)

variable (start : ℕ) (ops : ℕ → Op K V)

/-- The bank after `n` operations. -/
def stateAt : ℕ → State K V
  | 0 => ⟨start, [], [], []⟩
  | n + 1 => step period (stateAt n) (ops n)

end Machine

section Description

def Action.Cancels (k : K) : Action K V → Prop
  | .cancel k' => k' = k
  | .cancelAll => True
  | _ => False

variable (period start : ℕ) (ops : ℕ → Op K V)

def keyAt (i : ℕ) : Option K :=
  match (ops i).1 with
  | .arm k _ => some k
  | _ => none

/-- The time between the operations `i` and `j`. -/
def elapsed (i j : ℕ) : ℕ := ∑ m ∈ Finset.Ico i j, (ops m).2

/-- The operation requests a timer, and every earlier accepted request for the same key
was followed by a cancellation of the key. -/
def Accepts (i : ℕ) : Prop :=
  ∃ k, keyAt ops i = some k ∧ ∀ j, j < i → Accepts j → keyAt ops j = some k →
    ∃ m, j < m ∧ m < i ∧ (ops m).1.Cancels k
termination_by i

/-- No cancellation of the key of request `i` comes within the period, among the first
`n` operations. -/
def Undisturbed (i n : ℕ) : Prop :=
  ∀ k, keyAt ops i = some k → ∀ m, i < m → m < n → (ops m).1.Cancels k → period ≤ elapsed ops i m

def timerAt (i : ℕ) : Option (Timer K V) :=
  match (ops i).1 with
  | .arm k v => some ⟨k, v, start + elapsed ops 0 i + period⟩
  | _ => none

/-- The key is held after `n` operations. -/
def Held (k : K) (n : ℕ) : Prop :=
  ∃ j, j < n ∧ Accepts ops j ∧ keyAt ops j = some k ∧
    ∀ m, j < m → m < n → ¬ (ops m).1.Cancels k

open Classical in
/-- The timers of the requests among the first `n` operations that satisfy `P`. -/
noncomputable def timers (P : ℕ → Prop) (n : ℕ) : List (Timer K V) :=
  ((List.range n).filter P).filterMap (timerAt period start ops)

end Description

section Passing

variable {st : State K V}

/-- No pending timer is overdue. -/
def State.Timely (st : State K V) : Prop := ∀ t ∈ st.pending, st.now ≤ t.deadline

theorem timely_tick (st : State K V) : State.Timely { fire st with now := st.now + 1 } := by
  intro t ht
  have hlater : st.now < t.deadline := by simpa using (List.mem_filter.mp ht).2
  exact hlater

@[simp] theorem pass_now (d : ℕ) (st : State K V) : (pass d st).now = st.now + d := by
  induction d generalizing st with
  | zero => rfl
  | succ d ih =>
    rw [pass, ih]
    simp only
    omega

@[simp] theorem pass_held (d : ℕ) (st : State K V) : (pass d st).held = st.held := by
  induction d generalizing st with
  | zero => rfl
  | succ d ih => exact ih _

theorem pass_pending (d : ℕ) (st : State K V) :
    (pass d st).pending = st.pending.filter fun t => st.now + d < t.deadline := by
  induction d generalizing st with
  | zero => rfl
  | succ d ih =>
    rw [pass, ih]
    simp only [fire, List.filter_filter]
    apply List.filter_congr
    intro t _
    by_cases hlater : st.now + (d + 1) < t.deadline
    · have hnow : st.now < t.deadline := by omega
      have hend : st.now + 1 + d < t.deadline := by omega
      simp [hlater, hnow, hend]
    · have hend : ¬ st.now + 1 + d < t.deadline := by omega
      simp [hlater, hend]

theorem fire_expired (h : st.Timely) : (fire st).expired =
    st.expired ++ (st.pending.filter fun t => t.deadline ≤ st.now).map fun t => (t, t.deadline) := by
  simp only [fire, List.append_cancel_left_eq]
  apply List.map_congr_left
  intro t ht
  have hdue := of_decide_eq_true (List.mem_filter.mp ht).2
  have hahead := h t (List.mem_of_mem_filter ht)
  rw [Nat.le_antisymm hdue hahead]

/-- A timer that is not overdue expires at its deadline. -/
theorem pass_expired (d : ℕ) (h : st.Timely) : (pass d st).expired.Perm
    (st.expired ++
      (st.pending.filter fun t => t.deadline ≤ st.now + d).map fun t => (t, t.deadline)) := by
  induction d generalizing st with
  | zero => rw [pass, fire_expired h]; rfl
  | succ d ih =>
    refine (ih (timely_tick st)).trans ?_
    simp only [fire_expired h]
    rw [List.append_assoc, ← List.map_append]
    apply List.Perm.append_left
    apply List.Perm.map
    -- The due timers split into those due before the tick and those due later.
    have hsplit := List.filter_append_perm (fun t : Timer K V => decide (t.deadline ≤ st.now))
      (st.pending.filter fun t => t.deadline ≤ st.now + (d + 1))
    rw [List.filter_filter, List.filter_filter] at hsplit
    convert hsplit using 2
    · apply List.filter_congr
      intro t _
      by_cases hdue : t.deadline ≤ st.now
      · have hend : t.deadline ≤ st.now + (d + 1) := by omega
        simp [hdue, hend]
      · simp [hdue]
    · simp only [fire, List.filter_filter]
      apply List.filter_congr
      intro t _
      by_cases hdue : t.deadline ≤ st.now
      · have hnot : ¬ st.now < t.deadline := by omega
        simp [hdue]
      · have hlater : st.now < t.deadline := by omega
        simp [hdue, hlater, Nat.add_assoc, Nat.add_comm 1 d]

theorem fire_fire (st : State K V) : fire (fire st) = fire st := by
  have hlater : (fire st).pending.filter (fun t => st.now < t.deadline) = (fire st).pending := by
    rw [List.filter_eq_self]
    intro t ht
    exact (List.mem_filter.mp ht).2
  have hdue : (fire st).pending.filter (fun t => t.deadline ≤ st.now) = [] := by
    rw [List.filter_eq_nil_iff]
    intro t ht
    have hlater := of_decide_eq_true (List.mem_filter.mp ht).2
    simp [hlater]
  calc fire (fire st)
      = { fire st with
          pending := (fire st).pending.filter fun t => st.now < t.deadline
          expired := (fire st).expired ++
            ((fire st).pending.filter fun t => t.deadline ≤ st.now).map (·, st.now) } := rfl
    _ = fire st := by rw [hlater, hdue, List.map_nil, List.append_nil]

theorem pass_fire (d : ℕ) (st : State K V) : pass d (fire st) = pass d st := by
  cases d with
  | zero => exact fire_fire st
  | succ d =>
    rw [pass, fire_fire]
    rfl

theorem pass_pass (d w : ℕ) (st : State K V) : pass w (pass d st) = pass (d + w) st := by
  induction d generalizing st with
  | zero => rw [pass, pass_fire, Nat.zero_add]
  | succ d ih => rw [pass, ih, Nat.succ_add, pass]

end Passing

section Elapsed

variable {ops : ℕ → Op K V} {i j n : ℕ}

@[simp] theorem elapsed_self : elapsed ops i i = 0 := by
  simp [elapsed]

theorem elapsed_succ (h : i ≤ n) : elapsed ops i (n + 1) = elapsed ops i n + (ops n).2 := by
  rw [elapsed, Finset.sum_Ico_succ_top h, elapsed]

theorem elapsed_add (hij : i ≤ j) (hjn : j ≤ n) :
    elapsed ops i j + elapsed ops j n = elapsed ops i n := by
  simp only [elapsed, Finset.sum_Ico_consecutive _ hij hjn]

end Elapsed

section Timers

variable {period start : ℕ} {ops : ℕ → Op K V} {P Q : ℕ → Prop} {n : ℕ}

theorem timers_congr (h : ∀ i, i < n → (P i ↔ Q i)) :
    timers period start ops P n = timers period start ops Q n := by
  classical
  rw [timers]
  congr 1
  apply List.filter_congr
  intro i hi
  simp [h i (List.mem_range.mp hi)]

theorem timers_succ_of_not (h : ¬ P n) :
    timers period start ops P (n + 1) = timers period start ops P n := by
  simp [timers, List.range_succ, h]

theorem timers_succ_of {t : Timer K V} (h : P n) (ht : timerAt period start ops n = some t) :
    timers period start ops P (n + 1) = timers period start ops P n ++ [t] := by
  simp [timers, List.range_succ, h, ht]

theorem filter_timers (q : Timer K V → Bool) :
    (timers period start ops P n).filter q =
      timers period start ops
        (fun i => P i ∧ ∀ t, timerAt period start ops i = some t → q t = true) n := by
  induction n with
  | zero => simp [timers]
  | succ n ih =>
    by_cases hP : P n
    · rcases ht : timerAt period start ops n with _ | t
      · simpa [timers, List.range_succ, hP, ht] using ih
      · rw [timers_succ_of hP ht, List.filter_append, ih]
        by_cases hq : q t = true
        · rw [timers_succ_of ⟨hP, by simp [ht, hq]⟩ ht]
          simp [hq]
        · rw [timers_succ_of_not (by simp [ht, hq])]
          simp [hq]
    · rw [timers_succ_of_not hP, ih, timers_succ_of_not (fun h => hP h.1)]

theorem mem_timers_iff {t : Timer K V} : t ∈ timers period start ops P n ↔
    ∃ i, i < n ∧ P i ∧ timerAt period start ops i = some t := by
  classical
  rw [timers, List.mem_filterMap]
  constructor
  · intro h
    obtain ⟨i, hi, ht⟩ := h
    obtain ⟨hrange, hP⟩ := List.mem_filter.mp hi
    exact ⟨i, List.mem_range.mp hrange, of_decide_eq_true hP, ht⟩
  · intro h
    obtain ⟨i, hi, hP, ht⟩ := h
    exact ⟨i, List.mem_filter.mpr ⟨List.mem_range.mpr hi, decide_eq_true hP⟩, ht⟩

theorem mem_timers {t : Timer K V} (h : t ∈ timers period start ops P n) :
    ∃ i, i < n ∧ P i ∧ timerAt period start ops i = some t :=
  mem_timers_iff.mp h

open Classical in
theorem flatMap_timers {β : Type} (f : Timer K V → List β) :
    (timers period start ops P n).flatMap f = (List.range n).flatMap fun i =>
      if P i then (timerAt period start ops i).elim [] f else [] := by
  rw [timers]
  induction List.range n with
  | nil => rfl
  | cons i l ih =>
    by_cases hP : P i
    · rcases ht : timerAt period start ops i with _ | t
      · simp [hP, ht, ih]
      · simp [hP, ht, ih]
    · simp [hP, ih]

/-- Timers of two kinds of requests without a request of both kinds. -/
theorem timers_append_perm (h : ∀ i, P i → ¬ Q i) :
    (timers period start ops P n ++ timers period start ops Q n).Perm
      (timers period start ops (fun i => P i ∨ Q i) n) := by
  classical
  simp only [timers]
  rw [← List.filterMap_append]
  apply List.Perm.filterMap
  have hsplit := List.filter_append_perm (fun i => decide (P i))
    ((List.range n).filter fun i => decide (P i ∨ Q i))
  rw [List.filter_filter, List.filter_filter] at hsplit
  convert hsplit using 2
  · apply List.filter_congr
    intro i _
    by_cases hP : P i <;> simp [hP]
  · apply List.filter_congr
    intro i _
    by_cases hP : P i
    · simp [hP, h i hP]
    · simp [hP]
  · funext i
    simp

end Timers

section Requests

variable {period start : ℕ} {ops : ℕ → Op K V} {i n : ℕ} {k : K}

theorem accepts_iff (h : keyAt ops i = some k) : Accepts ops i ↔ ¬ Held ops k i := by
  rw [Accepts]
  constructor
  · rintro ⟨k', hk', hcancelled⟩ ⟨j, hj, haccepts, hkey, hnone⟩
    obtain rfl : k = k' := Option.some.inj (h.symm.trans hk')
    obtain ⟨m, hjm, hmi, hcancels⟩ := hcancelled j hj haccepts hkey
    exact hnone m hjm hmi hcancels
  · intro hfree
    refine ⟨k, h, fun j hj haccepts hkey => ?_⟩
    by_contra hnone
    exact hfree ⟨j, hj, haccepts, hkey, fun m hjm hmi hcancels => hnone ⟨m, hjm, hmi, hcancels⟩⟩

theorem not_accepts_of_keyAt (h : keyAt ops i = none) : ¬ Accepts ops i := by
  rw [Accepts]
  intro haccepts
  obtain ⟨k, hk, -⟩ := haccepts
  rw [h] at hk
  cases hk

/-- The last operation takes the key or leaves it held. -/
theorem held_succ : Held ops k (n + 1) ↔
    (Accepts ops n ∧ keyAt ops n = some k) ∨ (Held ops k n ∧ ¬ (ops n).1.Cancels k) := by
  constructor
  · intro hheld
    obtain ⟨j, hj, haccepts, hkey, hnone⟩ := hheld
    rcases Nat.lt_succ_iff_lt_or_eq.mp hj with hlt | rfl
    · refine .inr ⟨⟨j, hlt, haccepts, hkey, fun m hjm hmn => hnone m hjm (by omega)⟩, ?_⟩
      exact hnone n hlt (by omega)
    · exact .inl ⟨haccepts, hkey⟩
  · intro hcases
    rcases hcases with ⟨haccepts, hkey⟩ | ⟨⟨j, hj, haccepts, hkey, hnone⟩, hlast⟩
    · exact ⟨n, by omega, haccepts, hkey, fun m _ _ => by omega⟩
    · refine ⟨j, by omega, haccepts, hkey, fun m hjm hmn => ?_⟩
      rcases Nat.lt_succ_iff_lt_or_eq.mp hmn with hlt | rfl
      · exact hnone m hjm hlt
      · exact hlast

theorem undisturbed_self : Undisturbed period ops n (n + 1) := by
  intro k hk m hnm hmn
  omega

theorem undisturbed_succ (h : i < n) : Undisturbed period ops i (n + 1) ↔
    Undisturbed period ops i n ∧
      ∀ k, keyAt ops i = some k → (ops n).1.Cancels k → period ≤ elapsed ops i n := by
  constructor
  · intro hall
    exact ⟨fun k hk m him hmn => hall k hk m him (by omega), fun k hk => hall k hk n h (by omega)⟩
  · rintro ⟨hfront, hlast⟩ k hk m him hmn hcancels
    rcases Nat.lt_succ_iff_lt_or_eq.mp hmn with hlt | rfl
    · exact hfront k hk m him hlt hcancels
    · exact hlast k hk hcancels

theorem timerAt_deadline {t : Timer K V} (h : timerAt period start ops i = some t) :
    keyAt ops i = some t.key ∧ t.deadline = start + elapsed ops 0 i + period := by
  unfold timerAt at h
  rw [keyAt]
  split at h
  · next k v hop =>
    cases h
    simp
  · cases h

theorem exists_timerAt (period start : ℕ) (h : Accepts ops i) : ∃ t, timerAt period start ops i = some t := by
  rw [Accepts] at h
  obtain ⟨k, hk, -⟩ := h
  unfold keyAt at hk
  rw [timerAt]
  split at hk
  · exact ⟨_, rfl⟩
  · cases hk

end Requests

section Invariant

variable [DecidableEq K] {period start : ℕ} {ops : ℕ → Op K V} {n : ℕ} {st : State K V}

instance (k : K) : (a : Action K V) → Decidable (a.Cancels k)
  | .cancel k' => inferInstanceAs (Decidable (k' = k))
  | .cancelAll => isTrue trivial
  | .arm .. => isFalse id
  | .skip => isFalse id

variable (period start ops)

/-- The state that the first `n` operations determine. -/
structure Describes (n : ℕ) (st : State K V) : Prop where
  now : st.now = start + elapsed ops 0 n
  held : ∀ k, k ∈ st.held ↔ Held ops k n
  pending : st.pending = timers period start ops
    (fun i => Accepts ops i ∧ Undisturbed period ops i n ∧ elapsed ops i n < period) n
  expired : st.expired.Perm ((timers period start ops
    (fun i => Accepts ops i ∧ Undisturbed period ops i n ∧ period ≤ elapsed ops i n) n).map
      fun t => (t, t.deadline))

/-- The pending timers between the action of operation `n` and its delay. -/
def Awaiting (n i : ℕ) : Prop :=
  Accepts ops i ∧ Undisturbed period ops i (n + 1) ∧ (elapsed ops i n < period ∨ i = n)

variable {period start ops}

@[simp] theorem act_now (a : Action K V) : (act period st a).now = st.now := by
  cases a <;> simp only [act]
  split <;> rfl

@[simp] theorem act_expired (a : Action K V) : (act period st a).expired = st.expired := by
  cases a <;> simp only [act]
  split <;> rfl

namespace Describes

theorem filter_not_cancels (h : Describes period start ops n st) :
    st.pending.filter (fun t => ¬ (ops n).1.Cancels t.key) =
      timers period start ops (Awaiting period ops n) n := by
  rw [h.pending, filter_timers]
  apply timers_congr
  intro i hi
  rw [Awaiting, undisturbed_succ hi]
  constructor
  · intro hkeeps
    obtain ⟨⟨haccepts, hundisturbed, hearly⟩, hkept⟩ := hkeeps
    obtain ⟨t, ht⟩ := exists_timerAt period start haccepts
    refine ⟨haccepts, ⟨hundisturbed, fun k hk hcancels => ?_⟩, .inl hearly⟩
    obtain rfl : k = t.key := Option.some.inj (hk.symm.trans (timerAt_deadline ht).1)
    simpa [hcancels] using hkept t ht
  · intro hawaits
    obtain ⟨haccepts, ⟨hundisturbed, hlast⟩, hearly⟩ := hawaits
    have hearly : elapsed ops i n < period := hearly.resolve_right (by omega)
    refine ⟨⟨haccepts, hundisturbed, hearly⟩, fun t ht => ?_⟩
    simp only [decide_eq_true_eq]
    intro hcancels
    have hlate := hlast t.key (timerAt_deadline ht).1 hcancels
    omega

omit [DecidableEq K] in
theorem accepts (h : Describes period start ops n st) {k : K} (hk : keyAt ops n = some k) :
    Accepts ops n ↔ k ∉ st.held := by
  rw [accepts_iff hk, h.held]

theorem act_pending (h : Describes period start ops n st) :
    (act period st (ops n).1).pending =
      timers period start ops (Awaiting period ops n) (n + 1) := by
  have hkept := h.filter_not_cancels
  rcases hop : (ops n).1 with ⟨k, v⟩ | k | _ | _
  · have hkey : keyAt ops n = some k := by simp [keyAt, hop]
    simp only [hop, Action.Cancels, not_false_eq_true, decide_true, List.filter_true] at hkept
    by_cases hheld : k ∈ st.held
    · have hnot : ¬ Awaiting period ops n n := fun ha => (h.accepts hkey).mp ha.1 hheld
      rw [timers_succ_of_not hnot, ← hkept]
      simp [act, hheld]
    · have hawaiting : Awaiting period ops n n :=
        ⟨(h.accepts hkey).mpr hheld, undisturbed_self, .inr rfl⟩
      have htimer : timerAt period start ops n = some ⟨k, v, st.now + period⟩ := by
        simp [timerAt, hop, h.now]
      rw [timers_succ_of hawaiting htimer, ← hkept]
      simp [act, hheld]
  all_goals
    have hkey : keyAt ops n = none := by simp [keyAt, hop]
    have hnot : ¬ Awaiting period ops n n := fun ha => not_accepts_of_keyAt hkey ha.1
    rw [timers_succ_of_not hnot, ← hkept]
    simp [act, hop, Action.Cancels, eq_comm]

theorem act_held (h : Describes period start ops n st) (k : K) :
    k ∈ (act period st (ops n).1).held ↔ Held ops k (n + 1) := by
  rw [held_succ, ← h.held]
  rcases hop : (ops n).1 with ⟨k', v⟩ | k' | _ | _
  · have hkey : keyAt ops n = some k' := by simp [keyAt, hop]
    rw [h.accepts hkey, hkey]
    by_cases hheld : k' ∈ st.held
    · simp [act, hheld, Action.Cancels]
    · simp [act, hheld, Action.Cancels, eq_comm]
  · have hkey : keyAt ops n = none := by simp [keyAt, hop]
    simp [act, Action.Cancels, hkey, eq_comm (a := k)]
  all_goals
    have hkey : keyAt ops n = none := by simp [keyAt, hop]
    simp [act, Action.Cancels, hkey]

theorem act_timely (h : Describes period start ops n st) :
    (act period st (ops n).1).Timely := by
  intro t ht
  rw [h.act_pending] at ht
  obtain ⟨i, hi, ⟨-, -, hearly⟩, htimer⟩ := mem_timers ht
  rw [(timerAt_deadline htimer).2, act_now, h.now]
  have hadd : elapsed ops 0 i + elapsed ops i n = elapsed ops 0 n :=
    elapsed_add (Nat.zero_le i) (Nat.lt_succ_iff.mp hi)
  rcases hearly with hearly | rfl
  · omega
  · omega

/-- A timer is due at the end of operation `n` once a period has elapsed. -/
theorem due_iff (h : Describes period start ops n st) {i : ℕ} {t : Timer K V} (hi : i < n + 1)
    (ht : timerAt period start ops i = some t) :
    t.deadline ≤ (act period st (ops n).1).now + (ops n).2 ↔
      period ≤ elapsed ops i (n + 1) := by
  have hadd : elapsed ops 0 i + elapsed ops i (n + 1) = elapsed ops 0 (n + 1) :=
    elapsed_add (Nat.zero_le i) (by omega)
  have hlast : elapsed ops 0 (n + 1) = elapsed ops 0 n + (ops n).2 := elapsed_succ (Nat.zero_le n)
  rw [(timerAt_deadline ht).2, act_now, h.now]
  omega

theorem step_pending (h : Describes period start ops n st) :
    (step period st (ops n)).pending = timers period start ops
      (fun i => Accepts ops i ∧ Undisturbed period ops i (n + 1) ∧
        elapsed ops i (n + 1) < period) (n + 1) := by
  rw [step, pass_pending, h.act_pending, filter_timers]
  apply timers_congr
  intro i hi
  have hlast : elapsed ops i (n + 1) = elapsed ops i n + (ops n).2 :=
    elapsed_succ (Nat.lt_succ_iff.mp hi)
  constructor
  · intro hwaits
    obtain ⟨⟨haccepts, hundisturbed, -⟩, hlater⟩ := hwaits
    obtain ⟨t, ht⟩ := exists_timerAt period start haccepts
    have hnot : ¬ t.deadline ≤ (act period st (ops n).1).now + (ops n).2 :=
      not_le.mpr (of_decide_eq_true (hlater t ht))
    rw [h.due_iff hi ht, not_le] at hnot
    exact ⟨haccepts, hundisturbed, hnot⟩
  · intro hpending
    obtain ⟨haccepts, hundisturbed, hearly⟩ := hpending
    refine ⟨⟨haccepts, hundisturbed, .inl (by omega)⟩, fun t ht => ?_⟩
    rw [← not_le, ← h.due_iff hi ht, not_le] at hearly
    exact decide_eq_true hearly

theorem step_expired (h : Describes period start ops n st) :
    (step period st (ops n)).expired.Perm ((timers period start ops
      (fun i => Accepts ops i ∧ Undisturbed period ops i (n + 1) ∧
        period ≤ elapsed ops i (n + 1)) (n + 1)).map fun t => (t, t.deadline)) := by
  refine (pass_expired _ h.act_timely).trans ?_
  rw [act_expired, h.act_pending, filter_timers]
  refine (h.expired.append_right _).trans ?_
  rw [← List.map_append]
  apply List.Perm.map
  -- The timers that had expired before are those of requests before the last operation.
  have hbefore : timers period start ops
      (fun i => Accepts ops i ∧ Undisturbed period ops i n ∧ period ≤ elapsed ops i n) n =
      timers period start ops (fun i => i < n ∧ Accepts ops i ∧ Undisturbed period ops i n ∧
        period ≤ elapsed ops i n) (n + 1) := by
    rw [timers_succ_of_not (fun hlt => lt_irrefl n hlt.1)]
    exact timers_congr fun i hi => by simp [hi]
  rw [hbefore]
  refine (timers_append_perm ?_).trans (List.Perm.of_eq (timers_congr ?_))
  · rintro i ⟨hi, -, -, hlate⟩ ⟨⟨-, -, hearly⟩, -⟩
    omega
  · intro i hi
    have hlast : elapsed ops i (n + 1) = elapsed ops i n + (ops n).2 :=
      elapsed_succ (Nat.lt_succ_iff.mp hi)
    constructor
    · intro hcases
      rcases hcases with ⟨hlt, haccepts, hundisturbed, hlate⟩ | ⟨⟨haccepts, hundisturbed, -⟩, hdue⟩
      · refine ⟨haccepts, (undisturbed_succ hlt).mpr ⟨hundisturbed, fun _ _ _ => hlate⟩, ?_⟩
        omega
      · obtain ⟨t, ht⟩ := exists_timerAt period start haccepts
        exact ⟨haccepts, hundisturbed, (h.due_iff hi ht).mp (of_decide_eq_true (hdue t ht))⟩
    · intro hexpired
      obtain ⟨haccepts, hundisturbed, hlate⟩ := hexpired
      by_cases hearly : i < n ∧ period ≤ elapsed ops i n
      · exact .inl ⟨hearly.1, haccepts, ((undisturbed_succ hearly.1).mp hundisturbed).1, hearly.2⟩
      · refine .inr ⟨⟨haccepts, hundisturbed, by omega⟩, fun t ht => ?_⟩
        exact decide_eq_true ((h.due_iff hi ht).mpr hlate)

theorem step (h : Describes period start ops n st) :
    Describes period start ops (n + 1) (KeyedTimers.step period st (ops n)) where
  now := by
    rw [KeyedTimers.step, pass_now, act_now, h.now, elapsed_succ (Nat.zero_le n)]
    omega
  held k := by
    rw [KeyedTimers.step, pass_held]
    exact h.act_held k
  pending := h.step_pending
  expired := h.step_expired

end Describes

/-- Which timers have expired, and when. -/
theorem describes_stateAt (n : ℕ) :
    Describes period start ops n (stateAt period start ops n) := by
  induction n with
  | zero => exact ⟨by simp [stateAt], by simp [stateAt, Held], rfl, List.Perm.refl _⟩
  | succ n ih => exact ih.step

/-- A timer is pending or has expired if its request was accepted and no cancellation of its
key came within the period. -/
theorem pending_or_expired_iff (n : ℕ) {t : Timer K V} :
    (t ∈ (stateAt period start ops n).pending ∨
        ∃ time, (t, time) ∈ (stateAt period start ops n).expired) ↔
      ∃ i, i < n ∧ Accepts ops i ∧ Undisturbed period ops i n ∧
        timerAt period start ops i = some t := by
  have hdescribes : Describes period start ops n (stateAt period start ops n) :=
    describes_stateAt n
  rw [hdescribes.pending, mem_timers_iff]
  simp only [hdescribes.expired.mem_iff, List.mem_map, Prod.mk.injEq, mem_timers_iff]
  constructor
  · rintro (⟨i, hi, ⟨haccepts, hundisturbed, -⟩, ht⟩ |
      ⟨time, t', ⟨i, hi, ⟨haccepts, hundisturbed, -⟩, ht⟩, rfl, -⟩)
    · exact ⟨i, hi, haccepts, hundisturbed, ht⟩
    · exact ⟨i, hi, haccepts, hundisturbed, ht⟩
  · intro h
    obtain ⟨i, hi, haccepts, hundisturbed, ht⟩ := h
    rcases Nat.lt_or_ge (elapsed ops i n) period with hearly | hlate
    · exact .inl ⟨i, hi, ⟨haccepts, hundisturbed, hearly⟩, ht⟩
    · exact .inr ⟨t.deadline, t, ⟨i, hi, ⟨haccepts, hundisturbed, hlate⟩, ht⟩, rfl, rfl⟩

end Invariant

section Restriction

variable [DecidableEq K] {period : ℕ} (k : K)

def Action.only : Action K V → Action K V
  | .arm k' v => if k' = k then .arm k' v else .skip
  | .cancel k' => if k' = k then .cancel k' else .skip
  | .cancelAll => .cancelAll
  | .skip => .skip

def State.only (st : State K V) : State K V where
  now := st.now
  held := st.held.filter (· = k)
  pending := st.pending.filter (·.key = k)
  expired := st.expired.filter (·.1.key = k)

theorem act_only (st : State K V) (a : Action K V) :
    (act period st a).only k = act period (st.only k) (a.only k) := by
  rcases a with ⟨k', v⟩ | k' | _ | _
  · by_cases hk : k' = k
    · subst hk
      by_cases hheld : k' ∈ st.held <;> simp [act, Action.only, State.only, hheld]
    · by_cases hheld : k' ∈ st.held <;> simp [act, Action.only, State.only, hheld, hk]
  · by_cases hk : k' = k
    · simp only [hk, act, Action.only, State.only, if_true, List.filter_comm (fun x => decide (x ≠ k)),
        List.filter_comm (fun t : Timer K V => decide (t.key ≠ k))]
    · have hheld : (st.held.filter (· ≠ k')).filter (· = k) = st.held.filter (· = k) := by
        rw [List.filter_filter]
        exact List.filter_congr fun x _ => by by_cases hx : x = k <;> simp [hx, Ne.symm hk]
      have hpending : (st.pending.filter (·.key ≠ k')).filter (·.key = k) =
          st.pending.filter (·.key = k) := by
        rw [List.filter_filter]
        exact List.filter_congr fun t _ => by by_cases ht : t.key = k <;> simp [ht, Ne.symm hk]
      simp only [act, Action.only, State.only, hk, if_false, hheld, hpending]
  · rfl
  · rfl

theorem fire_only (st : State K V) : (fire st).only k = fire (st.only k) := by
  simp only [fire, State.only, List.filter_append, List.filter_map, Function.comp_def,
    List.filter_comm (fun t : Timer K V => decide (t.key = k))]
  rfl

theorem pass_only (d : ℕ) (st : State K V) : (pass d st).only k = pass d (st.only k) := by
  induction d generalizing st with
  | zero => exact fire_only k st
  | succ d ih =>
    rw [pass, ih, pass, ← fire_only]
    rfl

/-- What is done under one key does not depend on the other keys. -/
theorem stateAt_only (start : ℕ) (ops : ℕ → Op K V) (n : ℕ) :
    stateAt period start (fun i => ((ops i).1.only k, (ops i).2)) n =
      (stateAt period start ops n).only k := by
  induction n with
  | zero => rfl
  | succ n ih => rw [stateAt, ih, step, ← act_only, ← pass_only]; rfl

end Restriction

end PamCertauth.KeyedTimers
