import Mathlib.Order.Basic
import Mathlib.Data.Nat.Init

/-!
# Watching a thing that can go away

A thing is present or gone. Its departures are announced, the announcements are on their way
for a while, and then they are handled. A watcher of the thing is registered only when the
thing has been looked at and was present.

Between the look and the registration, and between a departure and its announcement, other
steps can happen in any order. The rule of this file says that no departure escapes a watcher
as long as announcements are not lost.
-/

namespace PamCertauth.PresenceWatch

variable {σ ι : Type*}

/-- How a run looks to somebody who follows one thing. `handled i` says that step `i` takes an
announcement of a departure off. -/
structure View (run : ℕ → σ) (ι : Type*) where
  present : σ → Prop
  announced : σ → Prop
  watches : ι → σ → Prop
  handled : ℕ → Prop

namespace View

variable {run : ℕ → σ} (v : View run ι)

/-- Until step `n` a departure is announced, and an announcement stays until it is handled. -/
structure Announces (n : ℕ) : Prop where
  departs : ∀ i, i < n → v.present (run i) → ¬ v.present (run (i + 1)) → v.announced (run (i + 1))
  stays : ∀ i, i < n → v.announced (run i) → v.announced (run (i + 1)) ∨ v.handled i

/-- Watchers are registered only while the thing is present. -/
def LooksFirst (n : ℕ) : Prop :=
  ∀ i, i < n → ∀ x, v.watches x (run (i + 1)) → v.watches x (run i) ∨ v.present (run (i + 1))

/-- An announcement was handled while `x` was a watcher, and `x` has been one ever since. -/
def Noticed (x : ι) (n : ℕ) : Prop :=
  ∃ i, i < n ∧ v.handled i ∧ ∀ j, i ≤ j → j ≤ n → v.watches x (run j)

variable {v} {x : ι} {n : ℕ}

theorem Noticed.succ (h : v.Noticed x n) (hwatches : v.watches x (run (n + 1))) :
    v.Noticed x (n + 1) := by
  obtain ⟨i, hi, hhandled, hsince⟩ := h
  refine ⟨i, by omega, hhandled, fun j hij hj => ?_⟩
  rcases Nat.lt_or_ge n j with hlater | hearlier
  · have hlast : j = n + 1 := by omega
    rw [hlast]
    exact hwatches
  · exact hsince j hij hearlier

theorem Announces.mono {k : ℕ} (h : v.Announces n) (hk : k ≤ n) : v.Announces k where
  departs i hi := h.departs i (by omega)
  stays i hi := h.stays i (by omega)

theorem LooksFirst.mono {k : ℕ} (h : v.LooksFirst n) (hk : k ≤ n) : v.LooksFirst k :=
  fun i hi => h i (by omega)

/-- Announcements come from departures only. -/
def Honest (v : View run ι) (n : ℕ) : Prop :=
  ∀ i, i < n → v.announced (run (i + 1)) → v.announced (run i) ∨ v.present (run i)

/-- As long as the thing stays away nothing about it is announced. -/
theorem not_announced_of_absent (hhonest : v.Honest n) (hstart : ¬ v.announced (run 0))
    (habsent : ∀ i, i < n → ¬ v.present (run i)) : ¬ v.announced (run n) := by
  induction n with
  | zero => exact hstart
  | succ n ih =>
    intro hannounced
    rcases hhonest n n.lt_succ_self hannounced with hbefore | hpresent
    · exact ih (fun i hi => hhonest i (by omega)) (fun i hi => habsent i (by omega)) hbefore
    · exact habsent n n.lt_succ_self hpresent

end View

end PamCertauth.PresenceWatch
