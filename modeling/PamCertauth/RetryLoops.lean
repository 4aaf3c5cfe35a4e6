import PamCertauth.TracedPrograms

/-!
# Bounded retries

A loop that asks for a secret and tries it, again as long as the answer is that the secret
was wrong, and a bounded number of times. The log has every call of the two parties with
its answer; `WithinBudget` says what the log of such a loop looks like and which result
belongs to it.
-/

namespace PamCertauth.RetryLoops

/-- A call of the party that is asked, or of the one that tries. -/
inductive RetryEvent (π κ ο α : Type) where
  | prompted (answer : Except π κ)
  | opened (secret : κ) (answer : Except ο α)

namespace RetryEvent

variable {π κ ο α : Type}

def isPrompted : RetryEvent π κ ο α → Bool
  | prompted _ => true
  | opened _ _ => false

/-- The secret that was obtained. -/
def obtained : RetryEvent π κ ο α → Option κ
  | prompted (.ok secret) => some secret
  | _ => none

/-- The secret that was tried. -/
def used : RetryEvent π κ ο α → Option κ
  | opened secret _ => some secret
  | prompted _ => none

end RetryEvent

/-- One round of the loop. -/
inductive Attempt (π κ ο α : Type) where
  | unanswered (e : π)
  | tried (secret : κ) (answer : Except ο α)

section

variable {σ π κ ο ε α : Type}

def Attempt.events : Attempt π κ ο α → List (RetryEvent π κ ο α)
  | unanswered e => [.prompted (.error e)]
  | tried secret answer => [.prompted (.ok secret), .opened secret answer]

variable (prompt : σ → Except π κ × σ) (tryOpen : κ → σ → Except ο α × σ) (conv : π → ε)
  (fatal : ο → Option ε) (exceeded : ε)

/-- The loop. An answer that is not fatal is a wrong secret. -/
def retry : ℕ → Prog σ (RetryEvent π κ ο α) ε α
  | 0 => Prog.fail exceeded
  | n + 1 => do
    let secret ← Prog.request prompt .prompted conv
    let answer ← Prog.call (tryOpen secret) (.opened secret)
    match answer with
    | .ok a => pure a
    | .error o =>
      match fatal o with
      | none => retry n
      | some e => Prog.fail e

/-- The secret of a round was wrong. -/
def Attempt.Wrong : Attempt π κ ο α → Prop
  | tried _ (.error o) => fatal o = none
  | _ => False

/-- What a round that ends the loop returns. -/
inductive Concludes : Attempt π κ ο α → Except ε α → Prop where
  | unanswered (e : π) : Concludes (.unanswered e) (.error (conv e))
  | success (secret : κ) (a : α) : Concludes (.tried secret (.ok a)) (.ok a)
  | fatal (secret : κ) {o : ο} {e : ε} (h : fatal o = some e) :
      Concludes (.tried secret (.error o)) (.error e)

/-- The rounds of a loop with a bound, and its result. -/
inductive Rounds : ℕ → List (Attempt π κ ο α) → Except ε α → Prop where
  | exhausted : Rounds 0 [] (.error exceeded)
  | concluded {n : ℕ} {last : Attempt π κ ο α} {result : Except ε α}
      (h : Concludes conv fatal last result) : Rounds (n + 1) [last] result
  | again {n : ℕ} {secret : κ} {o : ο} {rest : List (Attempt π κ ο α)} {result : Except ε α}
      (h : fatal o = none) (hrest : Rounds n rest result) :
      Rounds (n + 1) (.tried secret (.error o) :: rest) result

end

section

variable {σ π κ ο ε α : Type} {prompt : σ → Except π κ × σ} {tryOpen : κ → σ → Except ο α × σ}
  {conv : π → ε} {fatal : ο → Option ε} {exceeded : ε}

theorem retry_succ_of_error {s s₁ : σ} {e : π} (hprompt : prompt s = (.error e, s₁)) (n : ℕ) :
    retry prompt tryOpen conv fatal exceeded (n + 1) s =
      ⟨.error (conv e), s₁, [.prompted (.error e)]⟩ := by
  rw [retry, Prog.bind_of_error (Prog.request_of_error hprompt)]

theorem retry_succ_of_ok {s s₁ s₂ : σ} {secret : κ} {a : α}
    (hprompt : prompt s = (.ok secret, s₁)) (hopen : tryOpen secret s₁ = (.ok a, s₂)) (n : ℕ) :
    retry prompt tryOpen conv fatal exceeded (n + 1) s =
      ⟨.ok a, s₂, [.prompted (.ok secret), .opened secret (.ok a)]⟩ := by
  rw [retry, Prog.bind_of_ok (Prog.request_of_ok hprompt), Prog.call_bind_apply, hopen]
  rfl

theorem retry_succ_of_fatal {s s₁ s₂ : σ} {secret : κ} {o : ο} {e : ε}
    (hprompt : prompt s = (.ok secret, s₁)) (hopen : tryOpen secret s₁ = (.error o, s₂))
    (hfatal : fatal o = some e) (n : ℕ) :
    retry prompt tryOpen conv fatal exceeded (n + 1) s =
      ⟨.error e, s₂, [.prompted (.ok secret), .opened secret (.error o)]⟩ := by
  rw [retry, Prog.bind_of_ok (Prog.request_of_ok hprompt), Prog.call_bind_apply, hopen]
  simp only [hfatal]
  rfl

theorem retry_succ_of_wrong {s s₁ s₂ : σ} {secret : κ} {o : ο}
    (hprompt : prompt s = (.ok secret, s₁)) (hopen : tryOpen secret s₁ = (.error o, s₂))
    (hwrong : fatal o = none) (n : ℕ) :
    retry prompt tryOpen conv fatal exceeded (n + 1) s =
      ⟨(retry prompt tryOpen conv fatal exceeded n s₂).result,
        (retry prompt tryOpen conv fatal exceeded n s₂).env,
        .prompted (.ok secret) :: .opened secret (.error o) ::
          (retry prompt tryOpen conv fatal exceeded n s₂).calls⟩ := by
  rw [retry, Prog.bind_of_ok (Prog.request_of_ok hprompt), Prog.call_bind_apply, hopen]
  simp only [hwrong]
  rfl

/-- The loop goes through rounds, and its log is their calls. -/
theorem retry_rounds (n : ℕ) (s : σ) :
    ∃ attempts, (retry prompt tryOpen conv fatal exceeded n s).calls = attempts.flatMap Attempt.events ∧
      Rounds conv fatal exceeded n attempts (retry prompt tryOpen conv fatal exceeded n s).result := by
  induction n generalizing s with
  | zero => exact ⟨[], rfl, .exhausted⟩
  | succ n ih =>
    rcases hprompt : prompt s with ⟨e | secret, s₁⟩
    · rw [retry_succ_of_error hprompt]
      exact ⟨[.unanswered e], rfl, .concluded (.unanswered e)⟩
    · rcases hopen : tryOpen secret s₁ with ⟨o | a, s₂⟩
      · cases hfatal : fatal o with
        | some e =>
          rw [retry_succ_of_fatal hprompt hopen hfatal]
          exact ⟨[.tried secret (.error o)], rfl, .concluded (.fatal secret hfatal)⟩
        | none =>
          rw [retry_succ_of_wrong hprompt hopen hfatal]
          obtain ⟨attempts, hcalls, hrounds⟩ := ih s₂
          exact ⟨.tried secret (.error o) :: attempts, by simp [hcalls, Attempt.events],
            .again hfatal hrounds⟩
      · rw [retry_succ_of_ok hprompt hopen]
        exact ⟨[.tried secret (.ok a)], rfl, .concluded (.success secret a)⟩

end

section

variable {π κ ο ε α : Type} (conv : π → ε) (fatal : ο → Option ε) (exceeded : ε)

/-- What the log and the result of a loop with a bound have to be. -/
structure WithinBudget (n : ℕ) (log : List (RetryEvent π κ ο α)) (result : Except ε α) : Prop where
  prompts_le : log.countP RetryEvent.isPrompted ≤ n
  used_eq_obtained : log.filterMap RetryEvent.used = log.filterMap RetryEvent.obtained
  rounds : ∃ attempts : List (Attempt π κ ο α), log = attempts.flatMap Attempt.events ∧
    (∀ attempt ∈ attempts.dropLast, attempt.Wrong fatal) ∧
    (∀ a, result = .ok a ↔ ∃ secret, attempts.getLast? = some (.tried secret (.ok a))) ∧
    (result = .error exceeded ↔
      attempts.length = n ∧ ∀ attempt ∈ attempts, attempt.Wrong fatal) ∧
    (result ≠ .error exceeded →
      ∃ last, attempts.getLast? = some last ∧ Concludes conv fatal last result)

variable {conv fatal exceeded}

theorem Concludes.not_wrong {last : Attempt π κ ο α} {result : Except ε α}
    (h : Concludes conv fatal last result) : ¬ last.Wrong fatal := by
  cases h with
  | unanswered e => exact id
  | success secret a => exact id
  | fatal secret hfatal => simp [Attempt.Wrong, hfatal]

theorem Concludes.ok_iff {last : Attempt π κ ο α} {result : Except ε α}
    (h : Concludes conv fatal last result) (a : α) :
    result = .ok a ↔ ∃ secret, last = .tried secret (.ok a) := by
  cases h <;> simp

namespace Rounds

variable {n : ℕ} {attempts : List (Attempt π κ ο α)} {result : Except ε α}

theorem length_le (h : Rounds conv fatal exceeded n attempts result) : attempts.length ≤ n := by
  induction h with
  | exhausted => exact Nat.le_refl 0
  | concluded _ => simp
  | again _ _ ih => simpa using ih

/-- Either every round was wrong and the bound is reached, or the last round concludes. -/
theorem ending (h : Rounds conv fatal exceeded n attempts result) :
    (attempts.length = n ∧ (∀ attempt ∈ attempts, attempt.Wrong fatal) ∧
        result = .error exceeded) ∨
      ∃ front last, attempts = front ++ [last] ∧ (∀ attempt ∈ front, attempt.Wrong fatal) ∧
        Concludes conv fatal last result := by
  induction h with
  | exhausted => exact .inl ⟨rfl, by simp, rfl⟩
  | concluded h => exact .inr ⟨[], _, rfl, by simp, h⟩
  | again hwrong _ ih =>
    rcases ih with ⟨hlength, hall, hresult⟩ | ⟨front, last, rfl, hfront, hlast⟩
    · refine .inl ⟨by simpa using hlength, ?_, hresult⟩
      exact List.forall_mem_cons.mpr ⟨hwrong, hall⟩
    · refine .inr ⟨_ :: front, last, rfl, ?_, hlast⟩
      exact List.forall_mem_cons.mpr ⟨hwrong, hfront⟩

end Rounds

theorem countP_events (attempts : List (Attempt π κ ο α)) :
    (attempts.flatMap Attempt.events).countP RetryEvent.isPrompted = attempts.length := by
  induction attempts with
  | nil => rfl
  | cons attempt attempts ih =>
    have hone : attempt.events.countP RetryEvent.isPrompted = 1 := by
      cases attempt <;> rfl
    rw [List.flatMap_cons, List.countP_append, hone, ih, List.length_cons, Nat.add_comm]

theorem used_events (attempts : List (Attempt π κ ο α)) :
    (attempts.flatMap Attempt.events).filterMap RetryEvent.used =
      (attempts.flatMap Attempt.events).filterMap RetryEvent.obtained := by
  induction attempts with
  | nil => rfl
  | cons attempt attempts ih =>
    have hone : attempt.events.filterMap RetryEvent.used =
        attempt.events.filterMap RetryEvent.obtained := by
      cases attempt <;> rfl
    rw [List.flatMap_cons, List.filterMap_append, List.filterMap_append, hone, ih]

/-- Rounds keep the budget, if only an exhausted loop returns the error for it. -/
theorem withinBudget_of_rounds (hconv : ∀ e, conv e ≠ exceeded)
    (hfatal : ∀ o, fatal o ≠ some exceeded) {n : ℕ} {attempts : List (Attempt π κ ο α)}
    {result : Except ε α} (h : Rounds conv fatal exceeded n attempts result) :
    WithinBudget conv fatal exceeded n (attempts.flatMap Attempt.events) result := by
  have hexceeded : ∀ {last : Attempt π κ ο α}, Concludes conv fatal last result →
      result ≠ .error exceeded := by
    intro last hlast heq
    subst heq
    generalize hr : (.error exceeded : Except ε α) = r at hlast
    cases hlast with
    | unanswered e => exact hconv e (Except.error.inj hr).symm
    | success secret a => cases hr
    | fatal secret hf => exact hfatal _ (by rw [hf, Except.error.inj hr])
  refine ⟨by rw [countP_events]; exact h.length_le, used_events attempts, attempts, rfl, ?_⟩
  rcases h.ending with ⟨hlength, hall, hresult⟩ | ⟨front, last, rfl, hfront, hlast⟩
  · refine ⟨fun attempt hmem => hall attempt (List.dropLast_subset attempts hmem), ?_, ?_, ?_⟩
    · intro a
      rw [hresult]
      refine ⟨fun heq => (by cases heq), ?_⟩
      rintro ⟨secret, hlast⟩
      exact absurd (hall _ (List.mem_of_getLast? hlast)) id
    · exact ⟨fun _ => ⟨hlength, hall⟩, fun _ => hresult⟩
    · exact fun hne => absurd hresult hne
  · refine ⟨by simpa using hfront, ?_, ?_, ?_⟩
    · intro a
      rw [hlast.ok_iff a]
      simp
    · refine ⟨fun heq => absurd heq (hexceeded hlast), ?_⟩
      rintro ⟨-, hall⟩
      exact absurd (hall last (by simp)) hlast.not_wrong
    · exact fun _ => ⟨last, by simp, hlast⟩

end

end PamCertauth.RetryLoops
