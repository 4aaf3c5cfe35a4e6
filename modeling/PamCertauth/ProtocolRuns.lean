import PamCertauth.TracedPrograms
import Mathlib.Data.Option.Basic

/-!
# Protocols

A protocol says which events may come next: it has states, and an event leads from one to
another or is not allowed. A program obeys it from a state on when every log that it can produce
is allowed. The rules below follow the programs: a sequence obeys the protocol when its second
part does from every state in which the first can leave it.
-/

namespace PamCertauth

namespace ProtocolRuns

variable {S E : Type*} (next : S → E → Option S)

/-- The state of a protocol after these events, if it allows them. -/
def run (s : S) : List E → Option S
  | [] => some s
  | e :: es => (next s e).bind fun s' => run s' es

variable {next}

@[simp] theorem run_nil (s : S) : run next s [] = some s := rfl

@[simp] theorem run_cons (s : S) (e : E) (es : List E) :
    run next s (e :: es) = (next s e).bind fun s' => run next s' es := rfl

theorem run_append (s : S) (es es' : List E) :
    run next s (es ++ es') = (run next s es).bind fun s' => run next s' es' := by
  induction es generalizing s with
  | nil => rfl
  | cons e es ih =>
    rw [List.cons_append, run_cons, run_cons, Option.bind_assoc]
    congr 1
    funext s'
    exact ih s'

/-- A log that is allowed goes through a state at each of its points. -/
theorem run_split {s s' : S} {es es' : List E} (h : run next s (es ++ es') = some s') :
    ∃ mid, run next s es = some mid ∧ run next mid es' = some s' := by
  rw [run_append] at h
  exact Option.bind_eq_some_iff.mp h

theorem run_uncons {s s' : S} {e : E} {es : List E} (h : run next s (e :: es) = some s') :
    ∃ mid, next s e = some mid ∧ run next mid es = some s' :=
  Option.bind_eq_some_iff.mp h

/-- The states around one event of an allowed log. -/
theorem run_around {s s' : S} {e : E} {es es' : List E} (h : run next s (es ++ e :: es') = some s') :
    ∃ mid mid', run next s es = some mid ∧ next mid e = some mid' ∧ run next mid' es' = some s' := by
  obtain ⟨mid, hfront, hrest⟩ := run_split h
  obtain ⟨mid', hstep, hrest⟩ := run_uncons hrest
  exact ⟨mid, mid', hfront, hstep, hrest⟩

theorem run_concat {s mid s' : S} {es : List E} {e : E} (h : run next s es = some mid)
    (hstep : next mid e = some s') : run next s (es ++ [e]) = some s' := by
  rw [run_append, h, Option.bind_some, run_cons, hstep]
  rfl

end ProtocolRuns

namespace Prog

open ProtocolRuns

variable {S σ ω ε ε' α β : Type} {next : S → ω → Option S} {q : S}

/-- The log is allowed from `q` on, and leads to a state that fits the result. -/
def Obeys (next : S → ω → Option S) (q : S) (p : Prog σ ω ε α) (Q : Except ε α → S → Prop) : Prop :=
  ∀ s, ∃ q', run next q (p s).calls = some q' ∧ Q (p s).result q'

namespace Obeys

variable {Q : Except ε α → S → Prop}

theorem pure {a : α} (h : Q (.ok a) q) : Obeys next q (Pure.pure a : Prog σ ω ε α) Q :=
  fun _ => ⟨q, rfl, h⟩

theorem fail {e : ε} (h : Q (.error e) q) : Obeys next q (Prog.fail e : Prog σ ω ε α) Q :=
  fun _ => ⟨q, rfl, h⟩

theorem call {op : σ → α × σ} {entry : α → ω}
    (h : ∀ a, ∃ q', next q (entry a) = some q' ∧ Q (.ok a) q') :
    Obeys next q (Prog.call op entry : Prog σ ω ε α) Q := by
  intro s
  obtain ⟨q', hnext, hq'⟩ := h (op s).1
  refine ⟨q', ?_, hq'⟩
  rw [Prog.call, run_cons, hnext]
  rfl

theorem mapError {R : Except ε' α → S → Prop} {f : ε → ε'} {p : Prog σ ω ε α}
    (h : Obeys next q p fun x => R (x.mapError f)) : Obeys next q (Prog.mapError f p) R := h

/-- The cleanup follows where the program failed. -/
theorem onFailure {R : Except ε α → S → Prop} {p : Prog σ ω ε α} {cleanup : Prog σ ω ε Unit}
    (hp : Obeys next q p Q)
    (hcleanup : ∀ e q', Q (.error e) q' → Obeys next q' cleanup fun _ => R (.error e))
    (hok : ∀ a q', Q (.ok a) q' → R (.ok a) q') : Obeys next q (Prog.onFailure p cleanup) R := by
  intro s
  obtain ⟨q₁, hrun₁, hq₁⟩ := hp s
  rcases hfirst : p s with ⟨e | a, s₁, t₁⟩
  · rw [hfirst] at hrun₁ hq₁
    obtain ⟨q₂, hrun₂, hq₂⟩ := hcleanup e q₁ hq₁ s₁
    rw [onFailure_of_error hfirst]
    refine ⟨q₂, ?_, hq₂⟩
    rw [run_append, hrun₁, Option.bind_some, hrun₂]
  · rw [hfirst] at hrun₁ hq₁
    simp only [Prog.onFailure, hfirst]
    exact ⟨q₁, hrun₁, hok a q₁ hq₁⟩

theorem bind {R : Except ε β → S → Prop} {p : Prog σ ω ε α} {f : α → Prog σ ω ε β}
    (hp : Obeys next q p Q) (hf : ∀ a q', Q (.ok a) q' → Obeys next q' (f a) R)
    (herror : ∀ e q', Q (.error e) q' → R (.error e) q') : Obeys next q (p >>= f) R := by
  intro s
  obtain ⟨q₁, hrun₁, hq₁⟩ := hp s
  rcases bind_cases p f s with ⟨e, s₁, t₁, hfirst, heq⟩ | ⟨a, s₁, t₁, hfirst, heq⟩
  · rw [hfirst] at hrun₁ hq₁
    rw [heq]
    exact ⟨q₁, hrun₁, herror e q₁ hq₁⟩
  · rw [hfirst] at hrun₁ hq₁
    obtain ⟨q₂, hrun₂, hq₂⟩ := hf a q₁ hq₁ s₁
    rw [heq]
    refine ⟨q₂, ?_, hq₂⟩
    rw [run_append, hrun₁, Option.bind_some, hrun₂]

/-- The first part leads back to where it began. -/
theorem bind_of_keeps {R : Except ε β → S → Prop} {p : Prog σ ω ε α} {f : α → Prog σ ω ε β}
    (hp : Obeys next q p fun _ q' => q' = q) (hf : ∀ a, Obeys next q (f a) R)
    (herror : ∀ e, R (.error e) q) : Obeys next q (p >>= f) R := by
  refine bind hp (fun a q' hq' => ?_) fun e q' hq' => ?_
  · rw [hq']
    exact hf a
  · rw [hq']
    exact herror e

/-- A call never fails, so the rest follows it. -/
theorem call_bind {R : Except ε β → S → Prop} {op : σ → α × σ} {entry : α → ω}
    {f : α → Prog σ ω ε β} (h : ∀ a, ∃ q', next q (entry a) = some q' ∧ Obeys next q' (f a) R) :
    Obeys next q (Prog.call op entry >>= f) R := by
  intro s
  obtain ⟨q₁, hnext, hf⟩ := h (op s).1
  obtain ⟨q₂, hrun, hq₂⟩ := hf (op s).2
  refine ⟨q₂, ?_, hq₂⟩
  rw [call_bind_apply, run_cons, hnext, Option.bind_some, hrun]

/-- An attempt never fails either. -/
theorem attempt_bind {P : Except ε' α → S → Prop} {R : Except ε β → S → Prop} {p : Prog σ ω ε' α}
    {f : Except ε' α → Prog σ ω ε β} (hp : Obeys next q p P)
    (hf : ∀ x q', P x q' → Obeys next q' (f x) R) : Obeys next q (Prog.attempt p >>= f) R := by
  intro s
  obtain ⟨q₁, hrun₁, hq₁⟩ := hp s
  obtain ⟨q₂, hrun₂, hq₂⟩ := hf (p s).result q₁ hq₁ (p s).env
  rw [attempt_bind_apply]
  refine ⟨q₂, ?_, hq₂⟩
  rw [run_append, hrun₁, Option.bind_some, hrun₂]

theorem request {op : σ → Except ε' α × σ} {entry : Except ε' α → ω} {f : ε' → ε}
    (h : ∀ answer, ∃ q', next q (entry answer) = some q' ∧ Q (answer.mapError f) q') :
    Obeys next q (Prog.request op entry f) Q := by
  intro s
  obtain ⟨q', hnext, hq'⟩ := h (op s).1
  have hrun : Prog.request op entry f s = ⟨(op s).1.mapError f, (op s).2, [entry (op s).1]⟩ := rfl
  rw [hrun]
  refine ⟨q', ?_, hq'⟩
  rw [run_cons, hnext]
  rfl

end Obeys

end Prog

end PamCertauth
