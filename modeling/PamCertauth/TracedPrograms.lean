import PamCertauth.FallibleComputations
import Mathlib.Control.Basic

/-!
# Programs that call an environment

A program runs against an environment of arbitrary state, may fail, and logs the
calls it makes. A run is the result, the final environment and the calls in their
order, so that statements about a program can speak about what it did on the way
as well as about what it returned. The rules below take a sequence of programs
apart: a successful run of a sequence consists of successful runs of its parts,
and a program logs only calls of some kind when its parts do.
-/

namespace PamCertauth

/-- What a program did: its result, the environment it left and the calls it made. -/
structure Run (σ ω ε α : Type) where
  result : Except ε α
  env : σ
  calls : List ω

theorem Run.eq_of_result {σ ω ε α : Type} {r : Run σ ω ε α} {x : Except ε α}
    (h : r.result = x) : r = ⟨x, r.env, r.calls⟩ := by
  rw [← h]

theorem Run.ok_inj {σ ω ε α : Type} {r : Run σ ω ε α} {a a' : α} {s s' : σ} {t t' : List ω}
    (h : r = ⟨.ok a, s, t⟩) (h' : r = ⟨.ok a', s', t'⟩) : a = a' ∧ s = s' ∧ t = t' := by
  rw [h] at h'
  cases h'
  exact ⟨rfl, rfl, rfl⟩

/-- The run succeeded or made a call outside `P`. -/
def Run.Beyond {σ ω ε α : Type} (P : ω → Prop) (r : Run σ ω ε α) : Prop :=
  (∃ a, r.result = .ok a) ∨ ∃ c ∈ r.calls, ¬ P c

/-- The first run made the calls `t`, went on like the second one and may have made
further calls behind it. -/
structure Run.Continues {σ ω ε α : Type} (r : Run σ ω ε α) (t : List ω) (r' : Run σ ω ε α) :
    Prop where
  result : r.result = r'.result
  calls : ∃ extra, r.calls = t ++ (r'.calls ++ extra)

theorem Run.Continues.trans {σ ω ε α : Type} {r r₁ r₂ : Run σ ω ε α} {t₁ t₂ : List ω}
    (h₁ : r.Continues t₁ r₁) (h₂ : r₁.Continues t₂ r₂) : r.Continues (t₁ ++ t₂) r₂ := by
  obtain ⟨hresult₁, extra₁, hcalls₁⟩ := h₁
  obtain ⟨hresult₂, extra₂, hcalls₂⟩ := h₂
  refine ⟨hresult₁.trans hresult₂, extra₂ ++ extra₁, ?_⟩
  rw [hcalls₁, hcalls₂]
  simp only [List.append_assoc]

/-- Programs over environments of type `σ` that log calls of type `ω`. -/
def Prog (σ ω ε α : Type) : Type := σ → Run σ ω ε α

/-- The run ends with this result and in this environment, whatever it has logged. -/
structure Run.Yields {σ ω ε α : Type} (r : Run σ ω ε α) (x : Except ε α) (s : σ) : Prop where
  result : r.result = x
  env : r.env = s

theorem Run.Yields.eq {σ ω ε α : Type} {r : Run σ ω ε α} {x : Except ε α} {s : σ}
    (h : r.Yields x s) : r = ⟨x, s, r.calls⟩ := by
  rw [← h.result, ← h.env]

namespace Prog

variable {σ ω ε ε' α β γ : Type}

protected def pure (a : α) : Prog σ ω ε α := fun s => ⟨.ok a, s, []⟩

protected def bind (p : Prog σ ω ε α) (f : α → Prog σ ω ε β) : Prog σ ω ε β := fun s =>
  match p s with
  | ⟨.error e, s₁, t₁⟩ => ⟨.error e, s₁, t₁⟩
  | ⟨.ok a, s₁, t₁⟩ =>
    let r := f a s₁
    ⟨r.result, r.env, t₁ ++ r.calls⟩

instance : Monad (Prog σ ω ε) where
  pure := Prog.pure
  bind := Prog.bind

/-- Stop with an error. -/
def fail (e : ε) : Prog σ ω ε α := fun s => ⟨.error e, s, []⟩

/-- The outcome of a computation without effects. -/
def ofExcept (x : Except ε α) : Prog σ ω ε α := fun s => ⟨x, s, []⟩

/-- Ask the environment and log the call together with its answer. -/
def call (op : σ → β × σ) (entry : β → ω) : Prog σ ω ε β := fun s =>
  ⟨.ok (op s).1, (op s).2, [entry (op s).1]⟩

/-- Translate the errors of a program. -/
def mapError (f : ε → ε') (p : Prog σ ω ε α) : Prog σ ω ε' α := fun s =>
  let r := p s
  ⟨r.result.mapError f, r.env, r.calls⟩

/-- Log the calls of a program as calls of another type. -/
def mapCalls {ω' : Type} (f : ω → ω') (p : Prog σ ω ε α) : Prog σ ω' ε α := fun s =>
  let r := p s
  ⟨r.result, r.env, r.calls.map f⟩

/-- Ask the environment for an answer that may be an error. -/
def request (op : σ → Except ε' β × σ) (entry : Except ε' β → ω) (f : ε' → ε) : Prog σ ω ε β :=
  Prog.bind (call op entry) fun answer => ofExcept (answer.mapError f)

/-- Run a program, and a cleanup behind it if the program fails. -/
def onFailure (p : Prog σ ω ε α) (cleanup : Prog σ ω ε Unit) : Prog σ ω ε α := fun s =>
  match p s with
  | ⟨.error e, s₁, t₁⟩ =>
    let r := cleanup s₁
    ⟨.error e, r.env, t₁ ++ r.calls⟩
  | r => r

/-- Run a program, and give back what it has used, whatever its result is. -/
def closing (close : σ → σ) (p : Prog σ ω ε α) : Prog σ ω ε α := fun s =>
  let r := p s
  ⟨r.result, close r.env, r.calls⟩

/-- Log a remark of the program's own, which asks nothing of the environment. -/
def note (entry : ω) : Prog σ ω ε Unit := fun s => ⟨.ok (), s, [entry]⟩

/-- Keep of a program's log what `f` shows. -/
def project {ω' : Type} (f : ω → Option ω') (p : Prog σ ω ε α) : Prog σ ω' ε α := fun s =>
  let r := p s
  ⟨r.result, r.env, r.calls.filterMap f⟩

/-- Run a program and keep its failure as a value. -/
def attempt (p : Prog σ ω ε α) : Prog σ ω ε' (Except ε α) := fun s =>
  let r := p s
  ⟨.ok r.result, r.env, r.calls⟩

@[simp] theorem pure_apply (a : α) (s : σ) :
    (pure a : Prog σ ω ε α) s = ⟨.ok a, s, []⟩ := rfl

@[simp] theorem fail_apply (e : ε) (s : σ) : (fail e : Prog σ ω ε α) s = ⟨.error e, s, []⟩ := rfl

@[simp] theorem ofExcept_apply (x : Except ε α) (s : σ) :
    (ofExcept x : Prog σ ω ε α) s = ⟨x, s, []⟩ := rfl

theorem bind_of_ok {p : Prog σ ω ε α} {f : α → Prog σ ω ε β} {s s₁ : σ} {a : α} {t₁ : List ω}
    (h : p s = ⟨.ok a, s₁, t₁⟩) :
    (p >>= f) s = ⟨(f a s₁).result, (f a s₁).env, t₁ ++ (f a s₁).calls⟩ := by
  change Prog.bind p f s = _
  rw [Prog.bind, h]

theorem bind_of_error {p : Prog σ ω ε α} {f : α → Prog σ ω ε β} {s s₁ : σ} {e : ε} {t₁ : List ω}
    (h : p s = ⟨.error e, s₁, t₁⟩) : (p >>= f) s = ⟨.error e, s₁, t₁⟩ := by
  change Prog.bind p f s = _
  rw [Prog.bind, h]

theorem yields_bind {p : Prog σ ω ε α} {f : α → Prog σ ω ε β} {s s₁ s₂ : σ} {a : α}
    {x : Except ε β} (hp : (p s).Yields (.ok a) s₁) (hf : (f a s₁).Yields x s₂) :
    ((p >>= f) s).Yields x s₂ := by
  rw [bind_of_ok hp.eq]
  exact ⟨hf.result, hf.env⟩

theorem yields_bind_error {p : Prog σ ω ε α} {f : α → Prog σ ω ε β} {s s₁ : σ} {e : ε}
    (hp : (p s).Yields (.error e) s₁) : ((p >>= f) s).Yields (.error e) s₁ := by
  rw [bind_of_error hp.eq]
  exact ⟨rfl, rfl⟩

theorem bind_assoc (p : Prog σ ω ε α) (f : α → Prog σ ω ε β) (g : β → Prog σ ω ε γ) :
    p >>= f >>= g = p >>= fun a => f a >>= g := by
  funext s
  rcases hp : p s with ⟨e | a, s₁, t₁⟩
  · have hf := bind_of_error (f := f) hp
    rw [bind_of_error hp, bind_of_error hf]
  · have hf := bind_of_ok (f := f) hp
    rw [bind_of_ok hp]
    rcases hfa : f a s₁ with ⟨e | b, s₂, t₂⟩
    · rw [hfa] at hf
      rw [bind_of_error hf, bind_of_error hfa]
    · rw [hfa] at hf
      rw [bind_of_ok hf, bind_of_ok hfa, List.append_assoc]

/-- A call never stops a sequence. -/
theorem call_bind_apply (op : σ → γ × σ) (entry : γ → ω) (f : γ → Prog σ ω ε β) (s : σ) :
    (call op entry >>= f) s =
      ⟨(f (op s).1 (op s).2).result, (f (op s).1 (op s).2).env,
        entry (op s).1 :: (f (op s).1 (op s).2).calls⟩ := rfl

/-- Neither does a program whose failure is kept. -/
theorem attempt_bind_apply (p : Prog σ ω ε α) (f : Except ε α → Prog σ ω ε' β) (s : σ) :
    (attempt p >>= f) s =
      ⟨(f (p s).result (p s).env).result, (f (p s).result (p s).env).env,
        (p s).calls ++ (f (p s).result (p s).env).calls⟩ := rfl

theorem onFailure_of_error {p : Prog σ ω ε α} {cleanup : Prog σ ω ε Unit} {s s₁ : σ} {e : ε}
    {t₁ : List ω} (h : p s = ⟨.error e, s₁, t₁⟩) :
    onFailure p cleanup s = ⟨.error e, (cleanup s₁).env, t₁ ++ (cleanup s₁).calls⟩ := by
  rw [onFailure, h]

theorem result_bind_of_error {p : Prog σ ω ε α} {f : α → Prog σ ω ε β} {s : σ} {e : ε}
    (h : (p s).result = .error e) : ((p >>= f) s).result = .error e := by
  rcases hp : p s with ⟨r, s₁, t₁⟩
  rw [hp] at h
  cases h
  rw [bind_of_error hp]

/-- Two sequences with one first part run alike when their second parts do. -/
theorem bind_congr_of_ok {p : Prog σ ω ε α} {f g : α → Prog σ ω ε β} {s s₁ : σ} {a : α}
    {t₁ : List ω} (h : p s = ⟨.ok a, s₁, t₁⟩) (hfg : f a s₁ = g a s₁) :
    (p >>= f) s = (p >>= g) s := by
  rw [bind_of_ok h, bind_of_ok h, hfg]

theorem bind_congr_left {p q : Prog σ ω ε α} {f : α → Prog σ ω ε β} {s : σ} (h : p s = q s) :
    (p >>= f) s = (q >>= f) s := by
  change Prog.bind p f s = Prog.bind q f s
  rw [Prog.bind, Prog.bind, h]

theorem onFailure_congr {p q : Prog σ ω ε α} {cleanup : Prog σ ω ε Unit} {s : σ}
    (h : p s = q s) : onFailure p cleanup s = onFailure q cleanup s := by
  rw [onFailure, h]
  rfl

/-- A sequence succeeds when its parts do, one after the other. -/
theorem bind_eq_ok_iff {p : Prog σ ω ε α} {f : α → Prog σ ω ε β} {s s' : σ} {b : β} {t : List ω} :
    (p >>= f) s = ⟨.ok b, s', t⟩ ↔
      ∃ a s₁ t₁ t₂, p s = ⟨.ok a, s₁, t₁⟩ ∧ f a s₁ = ⟨.ok b, s', t₂⟩ ∧ t = t₁ ++ t₂ := by
  rcases hp : p s with ⟨e | a, s₁, t₁⟩
  · rw [bind_of_error hp]
    simp
  · rw [bind_of_ok hp]
    rcases hf : f a s₁ with ⟨r, s₂, t₂⟩
    constructor
    · intro h
      cases h
      exact ⟨a, s₁, t₁, t₂, rfl, hf, rfl⟩
    · intro hparts
      obtain ⟨a', s₁', t₁', t₂', hp', hf', rfl⟩ := hparts
      cases hp'
      rw [hf] at hf'
      cases hf'
      rfl

/-- A sequence either stops in its first part or continues with its second. -/
theorem bind_cases (p : Prog σ ω ε α) (f : α → Prog σ ω ε β) (s : σ) :
    (∃ e s₁ t₁, p s = ⟨.error e, s₁, t₁⟩ ∧ (p >>= f) s = ⟨.error e, s₁, t₁⟩) ∨
      ∃ a s₁ t₁, p s = ⟨.ok a, s₁, t₁⟩ ∧
        (p >>= f) s = ⟨(f a s₁).result, (f a s₁).env, t₁ ++ (f a s₁).calls⟩ := by
  rcases hp : p s with ⟨e | a, s₁, t₁⟩
  · exact .inl ⟨e, s₁, t₁, rfl, bind_of_error hp⟩
  · exact .inr ⟨a, s₁, t₁, rfl, bind_of_ok hp⟩

theorem mapError_eq_ok_iff {f : ε → ε'} {p : Prog σ ω ε α} {s s' : σ} {a : α} {t : List ω} :
    mapError f p s = ⟨.ok a, s', t⟩ ↔ p s = ⟨.ok a, s', t⟩ := by
  rcases hp : p s with ⟨e | b, s₁, t₁⟩ <;> simp [mapError, hp, Except.mapError]

theorem closing_eq_ok {close : σ → σ} {p : Prog σ ω ε α} {s s' : σ} {a : α} {t : List ω}
    (h : closing close p s = ⟨.ok a, s', t⟩) : ∃ s₁, p s = ⟨.ok a, s₁, t⟩ ∧ close s₁ = s' := by
  rcases hp : p s with ⟨x, s₁, t₁⟩
  rw [closing, hp] at h
  cases h
  exact ⟨s₁, rfl, rfl⟩

theorem onFailure_eq_ok_iff {p : Prog σ ω ε α} {cleanup : Prog σ ω ε Unit} {s s' : σ} {a : α}
    {t : List ω} : onFailure p cleanup s = ⟨.ok a, s', t⟩ ↔ p s = ⟨.ok a, s', t⟩ := by
  rcases hp : p s with ⟨e | b, s₁, t₁⟩ <;> simp [onFailure, hp]

theorem attempt_eq_ok_iff {p : Prog σ ω ε α} {s s' : σ} {r : Except ε α} {t : List ω} :
    (attempt p : Prog σ ω ε' (Except ε α)) s = ⟨.ok r, s', t⟩ ↔ p s = ⟨r, s', t⟩ := by
  rcases hp : p s with ⟨r', s₁, t₁⟩
  simp [attempt, hp]

theorem call_eq_ok_iff {op : σ → β × σ} {entry : β → ω} {s s' : σ} {b : β} {t : List ω} :
    (call op entry : Prog σ ω ε β) s = ⟨.ok b, s', t⟩ ↔ op s = (b, s') ∧ t = [entry b] := by
  rcases hop : op s with ⟨b', s₁⟩
  simp only [call, hop, Run.mk.injEq, Except.ok.injEq, Prod.mk.injEq]
  constructor
  · rintro ⟨rfl, rfl, rfl⟩
    exact ⟨⟨rfl, rfl⟩, rfl⟩
  · rintro ⟨⟨rfl, rfl⟩, rfl⟩
    exact ⟨rfl, rfl, rfl⟩

theorem request_eq_ok_iff {op : σ → Except ε' β × σ} {entry : Except ε' β → ω} {f : ε' → ε}
    {s s' : σ} {b : β} {t : List ω} :
    request op entry f s = ⟨.ok b, s', t⟩ ↔ op s = (.ok b, s') ∧ t = [entry (.ok b)] := by
  change (call op entry >>= fun answer => ofExcept (answer.mapError f)) s = _ ↔ _
  rw [bind_eq_ok_iff]
  constructor
  · intro hparts
    obtain ⟨e | b', s₁, t₁, t₂, hcall, hanswer, rfl⟩ := hparts
    · cases hanswer
    · cases hanswer
      simpa using call_eq_ok_iff.mp hcall
  · intro hparts
    obtain ⟨hop, rfl⟩ := hparts
    exact ⟨.ok b, s', _, [], call_eq_ok_iff.mpr ⟨hop, rfl⟩, rfl, by simp⟩

theorem request_of_error {op : σ → Except ε' β × σ} {entry : Except ε' β → ω} {f : ε' → ε}
    {e : ε'} {s s₁ : σ} (h : op s = (.error e, s₁)) :
    request op entry f s = ⟨.error (f e), s₁, [entry (.error e)]⟩ := by
  simp [request, Prog.bind, call, Except.mapError, h]

theorem yields_request {op : σ → Except ε' β × σ} {entry : Except ε' β → ω} {f : ε' → ε}
    {x : Except ε' β} {s s₁ : σ} (h : op s = (x, s₁)) :
    (request op entry f s).Yields (x.mapError f) s₁ := by
  simp only [request, Prog.bind, call, ofExcept, h]
  exact ⟨rfl, rfl⟩

theorem request_of_ok {op : σ → Except ε' β × σ} {entry : Except ε' β → ω} {f : ε' → ε}
    {b : β} {s s₁ : σ} (h : op s = (.ok b, s₁)) :
    request op entry f s = ⟨.ok b, s₁, [entry (.ok b)]⟩ :=
  request_eq_ok_iff.mpr ⟨h, rfl⟩

/-- Every call that the program can make, whatever the environment, satisfies `P`. -/
def LogsOnly (P : ω → Prop) (p : Prog σ ω ε α) : Prop := ∀ s, ∀ c ∈ (p s).calls, P c

namespace LogsOnly

variable {P : ω → Prop}

theorem mono {Q : ω → Prop} {p : Prog σ ω ε α} (hp : LogsOnly P p) (h : ∀ c, P c → Q c) :
    LogsOnly Q p := fun s c hc => h c (hp s c hc)

theorem pure (a : α) : LogsOnly P (Pure.pure a : Prog σ ω ε α) := by
  simp [LogsOnly]

theorem fail (e : ε) : LogsOnly P (Prog.fail e : Prog σ ω ε α) := by
  simp [LogsOnly]

theorem ofExcept (x : Except ε α) : LogsOnly P (Prog.ofExcept x : Prog σ ω ε α) := by
  simp [LogsOnly]

/-- What the first part yields may be used for the log of the rest. -/
theorem bind_of_result {Q : α → Prop} {p : Prog σ ω ε α} {f : α → Prog σ ω ε β}
    (hp : LogsOnly P p) (hresult : ∀ s s' a t, p s = ⟨.ok a, s', t⟩ → Q a)
    (hf : ∀ a, Q a → LogsOnly P (f a)) : LogsOnly P (p >>= f) := by
  intro s c hc
  rcases bind_cases p f s with ⟨e, s₁, t₁, hrun, heq⟩ | ⟨a, s₁, t₁, hrun, heq⟩
  · rw [heq] at hc
    exact hp s c (by rw [hrun]; exact hc)
  · rw [heq] at hc
    rcases List.mem_append.mp hc with hc | hc
    · exact hp s c (by rw [hrun]; exact hc)
    · exact hf a (hresult s s₁ a t₁ hrun) s₁ c hc

theorem bind {p : Prog σ ω ε α} {f : α → Prog σ ω ε β} (hp : LogsOnly P p)
    (hf : ∀ a, LogsOnly P (f a)) : LogsOnly P (p >>= f) :=
  hp.bind_of_result (fun _ _ _ _ _ => trivial) fun a _ => hf a

theorem call {op : σ → β × σ} {entry : β → ω} (h : ∀ b, P (entry b)) :
    LogsOnly P (Prog.call op entry : Prog σ ω ε β) := by
  intro s c hc
  rw [List.mem_singleton.mp hc]
  exact h _

/-- The answers that the environment can give are enough. -/
theorem call_answer {op : σ → β × σ} {entry : β → ω} (h : ∀ s, P (entry (op s).1)) :
    LogsOnly P (Prog.call op entry : Prog σ ω ε β) := by
  intro s c hc
  rw [List.mem_singleton.mp hc]
  exact h s

theorem mapError {f : ε → ε'} {p : Prog σ ω ε α} (hp : LogsOnly P p) :
    LogsOnly P (Prog.mapError f p) := fun s c hc => hp s c hc

theorem mapCalls {ω' : Type} {f : ω' → ω} {p : Prog σ ω' ε α} (h : ∀ c, P (f c)) :
    LogsOnly P (Prog.mapCalls f p) := by
  intro s c hc
  obtain ⟨c', -, rfl⟩ := List.mem_map.mp hc
  exact h c'

theorem request {op : σ → Except ε' β × σ} {entry : Except ε' β → ω} {f : ε' → ε}
    (h : ∀ b, P (entry b)) : LogsOnly P (Prog.request op entry f) :=
  bind (call h) fun _ => ofExcept _

theorem attempt {p : Prog σ ω ε α} (hp : LogsOnly P p) :
    LogsOnly P (Prog.attempt p : Prog σ ω ε' (Except ε α)) := fun s c hc => hp s c hc

theorem onFailure {p : Prog σ ω ε α} {cleanup : Prog σ ω ε Unit} (hp : LogsOnly P p)
    (hc : LogsOnly P cleanup) : LogsOnly P (Prog.onFailure p cleanup) := by
  intro s c hmem
  rcases hrun : p s with ⟨e | a, s₁, t₁⟩
  · simp only [Prog.onFailure, hrun] at hmem
    rcases List.mem_append.mp hmem with hmem | hmem
    · exact hp s c (by rw [hrun]; exact hmem)
    · exact hc s₁ c hmem
  · simp only [Prog.onFailure, hrun] at hmem
    exact hp s c (by rw [hrun]; exact hmem)

end LogsOnly

/-- The program keeps `I` true of the environment, however it ends. -/
def Preserves (I : σ → Prop) (p : Prog σ ω ε α) : Prop := ∀ s, I s → I (p s).env

namespace Preserves

variable {I : σ → Prop}

theorem pure (a : α) : Preserves I (Pure.pure a : Prog σ ω ε α) := fun _ h => h

theorem ofExcept (x : Except ε α) : Preserves I (Prog.ofExcept x : Prog σ ω ε α) := fun _ h => h

theorem call {op : σ → β × σ} {entry : β → ω} (h : ∀ s, I s → I (op s).2) :
    Preserves I (Prog.call op entry : Prog σ ω ε β) := h

theorem attempt {p : Prog σ ω ε α} (hp : Preserves I p) :
    Preserves I (Prog.attempt p : Prog σ ω ε' (Except ε α)) := hp

theorem fail (e : ε) : Preserves I (Prog.fail e : Prog σ ω ε α) := fun _ h => h

theorem mapError {f : ε → ε'} {p : Prog σ ω ε α} (hp : Preserves I p) :
    Preserves I (Prog.mapError f p) := hp

theorem request {op : σ → Except ε' β × σ} {entry : Except ε' β → ω} {f : ε' → ε}
    (h : ∀ s, I s → I (op s).2) : Preserves I (Prog.request op entry f) := h

theorem bind {p : Prog σ ω ε α} {f : α → Prog σ ω ε β} (hp : Preserves I p)
    (hf : ∀ a, Preserves I (f a)) : Preserves I (p >>= f) := by
  intro s hs
  have hfirst := hp s hs
  rcases bind_cases p f s with ⟨e, s₁, t₁, hrun, heq⟩ | ⟨a, s₁, t₁, hrun, heq⟩
  · rw [heq]
    rw [hrun] at hfirst
    exact hfirst
  · rw [heq]
    rw [hrun] at hfirst
    exact hf a s₁ hfirst

end Preserves

/-- From every environment with `P` the program ends with `Q` of its result and environment. -/
def Ensures (P : σ → Prop) (p : Prog σ ω ε α) (Q : Except ε α → σ → Prop) : Prop :=
  ∀ s, P s → Q (p s).result (p s).env

namespace Ensures

variable {P : σ → Prop} {Q : Except ε α → σ → Prop}

theorem request {op : σ → Except ε' α × σ} {entry : Except ε' α → ω} {f : ε' → ε}
    (h : ∀ s, P s → Q ((op s).1.mapError f) (op s).2) : Ensures P (Prog.request op entry f) Q := h

theorem of_preserves {p : Prog σ ω ε α} (h : Preserves P p) : Ensures P p fun _ => P := h

theorem preserves {p : Prog σ ω ε α} (h : Ensures P p fun _ => P) : Preserves P p := h

theorem mapError {R : Except ε' α → σ → Prop} {f : ε → ε'} {p : Prog σ ω ε α}
    (h : Ensures P p fun x s => R (x.mapError f) s) : Ensures P (Prog.mapError f p) R := h

theorem bind {R : Except ε β → σ → Prop} {p : Prog σ ω ε α} {f : α → Prog σ ω ε β}
    (hp : Ensures P p Q) (hf : ∀ a, Ensures (Q (.ok a)) (f a) R)
    (herror : ∀ e s, Q (.error e) s → R (.error e) s) : Ensures P (p >>= f) R := by
  intro s hs
  have hfirst := hp s hs
  rcases bind_cases p f s with ⟨e, s₁, t₁, hrun, heq⟩ | ⟨a, s₁, t₁, hrun, heq⟩
  · rw [hrun] at hfirst
    rw [heq]
    exact herror e s₁ hfirst
  · rw [hrun] at hfirst
    rw [heq]
    exact hf a s₁ hfirst

theorem closing {R : Except ε α → σ → Prop} {close : σ → σ} {p : Prog σ ω ε α} (hp : Ensures P p Q)
    (hclose : ∀ x s, Q x s → R x (close s)) : Ensures P (Prog.closing close p) R :=
  fun s hs => hclose _ _ (hp s hs)

/-- The cleanup runs where the program failed. -/
theorem onFailure {R : Except ε α → σ → Prop} {p : Prog σ ω ε α} {cleanup : Prog σ ω ε Unit}
    (hp : Ensures P p Q) (hcleanup : ∀ e s, Q (.error e) s → R (.error e) (cleanup s).env)
    (hok : ∀ a s, Q (.ok a) s → R (.ok a) s) : Ensures P (Prog.onFailure p cleanup) R := by
  intro s hs
  have hfirst := hp s hs
  rcases hrun : p s with ⟨e | a, s₁, t₁⟩
  · rw [hrun] at hfirst
    rw [onFailure_of_error hrun]
    exact hcleanup e s₁ hfirst
  · rw [hrun] at hfirst
    simp only [Prog.onFailure, hrun]
    exact hok a s₁ hfirst

end Ensures

/-- From every environment with `P` the program, if it completes, ends with `Q`. -/
def Establishes (P : σ → Prop) (p : Prog σ ω ε α) (Q : α → σ → Prop) : Prop :=
  ∀ s s' a t, P s → p s = ⟨.ok a, s', t⟩ → Q a s'

namespace Establishes

variable {P : σ → Prop} {Q : α → σ → Prop}

theorem pure {a : α} (h : ∀ s, P s → Q a s) :
    Establishes P (Pure.pure a : Prog σ ω ε α) Q := by
  intro s s' b t hs hrun
  cases hrun
  exact h s hs

theorem fail (e : ε) : Establishes P (Prog.fail e : Prog σ ω ε α) Q := by
  intro s s' a t _ hrun
  cases hrun

theorem call {op : σ → β × σ} {entry : β → ω} {R : β → σ → Prop}
    (h : ∀ s, P s → R (op s).1 (op s).2) :
    Establishes P (Prog.call op entry : Prog σ ω ε β) R := by
  intro s s' b t hs hrun
  obtain ⟨hop, -⟩ := call_eq_ok_iff.mp hrun
  simpa [hop] using h s hs

theorem bind {p : Prog σ ω ε α} {f : α → Prog σ ω ε β} {R : β → σ → Prop}
    (hp : Establishes P p Q) (hf : ∀ a, Establishes (Q a) (f a) R) :
    Establishes P (p >>= f) R := by
  intro s s' b t hs hrun
  obtain ⟨a, s₁, t₁, t₂, hfirst, hrest, -⟩ := bind_eq_ok_iff.mp hrun
  exact hf a s₁ s' b t₂ (hp s s₁ a t₁ hs hfirst) hrest

/-- What the rest establishes from anywhere does not depend on the first part. -/
theorem after {p : Prog σ ω ε α} {f : α → Prog σ ω ε β} {R : β → σ → Prop}
    (hf : ∀ a, Establishes (fun _ => True) (f a) R) : Establishes P (p >>= f) R :=
  bind (Q := fun _ _ => True) (fun _ _ _ _ _ _ => trivial) hf

end Establishes

/-- The environments before and after a run and its log are related, however it ends. -/
def Relates (T : σ → List ω → σ → Prop) (p : Prog σ ω ε α) : Prop :=
  ∀ s, T s (p s).calls (p s).env

namespace Relates

variable {T : σ → List ω → σ → Prop}

theorem ofExcept (hrefl : ∀ s, T s [] s) (x : Except ε α) :
    Relates T (Prog.ofExcept x : Prog σ ω ε α) := hrefl

theorem attempt {p : Prog σ ω ε α} (hp : Relates T p) :
    Relates T (Prog.attempt p : Prog σ ω ε' (Except ε α)) := hp

theorem bind (htrans : ∀ s s₁ s₂ t₁ t₂, T s t₁ s₁ → T s₁ t₂ s₂ → T s (t₁ ++ t₂) s₂)
    {p : Prog σ ω ε α} {f : α → Prog σ ω ε β} (hp : Relates T p) (hf : ∀ a, Relates T (f a)) :
    Relates T (p >>= f) := by
  intro s
  have hfirst := hp s
  rcases bind_cases p f s with ⟨e, s₁, t₁, hrun, heq⟩ | ⟨a, s₁, t₁, hrun, heq⟩
  · rw [hrun] at hfirst
    rw [heq]
    exact hfirst
  · rw [hrun] at hfirst
    rw [heq]
    exact htrans _ _ _ _ _ hfirst (hf a s₁)

end Relates

/-- Two runs from environments that are alike stay alike and have one result, or they part. What
has parted stays so, whichever of the two goes on. -/
structure Tracks (Alike Apart : σ → σ → Prop) (p : Prog σ ω ε α) : Prop where
  alike : ∀ s s', Alike s s' →
    (p s).result = (p s').result ∧ Alike (p s).env (p s').env ∨ Apart (p s).env (p s').env
  left : ∀ s s', Apart s s' → Apart (p s).env s'
  right : ∀ s s', Apart s s' → Apart s (p s').env

namespace Tracks

variable {Alike Apart : σ → σ → Prop}

theorem ofExcept (x : Except ε α) : Tracks Alike Apart (Prog.ofExcept x : Prog σ ω ε α) :=
  ⟨fun _ _ h => .inl ⟨rfl, h⟩, fun _ _ h => h, fun _ _ h => h⟩

theorem call {op : σ → β × σ} {entry : β → ω}
    (halike : ∀ s s', Alike s s' →
      (op s).1 = (op s').1 ∧ Alike (op s).2 (op s').2 ∨ Apart (op s).2 (op s').2)
    (hleft : ∀ s s', Apart s s' → Apart (op s).2 s')
    (hright : ∀ s s', Apart s s' → Apart s (op s').2) :
    Tracks Alike Apart (Prog.call op entry : Prog σ ω ε β) :=
  ⟨fun s s' h => (halike s s' h).imp_left fun hsame => ⟨congrArg Except.ok hsame.1, hsame.2⟩,
    hleft, hright⟩

theorem attempt {p : Prog σ ω ε α} (hp : Tracks Alike Apart p) :
    Tracks Alike Apart (Prog.attempt p : Prog σ ω ε' (Except ε α)) :=
  ⟨fun s s' h => (hp.alike s s' h).imp_left fun hsame => ⟨congrArg Except.ok hsame.1, hsame.2⟩,
    hp.left, hp.right⟩

theorem bind {p : Prog σ ω ε α} {f : α → Prog σ ω ε β} (hp : Tracks Alike Apart p)
    (hf : ∀ a, Tracks Alike Apart (f a)) : Tracks Alike Apart (p >>= f) := by
  have hleft : ∀ s s', Apart (p s).env s' → Apart ((p >>= f) s).env s' := by
    intro s s' hapart
    rcases bind_cases p f s with ⟨e, s₁, t₁, hrun, heq⟩ | ⟨a, s₁, t₁, hrun, heq⟩
    · rw [heq]
      rwa [hrun] at hapart
    · rw [heq]
      rw [hrun] at hapart
      exact (hf a).left _ _ hapart
  have hright : ∀ s s', Apart s (p s').env → Apart s ((p >>= f) s').env := by
    intro s s' hapart
    rcases bind_cases p f s' with ⟨e, s₁, t₁, hrun, heq⟩ | ⟨a, s₁, t₁, hrun, heq⟩
    · rw [heq]
      rwa [hrun] at hapart
    · rw [heq]
      rw [hrun] at hapart
      exact (hf a).right _ _ hapart
  refine ⟨fun s s' halike => ?_, fun s s' h => hleft s s' (hp.left s s' h),
    fun s s' h => hright s s' (hp.right s s' h)⟩
  rcases hp.alike s s' halike with ⟨hresult, henv⟩ | hapart
  · rcases hrun : p s with ⟨e | a, s₁, t₁⟩ <;> rcases hrun' : p s' with ⟨e' | a', s₁', t₁'⟩ <;>
      rw [hrun, hrun'] at hresult henv <;> cases hresult
    · rw [bind_of_error hrun, bind_of_error hrun']
      exact .inl ⟨rfl, henv⟩
    · rw [bind_of_ok hrun, bind_of_ok hrun']
      exact (hf a).alike _ _ henv
  · exact .inr (hright _ _ (hleft _ _ hapart))

end Tracks

section

variable {ω' : Type} {f : ω → Option ω'}

@[simp] theorem project_pure (a : α) :
    project f (Pure.pure a : Prog σ ω ε α) = Pure.pure a := rfl

@[simp] theorem project_fail (e : ε) : project f (fail e : Prog σ ω ε α) = fail e := rfl

theorem project_attempt (p : Prog σ ω ε α) :
    project f (attempt p : Prog σ ω ε' (Except ε α)) = attempt (project f p) := rfl

theorem project_mapCalls {g : ω' → ω} (h : ∀ c, f (g c) = some c) (p : Prog σ ω' ε α) :
    project f (mapCalls g p) = p := by
  funext s
  rcases hp : p s with ⟨r, s₁, t₁⟩
  simp [project, mapCalls, hp, h]

theorem project_bind (p : Prog σ ω ε α) (k : α → Prog σ ω ε β) :
    project f (p >>= k) = project f p >>= fun a => project f (k a) := by
  funext s
  rcases hp : p s with ⟨e | a, s₁, t₁⟩
  · have hproject : project f p s = ⟨.error e, s₁, t₁.filterMap f⟩ := by rw [project, hp]
    rw [bind_of_error hproject, project, bind_of_error hp]
  · have hproject : project f p s = ⟨.ok a, s₁, t₁.filterMap f⟩ := by rw [project, hp]
    rw [bind_of_ok hproject, project, bind_of_ok hp]
    simp [project]

/-- A remark that is not shown leaves no trace. -/
theorem project_note_bind {entry : ω} (h : f entry = none) (k : Unit → Prog σ ω ε β) :
    project f (note entry >>= k) = project f (k ()) := by
  funext s
  have hnote : (note entry : Prog σ ω ε Unit) s = ⟨.ok (), s, [entry]⟩ := rfl
  rw [project, bind_of_ok hnote]
  simp [project, h]

theorem project_onFailure (p : Prog σ ω ε α) (cleanup : Prog σ ω ε Unit) :
    project f (onFailure p cleanup) = onFailure (project f p) (project f cleanup) := by
  funext s
  rcases hp : p s with ⟨e | a, s₁, t₁⟩ <;> simp [project, onFailure, hp]

end

theorem continues_bind_of_ok {p : Prog σ ω ε α} {f : α → Prog σ ω ε β} {s s₁ : σ} {a : α}
    {t₁ : List ω} (h : p s = ⟨.ok a, s₁, t₁⟩) : ((p >>= f) s).Continues t₁ (f a s₁) := by
  rw [bind_of_ok h]
  exact ⟨rfl, [], by simp⟩

theorem continues_closing (close : σ → σ) (p : Prog σ ω ε α) (s : σ) :
    (closing close p s).Continues [] (p s) :=
  ⟨rfl, [], (List.append_nil _).symm⟩

theorem continues_onFailure (p : Prog σ ω ε α) (cleanup : Prog σ ω ε Unit) (s : σ) :
    (onFailure p cleanup s).Continues [] (p s) := by
  rcases hrun : p s with ⟨e | a, s₁, t₁⟩
  · simp only [onFailure, hrun]
    exact ⟨rfl, _, rfl⟩
  · simp only [onFailure, hrun]
    exact ⟨rfl, [], by simp⟩

theorem beyond_bind {P : ω → Prop} {p : Prog σ ω ε α} {f : α → Prog σ ω ε β} {s : σ}
    (h : ((p >>= f) s).Beyond P) (hp : LogsOnly P p) :
    ∃ a s₁ t₁, p s = ⟨.ok a, s₁, t₁⟩ ∧ (f a s₁).Beyond P ∧
      ((p >>= f) s).Continues t₁ (f a s₁) := by
  rcases bind_cases p f s with ⟨e, s₁, t₁, hrun, heq⟩ | ⟨a, s₁, t₁, hrun, heq⟩
  · rw [heq] at h
    rcases h with ⟨a, ha⟩ | ⟨c, hc, hnot⟩
    · cases ha
    · exact absurd (hp s c (by rw [hrun]; exact hc)) hnot
  · refine ⟨a, s₁, t₁, hrun, ?_, continues_bind_of_ok hrun⟩
    rw [heq] at h
    rcases h with hok | ⟨c, hc, hnot⟩
    · exact .inl hok
    · rcases List.mem_append.mp hc with hc | hc
      · exact absurd (hp s c (by rw [hrun]; exact hc)) hnot
      · exact .inr ⟨c, hc, hnot⟩

theorem beyond_onFailure {P : ω → Prop} {p : Prog σ ω ε α} {cleanup : Prog σ ω ε Unit} {s : σ}
    (h : (onFailure p cleanup s).Beyond P) (hcleanup : LogsOnly P cleanup) : (p s).Beyond P := by
  rcases hrun : p s with ⟨e | a, s₁, t₁⟩
  · have heq : onFailure p cleanup s = ⟨.error e, (cleanup s₁).env, t₁ ++ (cleanup s₁).calls⟩ := by
      simp only [onFailure, hrun]
    rw [heq] at h
    rcases h with ⟨a, ha⟩ | ⟨c, hc, hnot⟩
    · cases ha
    · rcases List.mem_append.mp hc with hc | hc
      · exact .inr ⟨c, hc, hnot⟩
      · exact absurd (hcleanup s₁ c hc) hnot
  · exact .inl ⟨a, rfl⟩

end Prog
end PamCertauth
