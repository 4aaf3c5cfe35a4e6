import PamCertauth.SessionClosing

/-!
# The targets of dispatched actions

The target of a session is set when the session is opened, and again when the PAM module
learns the identifier of its logind session. A grace timer holds copies of the sessions that
were registered when it was armed. An action therefore carries the target that its session
had then, which is the current one exactly if no other target has been confirmed while the
timer was running.
-/

namespace PamCertauth.Monitord

open Ipc

/-- The target that a request asks for. -/
def IpcRequest.targetFor (x : Uuid) : IpcRequest → Option SessionTarget
  | .sessionOpen session => if session.sessionId = x then some session.target else none
  | .updateSessionTarget id newTarget => if id = x then some newTarget else none
  | _ => none

/-- The reply to a request. It is the last thing that the handler emits. -/
def answer (cfg : StateConfig) (m : Manager) (step : Step) : Option ServerMessage :=
  match m.running, step.input, (process cfg m step).log.getLast? with
  | true, .event (.ipc _), some (.reply message) => some message
  | _, _, _ => none

/-- The target that the session has from the reply of the step on, if the step sets it. -/
def settledTarget (cfg : StateConfig) (m : Manager) (step : Step) (x : Uuid) :
    Option SessionTarget :=
  match step.input, answer cfg m step with
  | .event (.ipc request), some message => if confirms message then request.targetFor x else none
  | _, _ => none

/-- The targets after `n` steps: what the last confirmed update or opening of a session has
set, or what the registry held at the start. -/
def targetAt (cfg : StateConfig) (m : Manager) (steps : ℕ → Step) :
    ℕ → Uuid → Option SessionTarget
  | 0, x => (m.registry.byId.lookup x).map ActiveSession.target
  | n + 1, x =>
    (settledTarget cfg (runFrom cfg m steps n) (steps n) x).or (targetAt cfg m steps n x)

/-- An action is requested with the target that its session has. -/
def Emission.Current (targets : Uuid → Option SessionTarget) : Emission → Prop
  | .dispatch _ (.handleUsbRemoved session _) => targets session.sessionId = some session.target
  | .reply _ => True

/-- The actions that are dispatched while step `n` is processed, up to its reply, and those
that are dispatched behind it carry the targets of that time. -/
def DispatchesCurrent (cfg : StateConfig) (m : Manager) (steps : ℕ → Step) (n : ℕ) : Prop :=
  Emits (Emission.Current (targetAt cfg m steps n)) (runFrom cfg m steps n)
      (process cfg (runFrom cfg m steps n) (steps n)) ∧
    Emits (Emission.Current (targetAt cfg m steps (n + 1)))
      (process cfg (runFrom cfg m steps n) (steps n)) (runFrom cfg m steps (n + 1))

/-- The step opens the session or updates its target, and is not rejected. -/
def SetsTarget (m : Manager) (step : Step) (x : Uuid) (target : SessionTarget) : Prop :=
  m.running = true ∧ ∃ request registry, step.input = .event (.ipc request) ∧
    RegistryChange step.isSerialPresent m.registry request registry ∧
    request.targetFor x = some target

/-- Where the step sets a target, the copies of the session in timers that run on after the
registry has been written have it already. -/
def CopiesAgree (m : Manager) (step : Step) : Prop :=
  ∀ x target, SetsTarget m step x target → ∀ t ∈ m.tasks,
    m.now + step.persistence.duration < t.deadline →
    ∀ session ∈ t.sessions, session.sessionId = x → session.target = target

section Settled

variable {cfg : StateConfig} {m : Manager} {step : Step} {x : Uuid} {target : SessionTarget}

theorem answer_of_send {m' : Manager} {message : ServerMessage} {request : IpcRequest}
    (hrunning : m.running = true) (hinput : step.input = .event (.ipc request))
    (h : process cfg m step = m'.send message) : answer cfg m step = some message := by
  have hlast : (process cfg m step).log.getLast? = some (.reply message) := by
    rw [h, Manager.send, List.getLast?_concat]
  rw [answer, hrunning, hinput, hlast]

theorem settledTarget_of_send {m' : Manager} {message : ServerMessage} {request : IpcRequest}
    (hrunning : m.running = true) (hinput : step.input = .event (.ipc request))
    (h : process cfg m step = m'.send message) :
    settledTarget cfg m step x = if confirms message then request.targetFor x else none := by
  rw [settledTarget, hinput, answer_of_send hrunning hinput h]

theorem settledTarget_of_unasked
    (h : m.running = true → ∀ request, step.input ≠ .event (.ipc request)) :
    settledTarget cfg m step x = none := by
  rw [settledTarget]
  split
  · next request message hinput hanswer =>
    by_cases hrunning : m.running = true
    · exact absurd hinput (h hrunning request)
    · rw [answer] at hanswer
      simp [hrunning] at hanswer
  · rfl

/-- The updates and openings that are confirmed are those that are not rejected. -/
theorem settledTarget_eq_some_iff :
    settledTarget cfg m step x = some target ↔ SetsTarget m step x target := by
  have heffect := process_effect cfg m step
  generalize hprocess : process cfg m step = m' at heffect
  cases heffect with
  | timers hunasked =>
    rw [settledTarget_of_unasked hunasked]
    constructor
    · nofun
    · intro hsets
      obtain ⟨hrunning, request, -, hinput, -⟩ := hsets
      exact absurd hinput (hunasked hrunning request)
  | answered hrunning hinput hunconfirmed hunchanged =>
    rw [settledTarget_of_send hrunning hinput hprocess, hunconfirmed]
    constructor
    · nofun
    · intro hsets
      obtain ⟨-, request', registry, hinput', hchange, -⟩ := hsets
      obtain rfl : _ = request' := by simpa [hinput] using hinput'
      exact absurd hchange (hunchanged registry)
  | confirmed hrunning hinput hconfirmed hchange =>
    rw [settledTarget_of_send hrunning hinput hprocess, hconfirmed, if_pos rfl]
    constructor
    · intro htarget
      exact ⟨hrunning, _, _, hinput, hchange, htarget⟩
    · intro hsets
      obtain ⟨-, request', registry, hinput', -, htarget⟩ := hsets
      obtain rfl : _ = request' := by simpa [hinput] using hinput'
      exact htarget
  | ended _ hinput =>
    rw [settledTarget_of_unasked (by simp [hinput])]
    constructor
    · nofun
    · intro hsets
      obtain ⟨-, request', -, hinput', -⟩ := hsets
      simp [hinput] at hinput'

end Settled

/-- The registry and the copies in the timers have the given targets. -/
structure Tracks (targets : Uuid → Option SessionTarget) (m : Manager) : Prop where
  registered : ∀ x session, m.registry.byId.lookup x = some session →
    targets x = some session.target
  captured : ∀ t ∈ m.tasks, ∀ session ∈ t.sessions,
    targets session.sessionId = some session.target

theorem RegistryChange.registered {isSerialPresent : String → Bool} {r r' : SessionRegistry}
    {request : IpcRequest} {targets : Uuid → Option SessionTarget}
    (h : RegistryChange isSerialPresent r request r')
    (hr : ∀ x session, r.byId.lookup x = some session → targets x = some session.target)
    {x : Uuid} {session : ActiveSession} (hx : r'.byId.lookup x = some session) :
    (request.targetFor x).or (targets x) = some session.target := by
  cases h with
  | @opened new present =>
    rw [SessionRegistry.lookup_add] at hx
    by_cases hid : x = new.sessionId
    · rw [if_pos hid, Option.some.injEq] at hx
      rw [IpcRequest.targetFor, if_pos hid.symm, hx]
      rfl
    · rw [if_neg hid] at hx
      rw [IpcRequest.targetFor, if_neg (Ne.symm hid)]
      exact hr x session hx
  | @closed id =>
    rw [SessionRegistry.lookup_remove] at hx
    by_cases hid : x = id
    · rw [if_pos hid] at hx
      cases hx
    · rw [if_neg hid] at hx
      exact hr x session hx
  | @retargeted id newTarget _ updated =>
    obtain ⟨entry, -, hlookup⟩ := SessionRegistry.lookup_updateTarget updated
    rw [hlookup] at hx
    by_cases hid : x = id
    · rw [if_pos hid, Option.some.injEq] at hx
      rw [IpcRequest.targetFor, if_pos hid.symm, ← hx]
      rfl
    · rw [if_neg hid] at hx
      rw [IpcRequest.targetFor, if_neg (Ne.symm hid)]
      exact hr x session hx

namespace Tracks

variable {cfg : StateConfig} {targets : Uuid → Option SessionTarget} {m : Manager} {step : Step}

theorem pass (d : ℕ) (h : Tracks targets m) : Tracks targets (m.pass d) := by
  refine ⟨fun x session hx => ?_, fun t ht => ?_⟩
  · rw [Manager.pass_registry] at hx
    exact h.registered x session hx
  · rw [Manager.pass_tasks] at ht
    exact h.captured t (List.mem_of_mem_filter ht)

theorem emits_pass (d : ℕ) (h : Tracks targets m) :
    Emits (Emission.Current targets) m (m.pass d) :=
  Emits.pass d fun t ht session hsession _ => h.captured t ht session hsession

theorem emits_process (cfg : StateConfig) (h : Tracks targets m) (step : Step) :
    Emits (Emission.Current targets) m (process cfg m step) := by
  have hpersist : ∀ registry, Emits (Emission.Current targets) m
      (persistAsync step.persistence { m with registry := registry }) := by
    intro registry
    have hregistry : Emits (Emission.Current targets) m { m with registry := registry } :=
      .of_log_eq rfl
    exact hregistry.trans (.persistAsync _ fun t ht session hsession _ =>
      h.captured t ht session hsession)
  have heffect := process_effect cfg m step
  generalize process cfg m step = m' at heffect ⊢
  cases heffect with
  | timers _ _ _ _ hlog _ => exact .of_log_eq hlog
  | answered _ _ _ _ => exact .send m trivial
  | confirmed _ _ _ _ => exact (hpersist _).trans (.send _ trivial)
  | ended _ _ _ => exact hpersist _

/-- The targets that the step settles are those of the registry and of the timers that are
left behind it, if the copies agree. -/
theorem process (h : Tracks targets m) (hagree : CopiesAgree m step) :
    Tracks (fun x => (settledTarget cfg m step x).or (targets x)) (Monitord.process cfg m step) := by
  have heffect := process_effect cfg m step
  generalize hprocess : Monitord.process cfg m step = m' at heffect ⊢
  cases heffect with
  | timers hunasked _ hregistry _ _ htasks =>
    simp only [settledTarget_of_unasked hunasked, Option.none_or]
    refine ⟨by rw [hregistry]; exact h.registered, fun t ht session hsession => ?_⟩
    rcases htasks t ht with hold | ⟨serial, hnew⟩
    · exact h.captured t hold session hsession
    · -- A new task copies what is registered.
      rw [hnew, SessionRegistry.mem_findBySerial, SessionRegistry.mem_snapshot] at hsession
      exact h.registered _ session hsession.1
  | answered hrunning hinput hunconfirmed _ =>
    simp only [settledTarget_of_send hrunning hinput hprocess, hunconfirmed, Bool.false_eq_true,
      if_false, Option.none_or]
    exact ⟨h.registered, h.captured⟩
  | confirmed hrunning hinput hconfirmed hchange =>
    simp only [settledTarget_of_send hrunning hinput hprocess, hconfirmed, if_true]
    refine ⟨fun x session hx => ?_, fun t ht session hsession => ?_⟩
    · rw [Manager.send, persistAsync_registry] at hx
      exact hchange.registered h.registered hx
    · rw [Manager.send, persistAsync_tasks] at ht
      obtain ⟨hold, hlate⟩ := List.mem_filter.mp ht
      rcases htarget : IpcRequest.targetFor session.sessionId _ with _ | target
      · exact h.captured t hold session hsession
      · have hsets : SetsTarget m step session.sessionId target :=
          ⟨hrunning, _, _, hinput, hchange, htarget⟩
        have hsame := hagree _ target hsets t hold (of_decide_eq_true hlate) session hsession rfl
        rw [hsame]
        rfl
  | ended _ hinput _ =>
    have hsettles : ∀ x, settledTarget cfg m step x = none :=
      fun x => settledTarget_of_unasked (by simp [hinput])
    simp only [hsettles, Option.none_or]
    refine ⟨fun x session hx => ?_, fun t ht => ?_⟩
    · rw [persistAsync_registry, SessionRegistry.lookup_removeAll] at hx
      split at hx
      · cases hx
      · exact h.registered x session hx
    · rw [persistAsync_tasks] at ht
      exact h.captured t (List.mem_of_mem_filter ht)

end Tracks

theorem SetsTarget.process_tasks {m : Manager} {step : Step} {x : Uuid} {target : SessionTarget}
    (h : SetsTarget m step x target) (cfg : StateConfig) : (process cfg m step).tasks =
      m.tasks.filter fun t => m.now + step.persistence.duration < t.deadline := by
  obtain ⟨hrunning, request, registry, hinput, hchange, -⟩ := h
  have heffect := process_effect cfg m step
  generalize process cfg m step = m' at heffect ⊢
  cases heffect with
  | timers hunasked => exact absurd hinput (hunasked hrunning request)
  | answered _ hinput' _ hunchanged =>
    obtain rfl : request = _ := by simpa [hinput] using hinput'
    exact absurd hchange (hunchanged registry)
  | confirmed _ _ _ _ => rw [Manager.send, persistAsync_tasks]
  | ended _ hinput' _ => simp [hinput] at hinput'

section Runs

variable {cfg : StateConfig} {m : Manager} {steps : ℕ → Step} {n : ℕ}

theorem tracks_runFrom (hstart : Tracks (targetAt cfg m steps 0) m)
    (hagree : ∀ i, i < n → CopiesAgree (runFrom cfg m steps i) (steps i)) :
    Tracks (targetAt cfg m steps n) (runFrom cfg m steps n) := by
  induction n with
  | zero => exact hstart
  | succ n ih =>
    have hbefore := ih fun i hi => hagree i (by omega)
    exact (hbefore.process (hagree n (by omega))).pass _

theorem Tracks.dispatchesCurrent (h : Tracks (targetAt cfg m steps n) (runFrom cfg m steps n))
    (hagree : CopiesAgree (runFrom cfg m steps n) (steps n)) : DispatchesCurrent cfg m steps n :=
  ⟨h.emits_process cfg (steps n), (h.process hagree).emits_pass _⟩

/-- A copy whose timer expires behind the reply is dispatched, so it has the target that the
step has set. -/
theorem DispatchesCurrent.target_eq (h : DispatchesCurrent cfg m steps n) {x : Uuid}
    {target : SessionTarget} (hsets : SetsTarget (runFrom cfg m steps n) (steps n) x target)
    {t : GraceTask} (ht : t ∈ (runFrom cfg m steps n).tasks)
    (hlate : (runFrom cfg m steps n).now + (steps n).persistence.duration < t.deadline)
    (hdue : t.deadline ≤ (process cfg (runFrom cfg m steps n) (steps n)).now + (steps n).wait)
    {session : ActiveSession} (hsession : session ∈ t.sessions) (hx : session.sessionId = x) :
    session.target = target := by
  obtain ⟨-, later, hlog, hcurrent⟩ := h
  obtain ⟨later', hlog', hdispatched⟩ :=
    exists_dispatch_pass (steps n).wait (process cfg (runFrom cfg m steps n) (steps n))
  obtain rfl : later = later' := List.append_cancel_left (hlog.symm.trans hlog')
  have hpending : t ∈ (process cfg (runFrom cfg m steps n) (steps n)).tasks := by
    rw [hsets.process_tasks]
    exact List.mem_filter.mpr ⟨ht, decide_eq_true hlate⟩
  obtain ⟨time, hmem⟩ := hdispatched t hpending hdue session hsession
  have hcopy : targetAt cfg m steps (n + 1) session.sessionId = some session.target :=
    hcurrent _ hmem
  rw [targetAt, hx, settledTarget_eq_some_iff.mpr hsets] at hcopy
  exact (Option.some.inj hcopy).symm

/-- Nothing needs to happen before the timer of a copy expires. -/
theorem copiesAgree_of_dispatchesCurrent
    (h : ∀ steps', SameHistory n steps steps' → DispatchesCurrent cfg m steps' n) :
    CopiesAgree (runFrom cfg m steps n) (steps n) := by
  intro x target hsets t ht hlate session hsession hx
  obtain ⟨steps', hhistory, hwait⟩ := exists_sameHistory n steps t.deadline
  have hcurrent := h steps' hhistory
  have hstate : runFrom cfg m steps' n = runFrom cfg m steps n := runFrom_congr cfg m hhistory.1
  refine hcurrent.target_eq (t := t) ?_ (hstate ▸ ht) ?_ ?_ hsession hx
  · rw [hstate, hhistory.2]
    exact hsets
  · rw [hstate, hhistory.2]
    exact hlate
  · rw [hwait]
    exact Nat.le_add_left _ _

theorem tracks_spawn (cfg : StateConfig) (registry : SessionRegistry)
    (stored : List ActiveSession) (now : ℕ) (steps : ℕ → Step) :
    Tracks (targetAt cfg (spawnStateManager registry stored now) steps 0)
      (spawnStateManager registry stored now) where
  registered x session hx := by
    rw [targetAt, hx]
    rfl
  captured t ht := by simp [spawnStateManager] at ht

end Runs

/-- In every run in which the copies agree with each target that is set, every action is
dispatched with the target that its session has at that time. For each step of such a run
this is also necessary: if the copies do not agree, the run can go on with an action for a
target that has been replaced. -/
theorem dispatched_targets_current_iff (cfg : StateConfig) (registry : SessionRegistry)
    (stored : List ActiveSession) (now : ℕ) (steps : ℕ → Step) :
    ((∀ n, CopiesAgree (runFrom cfg (spawnStateManager registry stored now) steps n) (steps n)) →
      ∀ n, DispatchesCurrent cfg (spawnStateManager registry stored now) steps n) ∧
    ∀ n, (∀ i, i < n →
        CopiesAgree (runFrom cfg (spawnStateManager registry stored now) steps i) (steps i)) →
      ((∀ steps', SameHistory n steps steps' →
          DispatchesCurrent cfg (spawnStateManager registry stored now) steps' n) ↔
        CopiesAgree (runFrom cfg (spawnStateManager registry stored now) steps n) (steps n)) := by
  have htracks := fun steps => tracks_spawn cfg registry stored now steps
  refine ⟨fun hagree n => ?_, fun n hbefore => ⟨copiesAgree_of_dispatchesCurrent, ?_⟩⟩
  · exact (tracks_runFrom (htracks steps) fun i _ => hagree i).dispatchesCurrent (hagree n)
  · intro hagree steps' hhistory
    have hstate := fun i (hi : i ≤ n) => runFrom_congr cfg (spawnStateManager registry stored now)
      fun j (hj : j < i) => hhistory.1 j (by omega)
    refine (tracks_runFrom (htracks steps') fun i hi => ?_).dispatchesCurrent ?_
    · rw [hstate i hi.le, hhistory.1 i hi]
      exact hbefore i hi
    · rw [hstate n le_rfl, hhistory.2]
      exact hagree

/-- The session is opened on a terminal. Its device is removed and its target updated, in
either order. -/
def openThenUpdate (removedFirst : Bool) (i : ℕ) : Step where
  input := match i, removedFirst with
    | 0, _ => .event (.ipc (.sessionOpen { aliceSession with target := .tty "/dev/tty1" }))
    | 1, true | 2, false => .event (.udev ⟨.remove, some "A1"⟩)
    | 1, false | 2, true => .event (.ipc (.updateSessionTarget 7 (.logindSession "c2")))
    | _, _ => .event (.ipc .ping)
  isSerialPresent := fun _ => true
  persistence := ⟨0, true⟩
  wait := if i = 2 ∧ removedFirst then StateConfig.testDefaults.grace else 0

/-- The update has been confirmed when the action is dispatched for the terminal. -/
theorem update_in_grace_lost :
    answer .testDefaults (runFrom .testDefaults graceStart (openThenUpdate true) 2)
        (openThenUpdate true 2) = some (.sessionTargetUpdated (uuidText 7)) ∧
      ¬ DispatchesCurrent .testDefaults graceStart (openThenUpdate true) 2 := by
  refine ⟨by decide +kernel, fun hcurrent => ?_⟩
  have hsettled : settledTarget .testDefaults
      (runFrom .testDefaults graceStart (openThenUpdate true) 2) (openThenUpdate true 2) 7 =
      some (.logindSession "c2") := by decide +kernel
  have hsets := settledTarget_eq_some_iff.mp hsettled
  have htask : (⟨0, "A1", [{ aliceSession with target := .tty "/dev/tty1" }], .lock,
      StateConfig.testDefaults.grace⟩ : GraceTask) ∈
      (runFrom .testDefaults graceStart (openThenUpdate true) 2).tasks := by decide +kernel
  have hcopy := hcurrent.target_eq hsets htask (by decide +kernel) (Nat.le_add_left _ _)
    (List.mem_singleton_self _) rfl
  cases hcopy

/-- Updated before the removal, the session is dispatched with its new target. Without a
grace period this happens at once. -/
theorem dispatched_targets_current_updated :
    (∀ n, DispatchesCurrent { StateConfig.testDefaults with graceSeconds := 0 }
        (spawnStateManager .new [] 0) (openThenUpdate false) n) ∧
      (runFrom { StateConfig.testDefaults with graceSeconds := 0 } (spawnStateManager .new [] 0)
        (openThenUpdate false) 3).log =
      [.reply .ack, .reply (.sessionTargetUpdated (uuidText 7)),
        .dispatch 0 (.handleUsbRemoved aliceSession .lock)] := by
  refine ⟨(dispatched_targets_current_iff _ _ _ _ _).1 fun n => ?_, by decide +kernel⟩
  match n with
  | 0 | 1 =>
    intro x target _ t ht
    cases ht
  | n + 2 =>
    intro x target hsets
    obtain ⟨-, request, -, hinput, -, htarget⟩ := hsets
    cases n with
    | zero => cases hinput
    | succ n =>
      cases hinput
      cases htarget

end PamCertauth.Monitord
