import PamCertauth.StateManager
import PamCertauth.KeyedTimers

/-!
# Grace timers as timers under keys

The manager runs a bank of timers with the serials of devices as keys. Each processed input
is one operation of the bank, and the sessions of an expired timer are those for which the
action has been dispatched. The tokens tie the map of the manager to its tasks: a task waits
with the token that the map holds for its serial, and no two serials have the same token.
-/

namespace PamCertauth.Monitord

open KeyedTimers (Action)

abbrev Bank := KeyedTimers.State String (List ActiveSession)

def Emission.dispatched : Emission → Option (ℕ × ActionRequest)
  | .reply _ => none
  | .dispatch time request => some (time, request)

def Manager.dispatched (m : Manager) : List (ℕ × ActionRequest) :=
  m.log.filterMap Emission.dispatched

/-- The actions that are due to an expired timer. -/
def usbRemovals (cfg : StateConfig) (time : ℕ) (sessions : List ActiveSession) :
    List (ℕ × ActionRequest) :=
  sessions.map fun s => (time, .handleUsbRemoved s cfg.onUsbRemoved)

/-- What an input means for the timers. -/
def timerAction (cfg : StateConfig) (m : Manager) (input : Input) :
    Action String (List ActiveSession) :=
  if m.running then
    match input with
    | .event (.udev ⟨.remove, some serial⟩) =>
      if m.suspendState.isInGraceWindow m.now cfg.suspendGraceSeconds then .skip
      else if (m.registry.findBySerial serial).isEmpty then .skip
      else .arm serial (m.registry.findBySerial serial)
    | .event (.udev ⟨.add, some serial⟩) => .cancel serial
    | .event (.logind (.prepareForSleep true)) => .cancelAll
    | .stop => .cancelAll
    | _ => .skip
  else .skip

structure TokensTied (graceTokens : AList fun _ : String => ℕ) (nextToken : ℕ)
    (tasks : List GraceTask) : Prop where
  waiting : ∀ t ∈ tasks, graceTokens.lookup t.serial = some t.token
  fresh : ∀ serial token, graceTokens.lookup serial = some token → token < nextToken
  distinct : ∀ serial serial' token, graceTokens.lookup serial = some token →
    graceTokens.lookup serial' = some token → serial = serial'

namespace TokensTied

variable {graceTokens : AList fun _ : String => ℕ} {nextToken : ℕ} {tasks : List GraceTask}

theorem insert (h : TokensTied graceTokens nextToken tasks) {serial : String}
    (hfree : serial ∉ graceTokens) {sessions : List ActiveSession} {action : OnUsbRemoved}
    {deadline : ℕ} :
    TokensTied (graceTokens.insert serial nextToken) (nextToken + 1)
      (tasks ++ [⟨nextToken, serial, sessions, action, deadline⟩]) := by
  have hother : ∀ s token, (graceTokens.insert serial nextToken).lookup s = some token →
      s = serial ∧ token = nextToken ∨ s ≠ serial ∧ graceTokens.lookup s = some token := by
    intro s token hlookup
    by_cases hs : s = serial
    · subst hs
      rw [AList.lookup_insert, Option.some.injEq] at hlookup
      exact .inl ⟨rfl, hlookup.symm⟩
    · rw [AList.lookup_insert_ne hs] at hlookup
      exact .inr ⟨hs, hlookup⟩
  refine ⟨?_, ?_, ?_⟩
  · intro t ht
    rcases List.mem_append.mp ht with ht | ht
    · have hlookup := h.waiting t ht
      have hne : t.serial ≠ serial := by
        intro heq
        rw [heq, AList.lookup_eq_none.mpr hfree] at hlookup
        cases hlookup
      rw [AList.lookup_insert_ne hne]
      exact hlookup
    · rw [List.mem_singleton.mp ht, AList.lookup_insert]
  · intro s token hlookup
    rcases hother s token hlookup with ⟨-, rfl⟩ | ⟨-, hold⟩
    · exact Nat.lt_succ_self _
    · exact (h.fresh s token hold).trans (Nat.lt_succ_self _)
  · intro s s' token hlookup hlookup'
    rcases hother s token hlookup with ⟨rfl, rfl⟩ | ⟨-, hold⟩ <;>
      rcases hother s' _ hlookup' with ⟨rfl, heq⟩ | ⟨-, hold'⟩
    · rfl
    · exact absurd (h.fresh s' _ hold') (lt_irrefl _)
    · exact absurd (h.fresh s _ hold) (heq ▸ lt_irrefl _)
    · exact h.distinct s s' token hold hold'

theorem erase (h : TokensTied graceTokens nextToken tasks) {serial : String} {token : ℕ}
    (hserial : graceTokens.lookup serial = some token) :
    TokensTied (graceTokens.erase serial) nextToken (tasks.filter fun t => t.token ≠ token) := by
  have hother : ∀ s token', (graceTokens.erase serial).lookup s = some token' →
      graceTokens.lookup s = some token' := by
    intro s token' hlookup
    have hne : s ≠ serial := by
      rintro rfl
      simp at hlookup
    rwa [AList.lookup_erase_ne hne] at hlookup
  refine ⟨?_, fun s token' hs => h.fresh s token' (hother s token' hs),
    fun s s' token' hs hs' => h.distinct s s' token' (hother s token' hs) (hother s' token' hs')⟩
  intro t ht
  obtain ⟨ht, hkept⟩ := List.mem_filter.mp ht
  have hlookup := h.waiting t ht
  have hne : t.serial ≠ serial := by
    intro heq
    rw [heq, hserial, Option.some.injEq] at hlookup
    simp [hlookup] at hkept
  rw [AList.lookup_erase_ne hne]
  exact hlookup

/-- The token of a serial is the token of the tasks of that serial. -/
theorem token_eq_iff (h : TokensTied graceTokens nextToken tasks) {serial : String} {token : ℕ}
    (hserial : graceTokens.lookup serial = some token) {t : GraceTask} (ht : t ∈ tasks) :
    t.token = token ↔ t.serial = serial := by
  have hlookup := h.waiting t ht
  constructor
  · rintro rfl
    exact h.distinct t.serial serial t.token hlookup hserial
  · intro heq
    rw [heq, hserial] at hlookup
    exact (Option.some.inj hlookup).symm

end TokensTied

structure Simulates (cfg : StateConfig) (m : Manager) (st : Bank) : Prop where
  now : st.now = m.now
  held : ∀ serial, serial ∈ st.held ↔ serial ∈ m.graceTokens
  pending : st.pending = m.tasks.map fun t => ⟨t.serial, t.sessions, t.deadline⟩
  expired : m.dispatched = st.expired.flatMap fun e => usbRemovals cfg e.2 e.1.value
  action : ∀ t ∈ m.tasks, t.action = cfg.onUsbRemoved
  tied : TokensTied m.graceTokens m.nextToken m.tasks

/-- Every task waits with a token of the map, so none is left. -/
theorem drainGraceTokens_eq {m : Manager}
    (h : ∀ t ∈ m.tasks, m.graceTokens.lookup t.serial = some t.token) :
    m.drainGraceTokens = { m with graceTokens := ∅, tasks := [] } := by
  have hnone : m.tasks.filter (fun t => t.token ∉ m.graceTokens.entries.map (·.2)) = [] := by
    rw [List.filter_eq_nil_iff]
    intro t ht
    have hentry : ⟨t.serial, t.token⟩ ∈ m.graceTokens.entries := AList.mem_lookup_iff.mp (h t ht)
    have hmem : t.token ∈ m.graceTokens.entries.map (·.2) := List.mem_map.mpr ⟨_, hentry, rfl⟩
    simp only [hmem, not_true_eq_false, decide_false, Bool.false_eq_true, not_false_eq_true]
  rw [Manager.drainGraceTokens, Manager.foldl_cancel, hnone]

namespace Simulates

variable {cfg : StateConfig} {m : Manager} {st : Bank}

theorem spawn (cfg : StateConfig) (registry : SessionRegistry) (stored : List ActiveSession)
    (now : ℕ) :
    Simulates cfg (spawnStateManager registry stored now) ⟨now, [], [], []⟩ where
  now := rfl
  held serial := by simp [spawnStateManager]
  pending := rfl
  expired := rfl
  action := by simp [spawnStateManager]
  tied := ⟨by simp [spawnStateManager], by simp [spawnStateManager], by simp [spawnStateManager]⟩

theorem fire_dispatched (h : Simulates cfg m st) : m.fire.dispatched = m.dispatched ++
    (m.tasks.filter fun t => t.deadline ≤ m.now).flatMap fun t =>
      usbRemovals cfg m.now t.sessions := by
  simp only [Manager.dispatched, Manager.fire, List.filterMap_append, List.filterMap_flatMap]
  congr 1
  apply List.flatMap_congr
  intro t ht
  have haction := h.action t (List.mem_of_mem_filter ht)
  rw [haction, List.filterMap_map, usbRemovals, ← List.filterMap_eq_map]
  rfl

theorem fire (h : Simulates cfg m st) : Simulates cfg m.fire (KeyedTimers.fire st) where
  now := h.now
  held := h.held
  pending := by
    simp only [KeyedTimers.fire, Manager.fire, h.pending, h.now, List.filter_map]
    rfl
  expired := by
    rw [h.fire_dispatched, h.expired]
    simp only [KeyedTimers.fire, h.pending, h.now, List.filter_map, List.flatMap_append,
      List.flatMap_map, List.map_map]
    rfl
  action t ht := h.action t (List.mem_of_mem_filter ht)
  tied := ⟨fun t ht => h.tied.waiting t (List.mem_of_mem_filter ht), h.tied.fresh, h.tied.distinct⟩

theorem pass (d : ℕ) (h : Simulates cfg m st) : Simulates cfg (m.pass d) (KeyedTimers.pass d st) := by
  induction d generalizing m st with
  | zero => exact h.fire
  | succ d ih =>
    apply ih
    have hfire := h.fire
    exact { hfire with now := by simp only [h.now] }

theorem send (h : Simulates cfg m st) (message : Ipc.ServerMessage) :
    Simulates cfg (m.send message) st :=
  { h with
    expired := by
      rw [← h.expired]
      simp [Manager.send, Manager.dispatched, Emission.dispatched] }

theorem persistAsync (h : Simulates cfg m st) (persistence : Persistence) :
    Simulates cfg (Monitord.persistAsync persistence m)
      (KeyedTimers.pass persistence.duration st) := by
  have hpass := h.pass persistence.duration
  rw [Monitord.persistAsync]
  split
  · exact { hpass with }
  · exact hpass

theorem withRegistry (h : Simulates cfg m st) (registry : SessionRegistry) :
    Simulates cfg { m with registry := registry } st :=
  { h with }

theorem withSuspendState (h : Simulates cfg m st) (suspendState : SuspendState) :
    Simulates cfg { m with suspendState := suspendState } st :=
  { h with }

theorem arm (h : Simulates cfg m st) {serial : String} (hfree : serial ∉ m.graceTokens)
    (sessions : List ActiveSession) :
    Simulates cfg
      { m with
        graceTokens := m.graceTokens.insert serial m.nextToken
        nextToken := m.nextToken + 1
        tasks := m.tasks ++
          [⟨m.nextToken, serial, sessions, cfg.onUsbRemoved, m.now + cfg.grace⟩] }
      (KeyedTimers.act cfg.grace st (.arm serial sessions)) := by
  have hnew : serial ∉ st.held := fun hheld => hfree ((h.held serial).mp hheld)
  rw [KeyedTimers.act, if_neg hnew]
  exact {
    now := h.now
    held := fun s => by simp [h.held]
    pending := by simp [h.pending, h.now]
    expired := h.expired
    action := fun t ht => by
      rcases List.mem_append.mp ht with ht | ht
      · exact h.action t ht
      · rw [List.mem_singleton.mp ht]
    tied := h.tied.insert hfree }

theorem cancel (h : Simulates cfg m st) {serial : String} {token : ℕ}
    (hserial : m.graceTokens.lookup serial = some token) :
    Simulates cfg ({ m with graceTokens := m.graceTokens.erase serial }.cancel token)
      (KeyedTimers.act cfg.grace st (.cancel serial)) where
  now := h.now
  held s := by simp [KeyedTimers.act, Manager.cancel, h.held, and_comm]
  pending := by
    have hkept : m.tasks.filter (fun t => t.token ≠ token) =
        m.tasks.filter fun t => t.serial ≠ serial :=
      List.filter_congr fun t ht => by simp [h.tied.token_eq_iff hserial ht]
    simp only [KeyedTimers.act, Manager.cancel, h.pending, hkept, List.filter_map]
    rfl
  expired := h.expired
  action t ht := h.action t (List.mem_of_mem_filter ht)
  tied := h.tied.erase hserial

/-- Without a token there is no task either. -/
theorem cancel_of_notMem (h : Simulates cfg m st) {serial : String}
    (hserial : m.graceTokens.lookup serial = none) :
    Simulates cfg m (KeyedTimers.act cfg.grace st (.cancel serial)) := by
  have hheld : st.held.filter (· ≠ serial) = st.held := by
    rw [List.filter_eq_self]
    intro s hs
    have hmem := (h.held s).mp hs
    have hne : s ≠ serial := by
      rintro rfl
      exact AList.lookup_eq_none.mp hserial hmem
    simp [hne]
  have hpending : st.pending.filter (·.key ≠ serial) = st.pending := by
    rw [h.pending, List.filter_eq_self]
    intro t ht
    obtain ⟨task, htask, rfl⟩ := List.mem_map.mp ht
    have hlookup := h.tied.waiting task htask
    have hne : task.serial ≠ serial := by
      intro heq
      rw [heq, hserial] at hlookup
      cases hlookup
    simp [hne]
  rw [KeyedTimers.act, hheld, hpending]
  exact h

theorem drainGraceTokens (h : Simulates cfg m st) :
    Simulates cfg m.drainGraceTokens (KeyedTimers.act cfg.grace st .cancelAll) := by
  have hdrain := drainGraceTokens_eq h.tied.waiting
  rw [hdrain]
  exact {
    now := h.now
    held := fun s => by simp [KeyedTimers.act]
    pending := rfl
    expired := h.expired
    action := by simp
    tied := ⟨by simp, by simp, by simp⟩ }

end Simulates

/-- The bank stands for the manager, now or after the time that a handler has waited. -/
def Settles (cfg : StateConfig) (m : Manager) (st : Bank) : Prop :=
  Simulates cfg m st ∨ ∃ d, Simulates cfg m (KeyedTimers.pass d st)

variable {cfg : StateConfig} {m : Manager} {st : Bank}

theorem Settles.pass (h : Settles cfg m st) (w : ℕ) :
    Simulates cfg (m.pass w) (KeyedTimers.pass (m.now + w - st.now) st) := by
  rcases h with h | ⟨d, h⟩
  · rw [← h.now, Nat.add_sub_cancel_left]
    exact h.pass w
  · have hpass := h.pass w
    rw [KeyedTimers.pass_pass] at hpass
    have htime : m.now + w - st.now = d + w := by
      have hnow := h.now
      rw [KeyedTimers.pass_now] at hnow
      omega
    rw [htime]
    exact hpass

namespace Simulates

theorem persisted (h : Simulates cfg m st) (persistence : Persistence) (registry : SessionRegistry) :
    Settles cfg (Monitord.persistAsync persistence { m with registry := registry }) st :=
  .inr ⟨persistence.duration, (h.withRegistry registry).persistAsync persistence⟩

theorem handleIpc (h : Simulates cfg m st) (isSerialPresent : String → Bool)
    (persistence : Persistence) (request : IpcRequest) :
    Settles cfg (Monitord.handleIpc isSerialPresent persistence m request) st := by
  rcases handleIpc_cases isSerialPresent persistence m request with
    ⟨message, heq⟩ | ⟨registry, message, -, heq⟩
  · rw [heq]
    exact .inl (h.send message)
  · rw [heq]
    obtain hpersisted | ⟨d, hpersisted⟩ := h.persisted persistence registry
    · exact .inl (hpersisted.send message)
    · exact .inr ⟨d, hpersisted.send message⟩

theorem handleUdev (h : Simulates cfg m st) (hrunning : m.running = true) (event : UdevEvent) :
    Simulates cfg (Monitord.handleUdev cfg m event)
      (KeyedTimers.act cfg.grace st (timerAction cfg m (.event (.udev event)))) := by
  rcases event with ⟨_ | _ | _, _ | serial⟩
  · simpa [Monitord.handleUdev, timerAction, hrunning, KeyedTimers.act] using h
  · rw [timerAction]
    rw [if_pos hrunning]
    simp only [Monitord.handleUdev]
    split
    · next token hserial => exact h.cancel hserial
    · next hserial => exact h.cancel_of_notMem hserial
  · simpa [Monitord.handleUdev, timerAction, hrunning, KeyedTimers.act] using h
  · rw [timerAction]
    rw [if_pos hrunning]
    simp only [Monitord.handleUdev]
    split
    · exact h
    · split
      · exact h
      · split
        · next hheld =>
          rw [KeyedTimers.act, if_pos ((h.held serial).mpr hheld)]
          exact h
        · next hfree => exact h.arm hfree _
  · simpa [Monitord.handleUdev, timerAction, hrunning, KeyedTimers.act] using h
  · simpa [Monitord.handleUdev, timerAction, hrunning, KeyedTimers.act] using h

theorem handleLogind (h : Simulates cfg m st) (hrunning : m.running = true)
    (persistence : Persistence) (signal : LogindSignal) :
    Settles cfg (Monitord.handleLogind persistence m signal)
      (KeyedTimers.act cfg.grace st (timerAction cfg m (.event (.logind signal)))) := by
  simp only [timerAction]
  rw [if_pos hrunning]
  rcases signal with (_ | _) | id
  · exact .inl (h.withSuspendState _)
  · exact .inl (h.withSuspendState _).drainGraceTokens
  · simp only [Monitord.handleLogind]
    split
    · exact .inl h
    · exact h.persisted ..

theorem process (h : Simulates cfg m st) (step : Step) :
    Settles cfg (Monitord.process cfg m step)
      (KeyedTimers.act cfg.grace st (timerAction cfg m step.input)) := by
  rw [Monitord.process]
  by_cases hrunning : m.running = true
  · rw [if_pos hrunning]
    rcases step.input with (request | event | signal) | _
    · simpa [timerAction, hrunning, KeyedTimers.act] using
        h.handleIpc step.isSerialPresent step.persistence request
    · exact .inl (h.handleUdev hrunning event)
    · exact h.handleLogind hrunning step.persistence signal
    · rw [timerAction]
      rw [if_pos hrunning]
      exact .inl (Simulates.drainGraceTokens { h with })
  · simp only [timerAction]
    rw [if_neg hrunning, if_neg hrunning]
    exact .inl h

theorem advance (h : Simulates cfg m st) (step : Step) :
    Simulates cfg (Monitord.advance cfg m step)
      (KeyedTimers.step cfg.grace st
        (timerAction cfg m step.input, (Monitord.advance cfg m step).now - m.now)) := by
  have hpass := (h.process step).pass step.wait
  rw [KeyedTimers.act_now, h.now] at hpass
  have hnow : (Monitord.advance cfg m step).now = (Monitord.process cfg m step).now + step.wait :=
    Manager.pass_now ..
  rw [KeyedTimers.step, hnow]
  exact hpass

end Simulates

/-- The operations of the bank in a run of the manager. -/
def timerOps (cfg : StateConfig) (m : Manager) (steps : ℕ → Step) (i : ℕ) :
    KeyedTimers.Op String (List ActiveSession) :=
  (timerAction cfg (runFrom cfg m steps i) (steps i).input,
    (runFrom cfg m steps (i + 1)).now - (runFrom cfg m steps i).now)

/-- Every run of the manager is a run of the bank. -/
theorem simulates_runFrom (cfg : StateConfig) (registry : SessionRegistry)
    (stored : List ActiveSession) (now : ℕ) (steps : ℕ → Step) (n : ℕ) :
    Simulates cfg (runFrom cfg (spawnStateManager registry stored now) steps n)
      (KeyedTimers.stateAt cfg.grace now
        (timerOps cfg (spawnStateManager registry stored now) steps) n) := by
  induction n with
  | zero => exact .spawn cfg registry stored now
  | succ n ih => exact ih.advance (steps n)

end PamCertauth.Monitord
