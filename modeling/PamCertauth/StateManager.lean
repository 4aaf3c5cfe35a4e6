import PamCertauth.SessionRegistry

/-!
# The state manager of the daemon

The task of `monitord` that owns the registry, the suspend state and the grace tokens
(`state.rs`). It takes one event after another. A processed removal of a device spawns a
task that waits for the grace period or for the cancellation of its token.

Time is counted in nanoseconds. Between two events, and while a handler waits for the
registry to be written, time passes tick by tick, and a task that is due runs before the
next tick. A cancelled task is gone before the next event.
-/

namespace PamCertauth.Monitord

open Ipc

/-- `Duration::from_secs`. -/
def fromSecs (secs : UInt64) : ℕ := secs.toNat * 1000000000

inductive OnUsbRemoved where
  | lock
  | logout
  | hook (path : String)
  | shutdown
  deriving DecidableEq, Repr

inductive SuspendState where
  | awake
  | suspendingAt (since : ℕ)
  | resumedAt (since : ℕ)
  deriving DecidableEq, Repr

def SuspendState.isInGraceWindow (now : ℕ) (secs : UInt64) : SuspendState → Bool
  | awake => false
  | suspendingAt _ => true
  | resumedAt since => now - since < fromSecs secs

structure StateConfig where
  graceSeconds : UInt64
  suspendGraceSeconds : UInt64
  onUsbRemoved : OnUsbRemoved
  deriving Repr

namespace StateConfig

def grace (cfg : StateConfig) : ℕ := fromSecs cfg.graceSeconds

def testDefaults : StateConfig where
  graceSeconds := 5
  suspendGraceSeconds := 30
  onUsbRemoved := .lock

end StateConfig

inductive IpcRequest where
  | hello
  | sessionOpen (session : ActiveSession)
  | sessionClose (sessionId : Uuid)
  | ping
  | getActiveSessionByUid (uid : UInt32)
  | updateSessionTarget (sessionId : Uuid) (newTarget : SessionTarget)
  deriving DecidableEq, Repr

inductive UdevAction where
  | add
  | remove
  | change
  deriving DecidableEq, Repr

structure UdevEvent where
  action : UdevAction
  serial : Option String
  deriving DecidableEq, Repr

inductive LogindSignal where
  | prepareForSleep (start : Bool)
  | sessionRemoved (id : String)
  deriving DecidableEq, Repr

inductive Event where
  | ipc (request : IpcRequest)
  | udev (event : UdevEvent)
  | logind (signal : LogindSignal)
  deriving DecidableEq, Repr

inductive ActionRequest where
  | handleUsbRemoved (session : ActiveSession) (action : OnUsbRemoved)
  deriving DecidableEq, Repr

/-- What leaves the manager: replies, and requests to the action runner. -/
inductive Emission where
  | reply (message : ServerMessage)
  | dispatch (time : ℕ) (request : ActionRequest)
  deriving DecidableEq, Repr

/-- A spawned task that waits for its deadline. -/
structure GraceTask where
  token : ℕ
  serial : String
  sessions : List ActiveSession
  action : OnUsbRemoved
  deadline : ℕ
  deriving DecidableEq, Repr

structure Manager where
  registry : SessionRegistry
  /-- The snapshot in the file of the registry. -/
  stored : List ActiveSession
  graceTokens : AList fun _ : String => ℕ
  /-- Tokens are numbered in the order of their creation. -/
  nextToken : ℕ
  tasks : List GraceTask
  suspendState : SuspendState
  now : ℕ
  running : Bool
  log : List Emission

namespace Manager

def fire (m : Manager) : Manager :=
  { m with
    tasks := m.tasks.filter fun t => m.now < t.deadline
    log := m.log ++ (m.tasks.filter fun t => t.deadline ≤ m.now).flatMap fun t =>
      t.sessions.map fun s => .dispatch m.now (.handleUsbRemoved s t.action) }

def pass : ℕ → Manager → Manager
  | 0, m => m.fire
  | d + 1, m => pass d { m.fire with now := m.now + 1 }

@[simp] theorem pass_now (d : ℕ) (m : Manager) : (m.pass d).now = m.now + d := by
  induction d generalizing m with
  | zero => rfl
  | succ d ih =>
    rw [pass, ih]
    simp only
    omega

theorem pass_tasks (d : ℕ) (m : Manager) :
    (m.pass d).tasks = m.tasks.filter fun t => m.now + d < t.deadline := by
  induction d generalizing m with
  | zero => rfl
  | succ d ih =>
    rw [pass, ih]
    simp only [fire, List.filter_filter]
    apply List.filter_congr
    intro t _
    rw [Bool.eq_iff_iff]
    simp only [Bool.and_eq_true, decide_eq_true_eq]
    omega

@[simp] theorem pass_registry (d : ℕ) (m : Manager) : (m.pass d).registry = m.registry := by
  induction d generalizing m with
  | zero => rfl
  | succ d ih => exact ih _

@[simp] theorem pass_suspendState (d : ℕ) (m : Manager) :
    (m.pass d).suspendState = m.suspendState := by
  induction d generalizing m with
  | zero => rfl
  | succ d ih => exact ih _

@[simp] theorem pass_running (d : ℕ) (m : Manager) : (m.pass d).running = m.running := by
  induction d generalizing m with
  | zero => rfl
  | succ d ih => exact ih _

def cancel (m : Manager) (token : ℕ) : Manager :=
  { m with tasks := m.tasks.filter fun t => t.token ≠ token }

theorem foldl_cancel (tokens : List (Sigma fun _ : String => ℕ)) (m : Manager) :
    tokens.foldl (fun m entry => m.cancel entry.2) m =
      { m with tasks := m.tasks.filter fun t => t.token ∉ tokens.map (·.2) } := by
  induction tokens generalizing m with
  | nil => simp
  | cons entry tokens ih =>
    rw [List.foldl_cons, ih]
    simp only [cancel, List.filter_filter]
    congr 1
    apply List.filter_congr
    intro t _
    rw [List.map_cons, Bool.eq_iff_iff]
    simp only [Bool.and_eq_true, decide_eq_true_eq, List.mem_cons, not_or, and_comm]

def drainGraceTokens (m : Manager) : Manager :=
  m.graceTokens.entries.foldl (fun m entry => m.cancel entry.2) { m with graceTokens := ∅ }

def send (m : Manager) (message : ServerMessage) : Manager :=
  { m with log := m.log ++ [.reply message] }

end Manager

/-- How long the registry takes to be written, and whether it is. -/
structure Persistence where
  duration : ℕ
  succeeds : Bool

def persistAsync (persistence : Persistence) (m : Manager) : Manager :=
  let snapshot := m.registry.snapshot
  let m := m.pass persistence.duration
  if persistence.succeeds then { m with stored := snapshot } else m

/-- The hyphenated form of an identifier. -/
def uuidText (id : Uuid) : String :=
  let digits := (Nat.toDigits 16 id).leftpad 32 '0'
  let group (start length : ℕ) := (digits.drop start).take length
  String.ofList (['-'].intercalate [group 0 8, group 8 4, group 12 4, group 16 4, group 20 12])

def serverVersion : String := "0.3.19"

section Handlers

variable (cfg : StateConfig) (isSerialPresent : String → Bool) (persistence : Persistence)

def handleIpc (m : Manager) : IpcRequest → Manager
  | .hello => m.send (.helloAck serverVersion protocolVersion)
  | .ping => m.send .pong
  | .getActiveSessionByUid uid =>
    match m.registry.findByUid uid with
    | some rec =>
      m.send (.activeSession (uuidText rec.sessionId) rec.certCn rec.engineerSki
        rec.engineerCertSha256 rec.hostIdHash)
    | none => m.send (.error ErrorCodes.noActiveSession ("no active session for uid " ++ toString uid))
  | .sessionOpen session =>
    match session.usbSerial with
    | some serial =>
      if isSerialPresent serial then
        (persistAsync persistence { m with registry := m.registry.add session }).send .ack
      else m.send (.error ErrorCodes.deviceGone ("usb serial " ++ serial ++ " not present"))
    | none => (persistAsync persistence { m with registry := m.registry.add session }).send .ack
  | .sessionClose sessionId =>
    -- The grace timer of the session's device keeps running.
    (persistAsync persistence { m with registry := (m.registry.remove sessionId).2 }).send .ack
  | .updateSessionTarget sessionId newTarget =>
    match m.registry.updateTarget sessionId newTarget with
    | .ok registry =>
      (persistAsync persistence { m with registry := registry }).send
        (.sessionTargetUpdated (uuidText sessionId))
    | .error err =>
      m.send (.error ErrorCodes.badRequest
        ("update_session_target " ++ uuidText sessionId ++ ": " ++ err.message))

def handleUdev (m : Manager) (event : UdevEvent) : Manager :=
  match event.action, event.serial with
  | .remove, some serial =>
    if m.suspendState.isInGraceWindow m.now cfg.suspendGraceSeconds then m
    else
      let sessions := m.registry.findBySerial serial
      if sessions.isEmpty then m
      else if serial ∈ m.graceTokens then m
      else
        { m with
          graceTokens := m.graceTokens.insert serial m.nextToken
          nextToken := m.nextToken + 1
          tasks := m.tasks ++
            [⟨m.nextToken, serial, sessions, cfg.onUsbRemoved, m.now + cfg.grace⟩] }
  | .add, some serial =>
    match m.graceTokens.lookup serial with
    | some token => { m with graceTokens := m.graceTokens.erase serial }.cancel token
    | none => m
  | _, _ => m

def handleLogind (m : Manager) : LogindSignal → Manager
  | .prepareForSleep true => { m with suspendState := .suspendingAt m.now }.drainGraceTokens
  | .prepareForSleep false => { m with suspendState := .resumedAt m.now }
  | .sessionRemoved id =>
    let toRemove := (m.registry.snapshot.filter fun s => s.target.logindId = some id).map
      ActiveSession.sessionId
    if toRemove.isEmpty then m
    else
      persistAsync persistence
        { m with registry := toRemove.foldl (fun r uuid => (r.remove uuid).2) m.registry }

end Handlers

/-- The next event, or the end of the loop: the shutdown token, or a closed channel. -/
inductive Input where
  | event (e : Event)
  | stop
  deriving DecidableEq, Repr

/-- An input, what the handler learns and needs while it runs, and the time until the next. -/
structure Step where
  input : Input
  isSerialPresent : String → Bool
  persistence : Persistence
  wait : ℕ

def Manager.stop (m : Manager) : Manager := { m with running := false }.drainGraceTokens

/-- What the loop does with an input. After its end nothing is processed. -/
def process (cfg : StateConfig) (m : Manager) (step : Step) : Manager :=
  if m.running then
    match step.input with
    | .event (.ipc request) => handleIpc step.isSerialPresent step.persistence m request
    | .event (.udev event) => handleUdev cfg m event
    | .event (.logind signal) => handleLogind step.persistence m signal
    | .stop => m.stop
  else m

def advance (cfg : StateConfig) (m : Manager) (step : Step) : Manager :=
  (process cfg m step).pass step.wait

/-- The manager after `n` steps. -/
def runFrom (cfg : StateConfig) (m : Manager) (steps : ℕ → Step) : ℕ → Manager
  | 0 => m
  | n + 1 => advance cfg (runFrom cfg m steps n) (steps n)

theorem runFrom_congr (cfg : StateConfig) (m : Manager) {steps steps' : ℕ → Step} {n : ℕ}
    (h : ∀ i, i < n → steps' i = steps i) : runFrom cfg m steps' n = runFrom cfg m steps n := by
  induction n with
  | zero => rfl
  | succ n ih =>
    rw [runFrom, runFrom, ih fun i hi => h i (by omega), h n (by omega)]

theorem runFrom_add (cfg : StateConfig) (m : Manager) (steps : ℕ → Step) (n k : ℕ) :
    runFrom cfg m steps (n + k) =
      runFrom cfg (runFrom cfg m steps n) (fun i => steps (n + i)) k := by
  induction k with
  | zero => rfl
  | succ k ih => rw [← Nat.add_assoc, runFrom, ih, runFrom]

/-- The state in which `spawn_state_manager` starts the loop. -/
def spawnStateManager (registry : SessionRegistry) (stored : List ActiveSession) (now : ℕ) :
    Manager where
  registry := registry
  stored := stored
  graceTokens := ∅
  nextToken := 0
  tasks := []
  suspendState := .awake
  now := now
  running := true
  log := []

/-- The registry after a request that changes it. -/
inductive RegistryChange (isSerialPresent : String → Bool) (r : SessionRegistry) :
    IpcRequest → SessionRegistry → Prop where
  | opened {session : ActiveSession}
      (present : ∀ serial, session.usbSerial = some serial → isSerialPresent serial = true) :
      RegistryChange isSerialPresent r (.sessionOpen session) (r.add session)
  | closed {sessionId : Uuid} :
      RegistryChange isSerialPresent r (.sessionClose sessionId) (r.remove sessionId).2
  | retargeted {sessionId : Uuid} {newTarget : SessionTarget} {r' : SessionRegistry}
      (updated : r.updateTarget sessionId newTarget = .ok r') :
      RegistryChange isSerialPresent r (.updateSessionTarget sessionId newTarget) r'

/-- The replies to requests that have changed the registry. -/
def confirms : ServerMessage → Bool
  | .ack | .sessionTargetUpdated _ => true
  | _ => false

/-- A confirmed request has changed the registry, and the change has been written before the
reply. Every other request is answered at once and changes nothing. -/
theorem handleIpc_answer (isSerialPresent : String → Bool) (persistence : Persistence)
    (m : Manager) (request : IpcRequest) :
    (∃ message, confirms message = false ∧
        (∀ registry, ¬ RegistryChange isSerialPresent m.registry request registry) ∧
        handleIpc isSerialPresent persistence m request = m.send message) ∨
      ∃ registry message, confirms message = true ∧
        RegistryChange isSerialPresent m.registry request registry ∧
        handleIpc isSerialPresent persistence m request =
          (persistAsync persistence { m with registry := registry }).send message := by
  cases request with
  | hello => exact .inl ⟨_, rfl, nofun, rfl⟩
  | ping => exact .inl ⟨_, rfl, nofun, rfl⟩
  | getActiveSessionByUid uid =>
    simp only [handleIpc]
    split <;> exact .inl ⟨_, rfl, nofun, rfl⟩
  | sessionOpen session =>
    simp only [handleIpc]
    split
    · next serial hserial =>
      split
      · next hpresent => exact .inr ⟨_, _, rfl, .opened (by simp [hserial, hpresent]), rfl⟩
      · next habsent =>
        refine .inl ⟨_, rfl, fun registry hchange => ?_, rfl⟩
        cases hchange with
        | opened present => exact habsent (present serial hserial)
    · next hserial => exact .inr ⟨_, _, rfl, .opened (by simp [hserial]), rfl⟩
  | sessionClose sessionId => exact .inr ⟨_, _, rfl, .closed, rfl⟩
  | updateSessionTarget sessionId newTarget =>
    simp only [handleIpc]
    split
    · next hupdate => exact .inr ⟨_, _, rfl, .retargeted hupdate, rfl⟩
    · next err hupdate =>
      refine .inl ⟨_, rfl, fun registry hchange => ?_, rfl⟩
      cases hchange with
      | retargeted updated =>
        rw [hupdate] at updated
        cases updated

/-- A request is answered at once, or it changes the registry and is answered when the
change has been written. -/
theorem handleIpc_cases (isSerialPresent : String → Bool) (persistence : Persistence)
    (m : Manager) (request : IpcRequest) :
    (∃ message, handleIpc isSerialPresent persistence m request = m.send message) ∨
      ∃ registry message, RegistryChange isSerialPresent m.registry request registry ∧
        handleIpc isSerialPresent persistence m request =
          (persistAsync persistence { m with registry := registry }).send message := by
  rcases handleIpc_answer isSerialPresent persistence m request with
    ⟨message, -, -, heq⟩ | ⟨registry, message, -, hchange, heq⟩
  · exact .inl ⟨message, heq⟩
  · exact .inr ⟨registry, message, hchange, heq⟩

/-- Two managers with the same registry, suspend state, time and life. Only their timers and
what they have emitted may differ. -/
structure SameCore (m m' : Manager) : Prop where
  registry : m.registry = m'.registry
  suspendState : m.suspendState = m'.suspendState
  now : m.now = m'.now
  running : m.running = m'.running

namespace SameCore

variable {m m' m'' : Manager}

theorem refl (m : Manager) : SameCore m m := ⟨rfl, rfl, rfl, rfl⟩

theorem symm (h : SameCore m m') : SameCore m' m :=
  ⟨h.registry.symm, h.suspendState.symm, h.now.symm, h.running.symm⟩

theorem trans (h : SameCore m m') (h' : SameCore m' m'') : SameCore m m'' :=
  ⟨h.registry.trans h'.registry, h.suspendState.trans h'.suspendState, h.now.trans h'.now,
    h.running.trans h'.running⟩

theorem pass (h : SameCore m m') (d : ℕ) : SameCore (m.pass d) (m'.pass d) where
  registry := by simp [h.registry]
  suspendState := by simp [h.suspendState]
  now := by simp [h.now]
  running := by simp [h.running]

theorem send (h : SameCore m m') (message message' : ServerMessage) :
    SameCore (m.send message) (m'.send message') :=
  { h with }

theorem persistAsync (h : SameCore m m') (persistence : Persistence) :
    SameCore (Monitord.persistAsync persistence m) (Monitord.persistAsync persistence m') := by
  have hpass := h.pass persistence.duration
  simp only [Monitord.persistAsync]
  split <;> exact { hpass with }

theorem withRegistry (h : SameCore m m') {r r' : SessionRegistry} (hr : r = r') :
    SameCore { m with registry := r } { m' with registry := r' } :=
  { h with registry := hr }

theorem drainGraceTokens (m : Manager) : SameCore m.drainGraceTokens m := by
  rw [Manager.drainGraceTokens, Manager.foldl_cancel]
  exact ⟨rfl, rfl, rfl, rfl⟩

theorem handleUdev (cfg : StateConfig) (m : Manager) (event : UdevEvent) :
    SameCore (Monitord.handleUdev cfg m event) m := by
  rw [Monitord.handleUdev]
  split
  · split
    · exact refl m
    · dsimp only
      split
      · exact refl m
      · split <;> exact ⟨rfl, rfl, rfl, rfl⟩
  · split <;> exact ⟨rfl, rfl, rfl, rfl⟩
  · exact refl m

theorem handleIpc (h : SameCore m m') (isSerialPresent : String → Bool)
    (persistence : Persistence) (request : IpcRequest) :
    SameCore (Monitord.handleIpc isSerialPresent persistence m request)
      (Monitord.handleIpc isSerialPresent persistence m' request) := by
  cases request with
  | hello => exact h.send _ _
  | ping => exact h.send _ _
  | getActiveSessionByUid uid =>
    simp only [Monitord.handleIpc, h.registry]
    split <;> exact h.send _ _
  | sessionOpen session =>
    have hadd := ((h.withRegistry (congrArg (·.add session) h.registry)).persistAsync
      persistence).send .ack .ack
    simp only [Monitord.handleIpc]
    split
    · split
      · exact hadd
      · exact h.send _ _
    · exact hadd
  | sessionClose sessionId =>
    exact ((h.withRegistry (congrArg (fun r => (r.remove sessionId).2) h.registry)).persistAsync
      persistence).send .ack .ack
  | updateSessionTarget sessionId newTarget =>
    simp only [Monitord.handleIpc, h.registry]
    split
    · exact ((h.withRegistry rfl).persistAsync persistence).send _ _
    · exact h.send _ _

theorem handleLogind (h : SameCore m m') (persistence : Persistence) (signal : LogindSignal) :
    SameCore (Monitord.handleLogind persistence m signal)
      (Monitord.handleLogind persistence m' signal) := by
  rcases signal with (_ | _) | id
  · exact { h with suspendState := congrArg SuspendState.resumedAt h.now }
  · refine (drainGraceTokens _).trans (trans ?_ (drainGraceTokens _).symm)
    exact { h with suspendState := congrArg SuspendState.suspendingAt h.now }
  · simp only [Monitord.handleLogind, h.registry]
    split
    · exact h
    · exact (h.withRegistry rfl).persistAsync persistence

theorem stop (h : SameCore m m') : SameCore m.stop m'.stop := by
  refine (drainGraceTokens _).trans (trans ?_ (drainGraceTokens _).symm)
  exact { h with running := rfl }

theorem process (cfg : StateConfig) (h : SameCore m m') (step : Step) :
    SameCore (Monitord.process cfg m step) (Monitord.process cfg m' step) := by
  simp only [Monitord.process]
  rw [h.running]
  split
  · rcases step.input with (request | event | signal) | _
    · exact h.handleIpc _ _ request
    · exact (handleUdev cfg m event).trans (h.trans (handleUdev cfg m' event).symm)
    · exact h.handleLogind _ signal
    · exact h.stop
  · exact h

end SameCore

theorem persistAsync_tasks (persistence : Persistence) (m : Manager) :
    (persistAsync persistence m).tasks =
      m.tasks.filter fun t => m.now + persistence.duration < t.deadline := by
  rw [← Manager.pass_tasks]
  rw [persistAsync]
  split <;> rfl

theorem persistAsync_registry (persistence : Persistence) (m : Manager) :
    (persistAsync persistence m).registry = m.registry := by
  rw [← Manager.pass_registry persistence.duration m]
  rw [persistAsync]
  split <;> rfl

/-- The sessions that end with a logind session. -/
def SessionRegistry.toRemove (r : SessionRegistry) (id : String) : List Uuid :=
  (r.snapshot.filter fun s => s.target.logindId = some id).map ActiveSession.sessionId

def SessionRegistry.removeAll (r : SessionRegistry) (ids : List Uuid) : SessionRegistry :=
  ids.foldl (fun r uuid => (r.remove uuid).2) r

theorem SessionRegistry.lookup_removeAll {r : SessionRegistry} {ids : List Uuid} {x : Uuid} :
    (r.removeAll ids).byId.lookup x = if x ∈ ids then none else r.byId.lookup x := by
  induction ids generalizing r with
  | nil => rfl
  | cons id ids ih =>
    have hfirst : r.removeAll (id :: ids) = (r.remove id).2.removeAll ids := rfl
    rw [hfirst, ih, SessionRegistry.lookup_remove]
    by_cases hid : x = id <;> by_cases hids : x ∈ ids <;> simp [hid, hids]

/-- The four ways in which an input changes the manager: it concerns the timers only, it is
answered at once, it changes the registry and is then answered, or it ends a logind session. -/
inductive Effect (m : Manager) (step : Step) : Manager → Prop where
  | timers {m' : Manager} (unasked : m.running = true → ∀ request, step.input ≠ .event (.ipc request))
      (unended : m.running = true → ∀ id, step.input = .event (.logind (.sessionRemoved id)) →
        m.registry.toRemove id = [])
      (registry : m'.registry = m.registry) (stored : m'.stored = m.stored) (log : m'.log = m.log)
      (tasks : ∀ t ∈ m'.tasks, t ∈ m.tasks ∨ ∃ serial, t.sessions = m.registry.findBySerial serial) :
      Effect m step m'
  | answered {request : IpcRequest} {message : ServerMessage} (running : m.running = true)
      (input : step.input = .event (.ipc request)) (unconfirmed : confirms message = false)
      (unchanged : ∀ registry, ¬ RegistryChange step.isSerialPresent m.registry request registry) :
      Effect m step (m.send message)
  | confirmed {request : IpcRequest} {message : ServerMessage} {registry : SessionRegistry}
      (running : m.running = true) (input : step.input = .event (.ipc request))
      (confirmed : confirms message = true)
      (change : RegistryChange step.isSerialPresent m.registry request registry) :
      Effect m step ((persistAsync step.persistence { m with registry := registry }).send message)
  | ended {id : String} (running : m.running = true)
      (input : step.input = .event (.logind (.sessionRemoved id)))
      (some : m.registry.toRemove id ≠ []) :
      Effect m step (persistAsync step.persistence
        { m with registry := m.registry.removeAll (m.registry.toRemove id) })

theorem mem_tasks_handleUdev {cfg : StateConfig} {m : Manager} {event : UdevEvent} {t : GraceTask}
    (h : t ∈ (handleUdev cfg m event).tasks) :
    t ∈ m.tasks ∨ ∃ serial, t.sessions = m.registry.findBySerial serial := by
  rw [handleUdev] at h
  split at h
  · next serial _ _ =>
    dsimp only at h
    split_ifs at h with hwindow hempty hheld
    · exact .inl h
    · exact .inl h
    · exact .inl h
    · rcases List.mem_append.mp h with h | h
      · exact .inl h
      · rw [List.mem_singleton.mp h]
        exact .inr ⟨serial, rfl⟩
  · split at h
    · exact .inl (List.mem_of_mem_filter h)
    · exact .inl h
  · exact .inl h

theorem handleUdev_frame (cfg : StateConfig) (m : Manager) (event : UdevEvent) :
    (handleUdev cfg m event).log = m.log ∧ (handleUdev cfg m event).stored = m.stored := by
  rw [handleUdev]
  split
  · dsimp only
    split_ifs <;> exact ⟨rfl, rfl⟩
  · split <;> exact ⟨rfl, rfl⟩
  · exact ⟨rfl, rfl⟩

theorem drainGraceTokens_frame (m : Manager) :
    m.drainGraceTokens.registry = m.registry ∧ m.drainGraceTokens.stored = m.stored ∧
      m.drainGraceTokens.log = m.log ∧ ∀ t ∈ m.drainGraceTokens.tasks, t ∈ m.tasks := by
  rw [Manager.drainGraceTokens, Manager.foldl_cancel]
  exact ⟨rfl, rfl, rfl, fun t ht => List.mem_of_mem_filter ht⟩

theorem handleLogind_effect (m : Manager) (step : Step) (hrunning : m.running = true)
    {signal : LogindSignal} (hinput : step.input = .event (.logind signal)) :
    Effect m step (handleLogind step.persistence m signal) := by
  have hunasked : m.running = true → ∀ request, step.input ≠ .event (.ipc request) := by
    simp [hinput]
  rcases signal with (_ | _) | id
  · refine .timers hunasked (by simp [hinput]) rfl rfl rfl fun t ht => .inl ht
  · have hframe := drainGraceTokens_frame { m with suspendState := .suspendingAt m.now }
    exact .timers hunasked (by simp [hinput]) hframe.1 hframe.2.1 hframe.2.2.1
      fun t ht => .inl (hframe.2.2.2 t ht)
  · by_cases hnone : m.registry.toRemove id = []
    · have hsame : handleLogind step.persistence m (.sessionRemoved id) = m := by
        rw [SessionRegistry.toRemove] at hnone
        simp only [handleLogind, hnone, List.isEmpty_nil, if_true]
      rw [hsame]
      refine .timers hunasked (fun _ id' hid' => ?_) rfl rfl rfl fun t ht => .inl ht
      rw [hinput] at hid'
      cases hid'
      exact hnone
    · have hended : handleLogind step.persistence m (.sessionRemoved id) =
          persistAsync step.persistence
            { m with registry := m.registry.removeAll (m.registry.toRemove id) } := by
        have hsome : (m.registry.toRemove id).isEmpty = false := by simpa using hnone
        rw [SessionRegistry.toRemove] at hsome
        simp only [handleLogind, hsome, Bool.false_eq_true, if_false]
        rfl
      rw [hended]
      exact .ended hrunning hinput hnone

/-- Every step of the loop has one of the effects. -/
theorem process_effect (cfg : StateConfig) (m : Manager) (step : Step) :
    Effect m step (process cfg m step) := by
  rw [process]
  by_cases hrunning : m.running = true
  · rw [if_pos hrunning]
    rcases hinput : step.input with (request | event | signal) | _
    · rcases handleIpc_answer step.isSerialPresent step.persistence m request with
        ⟨message, hconfirms, hchange, heq⟩ | ⟨registry, message, hconfirms, hchange, heq⟩
      · simp only [heq]
        exact .answered hrunning hinput hconfirms hchange
      · simp only [heq]
        exact .confirmed hrunning hinput hconfirms hchange
    · have hframe := handleUdev_frame cfg m event
      exact .timers (by simp [hinput]) (by simp [hinput]) (SameCore.handleUdev cfg m event).registry
        hframe.2 hframe.1 fun t ht => mem_tasks_handleUdev ht
    · exact handleLogind_effect m step hrunning hinput
    · have hframe := drainGraceTokens_frame { m with running := false }
      exact .timers (by simp [hinput]) (by simp [hinput]) hframe.1 hframe.2.1 hframe.2.2.1
        fun t ht => .inl (hframe.2.2.2 t ht)
  · rw [if_neg hrunning]
    exact .timers (fun h => absurd h hrunning) (fun h => absurd h hrunning) rfl rfl rfl
      fun t ht => .inl ht

/-- Everything that is emitted between the two states has the property. -/
def Emits (P : Emission → Prop) (m m' : Manager) : Prop :=
  ∃ later, m'.log = m.log ++ later ∧ ∀ e ∈ later, P e

namespace Emits

variable {P Q : Emission → Prop} {m m' m'' : Manager}

theorem of_log_eq (h : m'.log = m.log) : Emits P m m' := ⟨[], by simp [h], by simp⟩

theorem refl (P : Emission → Prop) (m : Manager) : Emits P m m := of_log_eq rfl

theorem trans (h : Emits P m m') (h' : Emits P m' m'') : Emits P m m'' := by
  obtain ⟨later, hlog, hall⟩ := h
  obtain ⟨later', hlog', hall'⟩ := h'
  refine ⟨later ++ later', by rw [hlog', hlog, List.append_assoc], fun e he => ?_⟩
  rcases List.mem_append.mp he with he | he
  · exact hall e he
  · exact hall' e he

theorem send (m : Manager) {message : ServerMessage} (h : P (.reply message)) :
    Emits P m (m.send message) :=
  ⟨[.reply message], rfl, by simpa using h⟩

/-- The timers emit the actions for the sessions that they captured. -/
theorem fire (h : ∀ t ∈ m.tasks, ∀ s ∈ t.sessions, ∀ time,
    P (.dispatch time (.handleUsbRemoved s t.action))) : Emits P m m.fire := by
  refine ⟨_, rfl, fun e he => ?_⟩
  obtain ⟨t, ht, he⟩ := List.mem_flatMap.mp he
  obtain ⟨s, hs, rfl⟩ := List.mem_map.mp he
  exact h t (List.mem_of_mem_filter ht) s hs _

theorem pass (d : ℕ) (h : ∀ t ∈ m.tasks, ∀ s ∈ t.sessions, ∀ time,
    P (.dispatch time (.handleUsbRemoved s t.action))) : Emits P m (m.pass d) := by
  induction d generalizing m with
  | zero => exact fire h
  | succ d ih =>
    have htick : Emits P m { m.fire with now := m.now + 1 } := (fire h).trans (of_log_eq rfl)
    refine htick.trans (ih fun t ht => ?_)
    exact h t (List.mem_of_mem_filter ht)

theorem persistAsync (persistence : Persistence) (h : ∀ t ∈ m.tasks, ∀ s ∈ t.sessions, ∀ time,
    P (.dispatch time (.handleUsbRemoved s t.action))) :
    Emits P m (Monitord.persistAsync persistence m) := by
  have hpass := Emits.pass persistence.duration h
  rw [Monitord.persistAsync]
  split
  · exact hpass.trans (of_log_eq rfl)
  · exact hpass

end Emits

section Running

variable (cfg : StateConfig) (m : Manager)

@[simp] theorem persistAsync_running (persistence : Persistence) :
    (persistAsync persistence m).running = m.running := by
  rw [persistAsync]
  split <;> simp

theorem handleIpc_running (isSerialPresent : String → Bool) (persistence : Persistence)
    (request : IpcRequest) :
    (handleIpc isSerialPresent persistence m request).running = m.running := by
  rcases handleIpc_cases isSerialPresent persistence m request with
    ⟨message, heq⟩ | ⟨registry, message, -, heq⟩
  · rw [heq]
    rfl
  · rw [heq]
    exact persistAsync_running ..

theorem handleLogind_running (persistence : Persistence) (signal : LogindSignal) :
    (handleLogind persistence m signal).running = m.running := by
  unfold handleLogind
  split
  · exact (SameCore.drainGraceTokens _).running
  · rfl
  · dsimp only
    split
    · rfl
    · exact persistAsync_running ..

/-- The loop runs until it is stopped. -/
theorem process_running (step : Step) :
    (process cfg m step).running = true ↔ m.running = true ∧ step.input ≠ .stop := by
  rw [process]
  by_cases hrunning : m.running = true
  · rw [if_pos hrunning]
    rcases step.input with (request | event | signal) | _
    · simp [handleIpc_running, hrunning]
    · simp [(SameCore.handleUdev cfg m event).running, hrunning]
    · simp [handleLogind_running, hrunning]
    · simp [Manager.stop, (SameCore.drainGraceTokens _).running]
  · rw [if_neg hrunning]
    simp [hrunning]

end Running

end PamCertauth.Monitord
