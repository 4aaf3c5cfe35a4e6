import PamCertauth.RegistryStore
import PamCertauth.DispatchTargets

/-!
# The registry and its file as one map of sessions

What the daemon is to remember is a map from identifiers to sessions, which every processed
event changes in a simple way. The registry holds this map after every event. A request that
changes it is answered when the file holds it too, so that a daemon that is started again
reads it back.
-/

namespace PamCertauth.Monitord

open Ipc

/-- The sessions by their identifiers. -/
abbrev SessionMap := Uuid → Option ActiveSession

/-- What an event means for the sessions. -/
def SessionMap.step (isSerialPresent : String → Bool) (sessions : SessionMap) :
    Event → SessionMap
  | .ipc (.sessionOpen session) =>
    if session.usbSerial.all isSerialPresent then
      Function.update sessions session.sessionId (some session)
    else sessions
  | .ipc (.sessionClose id) => Function.update sessions id none
  | .ipc (.updateSessionTarget id newTarget) =>
    match sessions id with
    | some session => Function.update sessions id (some { session with target := newTarget })
    | none => sessions
  | .logind (.sessionRemoved id) => fun x =>
    (sessions x).filter fun session => session.target.logindId ≠ some id
  | _ => sessions

/-- After its end the loop does not process events any more. -/
def SessionMap.input (running : Bool) (step : Step) (sessions : SessionMap) : SessionMap :=
  match running, step.input with
  | true, .event e => sessions.step step.isSerialPresent e
  | _, _ => sessions

/-- The sessions after `n` steps. -/
def mapAt (cfg : StateConfig) (m : Manager) (steps : ℕ → Step) : ℕ → SessionMap
  | 0 => fun id => m.registry.byId.lookup id
  | n + 1 => (mapAt cfg m steps n).input (runFrom cfg m steps n).running (steps n)

/-- The snapshot that the handler of the input writes. -/
def persistedSnapshot (m : Manager) (step : Step) : Option (List ActiveSession) :=
  match m.running, step.input with
  | true, .event (.ipc (.sessionOpen session)) =>
    if session.usbSerial.all step.isSerialPresent then some (m.registry.add session).snapshot
    else none
  | true, .event (.ipc (.sessionClose id)) => some (m.registry.remove id).2.snapshot
  | true, .event (.ipc (.updateSessionTarget id newTarget)) =>
    match m.registry.updateTarget id newTarget with
    | .ok registry => some registry.snapshot
    | .error _ => none
  | true, .event (.logind (.sessionRemoved id)) =>
    if (m.registry.toRemove id).isEmpty then none
    else some (m.registry.removeAll (m.registry.toRemove id)).snapshot
  | _, _ => none

/-- The file after `n` steps, when the calls of step `i` have the outcomes `call i`. -/
def fileAt {Contents : Type} (codec : JsonCodec Contents)
    (call : ℕ → StoreCall → Except String Unit) (file : Except ReadError Contents)
    (cfg : StateConfig) (m : Manager) (steps : ℕ → Step) : ℕ → Except ReadError Contents
  | 0 => file
  | n + 1 =>
    match persistedSnapshot (runFrom cfg m steps n) (steps n) with
    | some snapshot =>
      (RegistryStore.persist codec (call n) snapshot
        (fileAt codec call file cfg m steps n)).2
    | none => fileAt codec call file cfg m steps n

def SessionRegistry.Holds (r : SessionRegistry) (sessions : SessionMap) : Prop :=
  ∀ id, r.byId.lookup id = sessions id

section Holds

variable {r r' : SessionRegistry} {sessions : SessionMap} {isSerialPresent : String → Bool}
  {request : IpcRequest}

theorem all_isSerialPresent_iff {usbSerial : Option String} :
    usbSerial.all isSerialPresent = true ↔
      ∀ serial, usbSerial = some serial → isSerialPresent serial = true := by
  cases usbSerial <;> simp

theorem RegistryChange.holds (h : RegistryChange isSerialPresent r request r')
    (hr : r.Holds sessions) : r'.Holds (sessions.step isSerialPresent (.ipc request)) := by
  intro id
  cases h with
  | opened present =>
    rw [SessionMap.step, if_pos (all_isSerialPresent_iff.mpr present), SessionRegistry.lookup_add,
      Function.update_apply, hr id]
  | closed => rw [SessionMap.step, SessionRegistry.lookup_remove, Function.update_apply, hr id]
  | @retargeted id' newTarget _ updated =>
    obtain ⟨entry, hentry, hlookup⟩ := SessionRegistry.lookup_updateTarget updated
    have hknown : sessions id' = some entry := by rw [← hr id', hentry]
    rw [hlookup, SessionMap.step, hknown]
    simp only [Function.update_apply, hr id]

/-- A request that is rejected or asks for nothing leaves the map alone. -/
theorem step_of_unchanged (h : ∀ r', ¬ RegistryChange isSerialPresent r request r')
    (hr : r.Holds sessions) : sessions.step isSerialPresent (.ipc request) = sessions := by
  cases request with
  | hello => rfl
  | ping => rfl
  | getActiveSessionByUid uid => rfl
  | sessionOpen session =>
    rw [SessionMap.step, if_neg]
    intro hpresent
    exact h _ (.opened (all_isSerialPresent_iff.mp hpresent))
  | sessionClose id => exact absurd .closed (h _)
  | updateSessionTarget id newTarget =>
    cases hknown : sessions id with
    | none => rw [SessionMap.step, hknown]
    | some entry =>
      rw [← hr id] at hknown
      have hupdated : ∃ r', r.updateTarget id newTarget = .ok r' := by
        rw [SessionRegistry.updateTarget]
        split
        · next hnone =>
          rw [hknown] at hnone
          cases hnone
        · exact ⟨_, rfl⟩
      obtain ⟨r', hr'⟩ := hupdated
      exact absurd (.retargeted hr') (h r')

theorem mem_toRemove {id : String} {x : Uuid} : x ∈ r.toRemove id ↔
    ∃ session, r.byId.lookup x = some session ∧ session.target.logindId = some id := by
  simp only [SessionRegistry.toRemove, List.mem_map, List.mem_filter, decide_eq_true_eq,
    SessionRegistry.mem_snapshot]
  constructor
  · intro h
    obtain ⟨session, ⟨hlookup, htarget⟩, rfl⟩ := h
    exact ⟨session, hlookup, htarget⟩
  · intro h
    obtain ⟨session, hlookup, htarget⟩ := h
    obtain rfl := r.keyed x session hlookup
    exact ⟨session, ⟨hlookup, htarget⟩, rfl⟩

theorem holds_removeAll (hr : r.Holds sessions) (id : String) :
    (r.removeAll (r.toRemove id)).Holds
      (sessions.step isSerialPresent (.logind (.sessionRemoved id))) := by
  intro x
  rw [SessionRegistry.lookup_removeAll]
  simp only [SessionMap.step]
  rw [← hr x]
  cases hlookup : r.byId.lookup x with
  | none => simp
  | some session =>
    have hmem : x ∈ r.toRemove id ↔ session.target.logindId = some id := by
      rw [mem_toRemove, hlookup]
      simp
    by_cases htarget : session.target.logindId = some id <;> simp [hmem, htarget, Option.filter]

end Holds

section Process

variable {cfg : StateConfig} {m : Manager} {step : Step} {sessions : SessionMap}

theorem input_event {e : Event} (hrunning : m.running = true) (hinput : step.input = .event e) :
    sessions.input m.running step = sessions.step step.isSerialPresent e := by
  simp only [SessionMap.input, hrunning, hinput]

theorem holds_of_timers (hr : m.registry.Holds sessions)
    (hunasked : m.running = true → ∀ request, step.input ≠ .event (.ipc request))
    (hunended : m.running = true → ∀ id, step.input = .event (.logind (.sessionRemoved id)) →
      m.registry.toRemove id = []) :
    m.registry.Holds (sessions.input m.running step) := by
  unfold SessionMap.input
  split
  · next e hrunning hinput =>
    rcases e with request | event | (start | id)
    · exact absurd hinput (hunasked hrunning request)
    · exact hr
    · exact hr
    · have hnone : (m.registry.removeAll (m.registry.toRemove id)).Holds
          (sessions.step step.isSerialPresent (.logind (.sessionRemoved id))) :=
        holds_removeAll hr id
      rw [hunended hrunning id hinput] at hnone
      exact hnone
  · exact hr

/-- The registry keeps up with the map. -/
theorem holds_process (cfg : StateConfig) (hr : m.registry.Holds sessions) (step : Step) :
    (process cfg m step).registry.Holds (sessions.input m.running step) := by
  have heffect := process_effect cfg m step
  generalize process cfg m step = m' at heffect ⊢
  cases heffect with
  | timers hunasked hunended hregistry _ _ _ =>
    rw [hregistry]
    exact holds_of_timers hr hunasked hunended
  | answered hrunning hinput _ hunchanged =>
    rw [input_event hrunning hinput, step_of_unchanged hunchanged hr]
    exact hr
  | confirmed hrunning hinput _ hchange =>
    rw [Manager.send, persistAsync_registry, input_event hrunning hinput]
    exact hchange.holds hr
  | ended hrunning hinput _ =>
    rw [persistAsync_registry, input_event hrunning hinput]
    exact holds_removeAll hr _

theorem persistedSnapshot_of_change {request : IpcRequest} {registry : SessionRegistry}
    (hrunning : m.running = true) (hinput : step.input = .event (.ipc request))
    (hchange : RegistryChange step.isSerialPresent m.registry request registry) :
    persistedSnapshot m step = some registry.snapshot := by
  cases hchange with
  | opened present =>
    simp only [persistedSnapshot, hrunning, hinput, all_isSerialPresent_iff.mpr present, if_true]
  | closed => simp only [persistedSnapshot, hrunning, hinput]
  | retargeted updated => simp only [persistedSnapshot, hrunning, hinput, updated]

/-- The state in which a confirmation is sent: the registry has been written. -/
theorem written_of_confirms {message : ServerMessage} (hanswer : answer cfg m step = some message)
    (hconfirms : confirms message = true) (hsucceeds : step.persistence.succeeds = true) :
    ∃ m' : Manager, process cfg m step = m'.send message ∧ m'.stored = m'.registry.snapshot ∧
      persistedSnapshot m step = some m'.registry.snapshot := by
  have heffect := process_effect cfg m step
  generalize hprocess : process cfg m step = m₁ at heffect
  cases heffect with
  | timers hunasked =>
    have hsilent : answer cfg m step = none := by
      rw [answer]
      split
      · next hrunning hinput _ => exact absurd hinput (hunasked hrunning _)
      · rfl
    rw [hanswer] at hsilent
    cases hsilent
  | answered hrunning hinput hunconfirmed _ =>
    rw [answer_of_send hrunning hinput hprocess, Option.some.injEq] at hanswer
    rw [hanswer, hconfirms] at hunconfirmed
    cases hunconfirmed
  | confirmed hrunning hinput _ hchange =>
    rw [answer_of_send hrunning hinput hprocess, Option.some.injEq] at hanswer
    subst hanswer
    refine ⟨_, rfl, ?_, ?_⟩
    · rw [persistAsync_registry]
      simp only [persistAsync, hsucceeds, if_true]
    · rw [persistAsync_registry]
      exact persistedSnapshot_of_change hrunning hinput hchange
  | ended hrunning hinput _ =>
    simp [answer, hrunning, hinput] at hanswer

end Process

section Restart

variable {r : SessionRegistry} {sessions : List ActiveSession}

theorem lookup_foldl_insertSession (hdistinct : (sessions.map ActiveSession.sessionId).Nodup)
    {id : Uuid} {s : ActiveSession} :
    (sessions.foldl SessionRegistry.insertSession r).byId.lookup id = some s ↔
      s ∈ sessions ∧ s.sessionId = id ∨
        (∀ t ∈ sessions, t.sessionId ≠ id) ∧ r.byId.lookup id = some s := by
  induction sessions generalizing r with
  | nil => simp
  | cons first rest ih =>
    rw [List.map_cons, List.nodup_cons] at hdistinct
    rw [List.foldl_cons, ih hdistinct.2]
    by_cases hid : first.sessionId = id
    · have hrest : ∀ t ∈ rest, t.sessionId ≠ id := by
        intro t ht heq
        exact hdistinct.1 (hid ▸ heq ▸ List.mem_map_of_mem ht)
      have hlookup : (r.insertSession first).byId.lookup id = some first := by
        rw [← hid]
        exact AList.lookup_insert r.byId
      rw [hlookup, Option.some.injEq]
      constructor
      · rintro (⟨hs, hsid⟩ | ⟨-, rfl⟩)
        · exact absurd hsid (hrest s hs)
        · exact .inl ⟨List.mem_cons_self, hid⟩
      · rintro (⟨hs, hsid⟩ | ⟨hnone, -⟩)
        · rcases List.mem_cons.mp hs with rfl | hs
          · exact .inr ⟨hrest, rfl⟩
          · exact absurd hsid (hrest s hs)
        · exact absurd hid (hnone first List.mem_cons_self)
    · have hlookup : (r.insertSession first).byId.lookup id = r.byId.lookup id :=
        AList.lookup_insert_ne (Ne.symm hid)
      rw [hlookup]
      constructor
      · rintro (⟨hs, hsid⟩ | ⟨hnone, hold⟩)
        · exact .inl ⟨List.mem_cons_of_mem first hs, hsid⟩
        · refine .inr ⟨fun t ht => ?_, hold⟩
          rcases List.mem_cons.mp ht with rfl | ht
          · exact hid
          · exact hnone t ht
      · rintro (⟨hs, hsid⟩ | ⟨hnone, hold⟩)
        · rcases List.mem_cons.mp hs with rfl | hs
          · exact absurd hsid hid
          · exact .inl ⟨hs, hsid⟩
        · exact .inr ⟨fun t ht => hnone t (List.mem_cons_of_mem first ht), hold⟩

/-- The registry that is built from a snapshot of another one holds the same sessions. -/
theorem fromSnapshot_snapshot (r : SessionRegistry) (id : Uuid) :
    (SessionRegistry.fromSnapshot r.snapshot).byId.lookup id = r.byId.lookup id := by
  have hdistinct : (r.snapshot.map ActiveSession.sessionId).Nodup := by
    rw [SessionRegistry.map_sessionId_snapshot]
    exact r.byId.keys_nodup
  apply Option.ext
  intro s
  rw [SessionRegistry.fromSnapshot, lookup_foldl_insertSession hdistinct,
    SessionRegistry.mem_snapshot]
  constructor
  · rintro (⟨hs, rfl⟩ | ⟨-, hnew⟩)
    · exact hs
    · simp [SessionRegistry.new] at hnew
  · intro hs
    obtain rfl := r.keyed id s hs
    exact .inl ⟨hs, rfl⟩

end Restart

def SessionMap.WholeTimes (sessions : SessionMap) : Prop :=
  ∀ id s, sessions id = some s → SystemTimeSerde.WholeSeconds s.openedAt

theorem SessionMap.WholeTimes.update {sessions : SessionMap} (h : sessions.WholeTimes) (id : Uuid)
    {entry : Option ActiveSession}
    (hentry : ∀ s, entry = some s → SystemTimeSerde.WholeSeconds s.openedAt) :
    WholeTimes (Function.update sessions id entry) := by
  intro id' s hs
  rw [Function.update_apply] at hs
  split at hs
  · exact hentry s hs
  · exact h id' s hs

theorem SessionMap.WholeTimes.step {sessions : SessionMap} (h : sessions.WholeTimes)
    (isSerialPresent : String → Bool) {e : Event}
    (hopen : ∀ session, e = .ipc (.sessionOpen session) →
      SystemTimeSerde.WholeSeconds session.openedAt) :
    (sessions.step isSerialPresent e).WholeTimes := by
  rcases e with (_ | session | id | _ | uid | ⟨id, newTarget⟩) | event | (start | id)
  · exact h
  · rw [SessionMap.step]
    split
    · apply h.update
      rintro s ⟨⟩
      exact hopen session rfl
    · exact h
  · exact h.update id nofun
  · exact h
  · exact h
  · rw [SessionMap.step]
    split
    · next session hknown =>
      apply h.update
      rintro s ⟨⟩
      exact h id session hknown
    · exact h
  · exact h
  · exact h
  · intro x s hs
    exact h x s (Option.filter_eq_some_iff.mp hs).1

section Runs

variable {Contents : Type} {codec : JsonCodec Contents} {cfg : StateConfig} {m : Manager}
  {steps : ℕ → Step}

theorem holds_runFrom (cfg : StateConfig) (m : Manager) (steps : ℕ → Step) (n : ℕ) :
    (runFrom cfg m steps n).registry.Holds (mapAt cfg m steps n) := by
  induction n with
  | zero => exact fun id => rfl
  | succ n ih =>
    rw [runFrom, advance, Manager.pass_registry]
    exact holds_process cfg ih (steps n)

theorem wholeTimes_mapAt (hstart : ∀ s ∈ m.registry.snapshot, SystemTimeSerde.WholeSeconds s.openedAt)
    (hopened : ∀ n session, (steps n).input = .event (.ipc (.sessionOpen session)) →
      SystemTimeSerde.WholeSeconds session.openedAt) (n : ℕ) :
    (mapAt cfg m steps n).WholeTimes := by
  induction n with
  | zero =>
    intro id s hs
    apply hstart s
    rw [SessionRegistry.mem_snapshot, m.registry.keyed id s hs]
    exact hs
  | succ n ih =>
    rw [mapAt]
    unfold SessionMap.input
    split
    · next e _ hinput =>
      apply ih.step
      rintro session rfl
      exact hopened n session hinput
    · exact ih

end Runs

/-- Every run keeps the registry equal to the map of the sessions. When a request is
acknowledged the file has been replaced already: what is loaded from it are the sessions of
the map, each once, and a registry that is built from them holds the map again. -/
theorem registry_durable {Contents : Type} (codec : JsonCodec Contents) (hcodec : codec.RoundTrips)
    (call : ℕ → StoreCall → Except String Unit) (hcall : ∀ n c, call n c = .ok ())
    (file : Except ReadError Contents) (cfg : StateConfig) (registry : SessionRegistry)
    (hstart : ∀ s ∈ registry.snapshot, SystemTimeSerde.WholeSeconds s.openedAt)
    (stored : List ActiveSession) (now : ℕ) (steps : ℕ → Step)
    (hpersisted : ∀ n, (steps n).persistence.succeeds = true)
    (hopened : ∀ n session, (steps n).input = .event (.ipc (.sessionOpen session)) →
      SystemTimeSerde.WholeSeconds session.openedAt) (n : ℕ) :
    (∀ id, (runFrom cfg (spawnStateManager registry stored now) steps n).registry.byId.lookup id =
      mapAt cfg (spawnStateManager registry stored now) steps n id) ∧
    ∀ message,
      answer cfg (runFrom cfg (spawnStateManager registry stored now) steps n) (steps n) =
        some message →
      (message = .ack ∨ ∃ id, message = .sessionTargetUpdated id) →
      ∃ (atReply : Manager) (loaded : List ActiveSession),
        process cfg (runFrom cfg (spawnStateManager registry stored now) steps n) (steps n) =
          atReply.send message ∧
        atReply.stored = loaded ∧
        RegistryStore.load codec (fileAt codec call file cfg
          (spawnStateManager registry stored now) steps (n + 1)) = .ok loaded ∧
        (loaded.map ActiveSession.sessionId).Nodup ∧
        (∀ s, s ∈ loaded ↔
          mapAt cfg (spawnStateManager registry stored now) steps (n + 1) s.sessionId = some s) ∧
        ∀ id, (SessionRegistry.fromSnapshot loaded).byId.lookup id =
          mapAt cfg (spawnStateManager registry stored now) steps (n + 1) id := by
  refine ⟨holds_runFrom cfg _ steps n, fun message hanswer hmessage => ?_⟩
  have hconfirms : confirms message = true := by
    rcases hmessage with rfl | ⟨id, rfl⟩ <;> rfl
  obtain ⟨atReply, hprocess, hstored, hsnapshot⟩ :=
    written_of_confirms hanswer hconfirms (hpersisted n)
  have hholds : atReply.registry.Holds
      (mapAt cfg (spawnStateManager registry stored now) steps (n + 1)) := by
    have hstep := holds_process cfg
      (holds_runFrom cfg (spawnStateManager registry stored now) steps n) (steps n)
    rw [hprocess] at hstep
    exact hstep
  have hwhole : ∀ s ∈ atReply.registry.snapshot, SystemTimeSerde.WholeSeconds s.openedAt := by
    intro s hs
    rw [SessionRegistry.mem_snapshot, hholds] at hs
    exact wholeTimes_mapAt (m := spawnStateManager registry stored now) hstart hopened (n + 1) _ s hs
  refine ⟨atReply, atReply.registry.snapshot, hprocess, hstored, ?_, ?_, fun s => ?_, fun id => ?_⟩
  · rw [fileAt, hsnapshot]
    exact (RegistryStore.load_persist hcodec (hcall n) hwhole _).2
  · rw [SessionRegistry.map_sessionId_snapshot]
    exact atReply.registry.byId.keys_nodup
  · rw [SessionRegistry.mem_snapshot, hholds]
  · rw [fromSnapshot_snapshot, hholds]

/-- Files whose contents are the rows themselves. -/
def rowCodec : JsonCodec (List StoredSession) where
  toVecPretty rows := .ok rows
  fromSlice rows := .ok rows

/-- A session that is opened and then closed in the grace period is in the file when its
opening is acknowledged. -/
theorem registry_durable_opened :
    ∃ loaded, RegistryStore.load rowCodec (fileAt rowCodec (fun _ _ => .ok ()) (.error .notFound)
        .testDefaults (spawnStateManager .new [] 0) closeInGrace 1) = .ok loaded ∧
      aliceSession ∈ loaded := by
  have hdurable := registry_durable rowCodec (fun rows => ⟨rows, rfl, rfl⟩) (fun _ _ => .ok ())
    (fun _ _ => rfl) (.error .notFound) .testDefaults .new (by simp [SessionRegistry.new,
      SessionRegistry.snapshot]) [] 0 closeInGrace (fun _ => rfl) (fun n session hinput => ?_) 0
  · obtain ⟨-, loaded, -, -, hload, -, hmem, -⟩ := hdurable.2 .ack (by decide +kernel) (.inl rfl)
    exact ⟨loaded, hload, (hmem aliceSession).mpr (by decide +kernel)⟩
  · rcases n with _ | _ | _ | n
    · cases hinput
      exact ⟨0, by decide⟩
    all_goals cases hinput

end PamCertauth.Monitord
