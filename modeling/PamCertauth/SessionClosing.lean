import PamCertauth.StateManager

/-!
# Actions for closed sessions

A session that has been closed is no longer in the registry, so no removal captures it any
more. A grace timer that was armed before holds its own copy of the session, and closing
does not cancel it. After the close has been answered the action is dispatched for the
closed session exactly if such a timer is still running.
-/

namespace PamCertauth.Monitord

open Ipc

/-- The action is requested for the session. -/
def Emission.Concerns (x : Uuid) : Emission → Prop
  | .dispatch _ (.handleUsbRemoved session _) => session.sessionId = x
  | .reply _ => False

/-- Between the two states no action is dispatched for the session. -/
def Quiet (x : Uuid) (m m' : Manager) : Prop :=
  ∃ later, m'.log = m.log ++ later ∧ ∀ e ∈ later, ¬ e.Concerns x

def GraceTask.Captures (x : Uuid) (t : GraceTask) : Prop :=
  ∃ session ∈ t.sessions, session.sessionId = x

/-- The step opens the session, and the device of the session is present. -/
def Step.Opens (x : Uuid) (step : Step) : Prop :=
  ∃ session, step.input = .event (.ipc (.sessionOpen session)) ∧ session.sessionId = x ∧
    ∀ serial, session.usbSerial = some serial → step.isSerialPresent serial = true

/-- The session is closed, by its identifier or by the end of its logind session. -/
def Closes (x : Uuid) (m : Manager) (step : Step) : Prop :=
  m.running = true ∧ (step.input = .event (.ipc (.sessionClose x)) ∨
    ∃ id, step.input = .event (.logind (.sessionRemoved id)) ∧
      ∃ session ∈ m.registry.snapshot, session.sessionId = x ∧ session.target.logindId = some id)

/-- Every timer that captured the session has expired when the registry has been written. -/
def TimersOver (x : Uuid) (m : Manager) (step : Step) : Prop :=
  ∀ t ∈ m.tasks, t.Captures x → t.deadline ≤ m.now + step.persistence.duration

namespace Quiet

variable {x : Uuid} {m m' m'' : Manager}

theorem refl (x : Uuid) (m : Manager) : Quiet x m m := Emits.refl _ m

theorem trans (h : Quiet x m m') (h' : Quiet x m' m'') : Quiet x m m'' := Emits.trans h h'

theorem of_log_eq (h : m'.log = m.log) : Quiet x m m' := Emits.of_log_eq h

theorem send (m : Manager) (message : ServerMessage) : Quiet x m (m.send message) :=
  Emits.send m (by simp [Emission.Concerns])

end Quiet

structure Absent (x : Uuid) (m : Manager) : Prop where
  unregistered : x ∉ m.registry.byId
  uncaptured : ∀ t ∈ m.tasks, ¬ t.Captures x

/-- The session is absent, and no action has been dispatched for it on the way. -/
def StaysAbsent (x : Uuid) (m m' : Manager) : Prop := Absent x m' ∧ Quiet x m m'

namespace Absent

variable {x : Uuid} {m : Manager}

theorem pass (d : ℕ) (h : Absent x m) : StaysAbsent x m (m.pass d) := by
  refine ⟨⟨?_, fun t ht => ?_⟩, Emits.pass d fun t ht session hsession time hx => ?_⟩
  · rw [Manager.pass_registry]
    exact h.unregistered
  · rw [Manager.pass_tasks] at ht
    exact h.uncaptured t (List.mem_of_mem_filter ht)
  · exact h.uncaptured t ht ⟨session, hsession, hx⟩

theorem send (h : Absent x m) (message : ServerMessage) : StaysAbsent x m (m.send message) :=
  ⟨{ h with }, .send m message⟩

theorem persistAsync (h : Absent x m) (persistence : Persistence) :
    StaysAbsent x m (Monitord.persistAsync persistence m) := by
  obtain ⟨hpass, hquiet⟩ := h.pass persistence.duration
  rw [Monitord.persistAsync]
  split
  · exact ⟨{ hpass with }, hquiet.trans (.of_log_eq rfl)⟩
  · exact ⟨hpass, hquiet⟩

theorem trans {m' m'' : Manager} (h : StaysAbsent x m m') (h' : StaysAbsent x m' m'') :
    StaysAbsent x m m'' :=
  ⟨h'.1, h.2.trans h'.2⟩

theorem persisted (h : Absent x m) (persistence : Persistence) {r : SessionRegistry}
    (hr : x ∉ r.byId) :
    StaysAbsent x m (Monitord.persistAsync persistence { m with registry := r }) := by
  have hregistry : StaysAbsent x m { m with registry := r } :=
    ⟨{ h with unregistered := hr }, .of_log_eq rfl⟩
  exact trans hregistry (hregistry.1.persistAsync persistence)

theorem registryChange {isSerialPresent : String → Bool} {r r' : SessionRegistry}
    {request : IpcRequest} (h : RegistryChange isSerialPresent r request r')
    (hr : x ∉ r.byId)
    (hopen : ∀ session, request = .sessionOpen session → session.sessionId = x →
      ¬ ∀ serial, session.usbSerial = some serial → isSerialPresent serial = true) :
    x ∉ r'.byId := by
  cases h with
  | opened present =>
    rw [SessionRegistry.mem_add, not_or]
    exact ⟨fun heq => hopen _ rfl heq.symm present, hr⟩
  | closed =>
    rw [SessionRegistry.mem_remove]
    exact fun hmem => hr hmem.2
  | retargeted updated =>
    rw [SessionRegistry.mem_updateTarget updated]
    exact hr

theorem process (cfg : StateConfig) (h : Absent x m) {step : Step} (hopen : ¬ step.Opens x) :
    StaysAbsent x m (Monitord.process cfg m step) := by
  have heffect := process_effect cfg m step
  generalize Monitord.process cfg m step = m' at heffect ⊢
  cases heffect with
  | timers _ _ hregistry _ hlog htasks =>
    refine ⟨⟨by rw [hregistry]; exact h.unregistered, fun t ht hcaptures => ?_⟩, .of_log_eq hlog⟩
    rcases htasks t ht with hold | ⟨serial, hnew⟩
    · exact h.uncaptured t hold hcaptures
    · -- A new task captures registered sessions only.
      obtain ⟨session, hsession, rfl⟩ := hcaptures
      rw [hnew] at hsession
      exact h.unregistered (SessionRegistry.sessionId_mem
        (SessionRegistry.mem_findBySerial.mp hsession).1)
  | answered _ _ _ _ => exact h.send _
  | @confirmed request message registry _ hinput _ hchange =>
    have hopen' : ∀ session, request = .sessionOpen session → session.sessionId = x →
        ¬ ∀ serial, session.usbSerial = some serial → step.isSerialPresent serial = true := by
      intro session hrequest hid hpresent
      exact hopen ⟨session, by rw [hinput, hrequest], hid, hpresent⟩
    have hpersisted := h.persisted step.persistence (registryChange hchange h.unregistered hopen')
    exact trans hpersisted (hpersisted.1.send message)
  | ended _ _ _ =>
    apply h.persisted step.persistence
    rw [← AList.lookup_eq_none, SessionRegistry.lookup_removeAll,
      AList.lookup_eq_none.mpr h.unregistered, ite_self]

theorem advance (cfg : StateConfig) (h : Absent x m) {step : Step} (hopen : ¬ step.Opens x) :
    StaysAbsent x m (Monitord.advance cfg m step) := by
  have hprocess := h.process cfg hopen
  exact trans hprocess (hprocess.1.pass step.wait)

/-- A session stays absent as long as it is not opened. -/
theorem runFrom (cfg : StateConfig) (h : Absent x m) {steps : ℕ → Step}
    {n : ℕ} (hopen : ∀ i, i < n → ¬ (steps i).Opens x) :
    StaysAbsent x m (Monitord.runFrom cfg m steps n) := by
  induction n with
  | zero => exact ⟨h, .refl x m⟩
  | succ n ih =>
    have hbefore := ih fun i hi => hopen i (by omega)
    exact trans hbefore (hbefore.1.advance cfg (hopen n (by omega)))

end Absent

section Closing

variable {x : Uuid} {m : Manager}

/-- A closed session is gone from the registry. The timers run on. -/
theorem Closes.process (cfg : StateConfig) {step : Step} (h : Closes x m step) :
    x ∉ (process cfg m step).registry.byId ∧
      (process cfg m step).tasks =
        m.tasks.filter fun t => m.now + step.persistence.duration < t.deadline := by
  obtain ⟨hrunning, hinput | ⟨id, hinput, session, hsession, hx, htarget⟩⟩ := h
  · simp only [Monitord.process, hrunning, if_true, hinput, handleIpc, Manager.send,
      persistAsync_tasks, persistAsync_registry, SessionRegistry.mem_remove]
    simp
  · have hmem : x ∈ m.registry.toRemove id := by
      rw [← hx]
      exact List.mem_map_of_mem (List.mem_filter.mpr ⟨hsession, by simpa using htarget⟩)
    have heffect := process_effect cfg m step
    generalize Monitord.process cfg m step = m' at heffect ⊢
    cases heffect with
    | timers _ hunended =>
      rw [hunended hrunning id hinput] at hmem
      simp at hmem
    | answered _ hinput' => simp [hinput] at hinput'
    | confirmed _ hinput' => simp [hinput] at hinput'
    | @ended id' _ hinput' _ =>
      obtain rfl : id = id' := by simpa [hinput] using hinput'
      rw [persistAsync_tasks, persistAsync_registry]
      refine ⟨?_, rfl⟩
      rw [← AList.lookup_eq_none, SessionRegistry.lookup_removeAll, if_pos hmem]

theorem exists_dispatch_pass (d : ℕ) (m : Manager) :
    ∃ later, (m.pass d).log = m.log ++ later ∧
      ∀ t ∈ m.tasks, t.deadline ≤ m.now + d → ∀ session ∈ t.sessions,
        ∃ time, .dispatch time (.handleUsbRemoved session t.action) ∈ later := by
  induction d generalizing m with
  | zero =>
    refine ⟨_, rfl, fun t ht hdue session hsession => ⟨m.now, ?_⟩⟩
    exact List.mem_flatMap.mpr ⟨t, List.mem_filter.mpr ⟨ht, decide_eq_true hdue⟩,
      List.mem_map_of_mem hsession⟩
  | succ d ih =>
    obtain ⟨later, hlog, hlater⟩ := ih { m.fire with now := m.now + 1 }
    refine ⟨_ ++ later, by rw [Manager.pass, hlog, ← List.append_assoc]; rfl, ?_⟩
    intro t ht hdue session hsession
    by_cases hnow : t.deadline ≤ m.now
    · refine ⟨m.now, List.mem_append_left _ ?_⟩
      exact List.mem_flatMap.mpr ⟨t, List.mem_filter.mpr ⟨ht, decide_eq_true hnow⟩,
        List.mem_map_of_mem hsession⟩
    · have hpending : t ∈ m.fire.tasks :=
        List.mem_filter.mpr ⟨ht, decide_eq_true (not_le.mp hnow)⟩
      obtain ⟨time, hmem⟩ := hlater t hpending (by simp only; omega) session hsession
      exact ⟨time, List.mem_append_right _ hmem⟩

theorem not_quiet_pass {t : GraceTask} (ht : t ∈ m.tasks) (hcaptures : t.Captures x) {d : ℕ}
    (hdue : t.deadline ≤ m.now + d) : ¬ Quiet x m (m.pass d) := by
  intro hquietly
  obtain ⟨quiet, hlog, hquiet⟩ := hquietly
  obtain ⟨later, hlog', hlater⟩ := exists_dispatch_pass d m
  obtain rfl : quiet = later := List.append_cancel_left (hlog.symm.trans hlog')
  obtain ⟨session, hsession, hx⟩ := hcaptures
  obtain ⟨time, hmem⟩ := hlater t ht hdue session hsession
  exact hquiet _ hmem hx

theorem Closes.absent_iff (cfg : StateConfig) {step : Step} (h : Closes x m step) :
    Absent x (Monitord.process cfg m step) ↔ TimersOver x m step := by
  obtain ⟨hregistry, htasks⟩ := h.process cfg
  constructor
  · intro habsent t ht hcaptures
    by_contra hlate
    have hpending : t ∈ (Monitord.process cfg m step).tasks := by
      rw [htasks]
      exact List.mem_filter.mpr ⟨ht, decide_eq_true (not_le.mp hlate)⟩
    exact habsent.uncaptured t hpending hcaptures
  · intro hexpire
    refine ⟨hregistry, fun t ht hcaptures => ?_⟩
    rw [htasks] at ht
    obtain ⟨ht, hlate⟩ := List.mem_filter.mp ht
    exact absurd (hexpire t ht hcaptures) (not_le.mpr (of_decide_eq_true hlate))

end Closing

/-- Two sequences of steps with the same history up to the reply to step `n`. -/
def SameHistory (n : ℕ) (steps steps' : ℕ → Step) : Prop :=
  (∀ i, i < n → steps' i = steps i) ∧ steps' n = { steps n with wait := (steps' n).wait }

/-- Whatever happens after the session has been closed at step `n`, no action is dispatched
for it until it is opened again. -/
def ClosedForGood (cfg : StateConfig) (m : Manager) (steps : ℕ → Step) (x : Uuid) (n : ℕ) : Prop :=
  ∀ steps', SameHistory n steps steps' → ∀ k,
    (∀ i, n < i → i < n + 1 + k → ¬ (steps' i).Opens x) →
      Quiet x (process cfg (runFrom cfg m steps n) (steps n)) (runFrom cfg m steps' (n + 1 + k))

theorem SameHistory.runFrom_succ {n : ℕ} {steps steps' : ℕ → Step} (h : SameHistory n steps steps')
    (cfg : StateConfig) (m : Manager) : runFrom cfg m steps' (n + 1) =
      (process cfg (runFrom cfg m steps n) (steps n)).pass (steps' n).wait := by
  rw [runFrom, runFrom_congr cfg m h.1, advance]
  congr 1
  rw [h.2]
  rfl

/-- A history can go on with any time to wait. -/
theorem exists_sameHistory (n : ℕ) (steps : ℕ → Step) (w : ℕ) :
    ∃ steps', SameHistory n steps steps' ∧ (steps' n).wait = w := by
  refine ⟨fun i => if i < n then steps i else { steps n with wait := w },
    ⟨fun i hi => if_pos hi, ?_⟩, ?_⟩
  · simp
  · simp

section Runs

variable {cfg : StateConfig} {m : Manager} {steps : ℕ → Step} {x : Uuid} {n : ℕ}

theorem closedForGood_of_absent (h : Absent x (process cfg (runFrom cfg m steps n) (steps n))) :
    ClosedForGood cfg m steps x n := by
  intro steps' hhistory k hopen
  obtain ⟨hpass, hquiet⟩ := h.pass (steps' n).wait
  rw [runFrom_add, hhistory.runFrom_succ]
  refine hquiet.trans (hpass.runFrom cfg fun i hi => ?_).2
  exact hopen (n + 1 + i) (by omega) (by omega)

theorem ClosedForGood.uncaptured (h : ClosedForGood cfg m steps x n) {t : GraceTask}
    (ht : t ∈ (process cfg (runFrom cfg m steps n) (steps n)).tasks) : ¬ t.Captures x := by
  intro hcaptures
  -- Nothing happens until the timer has expired.
  obtain ⟨steps', hhistory, hwait⟩ := exists_sameHistory n steps t.deadline
  have hquiet := h steps' hhistory 0 (fun i hi hi' => by omega)
  rw [Nat.add_zero, hhistory.runFrom_succ, hwait] at hquiet
  exact not_quiet_pass ht hcaptures (Nat.le_add_left _ _) hquiet

theorem Closes.closedForGood_iff (h : Closes x (runFrom cfg m steps n) (steps n)) :
    ClosedForGood cfg m steps x n ↔ TimersOver x (runFrom cfg m steps n) (steps n) := by
  rw [← h.absent_iff cfg]
  constructor
  · intro hgood
    exact ⟨(h.process cfg).1, fun t ht => hgood.uncaptured ht⟩
  · exact closedForGood_of_absent

end Runs

/-- In every run in which the timers of a session are over at each of its closes, no action
is dispatched for the closed session until it is opened again. For each close of a run this
is also necessary: otherwise the run can go on with an action for the closed session. -/
theorem closed_sessions_quiet_iff (cfg : StateConfig) (registry : SessionRegistry)
    (stored : List ActiveSession) (now : ℕ) (steps : ℕ → Step) (x : Uuid) :
    ((∀ n, Closes x (runFrom cfg (spawnStateManager registry stored now) steps n) (steps n) →
        TimersOver x (runFrom cfg (spawnStateManager registry stored now) steps n) (steps n)) →
      ∀ n k, Closes x (runFrom cfg (spawnStateManager registry stored now) steps n) (steps n) →
        (∀ i, n < i → i < n + 1 + k → ¬ (steps i).Opens x) →
        Quiet x
          (process cfg (runFrom cfg (spawnStateManager registry stored now) steps n) (steps n))
          (runFrom cfg (spawnStateManager registry stored now) steps (n + 1 + k))) ∧
    ∀ n, Closes x (runFrom cfg (spawnStateManager registry stored now) steps n) (steps n) →
      (ClosedForGood cfg (spawnStateManager registry stored now) steps x n ↔
        TimersOver x (runFrom cfg (spawnStateManager registry stored now) steps n) (steps n)) := by
  refine ⟨fun hover n k hcloses hopen => ?_, fun n hcloses => hcloses.closedForGood_iff⟩
  have hgood := hcloses.closedForGood_iff.mpr (hover n hcloses)
  exact hgood steps ⟨fun _ _ => rfl, rfl⟩ k hopen

def aliceSession : ActiveSession where
  sessionId := 7
  pamUser := "alice"
  pamService := "login"
  target := .logindSession "c2"
  usbSerial := some "A1"
  hostIdHash := ""
  openedAt := 0
  certCn := "alice"
  certSerial := "01"
  engineerSki := ""
  engineerCertSha256 := ""
  uid := 1000

/-- The session is opened, its device is removed, and the session is closed at once. -/
def closeInGrace (i : ℕ) : Step where
  input := match i with
    | 0 => .event (.ipc (.sessionOpen aliceSession))
    | 1 => .event (.udev ⟨.remove, some "A1"⟩)
    | 2 => .event (.ipc (.sessionClose 7))
    | _ => .event (.ipc .ping)
  isSerialPresent := fun _ => true
  persistence := ⟨0, true⟩
  wait := if i = 2 then StateConfig.testDefaults.grace else 0

def graceStart : Manager := spawnStateManager .new [] 0

/-- The reply to the close finds the timer armed, and the wait behind it lets it expire. -/
theorem closeInGrace_dispatches :
    Closes 7 (runFrom .testDefaults graceStart closeInGrace 2) (closeInGrace 2) ∧
      (∀ i, 2 < i → ¬ (closeInGrace i).Opens 7) ∧
      ¬ Quiet 7 (process .testDefaults (runFrom .testDefaults graceStart closeInGrace 2)
          (closeInGrace 2)) (runFrom .testDefaults graceStart closeInGrace 3) := by
  refine ⟨⟨by decide +kernel, .inl rfl⟩, ?_, ?_⟩
  · rintro i hi ⟨session, hinput, -, -⟩
    match i, hi with
    | _ + 3, _ => cases hinput
  · have htask : (⟨0, "A1", [aliceSession], .lock, StateConfig.testDefaults.grace⟩ : GraceTask) ∈
        (process .testDefaults (runFrom .testDefaults graceStart closeInGrace 2)
          (closeInGrace 2)).tasks := by decide +kernel
    exact not_quiet_pass htask ⟨aliceSession, List.mem_singleton_self _, rfl⟩ (Nat.le_add_left _ _)

/-- The device is removed, put back and removed again, and the session is closed when the
second timer has one tick left. The registry write of the close takes longer than that. -/
def closeBehindGrace (i : ℕ) : Step where
  input := match i with
    | 0 => .event (.ipc (.sessionOpen aliceSession))
    | 1 => .event (.udev ⟨.remove, some "A1"⟩)
    | 2 => .event (.udev ⟨.add, some "A1"⟩)
    | 3 => .event (.udev ⟨.remove, some "A1"⟩)
    | 4 => .event (.ipc (.sessionClose 7))
    | _ => .event (.ipc .ping)
  isSerialPresent := fun _ => true
  persistence := ⟨if i = 4 then 2 else 0, true⟩
  wait := if i = 3 then StateConfig.testDefaults.grace - 1 else 0

theorem closeBehindGrace_closes {m : Manager} {n : ℕ} (h : Closes 7 m (closeBehindGrace n)) :
    n = 4 := by
  obtain ⟨-, hinput | ⟨id, hinput, -⟩⟩ := h
  · rcases n with _ | _ | _ | _ | _ | n <;> cases hinput
    rfl
  · rcases n with _ | _ | _ | _ | _ | n <;> cases hinput

theorem closeBehindGrace_armed :
    (process .testDefaults (runFrom .testDefaults graceStart closeBehindGrace 3)
        (closeBehindGrace 3)).tasks =
      [⟨1, "A1", [aliceSession], .lock, StateConfig.testDefaults.grace⟩] ∧
    (process .testDefaults (runFrom .testDefaults graceStart closeBehindGrace 3)
        (closeBehindGrace 3)).now = 0 ∧
    (process .testDefaults (runFrom .testDefaults graceStart closeBehindGrace 3)
        (closeBehindGrace 3)).running = true := by
  decide +kernel

/-- At the close one timer is running, and it holds the session. -/
theorem closeBehindGrace_pending :
    (runFrom .testDefaults graceStart closeBehindGrace 4).tasks =
      [⟨1, "A1", [aliceSession], .lock, StateConfig.testDefaults.grace⟩] ∧
    (runFrom .testDefaults graceStart closeBehindGrace 4).now =
      StateConfig.testDefaults.grace - 1 ∧
    (runFrom .testDefaults graceStart closeBehindGrace 4).running = true := by
  obtain ⟨htasks, hnow, hrunning⟩ := closeBehindGrace_armed
  rw [runFrom, advance, Manager.pass_tasks, Manager.pass_now, Manager.pass_running, htasks, hnow,
    hrunning]
  decide

theorem closed_sessions_quiet_behindGrace :
    (∃ t ∈ (runFrom .testDefaults graceStart closeBehindGrace 4).tasks, t.Captures 7) ∧
      Closes 7 (runFrom .testDefaults graceStart closeBehindGrace 4) (closeBehindGrace 4) ∧
      Quiet 7 (process .testDefaults (runFrom .testDefaults graceStart closeBehindGrace 4)
        (closeBehindGrace 4)) (runFrom .testDefaults graceStart closeBehindGrace 9) ∧
      ClosedForGood .testDefaults graceStart closeBehindGrace 7 4 := by
  obtain ⟨htasks, hnow, hrunning⟩ := closeBehindGrace_pending
  have hcloses : Closes 7 (runFrom .testDefaults graceStart closeBehindGrace 4)
      (closeBehindGrace 4) := ⟨hrunning, .inl rfl⟩
  have hover : ∀ n, Closes 7 (runFrom .testDefaults graceStart closeBehindGrace n)
      (closeBehindGrace n) →
      TimersOver 7 (runFrom .testDefaults graceStart closeBehindGrace n) (closeBehindGrace n) := by
    intro n hn t ht _
    obtain rfl := closeBehindGrace_closes hn
    rw [htasks, List.mem_singleton] at ht
    rw [ht, hnow]
    decide
  obtain ⟨hquiet, hgood⟩ := closed_sessions_quiet_iff .testDefaults .new [] 0 closeBehindGrace 7
  refine ⟨⟨_, by rw [htasks]; exact List.mem_singleton_self _, aliceSession,
    List.mem_singleton_self _, rfl⟩, hcloses, ?_, (hgood 4 hcloses).mpr (hover 4 hcloses)⟩
  refine hquiet hover 4 4 hcloses ?_
  rintro i hi - ⟨session, hinput, -⟩
  obtain ⟨i, rfl⟩ := Nat.exists_eq_add_of_lt hi
  rw [Nat.add_right_comm, Nat.add_comm] at hinput
  cases hinput

end PamCertauth.Monitord
