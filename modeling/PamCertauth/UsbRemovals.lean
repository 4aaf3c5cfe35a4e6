import PamCertauth.GraceTimers

/-!
# Which removals of a device have consequences

A processed removal is effective if it falls outside the suspend window, concerns a
registered session, and is the first one since the device was last inserted, the host last
went to sleep, or the manager started. The action for the sessions that were registered at
an effective removal is dispatched one grace period later, once for each session, unless the
device comes back, the host goes to sleep or the manager ends before. Nothing else is ever
dispatched, and events of other devices have no influence.
-/

namespace PamCertauth.Monitord

namespace Input

def remove (serial : String) : Input := .event (.udev ⟨.remove, some serial⟩)

def add (serial : String) : Input := .event (.udev ⟨.add, some serial⟩)

def sleep : Input := .event (.logind (.prepareForSleep true))

/-- The device whose removal the input announces. -/
def removed : Input → Option String
  | .event (.udev ⟨.remove, serial⟩) => serial
  | _ => none

end Input

section Description

variable (cfg : StateConfig) (m : Manager) (steps : ℕ → Step)

def timeAt (i : ℕ) : ℕ := (runFrom cfg m steps i).now

def sessionsAt (serial : String) (i : ℕ) : List ActiveSession :=
  (runFrom cfg m steps i).registry.findBySerial serial

def Processed (input : Input) (i : ℕ) : Prop :=
  (runFrom cfg m steps i).running = true ∧ (steps i).input = input

def InSuspendWindow (i : ℕ) : Prop :=
  (runFrom cfg m steps i).suspendState.isInGraceWindow (timeAt cfg m steps i)
    cfg.suspendGraceSeconds = true

def Releases (serial : String) (i : ℕ) : Prop :=
  Processed cfg m steps (.add serial) i ∨ Processed cfg m steps .sleep i

def Effective (serial : String) (i : ℕ) : Prop :=
  Processed cfg m steps (.remove serial) i ∧ ¬ InSuspendWindow cfg m steps i ∧
    sessionsAt cfg m steps serial i ≠ [] ∧
    ∀ j, j < i → Effective serial j → ∃ k, j < k ∧ k < i ∧ Releases cfg m steps serial k
termination_by i

/-- Among the first `n` inputs one comes in the grace period that makes removal `i` void. -/
def CalledOff (serial : String) (i n : ℕ) : Prop :=
  ∃ k, i < k ∧ k < n ∧ (Releases cfg m steps serial k ∨ Processed cfg m steps .stop k) ∧
    timeAt cfg m steps k < timeAt cfg m steps i + cfg.grace

open Classical in
/-- What step `i` has led to after `n` steps. -/
noncomputable def consequences (n i : ℕ) : List (ℕ × ActionRequest) :=
  match (steps i).input.removed with
  | some serial =>
    if Effective cfg m steps serial i ∧ ¬ CalledOff cfg m steps serial i n ∧
        timeAt cfg m steps i + cfg.grace ≤ timeAt cfg m steps n then
      usbRemovals cfg (timeAt cfg m steps i + cfg.grace) (sessionsAt cfg m steps serial i)
    else []
  | none => []

end Description

section Inputs

variable {cfg : StateConfig} {m : Manager} {input : Input} {serial : String}

theorem timerAction_eq_arm {sessions : List ActiveSession} :
    timerAction cfg m input = .arm serial sessions ↔
      m.running = true ∧ input = .remove serial ∧
        m.suspendState.isInGraceWindow m.now cfg.suspendGraceSeconds = false ∧
        m.registry.findBySerial serial ≠ [] ∧ m.registry.findBySerial serial = sessions := by
  simp only [timerAction]
  by_cases hrunning : m.running = true
  · rw [if_pos hrunning]
    rcases input with (request | ⟨_ | _ | _, _ | s⟩ | (_ | _) | id) | _
    case event.udev.remove.some =>
      simp only [Input.remove, Input.event.injEq, Event.udev.injEq, UdevEvent.mk.injEq,
        Option.some.injEq, true_and]
      by_cases hs : s = serial
      · subst hs
        split_ifs with hwindow hempty <;> simp_all
      · split_ifs <;> simp [hs]
    all_goals simp [Input.remove]
  · rw [if_neg hrunning]
    simp [hrunning]

theorem timerAction_cancels : (timerAction cfg m input).Cancels serial ↔
    m.running = true ∧ (input = .add serial ∨ input = .sleep ∨ input = .stop) := by
  simp only [timerAction]
  by_cases hrunning : m.running = true
  · rw [if_pos hrunning]
    rcases input with (request | ⟨_ | _ | _, _ | s⟩ | (_ | _) | id) | _
    case event.udev.remove.some =>
      simp only [Input.add, Input.sleep]
      split_ifs <;> simp [KeyedTimers.Action.Cancels]
    all_goals simp [KeyedTimers.Action.Cancels, hrunning, Input.add, Input.sleep]
  · rw [if_neg hrunning]
    simp [KeyedTimers.Action.Cancels, hrunning]

end Inputs

section Refinement

variable {cfg : StateConfig} {m : Manager} {steps : ℕ → Step} {serial : String} {i j k n : ℕ}

theorem keyAt_timerOps : KeyedTimers.keyAt (timerOps cfg m steps) i = some serial ↔
    Processed cfg m steps (.remove serial) i ∧ ¬ InSuspendWindow cfg m steps i ∧
      sessionsAt cfg m steps serial i ≠ [] := by
  have harm : KeyedTimers.keyAt (timerOps cfg m steps) i = some serial ↔
      ∃ sessions, (timerOps cfg m steps i).1 = .arm serial sessions := by
    rw [KeyedTimers.keyAt]
    split
    · next key sessions haction => simp [haction]
    · next hnot => simpa using fun sessions => hnot serial sessions
  rw [harm]
  simp only [timerOps, timerAction_eq_arm, Processed, InSuspendWindow, sessionsAt, timeAt,
    Bool.not_eq_true]
  simp [and_assoc]

theorem timerOps_of_keyAt (h : KeyedTimers.keyAt (timerOps cfg m steps) i = some serial) :
    (timerOps cfg m steps i).1 = .arm serial (sessionsAt cfg m steps serial i) := by
  obtain ⟨⟨hrunning, hinput⟩, hwindow, hsessions⟩ := keyAt_timerOps.mp h
  exact timerAction_eq_arm.mpr ⟨hrunning, hinput, Bool.not_eq_true _ ▸ hwindow, hsessions, rfl⟩

theorem value_of_timerAt {period start : ℕ} {t : KeyedTimers.Timer String (List ActiveSession)}
    (h : KeyedTimers.timerAt period start (timerOps cfg m steps) i = some t) :
    t.value = sessionsAt cfg m steps t.key i := by
  have hop := timerOps_of_keyAt (KeyedTimers.timerAt_deadline h).1
  simp only [KeyedTimers.timerAt, hop, Option.some.injEq] at h
  rw [← h]

theorem cancels_timerOps : (timerOps cfg m steps k).1.Cancels serial ↔
    Releases cfg m steps serial k ∨ Processed cfg m steps .stop k := by
  simp only [timerOps, timerAction_cancels, Releases, Processed]
  tauto

theorem running_of_running_succ (h : (runFrom cfg m steps (i + 1)).running = true) :
    (runFrom cfg m steps i).running = true ∧ (steps i).input ≠ .stop := by
  rw [runFrom, advance, Manager.pass_running, process_running] at h
  exact h

/-- The loop does not process anything after its end. -/
theorem not_stop_of_running (hrunning : (runFrom cfg m steps i).running = true) (hk : k < i) :
    ¬ Processed cfg m steps .stop k := by
  induction i with
  | zero => omega
  | succ i ih =>
    obtain ⟨hbefore, hnot⟩ := running_of_running_succ hrunning
    rcases Nat.lt_succ_iff_lt_or_eq.mp hk with hlt | rfl
    · exact ih hbefore hlt
    · exact fun hstop => hnot hstop.2

/-- The effective removals are the requests that the bank accepts. -/
theorem effective_iff : Effective cfg m steps serial i ↔
    KeyedTimers.Accepts (timerOps cfg m steps) i ∧
      KeyedTimers.keyAt (timerOps cfg m steps) i = some serial := by
  induction i using Nat.strong_induction_on with
  | _ i ih =>
    rw [Effective, KeyedTimers.Accepts]
    constructor
    · intro heffective
      obtain ⟨hprocessed, hwindow, hsessions, hreleased⟩ := heffective
      have hkey := keyAt_timerOps.mpr ⟨hprocessed, hwindow, hsessions⟩
      refine ⟨⟨serial, hkey, fun j hj haccepts hkeyj => ?_⟩, hkey⟩
      obtain ⟨k, hjk, hki, hreleases⟩ := hreleased j hj ((ih j hj).mpr ⟨haccepts, hkeyj⟩)
      exact ⟨k, hjk, hki, cancels_timerOps.mpr (.inl hreleases)⟩
    · intro haccepts
      obtain ⟨⟨serial', hkey', hreleased⟩, hkey⟩ := haccepts
      obtain rfl : serial = serial' := Option.some.inj (hkey.symm.trans hkey')
      obtain ⟨hprocessed, hwindow, hsessions⟩ := keyAt_timerOps.mp hkey
      refine ⟨hprocessed, hwindow, hsessions, fun j hj heffective => ?_⟩
      obtain ⟨haccepts, hkeyj⟩ := (ih j hj).mp heffective
      obtain ⟨k, hjk, hki, hcancels⟩ := hreleased j hj haccepts hkeyj
      have hreleases := (cancels_timerOps.mp hcancels).resolve_right
        (not_stop_of_running hprocessed.1 hki)
      exact ⟨k, hjk, hki, hreleases⟩

end Refinement

section Dispatched

variable {cfg : StateConfig} {m : Manager} {steps : ℕ → Step} {serial : String} {i j n : ℕ}
  (hbank : ∀ n, Simulates cfg (runFrom cfg m steps n)
    (KeyedTimers.stateAt cfg.grace m.now (timerOps cfg m steps) n))

include hbank

theorem timeAt_eq (n : ℕ) :
    timeAt cfg m steps n = m.now + KeyedTimers.elapsed (timerOps cfg m steps) 0 n := by
  rw [timeAt, ← (hbank n).now, (KeyedTimers.describes_stateAt n).now]

theorem timeAt_add (h : i ≤ j) : timeAt cfg m steps j =
    timeAt cfg m steps i + KeyedTimers.elapsed (timerOps cfg m steps) i j := by
  rw [timeAt_eq hbank i, timeAt_eq hbank j, ← KeyedTimers.elapsed_add (Nat.zero_le i) h,
    Nat.add_assoc]

theorem undisturbed_iff (hkey : KeyedTimers.keyAt (timerOps cfg m steps) i = some serial) :
    KeyedTimers.Undisturbed cfg.grace (timerOps cfg m steps) i n ↔
      ¬ CalledOff cfg m steps serial i n := by
  constructor
  · rintro hundisturbed ⟨k, hik, hkn, hends, hearly⟩
    have hlate := hundisturbed serial hkey k hik hkn (cancels_timerOps.mpr hends)
    rw [timeAt_add hbank hik.le] at hearly
    omega
  · intro hnot serial' hkey' k hik hkn hcancels
    obtain rfl : serial = serial' := Option.some.inj (hkey.symm.trans hkey')
    by_contra hearly
    refine hnot ⟨k, hik, hkn, cancels_timerOps.mp hcancels, ?_⟩
    rw [timeAt_add hbank hik.le]
    omega

open Classical in
theorem consequences_eq (hi : i ≤ n) : consequences cfg m steps n i =
    if KeyedTimers.Accepts (timerOps cfg m steps) i ∧
        KeyedTimers.Undisturbed cfg.grace (timerOps cfg m steps) i n ∧
        cfg.grace ≤ KeyedTimers.elapsed (timerOps cfg m steps) i n then
      (KeyedTimers.timerAt cfg.grace m.now (timerOps cfg m steps) i).elim []
        fun t => usbRemovals cfg t.deadline t.value
    else [] := by
  by_cases haccepts : KeyedTimers.Accepts (timerOps cfg m steps) i
  · obtain ⟨t, ht⟩ := KeyedTimers.exists_timerAt cfg.grace m.now haccepts
    obtain ⟨hkey, hdeadline⟩ := KeyedTimers.timerAt_deadline ht
    have hvalue := value_of_timerAt ht
    have hremoved : (steps i).input.removed = some t.key := by
      rw [(keyAt_timerOps.mp hkey).1.2]
      rfl
    have hconditions : (Effective cfg m steps t.key i ∧ ¬ CalledOff cfg m steps t.key i n ∧
        timeAt cfg m steps i + cfg.grace ≤ timeAt cfg m steps n) ↔
        KeyedTimers.Accepts (timerOps cfg m steps) i ∧
        KeyedTimers.Undisturbed cfg.grace (timerOps cfg m steps) i n ∧
        cfg.grace ≤ KeyedTimers.elapsed (timerOps cfg m steps) i n := by
      rw [effective_iff, and_iff_left hkey, ← undisturbed_iff hbank hkey, timeAt_add hbank hi,
        Nat.add_le_add_iff_left]
    simp only [consequences, hremoved, hconditions, ht, Option.elim_some, hvalue]
    rw [hdeadline, timeAt_eq hbank i]
  · have hnot : ∀ serial, ¬ Effective cfg m steps serial i :=
      fun serial heffective => haccepts (effective_iff.mp heffective).1
    rw [if_neg (fun h => haccepts h.1), consequences]
    split
    · rw [if_neg (fun h => hnot _ h.1)]
    · rfl

/-- An action has been dispatched for each session of an effective removal that was not
called off, once the grace period is over, and for nothing else. -/
theorem dispatched_perm (n : ℕ) : (runFrom cfg m steps n).dispatched.Perm
    ((List.range n).flatMap (consequences cfg m steps n)) := by
  classical
  rw [(hbank n).expired]
  refine ((KeyedTimers.describes_stateAt n).expired.flatMap_right _).trans (List.Perm.of_eq ?_)
  rw [List.flatMap_map, KeyedTimers.flatMap_timers]
  apply List.flatMap_congr
  intro i hi
  rw [consequences_eq hbank (List.mem_range.mp hi).le]
  split_ifs <;> rfl

end Dispatched

def ActionRequest.serial : ActionRequest → Option String
  | .handleUsbRemoved session _ => session.usbSerial

def Manager.dispatchedFor (m : Manager) (serial : String) : List (ℕ × ActionRequest) :=
  m.dispatched.filter fun e => e.2.serial = some serial

/-- Events of other devices are replaced by events that are ignored. -/
def Input.mute (serial : String) : Input → Input
  | .event (.udev e) =>
    if e.serial = some serial then .event (.udev e) else .event (.udev ⟨.change, none⟩)
  | input => input

def Step.mute (serial : String) (step : Step) : Step :=
  { step with input := step.input.mute serial }

section Mute

variable (serial : String) {cfg : StateConfig} {m m' : Manager} {steps : ℕ → Step}

theorem process_mute (h : SameCore m m') (step : Step) :
    SameCore (process cfg m step) (process cfg m' (step.mute serial)) := by
  refine (h.process cfg step).trans ?_
  simp only [process]
  split
  · rcases hinput : step.input with (request | event | signal) | _
    case event.udev =>
      -- Neither the event nor what replaces it touches the core.
      refine (SameCore.handleUdev cfg m' event).trans ?_
      by_cases hserial : event.serial = some serial
      · simpa [Step.mute, Input.mute, hinput, hserial] using
          (SameCore.handleUdev cfg m' event).symm
      · simpa [Step.mute, Input.mute, hinput, hserial] using
          (SameCore.handleUdev cfg m' ⟨.change, none⟩).symm
    all_goals simpa [Step.mute, Input.mute, hinput] using SameCore.refl _
  · exact .refl m'

theorem runFrom_mute (cfg : StateConfig) (m : Manager) (steps : ℕ → Step) (n : ℕ) :
    SameCore (runFrom cfg m steps n) (runFrom cfg m (fun i => (steps i).mute serial) n) := by
  induction n with
  | zero => exact .refl m
  | succ n ih => exact (process_mute serial ih (steps n)).pass _

theorem timerAction_mute (h : SameCore m m') (input : Input) :
    timerAction cfg m' (input.mute serial) = (timerAction cfg m input).only serial := by
  simp only [timerAction]
  rw [h.running, h.suspendState, h.now, h.registry]
  by_cases hrunning : m'.running = true
  · rw [if_pos hrunning, if_pos hrunning]
    rcases input with (request | ⟨_ | _ | _, _ | s⟩ | (_ | _) | id) | _
    case event.udev.add.some | event.udev.change.some =>
      by_cases hs : s = serial <;> simp [Input.mute, KeyedTimers.Action.only, hs]
    case event.udev.remove.some =>
      by_cases hs : s = serial
      · simp only [Input.mute, hs, if_true]
        split_ifs <;> simp [KeyedTimers.Action.only]
      · simp only [Input.mute, Option.some.injEq, hs, if_false]
        split_ifs <;> simp [KeyedTimers.Action.only, hs]
    all_goals simp [Input.mute, KeyedTimers.Action.only]
  · rw [if_neg hrunning, if_neg hrunning]
    rfl

theorem timerOps_mute (i : ℕ) :
    timerOps cfg m (fun i => (steps i).mute serial) i =
      ((timerOps cfg m steps i).1.only serial, (timerOps cfg m steps i).2) := by
  have hbefore := runFrom_mute serial cfg m steps i
  have hafter := runFrom_mute serial cfg m steps (i + 1)
  simp only [timerOps]
  rw [← timerAction_mute serial hbefore, hbefore.now, hafter.now]
  rfl

/-- The sessions of an expired timer belong to its device. -/
theorem usbSerial_of_mem_expired {period start n : ℕ}
    {e : KeyedTimers.Timer String (List ActiveSession) × ℕ}
    (he : e ∈ (KeyedTimers.stateAt period start (timerOps cfg m steps) n).expired)
    {session : ActiveSession} (hsession : session ∈ e.1.value) :
    session.usbSerial = some e.1.key := by
  rw [(KeyedTimers.describes_stateAt n).expired.mem_iff] at he
  obtain ⟨t, ht, rfl⟩ := List.mem_map.mp he
  obtain ⟨i, -, -, htimer⟩ := KeyedTimers.mem_timers ht
  rw [value_of_timerAt htimer] at hsession
  exact (SessionRegistry.mem_findBySerial.mp hsession).2

theorem filter_usbRemovals_of_ne (cfg : StateConfig) (time : ℕ)
    {sessions : List ActiveSession} {serial' : String}
    (h : ∀ session ∈ sessions, session.usbSerial = some serial') (hne : serial' ≠ serial) :
    (usbRemovals cfg time sessions).filter (fun e => e.2.serial = some serial) = [] := by
  rw [List.filter_eq_nil_iff]
  intro e he
  obtain ⟨session, hsession, rfl⟩ := List.mem_map.mp he
  simp [ActionRequest.serial, h session hsession, hne]

/-- The actions for one device do not depend on the events of other devices. -/
theorem dispatchedFor_mute (n : ℕ)
    (hbank : Simulates cfg (runFrom cfg m steps n)
      (KeyedTimers.stateAt cfg.grace m.now (timerOps cfg m steps) n))
    (hmuted : Simulates cfg (runFrom cfg m (fun i => (steps i).mute serial) n)
      (KeyedTimers.stateAt cfg.grace m.now (timerOps cfg m fun i => (steps i).mute serial) n)) :
    (runFrom cfg m (fun i => (steps i).mute serial) n).dispatchedFor serial =
      (runFrom cfg m steps n).dispatchedFor serial := by
  have hops : (timerOps cfg m fun i => (steps i).mute serial) =
      fun i => ((timerOps cfg m steps i).1.only serial, (timerOps cfg m steps i).2) :=
    funext (timerOps_mute serial)
  simp only [Manager.dispatchedFor]
  rw [hmuted.expired, hbank.expired, hops, KeyedTimers.stateAt_only, List.filter_flatMap,
    List.filter_flatMap, KeyedTimers.State.only]
  have hserial : ∀ e ∈ (KeyedTimers.stateAt cfg.grace m.now (timerOps cfg m steps) n).expired,
      ∀ session ∈ e.1.value, session.usbSerial = some e.1.key :=
    fun e he session hsession => usbSerial_of_mem_expired he hsession
  generalize (KeyedTimers.stateAt cfg.grace m.now (timerOps cfg m steps) n).expired = expired
    at hserial ⊢
  induction expired with
  | nil => rfl
  | cons e rest ih =>
    have hrest := ih fun e' he' => hserial e' (List.mem_cons_of_mem _ he')
    by_cases hkey : e.1.key = serial
    · simp only [List.filter_cons, hkey, decide_true, if_true, List.flatMap_cons, hrest]
    · have hnone := filter_usbRemovals_of_ne serial cfg e.2
        (hserial e List.mem_cons_self) hkey
      simp only [List.filter_cons, hkey, decide_false, Bool.false_eq_true, if_false,
        List.flatMap_cons, hnone, List.nil_append, hrest]

end Mute

/-- The actions that have been dispatched after any inputs with any delays. -/
theorem usbRemovals_dispatched_exactly (cfg : StateConfig) (registry : SessionRegistry)
    (stored : List ActiveSession) (now : ℕ) (steps : ℕ → Step) (n : ℕ) :
    (runFrom cfg (spawnStateManager registry stored now) steps n).dispatched.Perm
        ((List.range n).flatMap
          (consequences cfg (spawnStateManager registry stored now) steps n)) ∧
      (∀ serial i session,
        session ∈ sessionsAt cfg (spawnStateManager registry stored now) steps serial i ↔
          session ∈ (runFrom cfg (spawnStateManager registry stored now) steps i).registry.snapshot ∧
            session.usbSerial = some serial) ∧
      (∀ serial i,
        (sessionsAt cfg (spawnStateManager registry stored now) steps serial i).Nodup) ∧
      ∀ serial,
        (runFrom cfg (spawnStateManager registry stored now)
          (fun i => (steps i).mute serial) n).dispatchedFor serial =
        (runFrom cfg (spawnStateManager registry stored now) steps n).dispatchedFor serial := by
  have hbank := fun steps => simulates_runFrom cfg registry stored now steps
  refine ⟨dispatched_perm (hbank steps) n, fun serial i session => ?_, fun serial i => ?_,
    fun serial => ?_⟩
  · exact SessionRegistry.mem_findBySerial
  · exact SessionRegistry.nodup_findBySerial _ serial
  · exact dispatchedFor_mute serial n (hbank steps n) (hbank _ n)

end PamCertauth.Monitord
