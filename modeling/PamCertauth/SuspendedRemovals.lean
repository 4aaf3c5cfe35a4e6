import PamCertauth.SessionClosing
import PamCertauth.UsbRemovals

/-!
# Removals around a suspend

The removal of a device in the suspend window is dropped, and going to sleep cancels every
timer. Neither is looked at again after the resume: a session is dealt with only because of
another removal that falls outside the window.
-/

namespace PamCertauth.Monitord

/-- For this device a timer that holds the session is running, or the action has been
dispatched for the session. -/
def HandledFor (serial : String) (x : Ipc.Uuid) (m : Manager) : Prop :=
  (∃ t ∈ m.tasks, t.serial = serial ∧ t.Captures x) ∨
    ∃ time session action, .dispatch time (.handleUsbRemoved session action) ∈ m.log ∧
      session.sessionId = x ∧ session.usbSerial = some serial

section Description

variable (cfg : StateConfig) (m : Manager) (steps : ℕ → Step)

/-- The removal falls into the suspend window. -/
def Suppressed (serial : String) (i : ℕ) : Prop :=
  Processed cfg m steps (.remove serial) i ∧ InSuspendWindow cfg m steps i

/-- The removal has armed a timer, and the host goes to sleep before the timer expires. -/
def SleptOver (serial : String) (i n : ℕ) : Prop :=
  Effective cfg m steps serial i ∧ ∃ k, i < k ∧ k < n ∧ Processed cfg m steps .sleep k ∧
    timeAt cfg m steps k < timeAt cfg m steps i + cfg.grace

/-- A removal of the device that suspend has voided before step `n`, with no insertion of the
device behind it. -/
def Forgiven (serial : String) (i n : ℕ) : Prop :=
  i < n ∧ (Suppressed cfg m steps serial i ∨ SleptOver cfg m steps serial i n) ∧
    ∀ j, i < j → j < n → ¬ Processed cfg m steps (.add serial) j

/-- The host has resumed, and the suspend window is over. -/
def ResumedPast (n : ℕ) : Prop :=
  (∃ since, (runFrom cfg m steps n).suspendState = .resumedAt since) ∧
    ¬ InSuspendWindow cfg m steps n

end Description

section Bank

variable {cfg : StateConfig} {m : Manager} {steps : ℕ → Step} {serial : String} {n : ℕ}
  {x : Ipc.Uuid}

theorem mem_dispatched {m : Manager} {time : ℕ} {request : ActionRequest} :
    (time, request) ∈ m.dispatched ↔ .dispatch time request ∈ m.log := by
  rw [Manager.dispatched, List.mem_filterMap]
  constructor
  · intro h
    obtain ⟨e, he, hdispatched⟩ := h
    cases e with
    | reply message => cases hdispatched
    | dispatch time' request' =>
      cases hdispatched
      exact he
  · intro h
    exact ⟨_, h, rfl⟩

/-- The timers of the bank that stand for the session. -/
theorem handledFor_iff_timer
    (hbank : Simulates cfg (runFrom cfg m steps n)
      (KeyedTimers.stateAt cfg.grace m.now (timerOps cfg m steps) n)) :
    HandledFor serial x (runFrom cfg m steps n) ↔
      ∃ t : KeyedTimers.Timer String (List ActiveSession),
        (t ∈ (KeyedTimers.stateAt cfg.grace m.now (timerOps cfg m steps) n).pending ∨
          ∃ time, (t, time) ∈
            (KeyedTimers.stateAt cfg.grace m.now (timerOps cfg m steps) n).expired) ∧
        t.key = serial ∧ ∃ session ∈ t.value, session.sessionId = x := by
  constructor
  · intro hhandled
    rcases hhandled with ⟨t, ht, hserial, hcaptures⟩ | ⟨time, session, action, hlog, hx, hserial⟩
    · refine ⟨⟨t.serial, t.sessions, t.deadline⟩, .inl ?_, hserial, hcaptures⟩
      rw [hbank.pending]
      exact List.mem_map_of_mem ht
    · rw [← mem_dispatched, hbank.expired, List.mem_flatMap] at hlog
      obtain ⟨⟨t, time'⟩, he, hremoval⟩ := hlog
      obtain ⟨session', hsession, heq⟩ := List.mem_map.mp hremoval
      cases heq
      have hkey := usbSerial_of_mem_expired he hsession
      rw [hserial, Option.some.injEq] at hkey
      exact ⟨t, .inr ⟨time', he⟩, hkey.symm, session, hsession, hx⟩
  · intro htimer
    obtain ⟨t, hpending | ⟨time, he⟩, hkey, session, hsession, hx⟩ := htimer
    · rw [hbank.pending] at hpending
      obtain ⟨task, htask, rfl⟩ := List.mem_map.mp hpending
      exact .inl ⟨task, htask, hkey, session, hsession, hx⟩
    · refine .inr ⟨time, session, cfg.onUsbRemoved, ?_, hx, ?_⟩
      · rw [← mem_dispatched, hbank.expired, List.mem_flatMap]
        exact ⟨(t, time), he, List.mem_map_of_mem hsession⟩
      · rw [usbSerial_of_mem_expired he hsession, hkey]

/-- A session is dealt with because of an effective removal that was not called off. -/
theorem handledFor_iff_effective
    (hbank : ∀ n, Simulates cfg (runFrom cfg m steps n)
      (KeyedTimers.stateAt cfg.grace m.now (timerOps cfg m steps) n)) :
    HandledFor serial x (runFrom cfg m steps n) ↔
      ∃ i, i < n ∧ Effective cfg m steps serial i ∧ ¬ CalledOff cfg m steps serial i n ∧
        ∃ session ∈ sessionsAt cfg m steps serial i, session.sessionId = x := by
  rw [handledFor_iff_timer (hbank n)]
  simp only [KeyedTimers.pending_or_expired_iff]
  constructor
  · intro htimer
    obtain ⟨t, ⟨i, hi, haccepts, hundisturbed, ht⟩, rfl, session, hsession, hx⟩ := htimer
    have hkey := (KeyedTimers.timerAt_deadline ht).1
    rw [value_of_timerAt ht] at hsession
    exact ⟨i, hi, effective_iff.mpr ⟨haccepts, hkey⟩, (undisturbed_iff hbank hkey).mp hundisturbed,
      session, hsession, hx⟩
  · intro heffective
    obtain ⟨i, hi, heffective, hcalled, session, hsession, hx⟩ := heffective
    obtain ⟨haccepts, hkey⟩ := effective_iff.mp heffective
    obtain ⟨t, ht⟩ := KeyedTimers.exists_timerAt cfg.grace m.now haccepts
    obtain rfl : serial = t.key :=
      Option.some.inj (hkey.symm.trans (KeyedTimers.timerAt_deadline ht).1)
    refine ⟨t, ⟨i, hi, haccepts, (undisturbed_iff hbank hkey).mpr hcalled, ht⟩, rfl, session, ?_, hx⟩
    rw [value_of_timerAt ht]
    exact hsession

end Bank

section Suspend

variable {cfg : StateConfig} {m : Manager} {steps : ℕ → Step} {serial : String} {i k n : ℕ}

/-- A suppressed removal leaves no trace. -/
theorem Suppressed.process (h : Suppressed cfg m steps serial i) :
    process cfg (runFrom cfg m steps i) (steps i) = runFrom cfg m steps i := by
  obtain ⟨⟨hrunning, hinput⟩, hwindow⟩ := h
  rw [InSuspendWindow, timeAt] at hwindow
  rw [Monitord.process, if_pos hrunning, hinput]
  simp only [Input.remove, handleUdev, hwindow, if_true]

theorem Suppressed.not_effective (h : Suppressed cfg m steps serial i) :
    ¬ Effective cfg m steps serial i := by
  rw [Effective]
  exact fun heffective => heffective.2.1 h.2

theorem SleptOver.calledOff (h : SleptOver cfg m steps serial i n) :
    CalledOff cfg m steps serial i n := by
  obtain ⟨-, k, hik, hkn, hsleep, hearly⟩ := h
  exact ⟨k, hik, hkn, .inl (.inr hsleep), hearly⟩

/-- Nothing is left of the removals before the host went to sleep. -/
theorem process_sleep {st : Bank} (hbank : Simulates cfg (runFrom cfg m steps k) st)
    (h : Processed cfg m steps .sleep k) :
    (process cfg (runFrom cfg m steps k) (steps k)).tasks = [] ∧
      (process cfg (runFrom cfg m steps k) (steps k)).graceTokens = ∅ := by
  obtain ⟨hrunning, hinput⟩ := h
  have hdrain := drainGraceTokens_eq (hbank.withSuspendState
    (.suspendingAt (runFrom cfg m steps k).now)).tied.waiting
  rw [process, if_pos hrunning, hinput]
  simp only [Input.sleep, handleLogind, hdrain, and_self]

end Suspend

/-- A removal in the suspend window changes nothing, and going to sleep leaves no timer. At
every time a session is dealt with exactly because of an effective removal that was not
called off, which a removal that was suppressed or slept over never is. -/
theorem suspended_removals_forgotten (cfg : StateConfig) (registry : SessionRegistry)
    (stored : List ActiveSession) (now : ℕ) (steps : ℕ → Step) (serial : String) (n : ℕ) :
    (∀ i, Suppressed cfg (spawnStateManager registry stored now) steps serial i →
      process cfg (runFrom cfg (spawnStateManager registry stored now) steps i) (steps i) =
        runFrom cfg (spawnStateManager registry stored now) steps i) ∧
    (∀ k, Processed cfg (spawnStateManager registry stored now) steps .sleep k →
      (process cfg (runFrom cfg (spawnStateManager registry stored now) steps k) (steps k)).tasks =
          [] ∧
        (process cfg (runFrom cfg (spawnStateManager registry stored now) steps k)
          (steps k)).graceTokens = ∅) ∧
    (∀ i, Suppressed cfg (spawnStateManager registry stored now) steps serial i ∨
        SleptOver cfg (spawnStateManager registry stored now) steps serial i n →
      ¬ (Effective cfg (spawnStateManager registry stored now) steps serial i ∧
        ¬ CalledOff cfg (spawnStateManager registry stored now) steps serial i n)) ∧
    ∀ x, HandledFor serial x (runFrom cfg (spawnStateManager registry stored now) steps n) ↔
      ∃ i, i < n ∧ Effective cfg (spawnStateManager registry stored now) steps serial i ∧
        ¬ CalledOff cfg (spawnStateManager registry stored now) steps serial i n ∧
        ∃ session ∈ sessionsAt cfg (spawnStateManager registry stored now) steps serial i,
          session.sessionId = x := by
  have hbank := simulates_runFrom cfg registry stored now steps
  refine ⟨fun i h => h.process, fun k h => process_sleep (hbank k) h, fun i h heffective => ?_,
    fun x => handledFor_iff_effective hbank⟩
  rcases h with hsuppressed | hslept
  · exact hsuppressed.not_effective heffective.1
  · exact heffective.2 hslept.calledOff

/-- The removals that suspend has voided are made up for once the suspend window is over. -/
def RemovalsRemembered (cfg : StateConfig) (m : Manager) (steps : ℕ → Step) (serial : String)
    (n : ℕ) : Prop :=
  ∀ i, Forgiven cfg m steps serial i n → ResumedPast cfg m steps n →
    ∀ session ∈ sessionsAt cfg m steps serial n,
      HandledFor serial session.sessionId (runFrom cfg m steps n)

/-- The device of an open session is removed for good, before the host goes to sleep or
while it sleeps. -/
def removedAroundSleep (asleep : Bool) (i : ℕ) : Step where
  input := match i, asleep with
    | 0, _ => .event (.ipc (.sessionOpen aliceSession))
    | 1, false | 2, true => .remove "A1"
    | 1, true | 2, false => .sleep
    | 3, _ => .event (.logind (.prepareForSleep false))
    | _, _ => .event (.ipc .ping)
  isSerialPresent := fun _ => true
  persistence := ⟨0, true⟩
  wait := 0

def noSuspendGrace : StateConfig := { StateConfig.testDefaults with suspendGraceSeconds := 0 }

/-- The device is never inserted again. -/
theorem not_add_removedAroundSleep (asleep : Bool) (j : ℕ) :
    ¬ Processed noSuspendGrace graceStart (removedAroundSleep asleep) (.add "A1") j := by
  intro hadd
  have hinput := hadd.2
  match j, asleep with
  | 0, false | 0, true | 1, false | 1, true | 2, false | 2, true | 3, false | 3, true =>
    cases hinput
  | j + 4, false | j + 4, true => cases hinput

/-- After the resume the session is registered and has neither a timer nor an action. -/
theorem not_remembered_of_forgiven {asleep : Bool} {i : ℕ}
    (h : Forgiven noSuspendGrace graceStart (removedAroundSleep asleep) "A1" i 4) :
    ¬ RemovalsRemembered noSuspendGrace graceStart (removedAroundSleep asleep) "A1" 4 := by
  intro hremembered
  have hresumed : ResumedPast noSuspendGrace graceStart (removedAroundSleep asleep) 4 := by
    refine ⟨⟨0, ?_⟩, ?_⟩
    · cases asleep <;> decide +kernel
    · rw [InSuspendWindow]
      cases asleep <;> decide +kernel
  have hregistered : aliceSession ∈
      sessionsAt noSuspendGrace graceStart (removedAroundSleep asleep) "A1" 4 := by
    cases asleep <;> decide +kernel
  have htasks : (runFrom noSuspendGrace graceStart (removedAroundSleep asleep) 4).tasks = [] := by
    cases asleep <;> decide +kernel
  have hlog : (runFrom noSuspendGrace graceStart (removedAroundSleep asleep) 4).log =
      [.reply .ack] := by
    cases asleep <;> decide +kernel
  have hhandled := hremembered i h hresumed aliceSession hregistered
  simp [HandledFor, htasks, hlog] at hhandled

theorem removals_not_remembered :
    ¬ RemovalsRemembered noSuspendGrace graceStart (removedAroundSleep true) "A1" 4 ∧
      ¬ RemovalsRemembered noSuspendGrace graceStart (removedAroundSleep false) "A1" 4 := by
  have hnoAdd := fun asleep j => not_add_removedAroundSleep asleep j
  constructor
  · apply not_remembered_of_forgiven (i := 2)
    have hprocessed : Processed noSuspendGrace graceStart (removedAroundSleep true)
        (.remove "A1") 2 := ⟨by decide +kernel, rfl⟩
    have hwindow : InSuspendWindow noSuspendGrace graceStart (removedAroundSleep true) 2 := by
      rw [InSuspendWindow]
      decide +kernel
    exact ⟨by omega, .inl ⟨hprocessed, hwindow⟩, fun j _ _ => hnoAdd true j⟩
  · apply not_remembered_of_forgiven (i := 1)
    have hprocessed : Processed noSuspendGrace graceStart (removedAroundSleep false)
        (.remove "A1") 1 := ⟨by decide +kernel, rfl⟩
    have hwindow : ¬ InSuspendWindow noSuspendGrace graceStart (removedAroundSleep false) 1 := by
      rw [InSuspendWindow]
      decide +kernel
    have heffective : Effective noSuspendGrace graceStart (removedAroundSleep false) "A1" 1 := by
      rw [Effective]
      refine ⟨hprocessed, hwindow, by decide +kernel, fun j hj hbefore => ?_⟩
      obtain rfl : j = 0 := by omega
      rw [Effective] at hbefore
      cases hbefore.1.2
    have hsleep : Processed noSuspendGrace graceStart (removedAroundSleep false) .sleep 2 :=
      ⟨by decide +kernel, rfl⟩
    exact ⟨by omega, .inr ⟨heffective, 2, by omega, by omega, hsleep, by decide +kernel⟩,
      fun j _ _ => hnoAdd false j⟩

/-- The removal during sleep leaves the manager as it was. -/
theorem suspended_removals_forgotten_asleep :
    process noSuspendGrace
        (runFrom noSuspendGrace (spawnStateManager .new [] 0) (removedAroundSleep true) 2)
        (removedAroundSleep true 2) =
      runFrom noSuspendGrace (spawnStateManager .new [] 0) (removedAroundSleep true) 2 := by
  have hforgotten := suspended_removals_forgotten noSuspendGrace .new [] 0
    (removedAroundSleep true) "A1" 3
  apply hforgotten.1 2
  refine ⟨⟨by decide +kernel, rfl⟩, ?_⟩
  rw [InSuspendWindow]
  decide +kernel

end PamCertauth.Monitord
