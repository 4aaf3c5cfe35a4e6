import PamCertauth.PresenceWatch
import PamCertauth.SessionClosing
import PamCertauth.UsbEnumeration

/-!
# Devices that go away around a session

How a removal reaches the state manager: the kernel reports it to the udev monitor, the
thread of the monitor forwards it to a channel (`udev_monitor.rs`), a task of the daemon
passes it on to the queue of the manager (`daemon/mod.rs`), and the manager takes one event
after another off its queue. A session is opened by a request that comes through the same
queue, and only if a scan of the block devices finds its serial (`udev_query.rs`).

The device can go away at any point of this. It is shown that a registered session whose
device is gone has a removal on the way to the manager, or that the manager has handled one
while the session was registered, as long as the monitor listens. A removal that nobody
listened to is never made up for.
-/

namespace PamCertauth.Monitord

open Ipc Usb

section Serials

variable (d : UdevDevice)

/-- The serial in `parse_udev_fields`. Properties that are not UTF-8 have been dropped. -/
def udevSerial : Option String := d.idSerialShort.bind OsText.toStr <|> d.idSerial.bind OsText.toStr

/-- What `run_monitor` sends for an event of the device. -/
def runMonitor (action : UdevAction) : Option UdevEvent :=
  let event : UdevEvent := ⟨action, udevSerial d⟩
  match action with
  | .change => some event
  | .add | .remove => if d.onUsb then some event else none

def matchesSerial (serial : String) : Bool :=
  d.idSerialShort.bind OsText.toStr = some serial || d.idSerial.bind OsText.toStr = some serial

/-- `RealUdevQuery`, for the devices that the scan returns. -/
def isSerialPresent (scan : Option (List UdevDevice)) (serial : String) : Bool :=
  match scan with
  | some devices => devices.any (matchesSerial · serial)
  | none => false

theorem matchesSerial_of_udevSerial {d : UdevDevice} {serial : String}
    (h : udevSerial d = some serial) : matchesSerial d serial = true := by
  rw [udevSerial] at h
  cases hshort : d.idSerialShort.bind OsText.toStr with
  | some short =>
    rw [hshort] at h
    rw [matchesSerial, hshort, h.symm]
    simp
  | none =>
    rw [hshort] at h
    have hlong : d.idSerial.bind OsText.toStr = some serial := by simpa using h
    simp [matchesSerial, hlong]

theorem runMonitor_eq_some {d : UdevDevice} {action : UdevAction} {event : UdevEvent}
    (h : runMonitor d action = some event) : event = ⟨action, udevSerial d⟩ := by
  unfold runMonitor at h
  cases action with
  | change => exact (Option.some.inj h).symm
  | add => exact (Option.some.inj (Option.ite_none_right_eq_some.mp h).2).symm
  | remove => exact (Option.some.inj (Option.ite_none_right_eq_some.mp h).2).symm

end Serials

/-- The session is registered, and this is the serial of its device. -/
def Manager.Guards (x : Uuid) (serial : String) (m : Manager) : Prop :=
  ∃ session, m.registry.byId.lookup x = some session ∧ session.usbSerial = some serial

section Registry

variable {isPresent : String → Bool} {r r' : SessionRegistry} {request : IpcRequest} {x : Uuid}
  {session : ActiveSession} {serial : String}

/-- A request changes the serial of no session. A new one has a serial that is present. -/
theorem RegistryChange.usbSerial (h : RegistryChange isPresent r request r')
    (hlookup : r'.byId.lookup x = some session) (hserial : session.usbSerial = some serial) :
    (∃ earlier, r.byId.lookup x = some earlier ∧ earlier.usbSerial = some serial) ∨
      isPresent serial = true := by
  cases h with
  | @opened added present =>
    rw [SessionRegistry.lookup_add] at hlookup
    split_ifs at hlookup
    · cases hlookup
      exact .inr (present serial hserial)
    · exact .inl ⟨session, hlookup, hserial⟩
  | closed =>
    rw [SessionRegistry.lookup_remove] at hlookup
    split_ifs at hlookup
    exact .inl ⟨session, hlookup, hserial⟩
  | retargeted updated =>
    obtain ⟨entry, hentry, hlookups⟩ := SessionRegistry.lookup_updateTarget updated
    rw [hlookups] at hlookup
    split_ifs at hlookup with hx
    · cases hlookup
      rw [← hx] at hentry
      exact .inl ⟨entry, hentry, hserial⟩
    · exact .inl ⟨session, hlookup, hserial⟩

end Registry

section Alarms

variable {cfg : StateConfig} {m : Manager} {step : Step} {x : Uuid} {serial : String}

end Alarms

section Spared

variable {cfg : StateConfig} {m : Manager} {step : Step} {serial : String}

/-- No timer holds a session with this serial. -/
def Manager.Spares (serial : String) (m : Manager) : Prop :=
  ∀ t ∈ m.tasks, ∀ session ∈ t.sessions, session.usbSerial ≠ some serial

def Emission.Spares (serial : String) : Emission → Prop
  | .reply _ => True
  | .dispatch _ (.handleUsbRemoved session _) => session.usbSerial ≠ some serial

theorem tasks_persistAsync_subset (persistence : Persistence) (m : Manager) :
    (persistAsync persistence m).tasks ⊆ m.tasks := by
  rw [persistAsync_tasks]
  exact List.filter_subset_self _

theorem tasks_handleIpc_subset (isPresent : String → Bool) (persistence : Persistence)
    (m : Manager) (request : IpcRequest) :
    (handleIpc isPresent persistence m request).tasks ⊆ m.tasks := by
  rcases handleIpc_cases isPresent persistence m request with
    ⟨message, heq⟩ | ⟨registry, message, -, heq⟩
  · rw [heq]
    exact fun t ht => ht
  · rw [heq]
    exact tasks_persistAsync_subset persistence { m with registry := registry }

theorem tasks_handleLogind_subset (persistence : Persistence) (m : Manager)
    (signal : LogindSignal) : (handleLogind persistence m signal).tasks ⊆ m.tasks := by
  rcases signal with (_ | _) | id
  · exact fun t ht => ht
  · exact (drainGraceTokens_frame { m with suspendState := .suspendingAt m.now }).2.2.2
  · simp only [handleLogind]
    split
    · exact fun t ht => ht
    · exact tasks_persistAsync_subset persistence _

/-- A new timer is that of a removal, and it holds the sessions with the serial of the removal. -/
theorem mem_tasks_process {t : GraceTask} (h : t ∈ (process cfg m step).tasks) :
    t ∈ m.tasks ∨ ∃ serial, step.input = .event (.udev ⟨.remove, some serial⟩) ∧
      t.sessions = m.registry.findBySerial serial := by
  rw [process] at h
  split_ifs at h
  · rcases hinput : step.input with (request | ⟨action, serial⟩ | signal) | _
    · simp only [hinput] at h
      exact .inl (tasks_handleIpc_subset _ _ m request h)
    · simp only [hinput, handleUdev] at h
      split at h
      · next serial =>
        split_ifs at h
        · exact .inl h
        · exact .inl h
        · exact .inl h
        · refine (List.mem_append.mp h).imp_right fun hnew => ⟨serial, rfl, ?_⟩
          rw [List.mem_singleton.mp hnew]
      · split at h
        · exact .inl (List.mem_of_mem_filter h)
        · exact .inl h
      · exact .inl h
    · simp only [hinput] at h
      exact .inl (tasks_handleLogind_subset _ m signal h)
    · simp only [hinput] at h
      exact .inl ((drainGraceTokens_frame { m with running := false }).2.2.2 t h)
  · exact .inl h

theorem Manager.Spares.process (h : m.Spares serial)
    (hother : step.input ≠ .event (.udev ⟨.remove, some serial⟩)) :
    (Monitord.process cfg m step).Spares serial := by
  intro t ht session hsession
  rcases mem_tasks_process ht with hold | ⟨serial', hinput, hsessions⟩
  · exact h t hold session hsession
  · rw [hsessions, SessionRegistry.mem_findBySerial] at hsession
    rw [hsession.2]
    rintro ⟨⟩
    exact hother hinput

theorem Manager.Spares.advance (h : m.Spares serial)
    (hother : step.input ≠ .event (.udev ⟨.remove, some serial⟩)) :
    (Monitord.advance cfg m step).Spares serial := by
  intro t ht
  rw [Monitord.advance, Manager.pass_tasks] at ht
  exact h.process hother t (List.mem_of_mem_filter ht)

theorem Manager.Spares.emits (h : m.Spares serial)
    (hother : step.input ≠ .event (.udev ⟨.remove, some serial⟩)) :
    Emits (Emission.Spares serial) m (Monitord.advance cfg m step) := by
  have hpass : Emits (Emission.Spares serial) (Monitord.process cfg m step)
      (Monitord.advance cfg m step) :=
    Emits.pass step.wait fun t ht session hsession _ => h.process hother t ht session hsession
  refine Emits.trans ?_ hpass
  have heffect := process_effect cfg m step
  generalize Monitord.process cfg m step = m' at heffect ⊢
  -- What is written to the registry takes time, and timers expire meanwhile.
  have hpersist : ∀ registry, Emits (Emission.Spares serial) m
      (persistAsync step.persistence { m with registry := registry }) := fun registry =>
    (Emits.of_log_eq rfl).trans
      (Emits.persistAsync step.persistence fun t ht session hsession _ => h t ht session hsession)
  cases heffect with
  | timers _ _ _ _ log _ => exact .of_log_eq log
  | answered _ _ _ _ => exact .send m trivial
  | @confirmed _ _ registry _ _ _ _ => exact (hpersist registry).trans (.send _ trivial)
  | ended _ _ _ => exact hpersist _

end Spared

/-- The block devices, the way of their events, and the manager. -/
structure World where
  devices : List UdevDevice
  /-- A monitor is set up. -/
  listening : Bool
  /-- The events in the socket of the monitor, the oldest first. -/
  socket : List (UdevAction × UdevDevice)
  channel : List UdevEvent
  queue : List Event
  manager : Manager

namespace World

def present (w : World) (serial : String) : Bool := isSerialPresent (some w.devices) serial

def report (w : World) (action : UdevAction) (d : UdevDevice) : World :=
  if w.listening then { w with socket := w.socket ++ [(action, d)] } else w

/-- One step of somebody. Devices come and go, the monitor is set up, fails and is set up anew,
events move on by one place, requests and signals of logind arrive, and the manager handles
the event at the head of its queue. -/
inductive Step (cfg : StateConfig) (w : World) : World → Prop where
  | plug (d : UdevDevice) : Step cfg w ({ w with devices := d :: w.devices }.report .add d)
  | unplug (d : UdevDevice) (listed : d ∈ w.devices) :
      Step cfg w ({ w with devices := w.devices.erase d }.report .remove d)
  | change (d : UdevDevice) (listed : d ∈ w.devices) : Step cfg w (w.report .change d)
  | listen : Step cfg w { w with listening := true }
  | fail : Step cfg w { w with listening := false, socket := [] }
  | receive {action : UdevAction} {d : UdevDevice} {rest : List (UdevAction × UdevDevice)}
      (head : w.socket = (action, d) :: rest) :
      Step cfg w { w with socket := rest, channel := w.channel ++ (runMonitor d action).toList }
  | forward {event : UdevEvent} {rest : List UdevEvent} (head : w.channel = event :: rest) :
      Step cfg w { w with channel := rest, queue := w.queue ++ [.udev event] }
  | submit (request : IpcRequest) : Step cfg w { w with queue := w.queue ++ [.ipc request] }
  | signal (s : LogindSignal) : Step cfg w { w with queue := w.queue ++ [.logind s] }
  | handle {e : Event} {rest : List Event} (head : w.queue = e :: rest)
      (running : w.manager.running = true) (scan : Option (List UdevDevice))
      (scanned : ∀ devices ∈ scan, devices = w.devices) (persistence : Persistence) (wait : ℕ) :
      Step cfg w
        { w with
          queue := rest
          manager := advance cfg w.manager ⟨.event e, isSerialPresent scan, persistence, wait⟩ }

/-- The first `n` steps of a run. -/
def Runs (cfg : StateConfig) (w : ℕ → World) (n : ℕ) : Prop :=
  ∀ i, i < n → Step cfg (w i) (w (i + 1))

/-- The removal of the serial. -/
def removal (serial : String) : UdevEvent := ⟨.remove, some serial⟩

/-- A removal of the serial is on its way to the manager. -/
def Pending (serial : String) (w : World) : Prop :=
  (∃ d, (.remove, d) ∈ w.socket ∧ runMonitor d .remove = some (removal serial)) ∨
    removal serial ∈ w.channel ∨ .udev (removal serial) ∈ w.queue

/-- Step `i` takes a removal of the serial off the queue. -/
def TakesRemoval (serial : String) (w : ℕ → World) (i : ℕ) : Prop :=
  (w i).queue = .udev (removal serial) :: (w (i + 1)).queue

/-- The removal of every device in which a scan finds the serial is sent to the manager as a
removal of the serial. -/
def Announced (serial : String) (w : World) : Prop :=
  ∀ d ∈ w.devices, matchesSerial d serial = true → runMonitor d .remove = some (removal serial)

section Step

variable {cfg : StateConfig} {w w' : World} {serial : String} {x : Uuid}

@[simp] theorem report_devices (w : World) (action : UdevAction) (d : UdevDevice) :
    (w.report action d).devices = w.devices := by
  rw [report]
  split <;> rfl

@[simp] theorem report_manager (w : World) (action : UdevAction) (d : UdevDevice) :
    (w.report action d).manager = w.manager := by
  rw [report]
  split <;> rfl

@[simp] theorem report_queue (w : World) (action : UdevAction) (d : UdevDevice) :
    (w.report action d).queue = w.queue := by
  rw [report]
  split <;> rfl

theorem Pending.report (h : Pending serial w) (devices : List UdevDevice) (action : UdevAction)
    (d : UdevDevice) : Pending serial ({ w with devices := devices }.report action d) := by
  rw [World.report]
  split
  · rcases h with ⟨d', hsocket, hmonitor⟩ | hlater
    · exact .inl ⟨d', List.mem_append_left _ hsocket, hmonitor⟩
    · exact .inr hlater
  · exact h

theorem pending_report_remove (hlistening : w.listening = true) {d : UdevDevice}
    (hmonitor : runMonitor d .remove = some (removal serial)) :
    Pending serial (w.report .remove d) := by
  rw [World.report, if_pos hlistening]
  exact .inl ⟨d, List.mem_append_right _ (List.mem_singleton_self _), hmonitor⟩

/-- Only the report of a removal of the serial puts one on its way. -/
theorem pending_of_report {devices : List UdevDevice} {action : UdevAction} {d : UdevDevice}
    (hother : action = .remove → runMonitor d .remove ≠ some (removal serial))
    (h : Pending serial ({ w with devices := devices }.report action d)) : Pending serial w := by
  rw [World.report] at h
  split_ifs at h
  · rcases h with ⟨d', hsocket, hmonitor⟩ | hlater
    · rcases List.mem_append.mp hsocket with hbefore | hlast
      · exact .inl ⟨d', hbefore, hmonitor⟩
      · cases List.mem_singleton.mp hlast
        exact absurd hmonitor (hother rfl)
    · exact .inr hlater
  · exact h

theorem present_eq_true : w.present serial = true ↔
    ∃ d ∈ w.devices, matchesSerial d serial = true := by
  simp [present, isSerialPresent]

/-- Only the unplugging of the last device with the serial makes it disappear. -/
theorem Step.departs (h : Step cfg w w') (hlistening : w.listening = true)
    (hannounced : Announced serial w) (hpresent : w.present serial = true)
    (habsent : ¬ w'.present serial = true) : Pending serial w' := by
  rw [present_eq_true] at hpresent habsent
  obtain ⟨d₀, hd₀, hmatches⟩ := hpresent
  have hkept : d₀ ∉ w'.devices := fun hd => habsent ⟨d₀, hd, hmatches⟩
  cases h with
  | unplug d listed =>
    rw [report_devices] at hkept
    have hd : d₀ = d := by
      by_contra hne
      exact hkept ((List.mem_erase_of_ne hne).mpr hd₀)
    rw [← hd]
    refine pending_report_remove ?_ (hannounced d₀ hd₀ hmatches)
    exact hlistening
  | plug d =>
    rw [report_devices] at hkept
    exact absurd (List.mem_cons_of_mem d hd₀) hkept
  | change d listed =>
    rw [report_devices] at hkept
    exact absurd hd₀ hkept
  | listen => exact absurd hd₀ hkept
  | fail => exact absurd hd₀ hkept
  | receive head => exact absurd hd₀ hkept
  | forward head => exact absurd hd₀ hkept
  | submit request => exact absurd hd₀ hkept
  | signal s => exact absurd hd₀ hkept
  | handle head running scan scanned persistence wait => exact absurd hd₀ hkept

/-- A removal stays on its way, moves on by one place, or is taken off the queue. -/
theorem Step.stays (h : Step cfg w w') (hlistening : w'.listening = true)
    (hpending : Pending serial w) :
    Pending serial w' ∨ w.queue = .udev (removal serial) :: w'.queue := by
  cases h with
  | plug d => exact .inl (hpending.report _ .add d)
  | unplug d listed => exact .inl (hpending.report _ .remove d)
  | change d listed => exact .inl (hpending.report w.devices .change d)
  | listen => exact .inl hpending
  | fail => cases hlistening
  | receive head =>
    refine .inl ?_
    rcases hpending with ⟨d, hsocket, hmonitor⟩ | hchannel | hqueue
    · rw [head] at hsocket
      rcases List.mem_cons.mp hsocket with hhead | hrest
      · cases hhead
        refine .inr (.inl (List.mem_append_right _ ?_))
        simp [hmonitor]
      · exact .inl ⟨d, hrest, hmonitor⟩
    · exact .inr (.inl (List.mem_append_left _ hchannel))
    · exact .inr (.inr hqueue)
  | forward head =>
    refine .inl ?_
    rcases hpending with hsocket | hchannel | hqueue
    · exact .inl hsocket
    · rw [head] at hchannel
      rcases List.mem_cons.mp hchannel with hhead | hrest
      · rw [← hhead]
        exact .inr (.inr (List.mem_append_right _ (List.mem_singleton_self _)))
      · exact .inr (.inl hrest)
    · exact .inr (.inr (List.mem_append_left _ hqueue))
  | submit request =>
    exact .inl (hpending.imp_right (.imp_right fun hqueue => List.mem_append_left _ hqueue))
  | signal s =>
    exact .inl (hpending.imp_right (.imp_right fun hqueue => List.mem_append_left _ hqueue))
  | handle head running scan scanned persistence wait =>
    rcases hpending with hsocket | hchannel | hqueue
    · exact .inl (.inl hsocket)
    · exact .inl (.inr (.inl hchannel))
    · rw [head] at hqueue
      rcases List.mem_cons.mp hqueue with hhead | hrest
      · rw [hhead]
        exact .inr head
      · exact .inl (.inr (.inr hrest))

/-- What is taken off the queue has been handled by the manager. -/
theorem Step.handled (h : Step cfg w w') {e : Event} (htaken : w.queue = e :: w'.queue) :
    w.manager.running = true ∧ ∃ step : Monitord.Step, step.input = .event e ∧
      w'.manager = advance cfg w.manager step := by
  have hlength : w'.queue.length < w.queue.length := by simp [htaken]
  cases h with
  | handle head running scan scanned persistence wait =>
    rw [head] at htaken
    cases htaken
    exact ⟨running, _, rfl, rfl⟩
  | plug d => simp at hlength
  | unplug d listed => simp at hlength
  | change d listed => simp at hlength
  | listen => simp at hlength
  | fail => simp at hlength
  | receive head => simp at hlength
  | forward head => simp at hlength
  | submit request => simp at hlength
  | signal s => simp at hlength

/-- Removals come from devices that go away. -/
theorem Step.origin (h : Step cfg w w') (hpending : Pending serial w') :
    Pending serial w ∨ w.present serial = true := by
  cases h with
  | plug d => exact .inl (pending_of_report (by simp) hpending)
  | unplug d listed =>
    by_cases hremoval : runMonitor d .remove = some (removal serial)
    · have hserial : udevSerial d = some serial := by
        simpa [removal] using (runMonitor_eq_some hremoval).symm
      exact .inr (present_eq_true.mpr ⟨d, listed, matchesSerial_of_udevSerial hserial⟩)
    · exact .inl (pending_of_report (fun _ => hremoval) hpending)
  | change d listed => exact .inl (pending_of_report (by simp) hpending)
  | listen => exact .inl hpending
  | fail =>
    rcases hpending with ⟨d, hsocket, -⟩ | hlater
    · cases hsocket
    · exact .inl (.inr hlater)
  | @receive action d rest head =>
    refine .inl ?_
    rcases hpending with ⟨d', hsocket, hmonitor⟩ | hchannel | hqueue
    · exact .inl ⟨d', by rw [head]; exact List.mem_cons_of_mem _ hsocket, hmonitor⟩
    · rcases List.mem_append.mp hchannel with hbefore | hreceived
      · exact .inr (.inl hbefore)
      · have hmonitor : runMonitor d action = some (removal serial) := by simpa using hreceived
        have haction : action = .remove := by
          have hevent := congrArg UdevEvent.action (runMonitor_eq_some hmonitor)
          exact hevent.symm
        subst haction
        exact .inl ⟨d, by rw [head]; exact List.mem_cons_self, hmonitor⟩
    · exact .inr (.inr hqueue)
  | @forward event rest head =>
    refine .inl ?_
    rcases hpending with hsocket | hchannel | hqueue
    · exact .inl hsocket
    · exact .inr (.inl (by rw [head]; exact List.mem_cons_of_mem _ hchannel))
    · rcases List.mem_append.mp hqueue with hbefore | hforwarded
      · exact .inr (.inr hbefore)
      · have hevent : removal serial = event := by simpa using hforwarded
        exact .inr (.inl (by rw [head, hevent]; exact List.mem_cons_self))
  | submit request =>
    refine .inl (hpending.imp_right (.imp_right fun hqueue => ?_))
    simpa using hqueue
  | signal s =>
    refine .inl (hpending.imp_right (.imp_right fun hqueue => ?_))
    simpa using hqueue
  | handle head running scan scanned persistence wait =>
    refine .inl (hpending.imp_right (.imp_right fun hqueue => ?_))
    rw [head]
    exact List.mem_cons_of_mem _ hqueue

/-- A step that takes no removal of the serial off the queue leaves the manager as it is, or
lets it handle another event. -/
theorem Step.manager (h : Step cfg w w') :
    w'.manager = w.manager ∨ ∃ step : Monitord.Step, ∃ e, step.input = .event e ∧
      w.queue = e :: w'.queue ∧ w'.manager = advance cfg w.manager step := by
  cases h with
  | handle head running scan scanned persistence wait => exact .inr ⟨_, _, rfl, head, rfl⟩
  | plug d => exact .inl (report_manager _ _ _)
  | unplug d listed => exact .inl (report_manager _ _ _)
  | change d listed => exact .inl (report_manager _ _ _)
  | listen => exact .inl rfl
  | fail => exact .inl rfl
  | receive head => exact .inl rfl
  | forward head => exact .inl rfl
  | submit request => exact .inl rfl
  | signal s => exact .inl rfl

end Step

section Runs

variable {cfg : StateConfig} {w : ℕ → World} {serial : String} {x : Uuid} {n : ℕ}

open PresenceWatch

/-- The device with the serial, and the sessions that it guards. -/
def view (serial : String) (w : ℕ → World) : View w Uuid where
  present w := w.present serial = true
  announced := Pending serial
  watches x w := w.manager.Guards x serial
  handled := TakesRemoval serial w

theorem Runs.honest (hrun : Runs cfg w n) : (view serial w).Honest n :=
  fun i hi => (hrun i hi).origin

/-- As long as the serial is away and no removal of it was on the way, no action is dispatched
for a session with this serial, whatever the session file said. -/
theorem unannounced_removal_never_dispatched (hrun : Runs cfg w n)
    (hpending : ¬ Pending serial (w 0)) (hspares : (w 0).manager.Spares serial)
    (habsent : ∀ i, i < n → (w i).present serial = false) :
    (w n).manager.Spares serial ∧
      Emits (Emission.Spares serial) (w 0).manager (w n).manager := by
  induction n with
  | zero => exact ⟨hspares, .refl _ _⟩
  | succ n ih =>
    have hbefore : Runs cfg w n := fun i hi => hrun i (by omega)
    obtain ⟨hspared, hquiet⟩ := ih hbefore fun i hi => habsent i (by omega)
    rcases (hrun n n.lt_succ_self).manager with hsame | ⟨step, e, hinput, hqueue, hadvance⟩
    · rw [hsame]
      exact ⟨hspared, hquiet⟩
    · have hnone : ¬ Pending serial (w n) :=
        View.not_announced_of_absent hbefore.honest hpending fun i hi => by
          simp [view, habsent i (by omega)]
      have hother : step.input ≠ .event (.udev (removal serial)) := by
        rw [hinput]
        rintro ⟨⟩
        exact hnone (.inr (.inr (by rw [hqueue]; exact List.mem_cons_self)))
      rw [hadvance]
      exact ⟨hspared.advance hother, hquiet.trans (hspared.emits hother)⟩

def otherStick : UdevDevice := { stickDisk with idSerialShort := some (osText "B2") }

def otherSession : ActiveSession := { aliceSession with sessionId := 8, usbSerial := some "B2" }

/-- The manager of a daemon that starts with two sessions in its registry file, after a ping. -/
def restoredManager : Manager :=
  advance .testDefaults
    (spawnStateManager (.fromSnapshot [aliceSession, otherSession]) [aliceSession, otherSession] 0)
    ⟨.event (.ipc .ping), isSerialPresent none, ⟨0, true⟩, 0⟩

/-- The removal of the other device, and twice the grace period behind it. -/
def otherRemoved : Monitord.Step :=
  ⟨.event (.udev (removal "B2")), isSerialPresent none, ⟨0, true⟩,
    2 * StateConfig.testDefaults.grace⟩

/-- The device of one of the two sessions was pulled while no daemon was running, that of the
other one is pulled now. -/
def restoredWorld : ℕ → World
  | 0 => ⟨[otherStick], true, [], [], [],
      spawnStateManager (.fromSnapshot [aliceSession, otherSession])
        [aliceSession, otherSession] 0⟩
  | 1 => ⟨[otherStick], true, [], [], [.ipc .ping],
      spawnStateManager (.fromSnapshot [aliceSession, otherSession])
        [aliceSession, otherSession] 0⟩
  | 2 => ⟨[otherStick], true, [], [], [], restoredManager⟩
  | 3 => ⟨[], true, [(.remove, otherStick)], [], [], restoredManager⟩
  | 4 => ⟨[], true, [], [removal "B2"], [], restoredManager⟩
  | 5 => ⟨[], true, [], [], [.udev (removal "B2")], restoredManager⟩
  | _ => ⟨[], true, [], [], [], advance .testDefaults restoredManager otherRemoved⟩

theorem restoredWorld_runs : Runs .testDefaults restoredWorld 6 := by
  intro i hi
  match i, hi with
  | 0, _ => exact .submit .ping
  | 1, _ => exact .handle rfl rfl none (by simp) ⟨0, true⟩ 0
  | 2, _ => exact .unplug otherStick (List.mem_singleton_self _)
  | 3, _ =>
    have hsocket : (restoredWorld 3).socket = [(.remove, otherStick)] := rfl
    exact .receive hsocket
  | 4, _ => exact .forward rfl
  | 5, _ => exact .handle rfl (by decide +kernel) none (by simp) ⟨0, true⟩ _

theorem restoredManager_armed :
    (process .testDefaults restoredManager otherRemoved).now = 0 ∧
      (⟨0, "B2", [otherSession], .lock, StateConfig.testDefaults.grace⟩ : GraceTask) ∈
        (process .testDefaults restoredManager otherRemoved).tasks ∧
      (process .testDefaults restoredManager otherRemoved).registry.byId.lookup 7 =
        some aliceSession := by
  decide +kernel

/-- The session whose device is present gets its action, the other one never. -/
theorem restored_session_never_dispatched :
    (restoredWorld 6).manager.Guards 7 "A1" ∧
      (∃ time, .dispatch time (.handleUsbRemoved otherSession .lock) ∈
        (restoredWorld 6).manager.log) ∧
      (restoredWorld 6).manager.now = 2 * StateConfig.testDefaults.grace ∧
      Emits (Emission.Spares "A1") (restoredWorld 0).manager (restoredWorld 6).manager := by
  obtain ⟨hnow, htask, hregistry⟩ := restoredManager_armed
  have hlast : (restoredWorld 6).manager = advance .testDefaults restoredManager otherRemoved := by
    simp only [restoredWorld]
  refine ⟨⟨aliceSession, ?_, rfl⟩, ?_, ?_, ?_⟩
  · rw [hlast, advance, Manager.pass_registry, hregistry]
  · obtain ⟨later, hlog, hlater⟩ := exists_dispatch_pass otherRemoved.wait
      (process .testDefaults restoredManager otherRemoved)
    have hdue : StateConfig.testDefaults.grace ≤
        (process .testDefaults restoredManager otherRemoved).now + otherRemoved.wait := by
      rw [hnow]
      decide
    obtain ⟨time, hmem⟩ := hlater _ htask hdue otherSession (List.mem_singleton_self _)
    rw [hlast, advance, hlog]
    exact ⟨time, List.mem_append_right _ hmem⟩
  · rw [hlast, advance, Manager.pass_now, hnow, Nat.zero_add, otherRemoved]
  · refine (unannounced_removal_never_dispatched restoredWorld_runs ?_ ?_ ?_).2
    · rintro (⟨d, hsocket, -⟩ | hchannel | hqueue)
      · cases hsocket
      · cases hchannel
      · cases hqueue
    · exact fun t ht => absurd ht List.not_mem_nil
    · intro i _
      rcases i with _ | _ | _ | _ | _ | _ | i <;> rfl

end Runs

end World

end PamCertauth.Monitord
