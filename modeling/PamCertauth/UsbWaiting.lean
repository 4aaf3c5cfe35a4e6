import PamCertauth.UsbEnumeration

/-!
# Waiting for a device

Without a device at hand, the wait listens to udev until a deadline. Each round reads the
clock, looks through the events that have come in and polls for more, for as long as remains.
A poll takes its timeout in milliseconds and in 16 bits, and the first poll that ends without
an event ends the wait. The environment here has a clock of its own, against which the
moment of a timeout is measured.
-/

namespace PamCertauth.Usb

open PamCertauth.Flow X509

structure UdevEvent where
  isAdd : Bool
  device : UdevDevice

inductive PollError where
  | eintr
  | other (detail : String)
  deriving DecidableEq, Repr

/-- What the wait asks of the system. The clock is read in nanoseconds. -/
structure UsbOs (σ : Type) where
  udev : σ → Udev × σ
  listen : σ → Except String Unit × σ
  now : σ → ℕ × σ
  drain : σ → List UdevEvent × σ
  poll : UInt16 → σ → Except PollError ℕ × σ

/-- So many milliseconds, in nanoseconds. -/
def millis (ms : ℕ) : ℕ := ms * 10 ^ 6

def remainingMs (remaining : ℕ) : UInt16 :=
  if remaining / 10 ^ 6 < 2 ^ 16 then UInt16.ofNat (remaining / 10 ^ 6) else 65535

section

variable {σ : Type} (os : UsbOs σ) (filter : Option (UInt16 × UInt16)) (maxUsbPartitions : ℕ)

/-- The devices of the first event that brings any. -/
def firstAdded : List UdevEvent → σ → Except UsbError (List UsbDevice) × σ
  | [], s => (.ok [], s)
  | event :: events, s =>
    if event.isAdd && event.device.onUsb then
      let (udev, s₁) := os.udev s
      match devicesFrom udev filter maxUsbPartitions event.device with
      | .error e => (.error e, s₁)
      | .ok [] => firstAdded events s₁
      | .ok (dev :: devs) => (.ok (dev :: devs), s₁)
    else firstAdded events s

/-- Block on the monitor. An event or a signal leads back to the loop. -/
def pollMonitor (ms : UInt16) (s : σ) : Option (Except UsbError (List UsbDevice)) × σ :=
  match os.poll ms s with
  | (.ok 0, s₁) => (some (.error .timeout), s₁)
  | (.ok _, s₁) => (none, s₁)
  | (.error .eintr, s₁) => (none, s₁)
  | (.error (.other detail), s₁) => (some (.error (.io detail)), s₁)

/-- One round of the loop: its result, unless another round follows. -/
def round (deadline : ℕ) (s : σ) : Option (Except UsbError (List UsbDevice)) × σ :=
  let (now, s₁) := os.now s
  if deadline ≤ now then (some (.error .timeout), s₁)
  else
    let (events, s₂) := os.drain s₁
    match firstAdded os filter maxUsbPartitions events s₂ with
    | (.error e, s₃) => (some (.error e), s₃)
    | (.ok (dev :: devs), s₃) => (some (.ok (dev :: devs)), s₃)
    | (.ok [], s₃) => pollMonitor os (remainingMs (deadline - now)) s₃

/-- The loop for so many rounds. Without a result it is still waiting. -/
def monitorLoop (deadline : ℕ) : ℕ → σ → Option (Except UsbError (List UsbDevice)) × σ
  | 0, s => (none, s)
  | fuel + 1, s =>
    match round os filter maxUsbPartitions deadline s with
    | (some result, s₁) => (some result, s₁)
    | (none, s₁) => monitorLoop deadline fuel s₁

/-- The second phase: the deadline is set and events are awaited. -/
def monitor (timeout : Duration) (fuel : ℕ) (s : σ) :
    Option (Except (Halt UsbError) (List UsbDevice)) × σ :=
  let (now, s₁) := os.now s
  if instantLimit ≤ now + timeout then
    (some (.error (.panicked "overflow when adding duration to instant")), s₁)
  else
    let (result, s₂) := monitorLoop os filter maxUsbPartitions (now + timeout) fuel s₁
    (result.map (·.mapError .error), s₂)

def waitForUsbReal (timeout : Duration) (fuel : ℕ) (s : σ) :
    Option (Except (Halt UsbError) (List UsbDevice)) × σ :=
  let (udev, s₁) := os.udev s
  match enumerateOnceWithLimit udev filter maxUsbPartitions with
  | .error e => (some (.error (.error e)), s₁)
  | .ok (dev :: devs) => (some (.ok (dev :: devs)), s₁)
  | .ok [] =>
    match os.listen s₁ with
    | (.error e, s₂) => (some (.error (.error (.udev e))), s₂)
    | (.ok (), s₂) => monitor os filter maxUsbPartitions timeout fuel s₂

/-- The state in which the wait begins to monitor, if it comes to that. -/
def UsbOs.monitoringFrom (s : σ) : σ := (os.listen (os.udev s).2).2

end

theorem parseHex16_ne_timeout (property : Option OsText) :
    parseHex16 property ≠ .error .timeout := by
  unfold parseHex16
  split
  · simp
  · split <;> simp

theorem devicesFrom_ne_timeout (udev : Udev) (filter : Option (UInt16 × UInt16)) (limit : ℕ)
    (d : UdevDevice) : devicesFrom udev filter limit d ≠ .error .timeout := by
  unfold devicesFrom
  split
  · simp
  · refine bind_ne_error (parseHex16_ne_timeout _) fun vid => ?_
    refine bind_ne_error (parseHex16_ne_timeout _) fun pid => ?_
    split_ifs
    · simp
    · simp
    · simp
    · split
      · simp
      · split_ifs <;> simp

theorem enumerateOnceWithLimit_ne_timeout (udev : Udev) (filter : Option (UInt16 × UInt16))
    (limit : ℕ) : enumerateOnceWithLimit udev filter limit ≠ .error .timeout := by
  refine bind_ne_error ?_ fun scanned => ?_
  · cases udev.scan <;> simp [Except.mapError]
  · refine bind_ne_error ?_ fun found => by simp
    exact mapM_ne_error (devicesFrom_ne_timeout udev filter limit) scanned

theorem firstAdded_ne_timeout {σ : Type} (os : UsbOs σ) (filter : Option (UInt16 × UInt16))
    (limit : ℕ) (events : List UdevEvent) (s : σ) :
    (firstAdded os filter limit events s).1 ≠ .error .timeout := by
  induction events generalizing s with
  | nil => simp [firstAdded]
  | cons event events ih =>
    unfold firstAdded
    split
    · have hne := devicesFrom_ne_timeout (os.udev s).1 filter limit event.device
      simp only
      split
      · next e he => rwa [he] at hne
      · exact ih _
      · simp
    · exact ih s

/-- The clock of the environment never goes back, a reading of it lies within the call, and a
poll that finds nothing has taken the time it was given. -/
structure KeepsTime {σ : Type} (os : UsbOs σ) (clock : σ → ℕ) : Prop where
  udev : ∀ s, clock s ≤ clock (os.udev s).2
  listen : ∀ s, clock s ≤ clock (os.listen s).2
  drain : ∀ s, clock s ≤ clock (os.drain s).2
  poll : ∀ ms s, clock s ≤ clock (os.poll ms s).2
  now_after : ∀ s, clock s ≤ (os.now s).1
  now_before : ∀ s, (os.now s).1 ≤ clock (os.now s).2
  poll_timeout : ∀ ms s, (os.poll ms s).1 = .ok 0 →
    clock s + millis ms.toNat ≤ clock (os.poll ms s).2

theorem remainingMs_toNat (remaining : ℕ) :
    (remainingMs remaining).toNat = min (remaining / 10 ^ 6) 65535 := by
  unfold remainingMs
  split
  · next h =>
    rw [UInt16.toNat_ofNat_of_lt' h]
    omega
  · next h =>
    have hmax : (65535 : UInt16).toNat = 65535 := rfl
    omega

/-- The wait gave up at the instant `t` after a look at the clock at `now`: because the deadline
had passed, or because the poll for the remaining time ended. -/
def GivesUp (deadline now t : ℕ) : Prop :=
  deadline ≤ now ∧ now ≤ t ∨
    now < deadline ∧ now + millis (min ((deadline - now) / 10 ^ 6) 65535) ≤ t

section

variable {σ : Type} {os : UsbOs σ} {clock : σ → ℕ} {filter : Option (UInt16 × UInt16)}
  {limit deadline : ℕ}

theorem KeepsTime.now (h : KeepsTime os clock) (s : σ) : clock s ≤ clock (os.now s).2 :=
  (h.now_after s).trans (h.now_before s)

theorem KeepsTime.firstAdded (h : KeepsTime os clock) (events : List UdevEvent) (s : σ) :
    clock s ≤ clock (firstAdded os filter limit events s).2 := by
  induction events generalizing s with
  | nil => exact le_rfl
  | cons event events ih =>
    unfold Usb.firstAdded
    split
    · simp only
      split
      · exact h.udev s
      · exact (h.udev s).trans (ih _)
      · exact h.udev s
    · exact ih s

theorem KeepsTime.pollMonitor (h : KeepsTime os clock) (ms : UInt16) (s : σ) :
    clock s ≤ clock (pollMonitor os ms s).2 ∧
      ((pollMonitor os ms s).1 = some (.error .timeout) →
        clock s + millis ms.toNat ≤ clock (pollMonitor os ms s).2) := by
  have hpoll := h.poll ms s
  have htimeout := h.poll_timeout ms s
  unfold Usb.pollMonitor
  generalize os.poll ms s = answer at hpoll htimeout
  obtain ⟨answer, s₁⟩ := answer
  split
  · next heq =>
    cases heq
    exact ⟨hpoll, fun _ => htimeout rfl⟩
  all_goals
    next heq =>
      cases heq
      exact ⟨hpoll, by simp⟩

/-- One round takes no time back, and a timeout in it is one of the two kinds. -/
theorem KeepsTime.round (h : KeepsTime os clock) (s : σ) :
    clock s ≤ clock (round os filter limit deadline s).2 ∧
      ((round os filter limit deadline s).1 = some (.error .timeout) →
        ∃ now, clock s ≤ now ∧
          GivesUp deadline now (clock (round os filter limit deadline s).2)) := by
  have hnow := h.now s
  have hdrain := h.drain (os.now s).2
  have hadded : clock _ ≤ clock (Usb.firstAdded os filter limit _ _).2 :=
    h.firstAdded (os.drain (os.now s).2).1 (os.drain (os.now s).2).2
  have hne := firstAdded_ne_timeout os filter limit (os.drain (os.now s).2).1
    (os.drain (os.now s).2).2
  unfold Usb.round
  simp only
  split
  · next hpassed =>
    exact ⟨hnow, fun _ => ⟨_, h.now_after s, .inl ⟨hpassed, h.now_before s⟩⟩⟩
  · next hahead =>
    have hopen : (os.now s).1 < deadline := not_le.mp hahead
    generalize Usb.firstAdded os filter limit _ _ = added at hadded hne
    obtain ⟨added, s₃⟩ := added
    have hreading : (os.now s).1 ≤ clock s₃ := (h.now_before s).trans (hdrain.trans hadded)
    have hstart : clock s ≤ clock s₃ := (h.now_after s).trans hreading
    split
    · next e _ heq =>
      cases heq
      exact ⟨hstart, fun htimeout => absurd (Option.some.inj htimeout) hne⟩
    · next heq =>
      cases heq
      exact ⟨hstart, by simp⟩
    · next heq =>
      cases heq
      obtain ⟨hmono, htimeout⟩ := h.pollMonitor (remainingMs (deadline - (os.now s).1)) s₃
      refine ⟨hstart.trans hmono, fun hanswer => ⟨_, h.now_after s, .inr ⟨hopen, ?_⟩⟩⟩
      have hwaited := htimeout hanswer
      rw [remainingMs_toNat] at hwaited
      exact (Nat.add_le_add_right hreading _).trans hwaited

theorem KeepsTime.monitorLoop (h : KeepsTime os clock) {fuel : ℕ} {s s' : σ}
    (hrun : monitorLoop os filter limit deadline fuel s = (some (.error .timeout), s')) :
    ∃ now, clock s ≤ now ∧ GivesUp deadline now (clock s') := by
  induction fuel generalizing s with
  | zero => cases hrun
  | succ fuel ih =>
    obtain ⟨hmono, htimeout⟩ : clock s ≤ clock (Usb.round os filter limit deadline s).2 ∧ _ :=
      h.round s
    unfold Usb.monitorLoop at hrun
    generalize Usb.round os filter limit deadline s = next at hmono htimeout hrun
    obtain ⟨result | result, s₁⟩ := next
    · obtain ⟨now, hnow, hgives⟩ := ih hrun
      exact ⟨now, hmono.trans hnow, hgives⟩
    · cases hrun
      exact htimeout rfl

/-- A timeout of the wait is one of its loop, with a deadline set after the wait began to
monitor. -/
theorem KeepsTime.waitForUsbReal (h : KeepsTime os clock) {timeout : Duration} {fuel : ℕ}
    {s s' : σ}
    (hrun : waitForUsbReal os filter limit timeout fuel s =
      (some (.error (.error .timeout)), s')) :
    ∃ start now, clock (os.monitoringFrom s) ≤ start ∧ start + timeout < instantLimit ∧
      start ≤ now ∧ GivesUp (start + timeout) now (clock s') := by
  unfold Usb.waitForUsbReal at hrun
  simp only at hrun
  split at hrun
  · next e he =>
    cases hrun
    exact absurd he (enumerateOnceWithLimit_ne_timeout _ _ _)
  · cases hrun
  · split at hrun
    · cases hrun
    · next s₂ hlisten =>
      have hfrom : os.monitoringFrom s = s₂ := congrArg Prod.snd hlisten
      rw [hfrom]
      unfold monitor at hrun
      simp only at hrun
      split at hrun
      · cases hrun
      · next hfits =>
        obtain ⟨hresult, rfl⟩ := Prod.mk.inj hrun
        have hloop : (Usb.monitorLoop os filter limit ((os.now s₂).1 + timeout) fuel
            (os.now s₂).2).1 = some (.error .timeout) := by
          rw [Option.map_eq_some_iff] at hresult
          obtain ⟨result, hsome, herror⟩ := hresult
          cases result with
          | error e =>
            cases herror
            exact hsome
          | ok devs => cases herror
        obtain ⟨now, hnow, hgives⟩ := h.monitorLoop (Prod.ext hloop rfl)
        exact ⟨(os.now s₂).1, now, h.now_after s₂, not_le.mp hfits,
          (h.now_before s₂).trans hnow, hgives⟩

end

/-- In every environment that keeps time, a timeout comes no sooner than the time limit after
the start of the monitoring, up to a tolerance. -/
def TimesOutAfter (timeout : ℕ) (tolerance : ℕ) : Prop :=
  ∀ (σ : Type) (os : UsbOs σ) (clock : σ → ℕ), KeepsTime os clock →
    ∀ filter maxUsbPartitions fuel s s',
      waitForUsbReal os filter maxUsbPartitions timeout fuel s =
        (some (.error (.error .timeout)), s') →
      clock (os.monitoringFrom s) + timeout ≤ clock s' + tolerance

/-- A machine without devices, with the time as its state. A look at the clock takes `tick`
nanoseconds, and a poll takes the time it is given. -/
def idleOs (tick : ℕ) : UsbOs ℕ where
  udev s := (⟨.ok [], fun _ => .ok []⟩, s)
  listen s := (.ok (), s)
  now s := (s, s + tick)
  drain s := ([], s)
  poll ms s := (.ok 0, s + millis ms.toNat)

section

variable (tick s : ℕ)

@[simp] theorem idleOs_now : (idleOs tick).now s = (s, s + tick) := rfl

@[simp] theorem idleOs_poll (ms : UInt16) :
    (idleOs tick).poll ms s = (.ok 0, s + millis ms.toNat) := rfl

@[simp] theorem idleOs_drain : (idleOs tick).drain s = ([], s) := rfl

@[simp] theorem idleOs_monitoringFrom : (idleOs tick).monitoringFrom s = s := rfl

end

theorem idleOs_keepsTime (tick : ℕ) : KeepsTime (idleOs tick) id where
  udev _ := le_rfl
  listen _ := le_rfl
  drain _ := le_rfl
  poll ms s := by
    rw [idleOs_poll, id_eq, id_eq]
    exact Nat.le_add_right _ _
  now_after _ := le_rfl
  now_before s := by
    rw [idleOs_now, id_eq]
    exact Nat.le_add_right _ _
  poll_timeout ms s _ := by rw [idleOs_poll, id_eq, id_eq]

/-- The wait on the machine, from the instant zero. -/
theorem waitForUsbReal_idleOs {tick : ℕ} {timeout : ℕ} (htick : tick < timeout)
    (hfits : timeout < instantLimit) :
    waitForUsbReal (idleOs tick) none 64 timeout 1 0 =
      (some (.error (.error .timeout)),
        tick + tick + millis (min ((timeout - tick) / 10 ^ 6) 65535)) := by
  have hmonitor : monitor (idleOs tick) none 64 timeout 1 0 =
      (some (.error (.error .timeout)),
        tick + tick + millis (min ((timeout - tick) / 10 ^ 6) 65535)) := by
    simp only [monitor, idleOs_now, zero_add, not_le.mpr hfits, if_false, monitorLoop, round,
      not_le.mpr htick, idleOs_drain, firstAdded, pollMonitor, idleOs_poll, remainingMs_toNat,
      Option.map_some, Except.mapError]
  exact hmonitor

/-- If the addition to the clock overflows whatever the clock shows, no timeout comes at all. -/
theorem timesOutAfter_of_limit {timeout : ℕ} (h : instantLimit ≤ timeout)
    (tolerance : ℕ) : TimesOutAfter timeout tolerance := by
  intro σ os clock htime filter limit fuel s s' hrun
  obtain ⟨start, now, -, hfits, -⟩ := htime.waitForUsbReal hrun
  omega

/-- A limit that fits into the 16 bits of a poll is kept up to the rounding of a poll. -/
theorem timesOutAfter_of_lt {timeout : ℕ} (h : timeout < millis 65536) :
    TimesOutAfter timeout (10 ^ 6 - 1) := by
  intro σ os clock htime filter limit fuel s s' hrun
  obtain ⟨start, now, hstart, -, hnow, hgives⟩ := htime.waitForUsbReal hrun
  unfold millis at h
  rcases hgives with ⟨hpassed, hend⟩ | ⟨hopen, hend⟩
  · omega
  · unfold millis at hend
    omega

theorem timesOutAfter_zero : TimesOutAfter 0 0 := by
  intro σ os clock htime filter limit fuel s s' hrun
  obtain ⟨start, now, hstart, -, hnow, hgives⟩ := htime.waitForUsbReal hrun
  rcases hgives with ⟨hpassed, hend⟩ | ⟨hopen, hend⟩ <;> omega

theorem TimesOutAfter.idleOs {timeout : ℕ} {tolerance tick : ℕ}
    (h : TimesOutAfter timeout tolerance) (htick : tick < timeout)
    (hfits : timeout < instantLimit) :
    timeout ≤ tick + tick + min ((timeout - tick) / 10 ^ 6) 65535 * 10 ^ 6 + tolerance := by
  have hwaited := h ℕ _ id (idleOs_keepsTime tick) none 64 1 0 _ (waitForUsbReal_idleOs htick hfits)
  rwa [idleOs_monitoringFrom, id_eq, id_eq, zero_add] at hwaited

/-- The wait honours its limit exactly if the limit is zero or beyond the clock. It honours it
up to a millisecond exactly if the limit is below 65.536 seconds or beyond the clock. -/
theorem usb_timeout_honoured_iff (timeout : ℕ) :
    (TimesOutAfter timeout 0 ↔ timeout = 0 ∨ instantLimit ≤ timeout) ∧
      (TimesOutAfter timeout (10 ^ 6 - 1) ↔
        timeout < millis 65536 ∨ instantLimit ≤ timeout) := by
  refine ⟨⟨?_, ?_⟩, ⟨?_, ?_⟩⟩
  · intro hexact
    by_contra hcontra
    obtain ⟨hpositive, hfits⟩ : 0 < timeout ∧ timeout < instantLimit := by omega
    -- A limit of whole milliseconds loses one to a first look at the clock, any other limit
    -- loses its fraction.
    by_cases hwhole : timeout % 10 ^ 6 = 0
    · have hearly := hexact.idleOs (show 1 < timeout by omega) hfits
      omega
    · have hearly := hexact.idleOs hpositive hfits
      omega
  · rintro (rfl | hlimit)
    · exact timesOutAfter_zero
    · exact timesOutAfter_of_limit hlimit 0
  · intro hrounded
    by_contra hcontra
    obtain ⟨hlong, hfits⟩ : millis 65536 ≤ timeout ∧ timeout < instantLimit := by omega
    unfold millis at hlong
    have hearly := hrounded.idleOs (show 0 < timeout by omega) hfits
    omega
  · rintro (hshort | hlimit)
    · exact timesOutAfter_of_lt hshort
    · exact timesOutAfter_of_limit hlimit _

/-- The longest documented limit of 300 seconds ends after 65.535 seconds. -/
theorem usb_timeout_after_65_seconds :
    KeepsTime (idleOs 0) id ∧
      waitForUsbReal (idleOs 0) none 64 (Duration.fromSecs 300) 1 0 =
        (some (.error (.error .timeout)), millis 65535) ∧
      ¬ (idleOs 0).monitoringFrom 0 + Duration.fromSecs 300 ≤ millis 65535 := by
  refine ⟨idleOs_keepsTime 0, ?_, ?_⟩
  · rw [waitForUsbReal_idleOs (by decide) (by decide)]
    rfl
  · decide

end PamCertauth.Usb
