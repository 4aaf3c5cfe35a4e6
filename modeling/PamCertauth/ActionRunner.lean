import PamCertauth.SessionClosing
import PamCertauth.UsbRemovals

/-!
# What reaches logind

The action runner (`actions.rs`) takes the requests of the state manager one after another,
and the next one only when the handler of the last has returned. It asks logind to lock or to
terminate the session, runs a program, or powers the host off. A session without a logind
session cannot be locked or terminated, and its request is dropped; a handler that fails
does not keep the others back.

Manager and runner take their steps in any order. The calls of the runner are followed back to
the removals of devices.
-/

namespace PamCertauth.Monitord

open Ipc

inductive BackendCall where
  | lockSession (id : String)
  | terminateSession (id : String)
  | powerOff
  | runHook (path : String) (env : List (String × String))
  deriving DecidableEq, Repr

/-- The environment that `run_hook` adds to its own. -/
def hookEnv (session : ActiveSession) : List (String × String) :=
  [("CERT_CN", session.certCn), ("PAM_USER", session.pamUser), ("PAM_SERVICE", session.pamService),
    ("USB_SERIAL", session.usbSerial.getD ""), ("HOST_ID_HASH", session.hostIdHash),
    ("SESSION_ID", uuidText session.sessionId)]

/-- The call of the handler, or the error with which it gives up before it. -/
def handle : ActionRequest → Except String BackendCall
  | .handleUsbRemoved session action =>
    let logindId := session.target.logindId
    match action with
    | .lock =>
      match logindId with
      | some id => .ok (.lockSession id)
      | none => .error "Lock requested but session has no logind id"
    | .logout =>
      match logindId with
      | some id => .ok (.terminateSession id)
      | none => .error "Logout requested but session has no logind id"
    | .hook path => .ok (.runHook path (hookEnv session))
    | .shutdown => .ok .powerOff

/-- The runner: how many requests it has taken, and its calls. What a call answers makes no
difference to the next. -/
structure Runner where
  taken : ℕ
  calls : List BackendCall
  deriving DecidableEq, Repr

def effect (request : ℕ × ActionRequest) : Option BackendCall := (handle request.2).toOption

/-- The runner takes the next request, if there is one. -/
def Runner.takeNext (dispatched : List (ℕ × ActionRequest)) (r : Runner) : Runner :=
  match dispatched[r.taken]? with
  | none => r
  | some request => ⟨r.taken + 1, r.calls ++ (effect request).toList⟩

section Schedule

variable (cfg : StateConfig) (m : Manager) (steps : ℕ → Step) (schedule : ℕ → Bool)

/-- How many of the first `n` turns were the manager's. -/
def managed : ℕ → ℕ
  | 0 => 0
  | n + 1 => if schedule n then managed n + 1 else managed n

def managerAt (n : ℕ) : Manager := runFrom cfg m steps (managed schedule n)

/-- The runner after `n` turns. In a turn that is not the manager's, the runner has returned from
its last call and takes the next request. -/
def runnerAt : ℕ → Runner
  | 0 => ⟨0, []⟩
  | n + 1 =>
    if schedule n then runnerAt n
    else (runnerAt n).takeNext (managerAt cfg m steps schedule n).dispatched

end Schedule

/-- The runner has handled the first requests, each once and in their order. -/
structure Runner.Follows (dispatched : List (ℕ × ActionRequest)) (r : Runner) : Prop where
  taken : r.taken ≤ dispatched.length
  calls : r.calls = (dispatched.take r.taken).filterMap effect

namespace Runner.Follows

variable {dispatched : List (ℕ × ActionRequest)} {r : Runner}

/-- New requests come behind the old ones. -/
theorem append (h : r.Follows dispatched) (later : List (ℕ × ActionRequest)) :
    r.Follows (dispatched ++ later) where
  taken := by
    rw [List.length_append]
    exact h.taken.trans (Nat.le_add_right _ _)
  calls := by rw [List.take_append_of_le_length h.taken, h.calls]

theorem takeNext (h : r.Follows dispatched) : (r.takeNext dispatched).Follows dispatched := by
  rw [Runner.takeNext]
  split
  · exact h
  · next request hrequest =>
    obtain ⟨hlt, -⟩ := List.getElem?_eq_some_iff.mp hrequest
    refine ⟨hlt, ?_⟩
    rw [List.take_add_one, hrequest, Option.toList_some, List.filterMap_append, h.calls]
    cases heffect : effect request with
    | none => simp [heffect]
    | some call => simp [heffect]

end Runner.Follows

section Runs

variable {cfg : StateConfig} {m : Manager} {steps : ℕ → Step} {schedule : ℕ → Bool}

/-- What has been dispatched stays, and later requests come behind it. -/
theorem dispatched_advance (cfg : StateConfig) (m : Manager) (step : Step) :
    ∃ later, (advance cfg m step).dispatched = m.dispatched ++ later := by
  have hprocess : Emits (fun _ => True) m (process cfg m step) := by
    have hpersist : ∀ registry, Emits (fun _ => True) m
        (persistAsync step.persistence { m with registry := registry }) := fun registry =>
      (Emits.of_log_eq rfl).trans (Emits.persistAsync step.persistence fun _ _ _ _ _ => trivial)
    have heffect := process_effect cfg m step
    generalize process cfg m step = m' at heffect ⊢
    cases heffect with
    | timers _ _ _ _ log _ => exact .of_log_eq log
    | answered _ _ _ _ => exact .send m trivial
    | @confirmed _ _ registry _ _ _ _ => exact (hpersist registry).trans (.send _ trivial)
    | ended _ _ _ => exact hpersist _
  obtain ⟨later, hlog, -⟩ := hprocess.trans (Emits.pass step.wait fun _ _ _ _ _ => trivial)
  refine ⟨later.filterMap Emission.dispatched, ?_⟩
  rw [Manager.dispatched, advance, hlog, List.filterMap_append]
  rfl

theorem follows_runnerAt (n : ℕ) :
    (runnerAt cfg m steps schedule n).Follows (managerAt cfg m steps schedule n).dispatched := by
  induction n with
  | zero => exact ⟨Nat.zero_le _, rfl⟩
  | succ n ih =>
    rw [runnerAt, managerAt, managed]
    by_cases hturn : schedule n = true
    · rw [if_pos hturn, if_pos hturn, runFrom]
      obtain ⟨later, hlater⟩ := dispatched_advance cfg (runFrom cfg m steps (managed schedule n))
        (steps (managed schedule n))
      rw [hlater]
      exact ih.append later
    · rw [if_neg hturn, if_neg hturn]
      exact ih.takeNext

theorem effect_eq_some {request : ℕ × ActionRequest} {call : BackendCall}
    (h : effect request = some call) : handle request.2 = .ok call := by
  rw [effect] at h
  cases hhandle : handle request.2 with
  | error e =>
    rw [hhandle] at h
    cases h
  | ok call' =>
    rw [hhandle] at h
    rw [Option.some.inj h]

/-- The request of a consequence is for a session that was registered at an effective removal. -/
theorem mem_consequences {n i : ℕ} {request : ℕ × ActionRequest}
    (h : request ∈ consequences cfg m steps n i) :
    ∃ serial, Effective cfg m steps serial i ∧ ¬ CalledOff cfg m steps serial i n ∧
      ∃ session ∈ sessionsAt cfg m steps serial i,
        request =
          (timeAt cfg m steps i + cfg.grace, .handleUsbRemoved session cfg.onUsbRemoved) := by
  rw [consequences] at h
  split at h
  · next serial _ =>
    split_ifs at h with hconditions
    · obtain ⟨session, hsession, rfl⟩ := List.mem_map.mp h
      exact ⟨serial, hconditions.1, hconditions.2.1, session, hsession, rfl⟩
    · cases h
  · cases h

/-- The backend is called for the effective removals that were not called off, once for each of
their sessions that the action can be applied to, in the order of the dispatches, and for
nothing else. What has not been called for yet is waiting. -/
theorem backend_calls_follow_removals (cfg : StateConfig) (registry : SessionRegistry)
    (stored : List ActiveSession) (now : ℕ) (steps : ℕ → Step) (schedule : ℕ → Bool) (n : ℕ) :
    let m := spawnStateManager registry stored now
    let r := runnerAt cfg m steps schedule n
    let dispatched := (managerAt cfg m steps schedule n).dispatched
    r.calls ++ (dispatched.drop r.taken).filterMap effect = dispatched.filterMap effect ∧
      (dispatched.filterMap effect).Perm
        (((List.range (managed schedule n)).flatMap
          (consequences cfg m steps (managed schedule n))).filterMap effect) ∧
      ∀ call ∈ r.calls, ∃ i serial, i < managed schedule n ∧ Effective cfg m steps serial i ∧
        ¬ CalledOff cfg m steps serial i (managed schedule n) ∧
        ∃ session ∈ sessionsAt cfg m steps serial i,
          handle (.handleUsbRemoved session cfg.onUsbRemoved) = .ok call := by
  intro m r dispatched
  have hfollows : r.Follows dispatched := follows_runnerAt n
  have hsplit : r.calls ++ (dispatched.drop r.taken).filterMap effect =
      dispatched.filterMap effect := by
    rw [hfollows.calls, ← List.filterMap_append, List.take_append_drop]
  have hperm : (dispatched.filterMap effect).Perm (((List.range (managed schedule n)).flatMap
      (consequences cfg m steps (managed schedule n))).filterMap effect) :=
    (dispatched_perm (simulates_runFrom cfg registry stored now steps) _).filterMap effect
  refine ⟨hsplit, hperm, fun call hcall => ?_⟩
  have hmem : call ∈ dispatched.filterMap effect := by
    rw [← hsplit]
    exact List.mem_append_left _ hcall
  obtain ⟨request, hrequest, heffect⟩ := List.mem_filterMap.mp (hperm.mem_iff.mp hmem)
  obtain ⟨i, hi, hconsequence⟩ := List.mem_flatMap.mp hrequest
  obtain ⟨serial, heffective, hnot, session, hsession, rfl⟩ := mem_consequences hconsequence
  exact ⟨i, serial, List.mem_range.mp hi, heffective, hnot, session, hsession,
    effect_eq_some heffect⟩

end Runs

end PamCertauth.Monitord
