import PamCertauth.AuthenticationFlow

/-!
# The loop over the candidates

What the loop of `authenticate_pkcs12` over the partitions of the USB devices does to
them: each candidate is mounted and looked at, and unmounted again before the next one is
mounted, until one has a bundle that looks like one.
-/

namespace PamCertauth.Flow

open X509 X509.CryptoLibrary

variable {σ X509 : Type} [CryptoLibrary X509]

/-- The guards that are held behind a call. -/
def heldAfter (held : List MountSession) : Call X509 → List MountSession
  | .mount _ (.ok session) => session :: held
  | .unmount session => held.erase session
  | _ => held

/-- The guards that the calls have obtained and not dropped. -/
def guardsHeld (log : List (Call X509)) : List MountSession := log.foldl heldAfter []

/-- A call that neither obtains a guard nor drops one. -/
def Call.LeavesGuards : Call X509 → Prop
  | .mount _ _ => False
  | .unmount _ => False
  | _ => True

theorem foldl_heldAfter_of_leavesGuards {log : List (Call X509)}
    (h : ∀ c ∈ log, c.LeavesGuards) (held : List MountSession) :
    log.foldl heldAfter held = held := by
  induction log generalizing held with
  | nil => rfl
  | cons c log ih =>
    obtain ⟨hc, hlog⟩ := List.forall_mem_cons.mp h
    have hstep : heldAfter held c = held := by
      cases c <;> first | rfl | exact hc.elim
    rw [List.foldl_cons, hstep, ih hlog]

section

variable (X509) (pattern pamUser : String)

/-- The answer shows no bundle, or one with an envelope that does not parse. -/
inductive NoBundle : Except DiscoveryError DiscoveredCreds → Prop where
  | missing (path : String) : NoBundle (.error (.p12NotFound path))
  | invalid {creds : DiscoveredCreds} {e : Pkcs12.P12EnvelopeError}
      (envelope : Pkcs12.validateP12Envelope X509 creds.p12Bytes = .error e) :
      NoBundle (.ok creds)

/-- Mount a candidate, look for a bundle and unmount it again. -/
def lookedAt (dev : UsbDevice) (session : MountSession)
    (answer : Except DiscoveryError DiscoveredCreds) : List (Call X509) :=
  [.mount dev (.ok session), .discover session.mountpoint pattern pamUser answer,
    .unmount session]

/-- Mount a candidate, find a bundle and keep the device. -/
def taken (dev : UsbDevice) (session : MountSession) (creds : DiscoveredCreds) :
    List (Call X509) :=
  [.mount dev (.ok session), .discover session.mountpoint pattern pamUser (.ok creds)]

/-- The calls for candidates that are given up one after the other. -/
inductive GivenUp : List UsbDevice → List (Call X509) → Prop where
  | nil : GivenUp [] []
  | cons {dev : UsbDevice} {devs : List UsbDevice} {session : MountSession}
      {answer : Except DiscoveryError DiscoveredCreds} {log : List (Call X509)}
      (noBundle : NoBundle X509 answer) (rest : GivenUp devs log) :
      GivenUp (dev :: devs) (lookedAt X509 pattern pamUser dev session answer ++ log)

/-- The ways the loop can end and the calls it has made by then. -/
inductive LoopRun : List UsbDevice →
    Except (Halt FlowError) (UsbDevice × MountSession × DiscoveredCreds) →
      List (Call X509) → Prop where
  | exhausted (e : Halt FlowError) : LoopRun [] (.error e) []
  | unmountable {dev : UsbDevice} {devs : List UsbDevice} (e : Halt FlowError)
      (error : MountError) : LoopRun (dev :: devs) (.error e) [.mount dev (.error error)]
  | unreadable {dev : UsbDevice} {devs : List UsbDevice} {session : MountSession}
      (e : Halt FlowError) (error : DiscoveryError) :
      LoopRun (dev :: devs) (.error e) (lookedAt X509 pattern pamUser dev session (.error error))
  | found {dev : UsbDevice} {devs : List UsbDevice} {session : MountSession}
      {creds : DiscoveredCreds}
      (envelope : Pkcs12.validateP12Envelope X509 creds.p12Bytes = .ok ()) :
      LoopRun (dev :: devs) (.ok (dev, session, creds))
        (taken X509 pattern pamUser dev session creds)
  | givenUp {dev : UsbDevice} {devs : List UsbDevice} {session : MountSession}
      {answer : Except DiscoveryError DiscoveredCreds}
      {result : Except (Halt FlowError) (UsbDevice × MountSession × DiscoveredCreds)}
      {log : List (Call X509)} (noBundle : NoBundle X509 answer)
      (rest : LoopRun devs result log) :
      LoopRun (dev :: devs) result (lookedAt X509 pattern pamUser dev session answer ++ log)

end

variable {io : FlowIo σ} {login : Login} {pattern pamUser : String}

variable (X509 io login pattern) in
theorem bindCandidate_loopRun (devices : List UsbDevice)
    (lastDiscoveryErr : Option DiscoveryError)
    (lastEnvelopeErr : Option Pkcs12.P12EnvelopeError) (s : σ) :
    let r : Run σ (Call X509) (Halt FlowError) (UsbDevice × MountSession × DiscoveredCreds) :=
      bindCandidate io login pattern devices lastDiscoveryErr lastEnvelopeErr s
    LoopRun X509 pattern login.pamUser devices r.result r.calls := by
  induction devices generalizing lastDiscoveryErr lastEnvelopeErr s with
  | nil =>
    cases lastEnvelopeErr <;> exact .exhausted _
  | cons candidate candidates ih =>
    intro r
    rcases hmount : io.mount candidate s with ⟨e | session, s₁⟩
    · have hr : r = ⟨.error (.error (.mount e)), s₁, [.mount candidate (.error e)]⟩ :=
        Prog.bind_of_error (Prog.request_of_error hmount)
      rw [hr]
      exact .unmountable _ e
    · have hr : r = _ := Prog.bind_of_ok (Prog.request_of_ok hmount)
      rcases hfound : io.discover session.mountpoint pattern login.pamUser s₁ with
        ⟨error | creds, s₂⟩
      · rw [Prog.call_bind_apply, hfound] at hr
        cases error with
        | p12NotFound path =>
          rw [hr]
          exact .givenUp (.missing path) (ih _ _ (io.unmount session s₂))
        | io detail => rw [hr]; exact .unreadable _ _
        | p12TooLarge actual => rw [hr]; exact .unreadable _ _
        | chainTooLarge actual => rw [hr]; exact .unreadable _ _
      · rw [Prog.call_bind_apply, hfound] at hr
        rcases henvelope : Pkcs12.validateP12Envelope X509 creds.p12Bytes with e | ⟨⟩
        · simp only [henvelope] at hr
          rw [hr]
          exact .givenUp (.invalid henvelope) (ih _ _ (io.unmount session s₂))
        · simp only [henvelope] at hr
          rw [hr]
          exact .found henvelope

theorem foldl_heldAfter_lookedAt (held : List MountSession) (dev : UsbDevice)
    (session : MountSession) (answer : Except DiscoveryError DiscoveredCreds) :
    (lookedAt X509 pattern pamUser dev session answer).foldl heldAfter held = held := by
  simp [lookedAt, heldAfter]

theorem GivenUp.foldl_heldAfter {devs : List UsbDevice} {log : List (Call X509)}
    (h : GivenUp X509 pattern pamUser devs log) (held : List MountSession) :
    log.foldl heldAfter held = held := by
  induction h with
  | nil => rfl
  | cons _ _ ih => rw [List.foldl_append, foldl_heldAfter_lookedAt, ih]

/-- A call about a mounted device. -/
def Call.OnDevice : Call X509 → Prop
  | .mount _ _ => True
  | .unmount _ => True
  | .discover _ _ _ _ => True
  | _ => False

theorem onDevice_lookedAt {dev : UsbDevice} {session : MountSession}
    {answer : Except DiscoveryError DiscoveredCreds} :
    ∀ c ∈ lookedAt X509 pattern pamUser dev session answer, c.OnDevice := by
  simp [lookedAt, Call.OnDevice]

namespace LoopRun

variable {devices : List UsbDevice} {log : List (Call X509)}

theorem onDevice {result : Except (Halt FlowError) (UsbDevice × MountSession × DiscoveredCreds)}
    (h : LoopRun X509 pattern pamUser devices result log) : ∀ c ∈ log, c.OnDevice := by
  induction h with
  | exhausted => simp
  | unmountable => simp [Call.OnDevice]
  | unreadable => exact onDevice_lookedAt
  | found => simp [taken, Call.OnDevice]
  | givenUp _ _ ih => exact List.forall_mem_append.mpr ⟨onDevice_lookedAt, ih⟩

/-- A loop that fails holds no guard. -/
theorem foldl_heldAfter_of_error {e : Halt FlowError}
    (h : LoopRun X509 pattern pamUser devices (.error e) log) (held : List MountSession) :
    log.foldl heldAfter held = held := by
  generalize hresult : Except.error e = result at h
  induction h with
  | exhausted => rfl
  | unmountable => rfl
  | unreadable => exact foldl_heldAfter_lookedAt held _ _ _
  | found => cases hresult
  | givenUp _ _ ih => rw [List.foldl_append, foldl_heldAfter_lookedAt, ih hresult]

/-- A loop that succeeds has given up the candidates before the one it ends on. -/
theorem eq_of_ok {dev : UsbDevice} {session : MountSession} {creds : DiscoveredCreds}
    (h : LoopRun X509 pattern pamUser devices (.ok (dev, session, creds)) log) :
    ∃ before after given, devices = before ++ dev :: after ∧
      GivenUp X509 pattern pamUser before given ∧
      Pkcs12.validateP12Envelope X509 creds.p12Bytes = .ok () ∧
      log = given ++ taken X509 pattern pamUser dev session creds := by
  generalize hresult : Except.ok (dev, session, creds) = result at h
  induction h with
  | exhausted => cases hresult
  | unmountable => cases hresult
  | unreadable => cases hresult
  | found henvelope =>
    cases hresult
    exact ⟨[], _, [], rfl, .nil, henvelope, rfl⟩
  | givenUp hnone _ ih =>
    obtain ⟨before, after, given, rfl, hgiven, henvelope, rfl⟩ := ih hresult
    exact ⟨_ :: before, after, _ ++ given, rfl, .cons hnone hgiven, henvelope,
      (List.append_assoc _ _ _).symm⟩

end LoopRun

end PamCertauth.Flow
