import PamCertauth.FlowGates

/-!
# Where the PIN goes

The PIN of a key bundle is asked for and tried only on the device that the loop over the
candidates ends on, and no guard of a mounted device is left behind. The log of the flow
does not show the attempts to open a bundle, which ask nothing of the environment; here
the flow is run with remarks about them, and runs the same otherwise
(`authenticatePkcs12Observed_project`).
-/

namespace PamCertauth.Flow

open X509 X509.CryptoLibrary Hooks

variable {σ X509 : Type} [CryptoLibrary X509]

/-- A call of the flow, or an attempt to open a bundle with a PIN. -/
inductive PinEvent (X509 : Type) [CryptoLibrary X509] where
  | call (c : Call X509)
  | tried (bytes : Bytes) (pin : String)

def PinEvent.call? : PinEvent X509 → Option (Call X509)
  | call c => some c
  | tried _ _ => none

/-- The calls of a log. -/
def callsOf (log : List (PinEvent X509)) : List (Call X509) := log.filterMap PinEvent.call?

@[simp] theorem callsOf_append (log log' : List (PinEvent X509)) :
    callsOf (log ++ log') = callsOf log ++ callsOf log' :=
  List.filterMap_append

@[simp] theorem callsOf_map (log : List (Call X509)) :
    callsOf (log.map PinEvent.call) = log := by
  rw [callsOf, List.filterMap_map]
  exact List.filterMap_some

/-- A part of the flow that opens no bundle. -/
def observe {ε α : Type} (p : Prog σ (Call X509) ε α) : Prog σ (PinEvent X509) ε α :=
  Prog.mapCalls .call p

section

variable (deps : Deps σ X509) (platform : Platform σ X509) (io : FlowIo σ)
  (promptPin : PinPrompter σ) (login : Login)

def acquireObserved (bytes : Bytes) :
    ℕ → Prog σ (PinEvent X509) Pkcs12.AcquireError (Pkcs12.LoadedKeyMaterial X509)
  | 0 => Prog.fail .maxTries
  | tries + 1 => do
    let pin ← observe
      (Prog.request (promptPin "Smart-card PIN: ") (.prompt "Smart-card PIN: ") .conv)
    Prog.note (.tried bytes pin)
    match Pkcs12.LoadedKeyMaterial.fromP12 bytes pin with
    | .ok material => pure material
    | .error .wrongPin => acquireObserved bytes tries
    | .error .missingKey => Prog.fail (.missing "key")
    | .error .missingCert => Prog.fail (.missing "cert")
    | .error (.corrupt m) => Prog.fail (.corrupt m)

/-- What follows the attempts. -/
def afterAttempts (bytes : Bytes) :
    Except Pkcs12.AcquireError (Pkcs12.LoadedKeyMaterial X509) →
      FlowProg σ X509 (Pkcs12.LoadedKeyMaterial X509)
  | .ok material => pure material
  | .error .maxTries => do
    let text ← Prog.ofExcept (p12WrongPinDiagnostic X509 bytes)
    notify (io.showInfo text) (.showInfo text)
    Prog.fail (.error .maxTries)
  | .error e => Prog.fail (.error (.ofAcquire e))

/-- The rest of the flow behind the PIN. -/
def afterPin (dev : UsbDevice) (session : MountSession) (creds : DiscoveredCreds)
    (loaded : Pkcs12.LoadedKeyMaterial X509) : FlowProg σ X509 FlowOutcome := do
  let (leaf, verified) ← checkMaterial deps platform io creds.chainPem loaded
  pkcs12Verdict deps platform login dev session leaf verified

def withBoundDeviceObserved (dev : UsbDevice) (session : MountSession)
    (creds : DiscoveredCreds) : Prog σ (PinEvent X509) (Halt FlowError) FlowOutcome :=
  Prog.onFailure
    (do
      let acquired ← Prog.attempt (acquireObserved promptPin creds.p12Bytes 3)
      observe do
        let loaded ← afterAttempts io creds.p12Bytes acquired
        afterPin deps platform io login dev session creds loaded)
    (observe (notify (io.unmount session) (.unmount session)))

def authenticatePkcs12Observed : Prog σ (PinEvent X509) (Halt FlowError) FlowOutcome := do
  observe (preAuthHooks deps login)
  let usbDevices ← observe (ask io.waitForUsb .waitForUsb .usb)
  let pattern := deps.cfg.pkcs12PathPattern.getD defaultPkcs12PathPattern
  let (dev, session, creds) ← observe (bindCandidate io login pattern usbDevices none none)
  withBoundDeviceObserved deps platform io promptPin login dev session creds

end

section

variable {deps : Deps σ X509} {platform : Platform σ X509} {io : FlowIo σ}
  {promptPin : PinPrompter σ} {login : Login}

theorem observe_apply {ε α : Type} {p : Prog σ (Call X509) ε α} {s s₁ : σ} {r : Except ε α}
    {log : List (Call X509)} (h : p s = ⟨r, s₁, log⟩) :
    observe p s = ⟨r, s₁, log.map .call⟩ := by
  rw [observe, Prog.mapCalls, h]

@[simp] theorem project_observe {ε α : Type} (p : Prog σ (Call X509) ε α) :
    Prog.project PinEvent.call? (observe p) = p := by
  apply Prog.project_mapCalls
  intro c
  rfl

theorem acquireObserved_project (bytes : Bytes) (tries : ℕ) :
    Prog.project PinEvent.call? (acquireObserved promptPin bytes tries) =
      (acquireP12MaterialWithPrompter promptPin bytes tries :
        Prog σ (Call X509) _ (Pkcs12.LoadedKeyMaterial X509)) := by
  induction tries with
  | zero => rfl
  | succ tries ih =>
    rw [acquireObserved, acquireP12MaterialWithPrompter, Prog.project_bind, project_observe]
    congr 1
    funext pin
    rw [Prog.project_note_bind rfl]
    generalize (Pkcs12.LoadedKeyMaterial.fromP12 bytes pin :
      Except _ (Pkcs12.LoadedKeyMaterial X509)) = answer
    rcases answer with (_ | _ | _ | m) | material
    · exact ih
    · rfl
    · rfl
    · rfl
    · rfl

theorem loadMaterial_eq (bytes : Bytes) :
    (loadMaterial io promptPin bytes : FlowProg σ X509 (Pkcs12.LoadedKeyMaterial X509)) =
      Prog.attempt (acquireP12MaterialWithPrompter promptPin bytes 3) >>=
        afterAttempts io bytes :=
  rfl

theorem withBoundDevice_eq (dev : UsbDevice) (session : MountSession) (creds : DiscoveredCreds) :
    withBoundDevice deps platform io promptPin login dev session creds =
      Prog.onFailure
        (Prog.attempt (acquireP12MaterialWithPrompter promptPin creds.p12Bytes 3) >>=
          fun acquired => afterAttempts io creds.p12Bytes acquired >>=
            afterPin deps platform io login dev session creds)
        (notify (io.unmount session) (.unmount session)) := by
  rw [withBoundDevice, pkcs12Checks_eq, loadMaterial_eq, Prog.bind_assoc, Prog.bind_assoc]
  rfl

theorem withBoundDeviceObserved_project (dev : UsbDevice) (session : MountSession)
    (creds : DiscoveredCreds) :
    Prog.project PinEvent.call?
        (withBoundDeviceObserved deps platform io promptPin login dev session creds) =
      withBoundDevice deps platform io promptPin login dev session creds := by
  rw [withBoundDeviceObserved, withBoundDevice_eq, Prog.project_onFailure, Prog.project_bind,
    Prog.project_attempt, acquireObserved_project, project_observe]
  simp only [project_observe]

/-- The remarks change nothing: the flow returns the same and makes the same calls. -/
theorem authenticatePkcs12Observed_project :
    Prog.project PinEvent.call? (authenticatePkcs12Observed deps platform io promptPin login) =
      authenticatePkcs12 deps platform io promptPin login := by
  simp only [authenticatePkcs12Observed, authenticatePkcs12, Prog.project_bind, project_observe,
    withBoundDeviceObserved_project]

end

/-- Prompts for the PIN, at most so many, each PIN tried on these bytes as it is entered. -/
inductive PinDialogue (bytes : Bytes) : ℕ → List (PinEvent X509) → Prop where
  | finished (tries : ℕ) : PinDialogue bytes tries []
  | unanswered (tries : ℕ) (e : PamConvError) :
      PinDialogue bytes (tries + 1) [.call (.prompt "Smart-card PIN: " (.error e))]
  | entered {tries : ℕ} {log : List (PinEvent X509)} (pin : String)
      (rest : PinDialogue bytes tries log) :
      PinDialogue bytes (tries + 1)
        (.call (.prompt "Smart-card PIN: " (.ok pin)) :: .tried bytes pin :: log)

theorem acquireObserved_dialogue {promptPin : PinPrompter σ} (bytes : Bytes) (tries : ℕ)
    (s : σ) : PinDialogue bytes tries
      ((acquireObserved promptPin bytes tries :
        Prog σ (PinEvent X509) _ (Pkcs12.LoadedKeyMaterial X509)) s).calls := by
  induction tries generalizing s with
  | zero => exact .finished 0
  | succ tries ih =>
    rw [acquireObserved]
    rcases hprompt : promptPin "Smart-card PIN: " s with ⟨e | pin, s₁⟩
    · rw [Prog.bind_of_error (observe_apply (Prog.request_of_error hprompt))]
      exact .unanswered tries e
    · rw [Prog.bind_of_ok (observe_apply (Prog.request_of_ok hprompt))]
      refine .entered pin ?_
      generalize (Pkcs12.LoadedKeyMaterial.fromP12 bytes pin :
        Except _ (Pkcs12.LoadedKeyMaterial X509)) = answer
      rcases answer with (_ | _ | _ | m) | material
      · exact ih s₁
      · exact .finished tries
      · exact .finished tries
      · exact .finished tries
      · exact .finished tries

/-- A call that concerns neither the devices nor the PIN. -/
def Call.Later : Call X509 → Prop
  | .waitForUsb _ => False
  | .mount _ _ => False
  | .unmount _ => False
  | .discover _ _ _ _ => False
  | .prompt _ _ => False
  | _ => True

theorem Call.Check.later {c : Call X509} (h : c.Check) : c.Later := by
  cases c <;> trivial

theorem Call.Later.leavesGuards {c : Call X509} (h : c.Later) : c.LeavesGuards := by
  cases c <;> trivial

section

variable {deps : Deps σ X509} {platform : Platform σ X509} {io : FlowIo σ}
  {promptPin : PinPrompter σ} {login : Login} {dev : UsbDevice} {session : MountSession}
  {creds : DiscoveredCreds}

theorem afterAttempts_check {bytes : Bytes}
    {acquired : Except Pkcs12.AcquireError (Pkcs12.LoadedKeyMaterial X509)} :
    Prog.LogsOnly Call.Check (afterAttempts io bytes acquired) := by
  rcases acquired with (_ | _ | _ | _) | material
  · refine (Prog.LogsOnly.ofExcept _).bind fun text => ?_
    exact Prog.LogsOnly.bind (Prog.LogsOnly.call fun _ => trivial) fun _ => Prog.LogsOnly.fail _
  · exact Prog.LogsOnly.fail _
  · exact Prog.LogsOnly.fail _
  · exact Prog.LogsOnly.fail _
  · exact Prog.LogsOnly.pure _

theorem concludeLogin_later {leaf : Certificate X509} {ctx : AuthContext}
    {mount : Option MountSession} :
    Prog.LogsOnly Call.Later (concludeLogin deps platform login leaf ctx mount) := by
  refine Prog.LogsOnly.bind ?_ fun _ => Prog.LogsOnly.bind ?_ fun _ => Prog.LogsOnly.pure _
  · apply Prog.LogsOnly.mapError
    apply runHooksForStage_logsOnly
    intro hook _ outcome
    trivial
  · refine Prog.LogsOnly.bind ?_ fun uid =>
      Prog.LogsOnly.bind (Prog.LogsOnly.call fun _ => trivial) fun _ => Prog.LogsOnly.pure _
    refine Prog.LogsOnly.bind (Prog.LogsOnly.call fun _ => trivial) fun answer => ?_
    split <;> exact Prog.LogsOnly.pure _

theorem afterPin_later {loaded : Pkcs12.LoadedKeyMaterial X509} :
    Prog.LogsOnly Call.Later (afterPin deps platform io login dev session creds loaded) := by
  refine (checkMaterial_check.mono fun _ => Call.Check.later).bind fun verdict => ?_
  refine (Prog.LogsOnly.ofExcept _).bind fun _ => ?_
  exact (assembleContext_check.mono fun _ => Call.Check.later).bind fun _ => concludeLogin_later

theorem afterPin_eq_ok {loaded : Pkcs12.LoadedKeyMaterial X509} {outcome : FlowOutcome}
    {s s' : σ} {log : List (Call X509)}
    (h : afterPin deps platform io login dev session creds loaded s = ⟨.ok outcome, s', log⟩) :
    outcome.mount = some session := by
  obtain ⟨_, s₁, _, _, -, hverdict, rfl⟩ := Prog.bind_eq_ok_iff.mp h
  obtain ⟨_, s₂, _, _, -, hcontext, rfl⟩ := Prog.bind_eq_ok_iff.mp hverdict
  obtain ⟨ctx, s₃, _, _, -, hconclude, rfl⟩ := Prog.bind_eq_ok_iff.mp hcontext
  obtain ⟨_, _, _, rfl, -, -⟩ := concludeLogin_eq_ok hconclude
  rfl

variable (deps platform io promptPin login dev session creds) in
/-- Behind the loop the PIN is tried on the bundle that was found, and the guard is handed
over or dropped. -/
theorem withBoundDeviceObserved_run (s : σ) :
    let r := withBoundDeviceObserved deps platform io promptPin login dev session creds s
    ∃ dialogue rest, PinDialogue creds.p12Bytes 3 dialogue ∧ (∀ c ∈ rest, c.Later) ∧
      ((∃ outcome, r.result = .ok outcome ∧ outcome.mount = some session ∧
          r.calls = dialogue ++ rest.map .call) ∨
        ∃ e, r.result = .error e ∧
          r.calls = dialogue ++ (rest ++ [.unmount session]).map .call) := by
  let acquired := (acquireObserved promptPin creds.p12Bytes 3 :
    Prog σ (PinEvent X509) _ (Pkcs12.LoadedKeyMaterial X509)) s
  let after : FlowProg σ X509 FlowOutcome :=
    afterAttempts io creds.p12Bytes acquired.result >>=
      afterPin deps platform io login dev session creds
  have hlater : Prog.LogsOnly Call.Later after :=
    (afterAttempts_check.mono fun _ => Call.Check.later).bind fun _ => afterPin_later
  have hbody {r : Except (Halt FlowError) FlowOutcome} {s₂ : σ} {log : List (Call X509)}
      (h : after acquired.env = ⟨r, s₂, log⟩) :
      (Prog.attempt (acquireObserved promptPin creds.p12Bytes 3) >>= fun acquired =>
        observe (afterAttempts io creds.p12Bytes acquired >>=
          afterPin deps platform io login dev session creds)) s =
        ⟨r, s₂, acquired.calls ++ log.map .call⟩ := by
    rw [Prog.attempt_bind_apply, observe_apply h]
  refine ⟨acquired.calls, (after acquired.env).calls, acquireObserved_dialogue _ _ _,
    hlater acquired.env, ?_⟩
  rcases hafter : after acquired.env with ⟨e | outcome, s₂, log⟩
  · refine .inr ⟨e, ?_⟩
    rw [withBoundDeviceObserved, Prog.onFailure_of_error (hbody hafter)]
    exact ⟨rfl, by simp [observe, notify, Prog.mapCalls, Prog.call]⟩
  · obtain ⟨loaded, s₁, t₁, t₂, -, hpin, -⟩ := Prog.bind_eq_ok_iff.mp hafter
    refine .inl ⟨outcome, ?_⟩
    rw [withBoundDeviceObserved, Prog.onFailure_eq_ok_iff.mpr (hbody hafter)]
    exact ⟨rfl, afterPin_eq_ok hpin, rfl⟩

end

def Call.AsksPin : Call X509 → Prop
  | .prompt _ _ => True
  | _ => False

def Call.IsHook : Call X509 → Prop
  | .hook _ _ _ => True
  | _ => False

theorem Call.OnDevice.not_asksPin {c : Call X509} (h : c.OnDevice) : ¬ c.AsksPin := by
  cases c <;> first | exact not_false | exact h.elim

theorem Call.IsHook.leavesGuards {c : Call X509} (h : c.IsHook) : c.LeavesGuards := by
  cases c <;> trivial

theorem Call.IsHook.not_asksPin {c : Call X509} (h : c.IsHook) : ¬ c.AsksPin := by
  cases c <;> first | exact not_false | exact h.elim

/-- A run that fails before the loop over the candidates ends on one. -/
structure Unbound (r : Run σ (PinEvent X509) (Halt FlowError) FlowOutcome) : Prop where
  failed : ∃ e, r.result = .error e
  noPin : ∃ log : List (Call X509), r.calls = log.map .call ∧ ∀ c ∈ log, ¬ c.AsksPin
  released : guardsHeld (callsOf r.calls) = []

/-- The parts of a run whose loop ends on a candidate. -/
structure BoundLog (X509 : Type) [CryptoLibrary X509] where
  hooks : List (Call X509)
  before : List UsbDevice
  given : List (Call X509)
  candidate : UsbDevice
  after : List UsbDevice
  session : MountSession
  creds : DiscoveredCreds
  dialogue : List (PinEvent X509)
  rest : List (Call X509)

section

variable (pattern pamUser : String)

/-- The calls until the loop ends. -/
def BoundLog.opening (k : BoundLog X509) : List (Call X509) :=
  k.hooks ++ .waitForUsb (.ok (k.before ++ k.candidate :: k.after)) ::
    (k.given ++ taken X509 pattern pamUser k.candidate k.session k.creds)

/-- The run is made of these parts: the earlier candidates are given up one by one, the
loop ends on the first one with a bundle whose envelope parses, the PIN is asked for and
tried on that bundle alone, and no other device is touched afterwards. -/
structure BoundTo (k : BoundLog X509) (r : Run σ (PinEvent X509) (Halt FlowError) FlowOutcome) :
    Prop where
  hooks : ∀ c ∈ k.hooks, c.IsHook
  givenUp : GivenUp X509 pattern pamUser k.before k.given
  envelope : Pkcs12.validateP12Envelope X509 k.creds.p12Bytes = .ok ()
  dialogue : PinDialogue k.creds.p12Bytes 3 k.dialogue
  rest : ∀ c ∈ k.rest, c.Later
  ended :
    (∃ outcome, r.result = .ok outcome ∧ outcome.mount = some k.session ∧
      r.calls = (k.opening pattern pamUser).map .call ++ (k.dialogue ++ k.rest.map .call)) ∨
    (∃ e, r.result = .error e ∧
      r.calls = (k.opening pattern pamUser).map .call ++
        (k.dialogue ++ (k.rest ++ [Call.unmount k.session]).map .call))

end

theorem PinDialogue.leavesGuards {bytes : Bytes} {tries : ℕ} {log : List (PinEvent X509)}
    (h : PinDialogue bytes tries log) :
    ∀ c ∈ callsOf log, c.LeavesGuards := by
  induction h with
  | finished => simp [callsOf]
  | unanswered => simp [callsOf, PinEvent.call?, Call.LeavesGuards]
  | entered pin rest ih => exact List.forall_mem_cons.mpr ⟨trivial, ih⟩

theorem BoundTo.opening_held {pattern pamUser : String} {k : BoundLog X509}
    {r : Run σ (PinEvent X509) (Halt FlowError) FlowOutcome} (h : BoundTo pattern pamUser k r) :
    guardsHeld (k.opening pattern pamUser) = [k.session] := by
  have hhooks : ∀ c ∈ k.hooks, c.LeavesGuards := fun c hc => (h.hooks c hc).leavesGuards
  rw [guardsHeld, BoundLog.opening, List.foldl_append,
    foldl_heldAfter_of_leavesGuards hhooks, List.foldl_cons, List.foldl_append]
  simp only [heldAfter]
  rw [h.givenUp.foldl_heldAfter]
  rfl

/-- Neither the dialogue nor what follows it changes the guards. -/
theorem BoundTo.foldl_heldAfter {pattern pamUser : String} {k : BoundLog X509}
    {r : Run σ (PinEvent X509) (Halt FlowError) FlowOutcome} (h : BoundTo pattern pamUser k r)
    (closing : List (Call X509)) :
    guardsHeld (callsOf ((k.opening pattern pamUser).map .call ++
        (k.dialogue ++ (k.rest ++ closing).map .call))) = closing.foldl heldAfter [k.session] := by
  have hopening := h.opening_held
  have hdialogue := foldl_heldAfter_of_leavesGuards h.dialogue.leavesGuards
  have hrest := foldl_heldAfter_of_leavesGuards
    fun c hc => Call.Later.leavesGuards (h.rest c hc)
  rw [guardsHeld] at hopening ⊢
  rw [callsOf_append, callsOf_append, callsOf_map, callsOf_map, List.foldl_append, hopening,
    List.foldl_append, hdialogue, List.foldl_append, hrest]

theorem BoundTo.released {pattern pamUser : String} {k : BoundLog X509}
    {r : Run σ (PinEvent X509) (Halt FlowError) FlowOutcome} (h : BoundTo pattern pamUser k r)
    {e : Halt FlowError} (he : r.result = .error e) : guardsHeld (callsOf r.calls) = [] := by
  rcases h.ended with ⟨outcome, hresult, -, -⟩ | ⟨_, -, hcalls⟩
  · rw [he] at hresult
    cases hresult
  · rw [hcalls, h.foldl_heldAfter]
    simp [heldAfter]

theorem BoundTo.handedOver {pattern pamUser : String} {k : BoundLog X509}
    {r : Run σ (PinEvent X509) (Halt FlowError) FlowOutcome} (h : BoundTo pattern pamUser k r)
    {outcome : FlowOutcome} (houtcome : r.result = .ok outcome) :
    outcome.mount = some k.session ∧ guardsHeld (callsOf r.calls) = [k.session] := by
  rcases h.ended with ⟨_, hresult, hmount, hcalls⟩ | ⟨e, hresult, -⟩
  · rw [houtcome] at hresult
    cases hresult
    have hkept := h.foldl_heldAfter []
    rw [List.append_nil] at hkept
    exact ⟨hmount, by rw [hcalls, hkept]; rfl⟩
  · rw [houtcome] at hresult
    cases hresult

section

variable {deps : Deps σ X509} {platform : Platform σ X509} {io : FlowIo σ}
  {promptPin : PinPrompter σ} {login : Login}

theorem preAuthHooks_isHook : Prog.LogsOnly Call.IsHook (preAuthHooks deps login) := by
  intro s c hc
  obtain ⟨hook, vars, outcome, rfl⟩ := preAuthHooks_onlyHooks hc
  trivial

/-- A run that only runs hooks, waits for devices and loops over them, and then fails. -/
theorem Unbound.of_calls {r : Run σ (PinEvent X509) (Halt FlowError) FlowOutcome}
    {hooks tail : List (Call X509)} {e : Halt FlowError} (hresult : r.result = .error e)
    (hcalls : r.calls = (hooks ++ tail).map .call) (hhooks : ∀ c ∈ hooks, c.IsHook)
    (htail : ∀ c ∈ tail, ¬ c.AsksPin) (hheld : tail.foldl heldAfter [] = []) : Unbound r := by
  have hguards : ∀ c ∈ hooks, c.LeavesGuards := fun c hc => (hhooks c hc).leavesGuards
  have hquiet : ∀ c ∈ hooks, ¬ c.AsksPin := fun c hc => (hhooks c hc).not_asksPin
  refine ⟨⟨e, hresult⟩, ⟨hooks ++ tail, hcalls, List.forall_mem_append.mpr ⟨hquiet, htail⟩⟩, ?_⟩
  rw [hcalls, callsOf_map, guardsHeld, List.foldl_append,
    foldl_heldAfter_of_leavesGuards hguards, hheld]

variable (deps platform io promptPin login) in
theorem authenticatePkcs12Observed_run (s : σ) :
    let r := authenticatePkcs12Observed deps platform io promptPin login s
    let pattern := deps.cfg.pkcs12PathPattern.getD defaultPkcs12PathPattern
    Unbound r ∨ ∃ k, BoundTo pattern login.pamUser k r := by
  intro r pattern
  have hisHook : ∀ c ∈ (preAuthHooks deps login s).calls, c.IsHook := preAuthHooks_isHook s
  rcases hhooks : preAuthHooks deps login s with ⟨e | ⟨⟩, s₁, hooks⟩
  · rw [hhooks] at hisHook
    have hr : r = ⟨.error e, s₁, hooks.map .call⟩ := Prog.bind_of_error (observe_apply hhooks)
    have hcalls : r.calls = (hooks ++ []).map .call := by rw [hr, List.append_nil]
    exact .inl (.of_calls (by rw [hr]) hcalls hisHook (by simp) rfl)
  rw [hhooks] at hisHook
  have hr : r = _ := Prog.bind_of_ok (observe_apply hhooks)
  rcases hwait : io.waitForUsb s₁ with ⟨e | devices, s₂⟩
  · have hask : (ask io.waitForUsb .waitForUsb .usb : FlowProg σ X509 _) s₁ =
        ⟨.error (.error (.usb e)), s₂, [.waitForUsb (.error e)]⟩ := Prog.request_of_error hwait
    rw [Prog.bind_of_error (observe_apply hask)] at hr
    have hcalls : r.calls = (hooks ++ [Call.waitForUsb (.error e)]).map .call := by
      rw [hr, List.map_append]
    exact .inl (.of_calls (by rw [hr]) hcalls hisHook (by simp [Call.AsksPin]) rfl)
  have hask : (ask io.waitForUsb .waitForUsb .usb : FlowProg σ X509 _) s₁ =
      ⟨.ok devices, s₂, [.waitForUsb (.ok devices)]⟩ := Prog.request_of_ok hwait
  rw [Prog.bind_of_ok (observe_apply hask)] at hr
  have hloop := bindCandidate_loopRun X509 io login pattern devices none none s₂
  rcases hbind : (bindCandidate io login pattern devices none none : FlowProg σ X509 _) s₂ with
    ⟨e | ⟨dev, session, creds⟩, s₃, log⟩
  · rw [hbind] at hloop
    rw [Prog.bind_of_error (observe_apply hbind)] at hr
    have hcalls : r.calls = (hooks ++ Call.waitForUsb (.ok devices) :: log).map .call := by
      rw [hr, List.map_append]
      rfl
    refine .inl (.of_calls (by rw [hr]) hcalls hisHook ?_ ?_)
    · exact List.forall_mem_cons.mpr ⟨not_false, fun c hc => (hloop.onDevice c hc).not_asksPin⟩
    · exact hloop.foldl_heldAfter_of_error []
  · rw [hbind] at hloop
    rw [Prog.bind_of_ok (observe_apply hbind)] at hr
    obtain ⟨before, after, given, rfl, hgiven, henvelope, rfl⟩ := hloop.eq_of_ok
    obtain ⟨dialogue, rest, hdialogue, hrest, hended⟩ :=
      withBoundDeviceObserved_run deps platform io promptPin login dev session creds s₃
    refine .inr ⟨⟨hooks, before, given, dev, after, session, creds, dialogue, rest⟩,
      hisHook, hgiven, henvelope, hdialogue, hrest, ?_⟩
    rcases hended with ⟨outcome, hresult, hmount, hcalls⟩ | ⟨e, hresult, hcalls⟩
    · refine .inl ⟨outcome, by rw [hr]; exact hresult, hmount, ?_⟩
      rw [hr]
      simp [BoundLog.opening, hcalls]
    · refine .inr ⟨e, by rw [hr]; exact hresult, ?_⟩
      rw [hr]
      simp [BoundLog.opening, hcalls]

/-- The flow is no oracle for PINs. Seen with its attempts, every run either ends without
a prompt before the loop over the candidates has found a bundle, or is bound to the first
candidate with a bundle whose envelope parses. A failure holds no guard, and a login holds
the guard of that candidate and hands it over. -/
theorem authenticatePkcs12_no_pin_oracle (deps : Deps σ X509) (platform : Platform σ X509)
    (io : FlowIo σ) (promptPin : PinPrompter σ) (login : Login) (s : σ) :
    let r := authenticatePkcs12Observed deps platform io promptPin login s
    let pattern := deps.cfg.pkcs12PathPattern.getD defaultPkcs12PathPattern
    authenticatePkcs12 deps platform io promptPin login s = ⟨r.result, r.env, callsOf r.calls⟩ ∧
      (Unbound r ∨ ∃ k, BoundTo pattern login.pamUser k r ∧
        (∀ e, r.result = .error e → guardsHeld (callsOf r.calls) = []) ∧
        ∀ outcome, r.result = .ok outcome →
          outcome.mount = some k.session ∧ guardsHeld (callsOf r.calls) = [k.session]) := by
  intro r pattern
  have hsame : authenticatePkcs12 deps platform io promptPin login s =
      ⟨r.result, r.env, callsOf r.calls⟩ := by
    rw [← authenticatePkcs12Observed_project]
    rfl
  refine ⟨hsame, ?_⟩
  rcases authenticatePkcs12Observed_run deps platform io promptPin login s with h | ⟨k, hk⟩
  · exact .inl h
  · exact .inr ⟨k, hk, fun _ => hk.released, fun _ => hk.handedOver⟩

end

end PamCertauth.Flow
