import PamCertauth.IntegrityPolicy
import PamCertauth.Wiring

/-!
# Opening and closing a session

The two session entries of the PAM module (`entry.rs`) with the pipeline between them and
the integrity policy (`session.rs`) and the capture of the logind session
(`xdg_capture.rs`). The policy is asked first. When it refuses, the report to the monitor
that the authentication made is taken back; `openSession_paired_iff` says for which
failures this happens.
-/

namespace PamCertauth.Session

open Ipc Mac Hooks

/-- The validated configuration with its `[mac]` section. -/
structure SessionConfig extends Config.ValidatedConfig where
  mac : MacPolicy

/-- What the session entries ask the host for. -/
structure SessionHost (σ : Type) where
  loadValidatedConfig : σ → Except String SessionConfig × σ
  getAuthContext : σ → Option AuthContext × σ
  pamGetUserString : σ → Except String String × σ
  pamGetEnvString : String → σ → Except String (Option String) × σ
  /-- Built with the `astra-mac` feature. -/
  astraMac : Bool
  parsec : MacBackend σ
  link : DaemonLink σ
  hookExecutor : HookExecutor σ

inductive SessionEvent where
  | loadValidatedConfig (answer : Except String SessionConfig)
  | getAuthContext (answer : Option AuthContext)
  | pamGetUserString (answer : Except String String)
  | pamGetEnvString (name : String) (answer : Except String (Option String))
  | mac (event : MacEvent)
  | wire (event : WireEvent)
  | closeSession (sessionId reason : String) (answer : Except IpcError Unit)
  | updateSessionTarget (sessionId : Uuid) (target : SessionTarget) (answer : Except IpcError Unit)
  | hook (hook : HookConfig) (vars : HookVars) (outcome : Except HookError HookOutcome)

def pamAuthErr : ℕ := 7
def pamAuthinfoUnavail : ℕ := 9
def pamSessionErr : ℕ := 14

/-- Programs that stop with a PAM code. -/
abbrev SessionProg (σ : Type) := Prog σ SessionEvent ℕ

/-- The code that PAM gets. -/
def returnCode : Except ℕ Unit → ℕ
  | .ok () => 0
  | .error code => code

section Entries

variable {σ : Type} (host : SessionHost σ) (cfg : SessionConfig) (ctx : AuthContext)
  (pamUser : String)

def emitAudit (event : MacAudit) : SessionProg σ Unit := Prog.mapCalls .mac (emit event)

/-- Whether the backend of the kernel is active. -/
def probeKernel : SessionProg σ Bool := do
  let runtime ← Prog.call host.parsec.probe fun answer => .mac (.probe answer)
  pure (runtime = .active)

def buildBackend (macRuntime : MacRuntimeMode) : SessionProg σ (MacBackend σ) :=
  if host.astraMac then
    match macRuntime with
    | .disabled => do
      emitAudit .runtimeDisabled
      pure (stubBackend σ)
    | .required => do
      let active ← probeKernel host
      if active then pure host.parsec
      else do
        emitAudit (.macRuntimeRequired "kernel parsec subsystem not active")
        Prog.fail pamAuthErr
    | .auto => do
      let active ← probeKernel host
      if active then pure host.parsec
      else do
        emitAudit (.runtimeFallback "kernel parsec subsystem not active (parsec_strict_mode != 1)")
        pure (stubBackend σ)
  else pure (stubBackend σ)

def sessionContext : SessionContext where
  pamUser := pamUser
  pamService := ctx.pamService
  certIdent := ctx.certIdent.getD ⟨ctx.certSerial.getD "", "", ctx.certCn.getD "", ""⟩
  homeDir := ctx.homeDir

/-- The code of a refusal: a broken contract of the certificate or the policy, or a label
that cannot be applied. -/
def refusalCode : OrchestratorError → ℕ
  | .certLacksExt | .runtimeRequired _ => pamAuthErr
  | .applyFailed _ => pamSessionErr

/-- Call the monitor. The answer is a value for the caller. -/
def callCloseSession {ε : Type} (monitor : SessionMonitor σ) (sessionId reason : String) :
    Prog σ SessionEvent ε (Except IpcError Unit) := do
  let answer ← Prog.attempt (Prog.mapCalls .wire (monitor.closeSession sessionId reason))
  Prog.call (fun s => (answer, s)) (.closeSession sessionId reason)

/-- Take back the report to the monitor. A failure is only logged by the source. -/
def releaseEntry (monitor : Option (SessionMonitor σ)) : SessionProg σ Unit :=
  match monitor with
  | none => pure ()
  | some m => do
    let _ ← callCloseSession m ctx.sessionId "mac_denied"
    pure ()

def runOpenSessionPipelineWithBackendAndMonitor (backend : MacBackend σ)
    (monitor : Option (SessionMonitor σ)) : SessionProg σ Unit := do
  let result ← Prog.attempt (Prog.mapCalls .mac
    (applySessionPolicy backend cfg.mac ctx.certMaxIntegrity (sessionContext ctx pamUser)))
  match result with
  | .ok _ => pure ()
  | .error e => do
    releaseEntry ctx monitor
    Prog.fail (refusalCode e)

def sessionFactory : MonitorClientFactory := ⟨cfg.monitor.socketPath, cfg.monitor.timeout⟩

def runOpenSessionPipeline : SessionProg σ Unit := do
  let backend ← buildBackend host cfg.mac.runtime
  runOpenSessionPipelineWithBackendAndMonitor cfg ctx pamUser backend
    (some (wiredSessionMonitor host.link (sessionFactory cfg) cfg.monitor.failMode))

inductive CaptureOutcome where
  | pushed
  | pushFailed
  | skipped
  deriving DecidableEq, Repr

/-- Push the logind session to the monitor, once there is one. -/
def captureXdg (sessionId : Uuid) (xdgSessionId : Option String)
    (push : SessionTarget → Exchange σ Unit) : SessionProg σ CaptureOutcome :=
  match xdgSessionId.filter (· ≠ "") with
  | none => pure .skipped
  | some xdg => do
    let target := .logindSession xdg
    let answer ← Prog.attempt (Prog.mapCalls .wire (push target))
    let _ ← Prog.call (fun s => ((), s)) fun _ => .updateSessionTarget sessionId target answer
    pure (if answer.isOk then .pushed else .pushFailed)

/-- Both uuids of the source are made of the session id in the same way. -/
def captureSessionTarget : SessionProg σ Unit := do
  let xdg ← Prog.call (host.pamGetEnvString "XDG_SESSION_ID") (.pamGetEnvString "XDG_SESSION_ID")
  let sessionUuid := host.link.uuidFromSessionId ctx.sessionId
  let _ ← captureXdg sessionUuid (xdg.toOption.join) fun target => do
    connect host.link (sessionFactory cfg)
    sendUpdateSessionTarget host.link sessionUuid target
  pure ()

/-- The user, or else the name on the certificate. -/
def sessionUser {ε : Type} : Prog σ SessionEvent ε String := do
  let answer ← Prog.call host.pamGetUserString .pamGetUserString
  match answer with
  | .ok user => pure user
  | .error _ => pure (ctx.certCn.getD "")

def runSessionOpenHooks : SessionProg σ Unit :=
  Prog.mapError (fun _ => pamSessionErr)
    (runHooksForStage cfg.hooks .sessionOpen host.hookExecutor .hook
      (HookVars.forSessionOpen pamUser ctx))

/-- The opening behind the configuration and the context. -/
def openSession : SessionProg σ Unit := do
  let pamUser ← sessionUser host ctx
  runOpenSessionPipeline host cfg ctx pamUser
  captureSessionTarget host cfg ctx
  runSessionOpenHooks host cfg ctx pamUser

def pamSmOpenSession : SessionProg σ Unit := do
  let cfg ← Prog.request host.loadValidatedConfig .loadValidatedConfig fun _ => pamAuthinfoUnavail
  let found ← Prog.call host.getAuthContext .getAuthContext
  match found with
  | none => Prog.fail pamAuthinfoUnavail
  | some ctx => openSession host cfg ctx

/-- The closing behind the configuration and the context. Failures of hooks are only logged
by the source. -/
def closeSession : SessionProg σ Unit := do
  let pamUser ← sessionUser host ctx
  let _ ← Prog.attempt
    (runHooksForStage cfg.hooks .sessionClose host.hookExecutor SessionEvent.hook
      (HookVars.forSessionClose pamUser ctx))
  pure ()

def pamSmCloseSession : SessionProg σ Unit := do
  let loaded ← Prog.call host.loadValidatedConfig .loadValidatedConfig
  match loaded with
  | .error _ => pure ()
  | .ok cfg => do
    let found ← Prog.call host.getAuthContext .getAuthContext
    match found with
    | none => pure ()
    | some ctx => closeSession host cfg ctx

end Entries

def SessionEvent.isCloseSession : SessionEvent → Bool
  | .closeSession _ _ _ => true
  | _ => false

/-- An event other than a hook and a call of `close_session`. -/
def SessionEvent.Neutral : SessionEvent → Prop
  | .closeSession _ _ _ => False
  | .hook _ _ _ => False
  | _ => True

/-- The program never calls `close_session` on the monitor. -/
abbrev NeverCloses {σ ε α : Type} (p : Prog σ SessionEvent ε α) : Prop :=
  Prog.LogsOnly (fun event => event.isCloseSession = false) p

section Closes

variable {σ : Type} (host : SessionHost σ) (cfg : SessionConfig) (ctx : AuthContext)
  (pamUser : String)

theorem NeverCloses.filter_calls {ε α : Type} {p : Prog σ SessionEvent ε α} (h : NeverCloses p)
    (s : σ) : (p s).calls.filter SessionEvent.isCloseSession = [] := by
  rw [List.filter_eq_nil_iff]
  intro event hevent
  rw [h s event hevent]
  exact Bool.false_ne_true

theorem NeverCloses.filter_of_run {ε α : Type} {p : Prog σ SessionEvent ε α} (h : NeverCloses p)
    {s s' : σ} {result : Except ε α} {t : List SessionEvent} (hrun : p s = ⟨result, s', t⟩) :
    t.filter SessionEvent.isCloseSession = [] := by
  have hcalls := h.filter_calls s
  rw [hrun] at hcalls
  exact hcalls

theorem NeverCloses.of_neutral {ε α : Type} {p : Prog σ SessionEvent ε α}
    (h : Prog.LogsOnly SessionEvent.Neutral p) : NeverCloses p := by
  refine h.mono fun event hneutral => ?_
  cases event <;> trivial

theorem sessionUser_neutral {ε : Type} :
    Prog.LogsOnly SessionEvent.Neutral
      (sessionUser host ctx : Prog σ SessionEvent ε String) := by
  apply Prog.LogsOnly.bind
  · exact Prog.LogsOnly.call fun _ => trivial
  · intro answer
    split <;> exact Prog.LogsOnly.pure _

theorem emitAudit_neutral (event : MacAudit) :
    Prog.LogsOnly SessionEvent.Neutral (emitAudit event : SessionProg σ Unit) :=
  Prog.LogsOnly.mapCalls fun _ => trivial

theorem probeKernel_neutral : Prog.LogsOnly SessionEvent.Neutral (probeKernel host) := by
  apply Prog.LogsOnly.bind
  · exact Prog.LogsOnly.call fun _ => trivial
  · intro runtime
    exact Prog.LogsOnly.pure _

theorem buildBackend_neutral (mode : MacRuntimeMode) :
    Prog.LogsOnly SessionEvent.Neutral (buildBackend host mode) := by
  unfold buildBackend
  split
  · cases mode with
    | disabled => exact (emitAudit_neutral _).bind fun _ => Prog.LogsOnly.pure _
    | required =>
      refine (probeKernel_neutral host).bind fun active => ?_
      split
      · exact Prog.LogsOnly.pure _
      · exact (emitAudit_neutral _).bind fun _ => Prog.LogsOnly.fail _
    | auto =>
      refine (probeKernel_neutral host).bind fun active => ?_
      split
      · exact Prog.LogsOnly.pure _
      · exact (emitAudit_neutral _).bind fun _ => Prog.LogsOnly.pure _
  · exact Prog.LogsOnly.pure _

theorem captureSessionTarget_neutral :
    Prog.LogsOnly SessionEvent.Neutral (captureSessionTarget host cfg ctx) := by
  apply Prog.LogsOnly.bind
  · exact Prog.LogsOnly.call fun _ => trivial
  · intro xdg
    refine Prog.LogsOnly.bind ?_ fun _ => Prog.LogsOnly.pure _
    rw [captureXdg]
    split
    · exact Prog.LogsOnly.pure _
    · refine Prog.LogsOnly.bind ?_ fun answer => ?_
      · exact Prog.LogsOnly.attempt (Prog.LogsOnly.mapCalls fun _ => trivial)
      · exact Prog.LogsOnly.bind (Prog.LogsOnly.call fun _ => trivial) fun _ => Prog.LogsOnly.pure _

theorem runSessionOpenHooks_neverCloses :
    NeverCloses (runSessionOpenHooks host cfg ctx pamUser) := by
  apply Prog.LogsOnly.mapError
  apply runHooksForStage_logsOnly
  intro hook _ outcome
  rfl

/-- Events of the connection or of the policy are not calls of `close_session`. -/
theorem filter_map_closeSession {ω : Type} {f : ω → SessionEvent}
    (hf : ∀ c, (f c).isCloseSession = false) (t : List ω) :
    (t.map f).filter SessionEvent.isCloseSession = [] := by
  rw [List.filter_eq_nil_iff]
  intro event hevent
  obtain ⟨c, -, rfl⟩ := List.mem_map.mp hevent
  rw [hf c]
  exact Bool.false_ne_true

theorem releaseEntry_run (monitor : SessionMonitor σ) (s : σ) :
    ∃ answer s' t, (releaseEntry ctx (some monitor) : SessionProg σ Unit) s =
        ⟨.ok (), s', t ++ [.closeSession ctx.sessionId "mac_denied" answer]⟩ ∧
      t.filter SessionEvent.isCloseSession = [] := by
  rcases hclose : monitor.closeSession ctx.sessionId "mac_denied" s with ⟨answer, s₁, t₁⟩
  have hanswer : (Prog.attempt (Prog.mapCalls SessionEvent.wire
      (monitor.closeSession ctx.sessionId "mac_denied")) : SessionProg σ _) s =
      ⟨.ok answer, s₁, t₁.map .wire⟩ := by
    simp only [Prog.attempt, Prog.mapCalls, hclose]
  have hcall : (callCloseSession monitor ctx.sessionId "mac_denied" : SessionProg σ _) s =
      ⟨.ok answer, s₁, t₁.map .wire ++ [.closeSession ctx.sessionId "mac_denied" answer]⟩ :=
    Prog.bind_of_ok hanswer
  refine ⟨answer, s₁, t₁.map .wire, ?_, filter_map_closeSession (fun _ => rfl) t₁⟩
  rw [releaseEntry, Prog.bind_of_ok hcall]
  simp

end Closes

section Failures

variable {σ : Type} (host : SessionHost σ) (cfg : SessionConfig) (ctx : AuthContext)

/-- The user that an entry works with, and the environment behind the question. -/
def userAt (s : σ) : String × σ :=
  match host.pamGetUserString s with
  | (.ok user, s₁) => (user, s₁)
  | (.error _, s₁) => (ctx.certCn.getD "", s₁)

/-- The kernel subsystem is required and not active. -/
def KernelMissing (s : σ) : Prop :=
  host.astraMac = true ∧ cfg.mac.runtime = .required ∧ (host.parsec.probe s).1 ≠ .active

/-- There is a backend, and the policy refuses the session. -/
def PolicyRefuses (pamUser : String) (s : σ) (e : OrchestratorError) : Prop :=
  ∃ backend s₁ t, buildBackend host cfg.mac.runtime s = ⟨.ok backend, s₁, t⟩ ∧
    (applySessionPolicy backend cfg.mac ctx.certMaxIntegrity (sessionContext ctx pamUser)
      s₁).result = .error e

/-- The policy lets the session pass, and a hook fails in a way that counts. -/
def HooksRefuse (pamUser : String) (s : σ) : Prop :=
  ∃ s₁ s₂ t₁ t₂ e, runOpenSessionPipeline host cfg ctx pamUser s = ⟨.ok (), s₁, t₁⟩ ∧
    captureSessionTarget host cfg ctx s₁ = ⟨.ok (), s₂, t₂⟩ ∧
    (runHooksForStage cfg.hooks .sessionOpen host.hookExecutor SessionEvent.hook
      (HookVars.forSessionOpen pamUser ctx) s₂).result = .error e

/-- The code of a failure to open the session, from what went wrong. -/
inductive OriginalFailure (pamUser : String) (s : σ) : ℕ → Prop
  | kernelMissing (h : KernelMissing host cfg s) : OriginalFailure pamUser s pamAuthErr
  | policyRefused (e : OrchestratorError) (h : PolicyRefuses host cfg ctx pamUser s e) :
      OriginalFailure pamUser s (refusalCode e)
  | hooksRefused (h : HooksRefuse host cfg ctx pamUser s) : OriginalFailure pamUser s pamSessionErr

/-- A failed call has called `close_session` for the session exactly once, and returns the code
of what went wrong. -/
def PairedOnFailure (pamUser : String) (s : σ) (run : Run σ SessionEvent ℕ Unit) : Prop :=
  returnCode run.result ≠ 0 →
    (∃ reason answer, run.calls.filter SessionEvent.isCloseSession =
      [.closeSession ctx.sessionId reason answer]) ∧
    OriginalFailure host cfg ctx pamUser s (returnCode run.result)

theorem sessionUser_run (s : σ) :
    ∃ t, (sessionUser host ctx : SessionProg σ String) s =
      ⟨.ok (userAt host ctx s).1, (userAt host ctx s).2, t⟩ := by
  simp only [sessionUser, Prog.call_bind_apply, userAt]
  rcases host.pamGetUserString s with ⟨e | user, s₁⟩
  · exact ⟨_, rfl⟩
  · exact ⟨_, rfl⟩

variable {host cfg ctx} {pamUser : String} {s : σ}

theorem probeKernel_run (host : SessionHost σ) (s : σ) :
    probeKernel host s =
      ⟨.ok (decide ((host.parsec.probe s).1 = .active)), (host.parsec.probe s).2,
        [.mac (.probe (host.parsec.probe s).1)]⟩ := rfl

theorem buildBackend_of_kernelMissing (h : KernelMissing host cfg s) :
    (buildBackend host cfg.mac.runtime s).result = .error pamAuthErr := by
  obtain ⟨hbuilt, hrequired, hprobe⟩ := h
  simp only [buildBackend, if_pos hbuilt, hrequired]
  rw [Prog.bind_of_ok (probeKernel_run host s), decide_eq_false hprobe]
  rfl

theorem buildBackend_of_not_kernelMissing (h : ¬ KernelMissing host cfg s) :
    ∃ backend, (buildBackend host cfg.mac.runtime s).result = .ok backend := by
  unfold buildBackend
  split
  · next hbuilt =>
    cases hmode : cfg.mac.runtime with
    | disabled => exact ⟨stubBackend σ, rfl⟩
    | required =>
      have hactive : (host.parsec.probe s).1 = .active := by
        by_contra hprobe
        exact h ⟨hbuilt, hmode, hprobe⟩
      refine ⟨host.parsec, ?_⟩
      simp only
      rw [Prog.bind_of_ok (probeKernel_run host s), decide_eq_true hactive]
      rfl
    | auto =>
      simp only
      rw [Prog.bind_of_ok (probeKernel_run host s)]
      by_cases hactive : (host.parsec.probe s).1 = .active
      · rw [decide_eq_true hactive]
        exact ⟨host.parsec, rfl⟩
      · rw [decide_eq_false hactive]
        exact ⟨stubBackend σ, rfl⟩
  · exact ⟨stubBackend σ, rfl⟩

/-- A session that the policy lets pass is open without further calls. -/
theorem pipeline_of_ok {backend : MacBackend σ} {outcome : Outcome} {s₁ : σ} {t : List MacEvent}
    (monitor : Option (SessionMonitor σ))
    (h : applySessionPolicy backend cfg.mac ctx.certMaxIntegrity (sessionContext ctx pamUser) s =
      ⟨.ok outcome, s₁, t⟩) :
    runOpenSessionPipelineWithBackendAndMonitor cfg ctx pamUser backend monitor s =
      ⟨.ok (), s₁, t.map .mac⟩ := by
  rw [runOpenSessionPipelineWithBackendAndMonitor, Prog.attempt_bind_apply]
  simp [Prog.mapCalls, h]

/-- A session that the policy refuses is released, and the code is the one of the refusal. -/
theorem pipeline_of_error {backend : MacBackend σ} {e : OrchestratorError} {s₁ : σ}
    {t : List MacEvent} (monitor : Option (SessionMonitor σ))
    (h : applySessionPolicy backend cfg.mac ctx.certMaxIntegrity (sessionContext ctx pamUser) s =
      ⟨.error e, s₁, t⟩) :
    runOpenSessionPipelineWithBackendAndMonitor cfg ctx pamUser backend monitor s =
      ⟨.error (refusalCode e), (releaseEntry ctx monitor s₁).env,
        t.map .mac ++ (releaseEntry ctx monitor s₁).calls⟩ := by
  have hreleased : ∃ s₂ t₂, releaseEntry ctx monitor s₁ = ⟨.ok (), s₂, t₂⟩ := by
    cases monitor with
    | none => exact ⟨s₁, [], rfl⟩
    | some m => exact ⟨_, _, rfl⟩
  obtain ⟨s₂, t₂, hrelease⟩ := hreleased
  rw [runOpenSessionPipelineWithBackendAndMonitor, Prog.attempt_bind_apply]
  simp only [Prog.mapCalls, h]
  rw [Prog.bind_of_ok hrelease, hrelease]
  simp

/-- The pipeline on a backend passes when the policy does. Otherwise it returns the code of the
refusal, with one call of `close_session`. -/
theorem pipeline_run (backend : MacBackend σ) (monitor : SessionMonitor σ) (cfg : SessionConfig)
    (ctx : AuthContext) (pamUser : String) (s : σ) :
    (∃ s' t,
      runOpenSessionPipelineWithBackendAndMonitor cfg ctx pamUser backend (some monitor) s =
        ⟨.ok (), s', t⟩ ∧
      t.filter SessionEvent.isCloseSession = []) ∨
    ∃ e answer s' t,
      (applySessionPolicy backend cfg.mac ctx.certMaxIntegrity (sessionContext ctx pamUser)
        s).result = .error e ∧
      runOpenSessionPipelineWithBackendAndMonitor cfg ctx pamUser backend (some monitor) s =
        ⟨.error (refusalCode e), s', t⟩ ∧
      t.filter SessionEvent.isCloseSession =
        [.closeSession ctx.sessionId "mac_denied" answer] := by
  have hmac := filter_map_closeSession (f := SessionEvent.mac) fun _ => rfl
  rcases hpolicy : applySessionPolicy backend cfg.mac ctx.certMaxIntegrity
    (sessionContext ctx pamUser) s with ⟨e | outcome, s₁, t₁⟩
  · obtain ⟨answer, s₂, t₂, hreleased, ht₂⟩ := releaseEntry_run ctx monitor s₁
    refine .inr ⟨e, answer, _, _, rfl, pipeline_of_error (some monitor) hpolicy, ?_⟩
    rw [hreleased, List.filter_append, List.filter_append, hmac, ht₂]
    rfl
  · exact .inl ⟨s₁, t₁.map .mac, pipeline_of_ok (some monitor) hpolicy, hmac t₁⟩

/-- The ways through the pipeline, with the calls of `close_session` on each. -/
theorem runOpenSessionPipeline_run (host : SessionHost σ) (cfg : SessionConfig)
    (ctx : AuthContext) (pamUser : String) (s : σ) :
    (KernelMissing host cfg s ∧ ∃ s' t,
      runOpenSessionPipeline host cfg ctx pamUser s = ⟨.error pamAuthErr, s', t⟩ ∧
      t.filter SessionEvent.isCloseSession = []) ∨
    (¬ KernelMissing host cfg s ∧ ∃ e answer s' t, PolicyRefuses host cfg ctx pamUser s e ∧
      runOpenSessionPipeline host cfg ctx pamUser s = ⟨.error (refusalCode e), s', t⟩ ∧
      t.filter SessionEvent.isCloseSession =
        [.closeSession ctx.sessionId "mac_denied" answer]) ∨
    (¬ KernelMissing host cfg s ∧ ∃ s' t,
      runOpenSessionPipeline host cfg ctx pamUser s = ⟨.ok (), s', t⟩ ∧
      t.filter SessionEvent.isCloseSession = []) := by
  rcases hbuild : buildBackend host cfg.mac.runtime s with ⟨result, s₁, t₁⟩
  have hsilent := (NeverCloses.of_neutral (buildBackend_neutral host cfg.mac.runtime)).filter_of_run hbuild
  by_cases hkernel : KernelMissing host cfg s
  · have hresult := buildBackend_of_kernelMissing hkernel
    rw [hbuild] at hresult
    cases hresult
    exact .inl ⟨hkernel, s₁, t₁, Prog.bind_of_error hbuild, hsilent⟩
  · obtain ⟨backend, hresult⟩ := buildBackend_of_not_kernelMissing hkernel
    rw [hbuild] at hresult
    cases hresult
    rw [runOpenSessionPipeline, Prog.bind_of_ok hbuild]
    rcases pipeline_run backend (wiredSessionMonitor host.link (sessionFactory cfg)
        cfg.monitor.failMode) cfg ctx pamUser s₁ with
      ⟨s₂, t₂, hrun, ht₂⟩ | ⟨e, answer, s₂, t₂, hpolicy, hrun, ht₂⟩
    · refine .inr (.inr ⟨hkernel, s₂, t₁ ++ t₂, by rw [hrun], ?_⟩)
      rw [List.filter_append, hsilent, ht₂]
      rfl
    · refine .inr (.inl ⟨hkernel, e, answer, s₂, t₁ ++ t₂, ⟨backend, s₁, t₁, hbuild, hpolicy⟩,
        by rw [hrun], ?_⟩)
      rw [List.filter_append, hsilent, ht₂]
      rfl

theorem captureSessionTarget_run (host : SessionHost σ) (cfg : SessionConfig) (ctx : AuthContext)
    (s : σ) : ∃ s' t, captureSessionTarget host cfg ctx s = ⟨.ok (), s', t⟩ := by
  simp only [captureSessionTarget, Prog.call_bind_apply, captureXdg]
  split
  · exact ⟨_, _, rfl⟩
  · exact ⟨_, _, rfl⟩

/-- Behind the policy and the capture, the hooks decide. -/
theorem hooksRefuse_iff {host : SessionHost σ} {cfg : SessionConfig} {ctx : AuthContext}
    {pamUser : String} {s s₁ s₂ : σ} {t₁ t₂ : List SessionEvent}
    (hrun : runOpenSessionPipeline host cfg ctx pamUser s = ⟨.ok (), s₁, t₁⟩)
    (hcapture : captureSessionTarget host cfg ctx s₁ = ⟨.ok (), s₂, t₂⟩) :
    HooksRefuse host cfg ctx pamUser s ↔
      ∃ e, (runHooksForStage cfg.hooks .sessionOpen host.hookExecutor SessionEvent.hook
        (HookVars.forSessionOpen pamUser ctx) s₂).result = .error e := by
  constructor
  · rintro ⟨s₁', s₂', t₁', t₂', e, hrun', hcapture', hfailed⟩
    rw [hrun] at hrun'
    cases hrun'
    rw [hcapture] at hcapture'
    cases hcapture'
    exact ⟨e, hfailed⟩
  · rintro ⟨e, hfailed⟩
    exact ⟨s₁, s₂, t₁, t₂, e, hrun, hcapture, hfailed⟩

/-- The ways through the opening, with the calls of `close_session` on each. -/
theorem openSession_run (host : SessionHost σ) (cfg : SessionConfig) (ctx : AuthContext) (s : σ) :
    (KernelMissing host cfg (userAt host ctx s).2 ∧
      (openSession host cfg ctx s).result = .error pamAuthErr ∧
      (openSession host cfg ctx s).calls.filter SessionEvent.isCloseSession = []) ∨
    (HooksRefuse host cfg ctx (userAt host ctx s).1 (userAt host ctx s).2 ∧
      (openSession host cfg ctx s).result = .error pamSessionErr ∧
      (openSession host cfg ctx s).calls.filter SessionEvent.isCloseSession = []) ∨
    (¬ KernelMissing host cfg (userAt host ctx s).2 ∧
      ¬ HooksRefuse host cfg ctx (userAt host ctx s).1 (userAt host ctx s).2 ∧
      ((openSession host cfg ctx s).result = .ok () ∨
        ∃ e answer, PolicyRefuses host cfg ctx (userAt host ctx s).1 (userAt host ctx s).2 e ∧
          (openSession host cfg ctx s).result = .error (refusalCode e) ∧
          (openSession host cfg ctx s).calls.filter SessionEvent.isCloseSession =
            [.closeSession ctx.sessionId "mac_denied" answer])) := by
  obtain ⟨t, huser⟩ := sessionUser_run host ctx s
  have ht := (NeverCloses.of_neutral (sessionUser_neutral host ctx)).filter_of_run huser
  rw [openSession, Prog.bind_of_ok huser]
  rcases runOpenSessionPipeline_run host cfg ctx (userAt host ctx s).1 (userAt host ctx s).2 with
    ⟨hkernel, s₁, t₁, hrun, ht₁⟩ | ⟨hkernel, e, answer, s₁, t₁, hrefuses, hrun, ht₁⟩ |
      ⟨hkernel, s₁, t₁, hrun, ht₁⟩
  · rw [Prog.bind_of_error hrun]
    refine .inl ⟨hkernel, rfl, ?_⟩
    rw [List.filter_append, ht, ht₁]
    rfl
  · rw [Prog.bind_of_error hrun]
    refine .inr (.inr ⟨hkernel, ?_, .inr ⟨e, answer, hrefuses, rfl, ?_⟩⟩)
    · rintro ⟨s₂, -, t₂, -, -, hpassed, -⟩
      rw [hrun] at hpassed
      cases hpassed
    · rw [List.filter_append, ht, ht₁]
      rfl
  · obtain ⟨s₂, t₂, hcapture⟩ := captureSessionTarget_run host cfg ctx s₁
    have ht₂ := (NeverCloses.of_neutral (captureSessionTarget_neutral host cfg ctx)).filter_of_run hcapture
    have ht₃ := (runSessionOpenHooks_neverCloses host cfg ctx (userAt host ctx s).1).filter_calls s₂
    rw [Prog.bind_of_ok hrun, Prog.bind_of_ok hcapture]
    rcases hhooks : (runHooksForStage cfg.hooks .sessionOpen host.hookExecutor SessionEvent.hook
      (HookVars.forSessionOpen (userAt host ctx s).1 ctx) s₂).result with e | ⟨⟩
    · refine .inr (.inl ⟨(hooksRefuse_iff hrun hcapture).mpr ⟨e, hhooks⟩, ?_, ?_⟩)
      · simp only [runSessionOpenHooks, Prog.mapError, hhooks]
        rfl
      · simp only [List.filter_append, ht, ht₁, ht₂, ht₃, List.append_nil]
    · refine .inr (.inr ⟨hkernel, ?_, .inl ?_⟩)
      · rw [hooksRefuse_iff hrun hcapture, hhooks]
        rintro ⟨e, he⟩
        cases he
      · simp only [runSessionOpenHooks, Prog.mapError, hhooks]
        rfl

/-- The entry is the opening behind the configuration and the context. -/
theorem pamSmOpenSession_run {s₁ s₂ : σ} (hcfg : host.loadValidatedConfig s = (.ok cfg, s₁))
    (hctx : host.getAuthContext s₁ = (some ctx, s₂)) :
    pamSmOpenSession host s =
      ⟨(openSession host cfg ctx s₂).result, (openSession host cfg ctx s₂).env,
        .loadValidatedConfig (.ok cfg) :: .getAuthContext (some ctx) ::
          (openSession host cfg ctx s₂).calls⟩ := by
  have hload : (Prog.request host.loadValidatedConfig SessionEvent.loadValidatedConfig
      fun _ => pamAuthinfoUnavail) s = ⟨.ok cfg, s₁, [.loadValidatedConfig (.ok cfg)]⟩ :=
    Prog.request_eq_ok_iff.mpr ⟨hcfg, rfl⟩
  rw [pamSmOpenSession, Prog.bind_of_ok hload, Prog.call_bind_apply, hctx]
  rfl

end Failures

/-- Called with a loadable configuration and a context, the entry pairs every failure with a
call of `close_session` exactly if the kernel subsystem is not found missing before the
policy is asked and no hook fails behind it. -/
theorem openSession_paired_iff {σ : Type} (host : SessionHost σ) (cfg : SessionConfig)
    (ctx : AuthContext) (s s₁ s₂ : σ) (hcfg : host.loadValidatedConfig s = (.ok cfg, s₁))
    (hctx : host.getAuthContext s₁ = (some ctx, s₂)) :
    PairedOnFailure host cfg ctx (userAt host ctx s₂).1 (userAt host ctx s₂).2
        (pamSmOpenSession host s) ↔
      ¬ KernelMissing host cfg (userAt host ctx s₂).2 ∧
        ¬ HooksRefuse host cfg ctx (userAt host ctx s₂).1 (userAt host ctx s₂).2 := by
  rw [pamSmOpenSession_run hcfg hctx]
  have hfront : ∀ t : List SessionEvent,
      (SessionEvent.loadValidatedConfig (.ok cfg) :: .getAuthContext (some ctx) :: t).filter
        SessionEvent.isCloseSession = t.filter SessionEvent.isCloseSession := fun _ => rfl
  simp only [PairedOnFailure, hfront]
  rcases openSession_run host cfg ctx s₂ with ⟨hkernel, hresult, hcloses⟩ |
    ⟨hhooks, hresult, hcloses⟩ | ⟨hkernel, hhooks, hresult | ⟨e, answer, hrefuses, hresult, hcloses⟩⟩
  · rw [hresult, hcloses]
    constructor
    · intro hpaired
      obtain ⟨⟨reason, answer, hclosed⟩, -⟩ := hpaired (by decide)
      cases hclosed
    · intro hnone
      exact absurd hkernel hnone.1
  · rw [hresult, hcloses]
    constructor
    · intro hpaired
      obtain ⟨⟨reason, answer, hclosed⟩, -⟩ := hpaired (by decide)
      cases hclosed
    · intro hnone
      exact absurd hhooks hnone.2
  · rw [hresult]
    exact ⟨fun _ => ⟨hkernel, hhooks⟩, fun _ hcode => absurd rfl hcode⟩
  · rw [hresult, hcloses]
    exact ⟨fun _ => ⟨hkernel, hhooks⟩,
      fun _ _ => ⟨⟨_, _, rfl⟩, .policyRefused e hrefuses⟩⟩

section Sample

def sampleConfig (mac : MacPolicy) (hooks : List HookConfig) : SessionConfig :=
  { Wiring.recordConfig (Wiring.recordTrust .none [] ⟨false, []⟩) with
    hooks := hooks
    mac := mac }

/-- The context of a login with a certificate that carries no integrity label. -/
def sampleContext : AuthContext where
  sessionId := "session-1"
  certCn := some "engineer"
  certSerial := some "0a"
  usbSerial := some "USB-1"
  usbVidPid := some "0951:1666"
  pamService := "login"
  hostId := "cafe0123"
  hostIdSource := .machineId
  authenticatedAt := 5
  certNotAfter := some 1000
  certMaxIntegrity := none
  certIdent := none
  homeDir := none

/-- A host built for the kernel subsystem, where hooks exit with 1 and no daemon listens. -/
def sampleHost (mac : MacPolicy) (hooks : List HookConfig) (kernel : MacRuntime) :
    SessionHost Unit where
  loadValidatedConfig s := (.ok (sampleConfig mac hooks), s)
  getAuthContext s := (some sampleContext, s)
  pamGetUserString s := (.ok "alice", s)
  pamGetEnvString _ s := (.ok none, s)
  astraMac := true
  parsec := { labelledBackend ⟨3, 5⟩ with probe := fun s => (kernel, s) }
  link := Wiring.refusedLink
  hookExecutor hook _ s := (.ok ⟨hook.stage, hook.command, 1, false, 0, 0, 0⟩, s)

def strictHook : HookConfig :=
  ⟨.sessionOpen, ["/usr/local/sbin/audit-open"], X509.Duration.fromSecs 5, .abort, .root, []⟩

def requiredKernel : MacPolicy := { MacPolicy.default with runtime := .required }

def requiredLabel : MacPolicy := { MacPolicy.default with certIntegrity := .required }

/-- A kernel subsystem that is required and missing fails the call, and so does a hook. Neither
failure is followed by a call of `close_session`. -/
theorem openSession_unpaired :
    (returnCode (pamSmOpenSession (sampleHost requiredKernel [] .unavailable) ()).result = 7 ∧
      ¬ PairedOnFailure (sampleHost requiredKernel [] .unavailable) (sampleConfig requiredKernel [])
        sampleContext "alice" () (pamSmOpenSession (sampleHost requiredKernel [] .unavailable) ())) ∧
    returnCode (pamSmOpenSession (sampleHost .default [strictHook] .active) ()).result = 14 ∧
      ¬ PairedOnFailure (sampleHost .default [strictHook] .active)
        (sampleConfig .default [strictHook]) sampleContext "alice" ()
        (pamSmOpenSession (sampleHost .default [strictHook] .active) ()) := by
  refine ⟨⟨by decide +kernel, fun hpaired => ?_⟩, by decide +kernel, fun hpaired => ?_⟩
  · obtain ⟨⟨reason, answer, hclosed⟩, -⟩ := hpaired (by decide +kernel)
    have hnone : ((pamSmOpenSession (sampleHost requiredKernel [] .unavailable) ()).calls.filter
        SessionEvent.isCloseSession).length = 0 := by decide +kernel
    rw [hclosed] at hnone
    cases hnone
  · obtain ⟨⟨reason, answer, hclosed⟩, -⟩ := hpaired (by decide +kernel)
    have hnone : ((pamSmOpenSession (sampleHost .default [strictHook] .active) ()).calls.filter
        SessionEvent.isCloseSession).length = 0 := by decide +kernel
    rw [hclosed] at hnone
    cases hnone

/-- A certificate without the label that the policy asks for: the daemon does not answer, and
the code is the one of the refusal. -/
theorem openSession_paired_refused :
    returnCode (pamSmOpenSession (sampleHost requiredLabel [] .active) ()).result = 7 ∧
      PairedOnFailure (sampleHost requiredLabel [] .active) (sampleConfig requiredLabel [])
        sampleContext "alice" () (pamSmOpenSession (sampleHost requiredLabel [] .active) ()) := by
  refine ⟨by decide +kernel,
    (openSession_paired_iff (sampleHost requiredLabel [] .active) (sampleConfig requiredLabel [])
      sampleContext () () () rfl rfl).mpr ⟨?_, ?_⟩⟩
  · rintro ⟨-, hrequired, -⟩
    cases hrequired
  · rintro ⟨s₁, s₂, t₁, t₂, e, -, -, hhooks⟩
    cases hhooks

end Sample

end PamCertauth.Session
