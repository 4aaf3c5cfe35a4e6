import PamCertauth.AuthContexts
import PamCertauth.TracedPrograms

/-!
# Hooks

Configured commands that run at the stages of a session (`hooks/`): the variables they
see, the policy that decides whether a failure counts, and the runner. The runner
executes the hooks of one stage in the order of the configuration and stops at the
first failure that counts.
-/

namespace PamCertauth.Hooks

open X509

inductive HookStage where
  | preAuth
  | postAuthSuccess
  | sessionOpen
  | sessionClose
  | usbRemoved
  deriving DecidableEq, Repr

inductive OnFailure where
  | abort
  | warn
  | ignore
  deriving DecidableEq, Repr

inductive RunAs where
  | root
  | user
  deriving DecidableEq, Repr

inductive PlaceholderVar where
  | pamUser
  | pamService
  | hostId
  | hostIdHash
  | hostIdSource
  | certCn
  | certSerial
  | usbSerial
  | usbVidPid
  | sessionId
  deriving DecidableEq, Repr

inductive TemplatePart where
  | literal (text : String)
  | var (v : PlaceholderVar)
  deriving DecidableEq, Repr

/-- Append one part to the text rendered so far. A variable without a value is an error. -/
def renderPart {ε : Type} (missing : PlaceholderVar → ε) (resolve : PlaceholderVar → Option String)
    (out : String) : TemplatePart → Except ε String
  | .literal text => .ok (out ++ text)
  | .var v =>
    match resolve v with
    | some text => .ok (out ++ text)
    | none => .error (missing v)

/-- The rendering of a template, in `Template::render` and in `build_env_vector`. -/
def renderParts {ε : Type} (missing : PlaceholderVar → ε)
    (resolve : PlaceholderVar → Option String) (parts : List TemplatePart) : Except ε String :=
  parts.foldlM (renderPart missing resolve) ""

structure HookConfig where
  stage : HookStage
  command : List String
  timeout : Duration
  onFailure : OnFailure
  runAs : RunAs
  env : List (String × List TemplatePart)
  deriving DecidableEq, Repr

structure HookOutcome where
  stage : HookStage
  command : List String
  exitCode : Int32
  killedByTimeout : Bool
  duration : Duration
  stdoutLines : UInt64
  stderrLines : UInt64
  deriving DecidableEq, Repr

/-- Errors of the executor. Those of the operating system are carried as texts. -/
inductive HookError where
  | commandUnusable (path : String)
  | userResolution (user source : String)
  | unresolvedVar (var : PlaceholderVar)
  | pipe (errno : String)
  | fork (errno : String)
  | wait (errno : String)
  | timeout (timeoutMs : ℕ)
  | nonZeroExit (exitCode : Int32)
  | signal (signal : ℤ)
  | childSetup (message : String)
  | io (detail : String)
  | envValueRejected (var reason : String)
  deriving DecidableEq, Repr

/-- The values for the placeholders of a hook. -/
structure HookVars where
  stage : HookStage := .preAuth
  pamUser : Option String := none
  pamService : Option String := none
  hostId : Option String := none
  hostIdHash : Option String := none
  hostIdSource : Option String := none
  certCn : Option String := none
  certSerial : Option String := none
  usbSerial : Option String := none
  usbVidPid : Option String := none
  sessionId : Option String := none
  deriving DecidableEq, Repr

namespace HookVars

def forPreAuth (pamUser pamService hostId hostIdHash hostIdSource : String) : HookVars where
  stage := .preAuth
  pamUser := some pamUser
  pamService := some pamService
  hostId := some hostId
  hostIdHash := some hostIdHash
  hostIdSource := some hostIdSource

-- Both host variables are filled from the one field of the context.
def forSessionLike (stage : HookStage) (pamUser : String) (ctx : AuthContext) : HookVars where
  stage := stage
  pamUser := some pamUser
  pamService := some ctx.pamService
  hostId := some ctx.hostId
  hostIdHash := some ctx.hostId
  hostIdSource := some ctx.hostIdSource.display
  certCn := ctx.certCn
  certSerial := ctx.certSerial
  usbSerial := ctx.usbSerial
  usbVidPid := ctx.usbVidPid
  sessionId := some ctx.sessionId

def forPostAuthSuccess (pamUser : String) (ctx : AuthContext) : HookVars :=
  forSessionLike .postAuthSuccess pamUser ctx

def forSessionOpen (pamUser : String) (ctx : AuthContext) : HookVars :=
  forSessionLike .sessionOpen pamUser ctx

def forSessionClose (pamUser : String) (ctx : AuthContext) : HookVars :=
  forSessionLike .sessionClose pamUser ctx

end HookVars

/-- Whether the outcome of one hook counts as a failure. -/
def applyOnFailure : Except HookError HookOutcome → OnFailure → Except HookError Unit
  | .ok o, policy =>
    if o.exitCode = 0 ∧ ¬ o.killedByTimeout then .ok ()
    else if o.killedByTimeout then
      if policy = .ignore then .ok ()
      else .error (.timeout (min (o.duration / 10 ^ 6) (2 ^ 64 - 1)))
    else if policy = .abort then .error (.nonZeroExit o.exitCode)
    else .ok ()
  | .error e, .abort => .error e
  | .error _, _ => .ok ()

/-- Runs one hook against the environment. -/
abbrev HookExecutor (σ : Type) :=
  HookConfig → HookVars → σ → Except HookError HookOutcome × σ

section Runner

variable {σ ω : Type}

/-- Execute the hooks of a list one after another. `entry` logs an execution. -/
def runHooks (executor : HookExecutor σ)
    (entry : HookConfig → HookVars → Except HookError HookOutcome → ω) (vars : HookVars) :
    List HookConfig → Prog σ ω HookError Unit
  | [] => pure ()
  | hook :: hooks => do
    let outcome ← Prog.call (executor hook vars) (entry hook vars)
    Prog.ofExcept (applyOnFailure outcome hook.onFailure)
    runHooks executor entry vars hooks

def runHooksForStage (hooks : List HookConfig) (stage : HookStage) (executor : HookExecutor σ)
    (entry : HookConfig → HookVars → Except HookError HookOutcome → ω) (vars : HookVars) :
    Prog σ ω HookError Unit :=
  runHooks executor entry vars (hooks.filter (·.stage = stage))

variable {executor : HookExecutor σ}
  {entry : HookConfig → HookVars → Except HookError HookOutcome → ω} {vars : HookVars}

theorem runHooks_logsOnly {P : ω → Prop} {hooks : List HookConfig}
    (h : ∀ hook ∈ hooks, ∀ outcome, P (entry hook vars outcome)) :
    Prog.LogsOnly P (runHooks executor entry vars hooks) := by
  induction hooks with
  | nil => exact Prog.LogsOnly.pure ()
  | cons hook hooks ih =>
    have hhook := h hook (by simp)
    have hhooks := ih fun hook' hmem => h hook' (by simp [hmem])
    exact (Prog.LogsOnly.call hhook).bind fun _ => (Prog.LogsOnly.ofExcept _).bind fun _ => hhooks

/-- The runner logs executions of hooks of its own stage and nothing else. -/
theorem runHooksForStage_logsOnly {P : ω → Prop} {hooks : List HookConfig} {stage : HookStage}
    (h : ∀ hook, hook.stage = stage → ∀ outcome, P (entry hook vars outcome)) :
    Prog.LogsOnly P (runHooksForStage hooks stage executor entry vars) := by
  apply runHooks_logsOnly
  intro hook hmem
  have hstage : hook.stage = stage := by simpa using (List.mem_filter.mp hmem).2
  exact h hook hstage

/-- What no hook changes, the runner does not change. -/
theorem runHooksForStage_preserves {I : σ → Prop} {hooks : List HookConfig} {stage : HookStage}
    (h : ∀ hook s, I s → I (executor hook vars s).2) :
    Prog.Preserves I (runHooksForStage hooks stage executor entry vars) := by
  rw [runHooksForStage]
  induction hooks.filter (·.stage = stage) with
  | nil => exact Prog.Preserves.pure ()
  | cons hook hooks ih =>
    exact (Prog.Preserves.call (h hook)).bind fun _ => (Prog.Preserves.ofExcept _).bind fun _ => ih

end Runner

end PamCertauth.Hooks
