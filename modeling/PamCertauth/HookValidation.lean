import PamCertauth.Hooks
import PamCertauth.LexicalPaths

/-!
# Validation of hooks

The `[[hooks]]` entries of the configuration file and the checks that turn them into the
hooks that run (`hooks/validator.rs`, `hooks/placeholder.rs`): the command is an absolute
path, the timeout lies between 1 and 120 seconds, and the templates of the environment
parse and use only placeholders with a value at the stage of the hook.
-/

namespace PamCertauth.Hooks

open X509

/-- A hook as it is written in the file. The entries of `env` are in the order of their
keys. -/
structure RawHook where
  stage : HookStage
  command : List String
  timeoutSeconds : ℕ := 10
  onFailure : Option String := none
  runAs : Option String := none
  env : List (String × String) := []
  env_sorted : env.Pairwise (·.1 < ·.1) := by decide
  deriving DecidableEq, Repr

inductive HookValidationError where
  | placeholderNotAllowedAtStage (stage : HookStage) (var : PlaceholderVar)
  | emptyCommand
  | invalidCommandPath (path : String)
  | invalidTimeout
  | template (reason : String)
  deriving DecidableEq, Repr

/-- The text of an invalid configuration. -/
def configInvalidText (reason : String) : String := "invalid config: " ++ reason

def PlaceholderVar.fromStr (s : String) : Except String PlaceholderVar :=
  if s = "pam_user" then .ok .pamUser
  else if s = "pam_service" then .ok .pamService
  else if s = "host_id" then .ok .hostId
  else if s = "host_id_hash" then .ok .hostIdHash
  else if s = "host_id_source" then .ok .hostIdSource
  else if s = "cert_cn" then .ok .certCn
  else if s = "cert_serial" then .ok .certSerial
  else if s = "usb_serial" then .ok .usbSerial
  else if s = "usb_vid_pid" then .ok .usbVidPid
  else if s = "session_id" then .ok .sessionId
  else .error (configInvalidText ("unknown placeholder: " ++ s))

/-- A literal that is not empty, as a part. -/
def literalPart (literal : String) : List TemplatePart :=
  if literal = "" then [] else [.literal literal]

/-- Read the rest of a template. `name` is the placeholder that is open, `literal` the
text behind the last part. -/
def parseTemplate (name : Option String) (literal : String) (parts : List TemplatePart) :
    List Char → Except String (List TemplatePart)
  | [] =>
    match name with
    | some _ => .error (configInvalidText "unclosed placeholder")
    | none => .ok (if parts = [] then [.literal literal] else parts ++ literalPart literal)
  | ch :: rest =>
    match name with
    | some name =>
      if ch = '\x7d' then
        if name = "" then .error (configInvalidText "empty placeholder")
        else do
          let var ← PlaceholderVar.fromStr name
          parseTemplate none "" (parts ++ [.var var]) rest
      else parseTemplate (some (name.push ch)) literal parts rest
    | none =>
      match ch, rest with
      | '$', '$' :: rest => parseTemplate none (literal.push '$') parts rest
      | '$', '\x7b' :: rest => parseTemplate (some "") "" (parts ++ literalPart literal) rest
      | ch, rest => parseTemplate none (literal.push ch) parts rest

def Template.parse (input : String) : Except String (List TemplatePart) :=
  parseTemplate none "" [] input.toList

def isVarAllowed (stage : HookStage) (var : PlaceholderVar) : Bool :=
  match stage with
  | .preAuth =>
    match var with
    | .pamUser | .pamService | .hostId | .hostIdHash | .hostIdSource => true
    | _ => false
  | .postAuthSuccess | .sessionOpen | .sessionClose | .usbRemoved => true

def checkPart (stage : HookStage) : TemplatePart → Except HookValidationError Unit
  | .literal _ => .ok ()
  | .var var =>
    if isVarAllowed stage var then .ok () else .error (.placeholderNotAllowedAtStage stage var)

def validateEnvEntry (stage : HookStage) (entry : String × String) :
    Except HookValidationError (String × List TemplatePart) := do
  let template ← (Template.parse entry.2).mapError .template
  template.forM (checkPart stage)
  .ok (entry.1, template)

def parseFailure (value : Option String) (stage : HookStage) : OnFailure :=
  if (value = some "warn" ∨ value = none) ∧ stage ≠ .preAuth then .warn
  else if value = some "ignore" then .ignore
  else .abort

-- Every text but `user` stands for root.
def parseRunAs (value : Option String) : RunAs :=
  if value = some "user" then .user else .root

def validateHook (raw : RawHook) : Except HookValidationError HookConfig :=
  match raw.command with
  | [] => .error .emptyCommand
  | first :: _ =>
    if ¬ LexicalPaths.isAbsolute first.toList then .error (.invalidCommandPath first)
    else if raw.timeoutSeconds = 0 ∨ raw.timeoutSeconds > 120 then .error .invalidTimeout
    else do
      let env ← raw.env.mapM (validateEnvEntry raw.stage)
      .ok
        { stage := raw.stage
          command := raw.command
          timeout := Duration.fromSecs raw.timeoutSeconds
          onFailure := parseFailure raw.onFailure raw.stage
          runAs := parseRunAs raw.runAs
          env := env }

/-- What the executor may rely on in a validated hook. -/
structure ValidHook (raw : RawHook) (hook : HookConfig) : Prop where
  command_ne_nil : hook.command ≠ []
  command_eq : hook.command = raw.command
  runAs_eq : hook.runAs = parseRunAs raw.runAs
  timeout_pos : 0 < hook.timeout
  vars_allowed : ∀ entry ∈ hook.env, ∀ var, .var var ∈ entry.2 → isVarAllowed hook.stage var = true

theorem checkPart_eq_ok_iff {stage : HookStage} {part : TemplatePart} :
    checkPart stage part = .ok () ↔ ∀ var, part = .var var → isVarAllowed stage var = true := by
  cases part with
  | literal text => simp [checkPart]
  | var v => simp [checkPart]

theorem validateEnvEntry_allowed {stage : HookStage} {entry : String × String}
    {checked : String × List TemplatePart} (h : validateEnvEntry stage entry = .ok checked) :
    ∀ var, .var var ∈ checked.2 → isVarAllowed stage var = true := by
  rw [validateEnvEntry, bind_eq_ok_iff] at h
  obtain ⟨template, -, hchecks⟩ := h
  rw [seq_eq_ok_iff, forM_eq_ok_iff, Except.ok.injEq] at hchecks
  obtain ⟨hparts, rfl⟩ := hchecks
  exact fun var hvar => checkPart_eq_ok_iff.mp (hparts _ hvar) var rfl

theorem validateHook_eq_ok {raw : RawHook} {hook : HookConfig}
    (h : validateHook raw = .ok hook) : ValidHook raw hook := by
  rw [validateHook] at h
  split at h
  · cases h
  · next first args hcommand =>
    rw [guard_bind_eq_ok_iff, guard_bind_eq_ok_iff, bind_eq_ok_iff] at h
    obtain ⟨-, htimeout, env, henv, hhook⟩ := h
    cases hhook
    refine ⟨by simp [hcommand], rfl, rfl, ?_, fun entry hentry => ?_⟩
    · have hpos : 0 < raw.timeoutSeconds := by omega
      exact Nat.mul_pos hpos (by decide)
    · obtain ⟨rawEntry, -, hchecked⟩ := exists_mem_of_mapM_eq_ok henv hentry
      exact validateEnvEntry_allowed hchecked

end PamCertauth.Hooks
