import PamCertauth.Configuration
import PamCertauth.LexicalPaths

/-!
# The identity of the host

The `[host_identity]` section and its validation (`config/validated.rs`), the sources a
host can be identified by and the chain that asks them in order (`host_identity/`), and
the identity that an authentication uses (`resolve_host_identity`).

What the sources find is a parameter, `fetch`; `Host.fetch` is the reading of files and
the running of the command behind it. What the chain returns is said in terms of the first
configured source that answers (`resolve_of_firstAnswer`, `resolve_of_noAnswer`).
-/

namespace PamCertauth.HostIdentity

open LexicalPaths (isAbsolute)
open X509 X509.CryptoLibrary

inductive HostIdFallback where
  | deny
  | warn
  | allow
  deriving DecidableEq, Repr

/-- The section as it is written in the file. -/
structure RawHostIdentity where
  sources : List String
  fallback : HostIdFallback := .deny
  overrideValue : Option String := none
  customCommand : Option String := none
  customCommandTimeoutSeconds : ℕ := 5
  deriving DecidableEq, Repr

def fromStr (s : String) : Except Config.Error HostIdSourceKind :=
  match s with
  | "machine_id" => .ok .machineId
  | "dmi_board_serial" | "board_serial" => .ok .dmiBoardSerial
  | "dmi_system_uuid" | "system_uuid" => .ok .dmiSystemUuid
  | "dmi_system_serial" | "system_serial" => .ok .dmiSystemSerial
  | "hostname" => .ok .hostname
  | "custom_command" => .ok .customCommand
  | "override" => .ok .override
  | _ => .error (.configInvalid ("invalid host identity source: " ++ s))

/-- A section that passed the validation. -/
structure HostIdentitySection where
  sources : List HostIdSourceKind
  fallback : HostIdFallback
  overrideValue : Option String
  customCommand : Option String
  customCommandTimeout : Duration
  sources_ne_nil : sources ≠ []
  sources_nodup : sources.Nodup
  command_absolute : customCommand.all (isAbsolute ·.toList) = true
  timeout_bounded : ∃ secs, 1 ≤ secs ∧ secs ≤ 30 ∧ customCommandTimeout = Duration.fromSecs secs

-- `seen` and `sources` of the code hold the same kinds; `sources` stands for both.
def collectSources (sources : List HostIdSourceKind) :
    List String → Except Config.Error (List HostIdSourceKind)
  | [] => .ok sources
  | text :: rest =>
    match fromStr text with
    | .error e => .error e
    | .ok kind =>
      if kind ∈ sources then .error (.configInvalid "duplicate host identity source")
      else collectSources (sources ++ [kind]) rest

theorem collectSources_nodup {sources kinds : List HostIdSourceKind} {texts : List String}
    (hsources : sources.Nodup) (h : collectSources sources texts = .ok kinds) : kinds.Nodup := by
  induction texts generalizing sources with
  | nil =>
    obtain rfl : sources = kinds := by simpa [collectSources] using h
    exact hsources
  | cons text rest ih =>
    rw [collectSources] at h
    split at h
    · cases h
    · split at h
      · cases h
      · next kind _ hnew =>
        exact ih (hsources.concat hnew) (by simpa using h)

def validateHostIdentity (raw : RawHostIdentity) : Except Config.Error HostIdentitySection :=
  match hsources : collectSources [] raw.sources with
  | .error e => .error e
  | .ok sources =>
    if hempty : sources = [] then
      .error (.configInvalid "host_identity.sources must be non-empty")
    else if hcmd : raw.customCommand.all (isAbsolute ·.toList) = true then
      .ok
        { sources := sources
          fallback := raw.fallback
          overrideValue := raw.overrideValue
          customCommand := raw.customCommand
          customCommandTimeout := Duration.fromSecs (max 1 (min raw.customCommandTimeoutSeconds 30))
          sources_ne_nil := hempty
          sources_nodup := collectSources_nodup List.nodup_nil hsources
          command_absolute := hcmd
          timeout_bounded := ⟨_, by omega, by omega, rfl⟩ }
    else
      .error (.configInvalid ("host_identity.custom_command must be an absolute path (got "
        ++ raw.customCommand.getD "" ++ ")"))

inductive HostIdentityError where
  | read (path source : String)
  | empty (sourceKind : HostIdSourceKind)
  | allSourcesFailed (attempts : List (HostIdSourceKind × String))
  | commandFailed (stderr : String) (code : Option Int32)
  | commandTimeout
  | commandNotConfigured
  | overrideForbidden
  deriving DecidableEq, Repr

def HostIdentityError.toText : HostIdentityError → String
  | read path source => "failed to read " ++ debugText path.toList ++ ": " ++ source
  | empty kind => "host identity source " ++ kind.debug ++ " yielded empty value"
  | allSourcesFailed _ => "all host identity sources failed"
  | commandFailed stderr code => "host identity command failed with code "
      ++ code.elim "None" (fun c => "Some(" ++ toString c.toInt ++ ")") ++ ": " ++ stderr
  | commandTimeout => "host identity command timed out"
  | commandNotConfigured => "custom command is not configured"
  | overrideForbidden => "host identity override is forbidden"

/-- The Unicode tables of the standard library. -/
structure CharTables where
  isWhitespace : Char → Bool
  toLowercase : Char → List Char

def trim (tables : CharTables) (s : String) : String :=
  String.ofList (trimText tables.isWhitespace s.toList)

/-- How a run of the custom command ended. The outputs are decoded lossily. -/
inductive CommandRun where
  | spawnFailed (source : String)
  | waitFailed (source : String)
  | timedOut
  | exited (code : Option Int32) (stdout stderr : String)
  deriving DecidableEq, Repr

/-- What the sources look at. -/
structure Host where
  readToString : String → Except String String
  run : String → Duration → CommandRun

section

variable (tables : CharTables)

namespace Host

variable (host : Host)

def readTrimmed (path : String) : Except HostIdentityError String :=
  match host.readToString path with
  | .error source => .error (.read path source)
  | .ok raw => .ok (trim tables raw)

-- Unlike the other files, the machine id is not checked to be non-empty.
def fetchMachineId : Except HostIdentityError String :=
  host.readTrimmed tables "/etc/machine-id"

def fetchFile (kind : HostIdSourceKind) (path : String) : Except HostIdentityError String :=
  match host.readTrimmed tables path with
  | .error e => .error e
  | .ok value => if value = "" then .error (.empty kind) else .ok value

def fetchDmi (kind : HostIdSourceKind) (file : String) : Except HostIdentityError String :=
  host.fetchFile tables kind ("/sys/class/dmi/id/" ++ file)

def fetchHostname : Except HostIdentityError String :=
  host.fetchFile tables .hostname "/etc/hostname"

def fetchCommand (cmd : String) (timeout : Duration) : Except HostIdentityError String :=
  match host.run cmd timeout with
  | .spawnFailed source => .error (.read cmd source)
  | .waitFailed source => .error (.read cmd source)
  | .timedOut => .error .commandTimeout
  | .exited code stdout stderr =>
    if code = some 0 then .ok (trim tables stdout)
    else .error (.commandFailed (trim tables stderr) code)

-- The chain asks neither for a command that is not configured nor for the override.
def fetch (cfg : HostIdentitySection) : HostIdSourceKind → Except HostIdentityError String
  | .machineId => host.fetchMachineId tables
  | .dmiBoardSerial => host.fetchDmi tables .dmiBoardSerial "board_serial"
  | .dmiSystemUuid => host.fetchDmi tables .dmiSystemUuid "product_uuid"
  | .dmiSystemSerial => host.fetchDmi tables .dmiSystemSerial "product_serial"
  | .hostname => host.fetchHostname tables
  | .customCommand =>
    match cfg.customCommand with
    | some cmd => host.fetchCommand tables cmd cfg.customCommandTimeout
    | none => .error .commandNotConfigured
  | .override => .error .overrideForbidden

end Host

def normalizeHostId (input : String) : String :=
  String.ofList
    (((trim tables input).toList.filter fun c => c ≠ ':' ∧ c ≠ ' ').flatMap tables.toLowercase)

structure ResolvedHostId where
  sourceKind : HostIdSourceKind
  raw : String
  normalized : String
  hashHex : String
  deriving DecidableEq, Repr

def ResolvedHostId.hashPrefix (id : ResolvedHostId) : String :=
  String.ofList (id.hashHex.toList.take 8)

structure ProbeResult where
  source : HostIdSourceKind
  outcome : Except String ResolvedHostId
  deriving DecidableEq

/-- A source of the chain, with what it answers when it is asked. -/
structure HostIdSource where
  kind : HostIdSourceKind
  fetch : Except HostIdentityError String

structure HostIdentityResolver where
  sources : List HostIdSource
  fallback : HostIdFallback

variable (X509 : Type) [CryptoLibrary X509]

def resolved (sourceKind : HostIdSourceKind) (raw normalized : String) : ResolvedHostId :=
  ⟨sourceKind, raw, normalized, sha256Hex X509 normalized⟩

def probe (source : HostIdSource) : ProbeResult where
  source := source.kind
  outcome :=
    match source.fetch with
    | .error e => .error e.toText
    | .ok raw =>
      if normalizeHostId tables raw = "" then .error "empty after normalization"
      else .ok (resolved X509 source.kind raw (normalizeHostId tables raw))

/-- What the chain returns when no source answers. -/
def exhausted (fallback : HostIdFallback) (attempts : List (HostIdSourceKind × String)) :
    Except HostIdentityError ResolvedHostId :=
  match fallback with
  | .deny => .error (.allSourcesFailed attempts)
  | .warn | .allow => .ok (resolved X509 .override "unknown" "unknown")

def resolveFrom (fallback : HostIdFallback) (attempts : List (HostIdSourceKind × String)) :
    List HostIdSource → Except HostIdentityError ResolvedHostId
  | [] => exhausted X509 fallback attempts
  | source :: rest =>
    match source.fetch with
    | .ok raw =>
      if normalizeHostId tables raw = "" then
        resolveFrom fallback (attempts ++ [(source.kind, "empty after normalization")]) rest
      else .ok (resolved X509 source.kind raw (normalizeHostId tables raw))
    | .error e => resolveFrom fallback (attempts ++ [(source.kind, e.toText)]) rest

namespace HostIdentityResolver

def probeAll (resolver : HostIdentityResolver) : List ProbeResult :=
  resolver.sources.map (probe tables X509)

def resolve (resolver : HostIdentityResolver) : Except HostIdentityError ResolvedHostId :=
  resolveFrom tables X509 resolver.fallback [] resolver.sources

end HostIdentityResolver

/-- What the sources answer. It is the same whenever they are asked. -/
abbrev Answers := HostIdSourceKind → Except HostIdentityError String

/-- The source that the chain asks for a configured kind. -/
def sourceOf (fetch : Answers) (cfg : HostIdentitySection) :
    HostIdSourceKind → Option HostIdSource
  | .customCommand => cfg.customCommand.map fun _ => ⟨.customCommand, fetch .customCommand⟩
  | .override => none
  | kind => some ⟨kind, fetch kind⟩

def fromValidated (fetch : Answers) (cfg : HostIdentitySection) : HostIdentityResolver where
  sources := cfg.sources.filterMap (sourceOf fetch cfg)
  fallback := cfg.fallback

def hashTuple (kind : HostIdSourceKind) (raw : String) : HostIdSourceKind × String × String :=
  (kind, raw, sha256Hex X509 (normalizeHostId tables raw))

/-- The identity that an authentication uses: its source, its raw value and its hash. -/
def resolveHostIdentity (fetch : Answers) (cfg : HostIdentitySection) :
    Except HostIdentityError (HostIdSourceKind × String × String) :=
  let walk := do
    let id ← (fromValidated fetch cfg).resolve tables X509
    .ok (id.sourceKind, id.raw, id.hashHex)
  if .override ∈ cfg.sources then
    match cfg.overrideValue with
    | some raw => .ok (hashTuple tables X509 .override raw)
    | none => walk
  else walk

theorem sourceOf_eq_some {fetch : Answers} {cfg : HostIdentitySection} {kind : HostIdSourceKind}
    {source : HostIdSource} (h : sourceOf fetch cfg kind = some source) :
    source = ⟨kind, fetch kind⟩ := by
  cases kind with
  | customCommand =>
    obtain ⟨_, _, rfl⟩ := Option.map_eq_some_iff.mp h
    rfl
  | override => cases h
  | _ => exact (Option.some.inj h).symm

section

variable (fetch : Answers) (cfg : HostIdentitySection)

/-- The chain can ask this kind, and the answer has a normal form that is not empty. -/
structure Answered (kind : HostIdSourceKind) (raw : String) : Prop where
  asked : sourceOf fetch cfg kind = some ⟨kind, .ok raw⟩
  nonempty : normalizeHostId tables raw ≠ ""

/-- The first of the kinds that answers, with its answer. -/
def FirstAnswer (kinds : List HostIdSourceKind) (kind : HostIdSourceKind) (raw : String) : Prop :=
  ∃ before after, kinds = before ++ kind :: after ∧ Answered tables fetch cfg kind raw ∧
    ∀ earlier ∈ before, ∀ other, ¬ Answered tables fetch cfg earlier other

/-- None of the kinds answers. -/
def NoAnswer (kinds : List HostIdSourceKind) : Prop :=
  ∀ kind ∈ kinds, ∀ raw, ¬ Answered tables fetch cfg kind raw

end

section

variable {tables X509} {fetch : Answers} {cfg : HostIdentitySection}
  {kind : HostIdSourceKind} {kinds : List HostIdSourceKind} {raw : String}

theorem Answered.probe_eq (h : Answered tables fetch cfg kind raw) :
    probe tables X509 ⟨kind, fetch kind⟩ =
      ⟨kind, .ok (resolved X509 kind raw (normalizeHostId tables raw))⟩ := by
  have hfetch : fetch kind = .ok raw := by
    simpa using (sourceOf_eq_some h.asked).symm
  simp [probe, hfetch, h.nonempty]

theorem FirstAnswer.mem (h : FirstAnswer tables fetch cfg kinds kind raw) : kind ∈ kinds := by
  obtain ⟨before, after, rfl, -, -⟩ := h
  simp

theorem FirstAnswer.answered (h : FirstAnswer tables fetch cfg kinds kind raw) :
    Answered tables fetch cfg kind raw := by
  obtain ⟨_, _, _, hanswer, _⟩ := h
  exact hanswer

theorem FirstAnswer.not_noAnswer (h : FirstAnswer tables fetch cfg kinds kind raw) :
    ¬ NoAnswer tables fetch cfg kinds :=
  fun hnone => hnone kind h.mem raw h.answered

variable {fallback : HostIdFallback} {attempts : List (HostIdSourceKind × String)}

theorem resolveFrom_stop (h : Answered tables fetch cfg kind raw) :
    resolveFrom tables X509 fallback attempts ((kind :: kinds).filterMap (sourceOf fetch cfg)) =
      .ok (resolved X509 kind raw (normalizeHostId tables raw)) := by
  rw [List.filterMap_cons_some h.asked]
  simp [resolveFrom, h.nonempty]

variable (X509 attempts) in
/-- A kind that does not answer adds at most an attempt to the report. -/
theorem resolveFrom_skip (h : ∀ raw, ¬ Answered tables fetch cfg kind raw) :
    ∃ attempts', resolveFrom tables X509 fallback attempts
        ((kind :: kinds).filterMap (sourceOf fetch cfg)) =
      resolveFrom tables X509 fallback attempts' (kinds.filterMap (sourceOf fetch cfg)) := by
  cases hsource : sourceOf fetch cfg kind with
  | none => exact ⟨attempts, by rw [List.filterMap_cons_none hsource]⟩
  | some source =>
    rw [List.filterMap_cons_some hsource]
    obtain rfl := sourceOf_eq_some hsource
    cases hfetch : fetch kind with
    | error e => exact ⟨attempts ++ [(kind, e.toText)], by rw [resolveFrom]⟩
    | ok raw =>
      have hempty : normalizeHostId tables raw = "" := by
        by_contra hne
        exact h raw ⟨by rw [hsource, hfetch], hne⟩
      refine ⟨attempts ++ [(kind, "empty after normalization")], ?_⟩
      rw [resolveFrom]
      simp only [hempty, if_true]

theorem resolveFrom_of_firstAnswer (h : FirstAnswer tables fetch cfg kinds kind raw) :
    resolveFrom tables X509 fallback attempts (kinds.filterMap (sourceOf fetch cfg)) =
      .ok (resolved X509 kind raw (normalizeHostId tables raw)) := by
  obtain ⟨before, after, rfl, hanswer, hbefore⟩ := h
  induction before generalizing attempts with
  | nil => exact resolveFrom_stop hanswer
  | cons first rest ih =>
    obtain ⟨hfirst, hrest⟩ := List.forall_mem_cons.mp hbefore
    obtain ⟨attempts', hskip⟩ := resolveFrom_skip X509 attempts hfirst
    rw [List.cons_append, hskip]
    exact ih hrest

theorem resolveFrom_of_noAnswer (h : NoAnswer tables fetch cfg kinds) :
    ∃ attempts', resolveFrom tables X509 fallback attempts
      (kinds.filterMap (sourceOf fetch cfg)) = exhausted X509 fallback attempts' := by
  induction kinds generalizing attempts with
  | nil => exact ⟨attempts, rfl⟩
  | cons first rest ih =>
    obtain ⟨hfirst, hrest⟩ := List.forall_mem_cons.mp h
    obtain ⟨attempts', hskip⟩ := resolveFrom_skip X509 attempts hfirst
    rw [hskip]
    exact ih hrest

theorem firstAnswer_or_noAnswer (tables : CharTables) (fetch : Answers)
    (cfg : HostIdentitySection) (kinds : List HostIdSourceKind) :
    (∃ kind raw, FirstAnswer tables fetch cfg kinds kind raw) ∨ NoAnswer tables fetch cfg kinds := by
  induction kinds with
  | nil => exact .inr (by simp [NoAnswer])
  | cons first rest ih =>
    by_cases hfirst : ∃ raw, Answered tables fetch cfg first raw
    · obtain ⟨raw, hraw⟩ := hfirst
      exact .inl ⟨first, raw, [], rest, rfl, hraw, by simp⟩
    · have hsilent : ∀ raw, ¬ Answered tables fetch cfg first raw := not_exists.mp hfirst
      rcases ih with ⟨kind, raw, before, after, rfl, hanswer, hbefore⟩ | hnone
      · exact .inl ⟨kind, raw, first :: before, after, rfl, hanswer,
          List.forall_mem_cons.mpr ⟨hsilent, hbefore⟩⟩
      · exact .inr (List.forall_mem_cons.mpr ⟨hsilent, hnone⟩)

variable (X509) in
/-- The chain returns the first answer of a configured source. -/
theorem resolve_of_firstAnswer (h : FirstAnswer tables fetch cfg cfg.sources kind raw) :
    (fromValidated fetch cfg).resolve tables X509 =
      .ok (resolved X509 kind raw (normalizeHostId tables raw)) :=
  resolveFrom_of_firstAnswer h

variable (X509) in
/-- Without an answer the chain falls back. -/
theorem resolve_of_noAnswer (h : NoAnswer tables fetch cfg cfg.sources) :
    ∃ attempts, (fromValidated fetch cfg).resolve tables X509 =
      exhausted X509 cfg.fallback attempts :=
  resolveFrom_of_noAnswer h

/-- The override in force: the section lists the override and gives a value for it. -/
def pinned (cfg : HostIdentitySection) : Option String :=
  if .override ∈ cfg.sources then cfg.overrideValue else none

theorem resolveHostIdentity_of_pinned (h : pinned cfg = some raw) :
    resolveHostIdentity tables X509 fetch cfg =
      .ok (.override, raw, sha256Hex X509 (normalizeHostId tables raw)) := by
  obtain ⟨hlisted, hvalue⟩ : .override ∈ cfg.sources ∧ cfg.overrideValue = some raw := by
    simpa [pinned] using h
  simp [resolveHostIdentity, hlisted, hvalue, hashTuple]

theorem resolveHostIdentity_of_unpinned (h : pinned cfg = none) :
    resolveHostIdentity tables X509 fetch cfg = (do
      let id ← (fromValidated fetch cfg).resolve tables X509
      .ok (id.sourceKind, id.raw, id.hashHex)) := by
  by_cases hlisted : HostIdSourceKind.override ∈ cfg.sources
  · have hvalue : cfg.overrideValue = none := by simpa [pinned, hlisted] using h
    simp [resolveHostIdentity, hlisted, hvalue]
  · simp [resolveHostIdentity, hlisted]

end

end

end PamCertauth.HostIdentity
