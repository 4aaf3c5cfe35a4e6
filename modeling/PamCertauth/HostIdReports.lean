import PamCertauth.HostIdentity
import PamCertauth.RecordCertificates

/-!
# Reports of the host identity

The command `pam-certauth dump-host-id` (`dump_host_id.rs`), whose report tells the
issuer of certificates which identities a host has and which of them is in use, and its
agreement with the identity that an authentication uses.
-/

namespace PamCertauth.DumpHostId

open X509 X509.CryptoLibrary HostIdentity

/-- The kinds that are probed whatever the section lists. -/
def canonicalKinds : List HostIdSourceKind :=
  [.machineId, .dmiBoardSerial, .dmiSystemUuid, .dmiSystemSerial, .hostname]

def fanoutCfg (validated : HostIdentitySection) : HostIdentitySection :=
  { validated with
    sources := canonicalKinds ++
      if validated.customCommand.isSome then [.customCommand] else []
    sources_ne_nil := by simp [canonicalKinds]
    sources_nodup := by split <;> decide }

def sanitizeField (s : String) : String :=
  s.map fun c => if c = '\t' ∨ c = '\n' ∨ c = '\r' then ' ' else c

/-- The columns of one line of the report. -/
structure ReportRow where
  source : String
  status : String
  hashHex : String
  hashPrefix : String
  raw : String
  normalized : String
  activeUnderCurrentConfig : String
  reason : String
  deriving DecidableEq, Repr

namespace ReportRow

def columns : List String :=
  ["source", "status", "hash_hex", "hash_prefix", "raw", "normalized",
    "active_under_current_config", "reason"]

def fields (row : ReportRow) : List String :=
  [row.source, row.status, row.hashHex, row.hashPrefix, row.raw, row.normalized,
    row.activeUnderCurrentConfig, row.reason]

end ReportRow

def tsvLine (fields : List String) : String := "\t".intercalate fields ++ "\n"

def reportRow (activeKind : Option HostIdSourceKind) (p : ProbeResult) : ReportRow :=
  let active := if activeKind = some p.source then "yes" else "no"
  match p.outcome with
  | .ok r =>
    ⟨p.source.display, "ok", r.hashHex, r.hashPrefix, sanitizeField r.raw,
      sanitizeField r.normalized, active, "-"⟩
  | .error reason =>
    ⟨p.source.display, "err", "-", "-", "-", "-", active, sanitizeField reason⟩

def renderTsv (probes : List ProbeResult) (hostname ts : String)
    (activeKind : Option HostIdSourceKind) : String :=
  "# pam-certauth host identity probe — " ++ hostname ++ " — " ++ ts ++ "\n"
    ++ "# probes EVERY known source kind (not just [host_identity].sources).\n"
    ++ "# active_under_current_config=yes marks the source the daemon currently picks.\n"
    ++ tsvLine ReportRow.columns
    ++ String.join (probes.map fun p => tsvLine (reportRow activeKind p).fields)

inductive DumpDestination where
  | stdout
  | file (path : String)
  | usb (partitionDevnode writtenPath : String)
  deriving DecidableEq, Repr

inductive DumpError where
  | config (message : String)
  | noActiveHostId
  | output (message : String)
  | usb (message : String)
  deriving DecidableEq, Repr

structure DumpHostIdOptions where
  output : Option String
  usb : Bool
  deriving DecidableEq, Repr

/-- The surroundings of a run: the header's data and the places a report can go to. -/
structure DumpEnv where
  hostname : String
  iso : String
  stamp : String
  writeAtomic : (path content : String) → Except String Unit
  pickUsbPartition : Except DumpError String
  writeToUsb : (devnode filename content : String) → Except DumpError String

/-- The end of `run`: write the report to the place that the options name. -/
def DumpEnv.deliver (env : DumpEnv) (opts : DumpHostIdOptions) (tsv : String) :
    Except DumpError DumpDestination :=
  match opts.output with
  | some path =>
    match env.writeAtomic path tsv with
    | .ok () => .ok (.file path)
    | .error e => .error (.output (path ++ ": " ++ e))
  | none =>
    if opts.usb then do
      let dev ← env.pickUsbPartition
      let filename := "host-ids-" ++ env.hostname ++ "-" ++ env.stamp ++ ".tsv"
      let written ← env.writeToUsb dev filename tsv
      .ok (.usb dev written)
    else .ok .stdout

/-- A report that was written. -/
structure DumpReport where
  rows : List ReportRow
  text : String
  destination : DumpDestination
  deriving DecidableEq, Repr

section

variable (tables : CharTables) (X509 : Type) [CryptoLibrary X509]

def overrideProbe (overrideValue : Option String) : ProbeResult where
  source := .override
  outcome :=
    match overrideValue with
    | none => .error "no [host_identity].override configured"
    | some raw =>
      if normalizeHostId tables raw = "" then .error "empty after normalization"
      else .ok (resolved X509 .override raw (normalizeHostId tables raw))

variable (fetch : Answers) (cfg : HostIdentitySection)

def dumpProbes : List ProbeResult :=
  (fromValidated fetch (fanoutCfg cfg)).probeAll tables X509 ++
    [overrideProbe tables X509 cfg.overrideValue]

-- The live chain is asked, which does not know the override.
def activeKind : Option HostIdSourceKind :=
  match (fromValidated fetch cfg).resolve tables X509 with
  | .ok r => some r.sourceKind
  | .error _ => none

def dumpRows : List ReportRow :=
  (dumpProbes tables X509 fetch cfg).map (reportRow (activeKind tables X509 fetch cfg))

def run (env : DumpEnv) (opts : DumpHostIdOptions) : Except DumpError DumpReport := do
  let probes := dumpProbes tables X509 fetch cfg
  let active := activeKind tables X509 fetch cfg
  if ¬ probes.any fun p => p.outcome.isOk then .error .noActiveHostId else
  let tsv := renderTsv probes env.hostname env.iso active
  let destination ← env.deliver opts tsv
  .ok ⟨dumpRows tables X509 fetch cfg, tsv, destination⟩

end

/-- Exactly one row is flagged as the one in use, and it shows this hash. -/
def FlagsHash (rows : List ReportRow) (hash : String) : Prop :=
  ∃ row, rows.filter (fun row => row.activeUnderCurrentConfig = "yes") = [row] ∧
    row.hashHex = hash

section

variable {tables : CharTables} {X509 : Type} [CryptoLibrary X509]
  {fetch : Answers} {cfg : HostIdentitySection}

theorem reportRow_active (active : Option HostIdSourceKind) (p : ProbeResult) :
    (reportRow active p).activeUnderCurrentConfig =
      if active = some p.source then "yes" else "no" := by
  rw [reportRow]
  split <;> rfl

theorem flagged_rows (active : Option HostIdSourceKind) (probes : List ProbeResult) :
    (probes.map (reportRow active)).filter (fun row => row.activeUnderCurrentConfig = "yes") =
      (probes.filter fun p => active = some p.source).map (reportRow active) := by
  rw [List.filter_map]
  congr 2
  funext p
  by_cases h : active = some p.source <;> simp [reportRow_active, h]

theorem run_rows {env : DumpEnv} {opts : DumpHostIdOptions} {report : DumpReport}
    (h : run tables X509 fetch cfg env opts = .ok report) :
    report.rows = dumpRows tables X509 fetch cfg := by
  obtain ⟨-, h⟩ := guard_bind_eq_ok_iff.mp h
  obtain ⟨destination, -, h⟩ := bind_eq_ok_iff.mp h
  cases h
  rfl

theorem run_of_delivered {env : DumpEnv} {opts : DumpHostIdOptions}
    {destination : DumpDestination}
    (hok : (dumpProbes tables X509 fetch cfg).any (fun p => p.outcome.isOk) = true)
    (hdeliver : env.deliver opts (renderTsv (dumpProbes tables X509 fetch cfg) env.hostname
      env.iso (activeKind tables X509 fetch cfg)) = .ok destination) :
    run tables X509 fetch cfg env opts =
      .ok ⟨dumpRows tables X509 fetch cfg, renderTsv (dumpProbes tables X509 fetch cfg)
        env.hostname env.iso (activeKind tables X509 fetch cfg), destination⟩ := by
  simp only [run, hok, not_true_eq_false, if_false, hdeliver]
  rfl

theorem dumpProbes_eq (tables : CharTables) (fetch : Answers) (cfg : HostIdentitySection) :
    dumpProbes tables X509 fetch cfg =
      ((fanoutCfg cfg).sources.map fun kind => probe tables X509 ⟨kind, fetch kind⟩) ++
        [overrideProbe tables X509 cfg.overrideValue] := by
  cases hcmd : cfg.customCommand <;>
    simp [dumpProbes, fromValidated, HostIdentityResolver.probeAll, fanoutCfg, canonicalKinds,
      sourceOf, hcmd]

theorem probes_of_override :
    ((dumpProbes tables X509 fetch cfg).filter fun p =>
        some HostIdSourceKind.override = some p.source) =
      [overrideProbe tables X509 cfg.overrideValue] := by
  cases hcmd : cfg.customCommand <;>
    simp [dumpProbes_eq, fanoutCfg, canonicalKinds, probe, overrideProbe, hcmd]

/-- Every kind that the chain can ask has one row, with what the chain is told. -/
theorem probes_of_asked {kind : HostIdSourceKind} {source : HostIdSource}
    (h : sourceOf fetch cfg kind = some source) :
    ((dumpProbes tables X509 fetch cfg).filter fun p => some kind = some p.source) =
      [probe tables X509 ⟨kind, fetch kind⟩] := by
  cases kind with
  | override => cases h
  | customCommand =>
    obtain ⟨cmd, hcmd, -⟩ := Option.map_eq_some_iff.mp h
    simp [dumpProbes_eq, fanoutCfg, canonicalKinds, probe, overrideProbe, hcmd]
  | _ =>
    cases hcmd : cfg.customCommand <;>
      simp [dumpProbes_eq, fanoutCfg, canonicalKinds, probe, overrideProbe, hcmd]

theorem sha256Hex_ne_dash (s : String) : sha256Hex X509 s ≠ "-" := by
  intro h
  have hlength := congrArg String.length h
  simp only [sha256Hex, String.length_join, hexByte, List.map_map, Function.comp_def] at hlength
  simp at hlength
  exact absurd hlength (by decide)

theorem flagsHash_iff {active : Option HostIdSourceKind} {probes : List ProbeResult}
    {p : ProbeResult} {hash : String} (h : (probes.filter fun q => active = some q.source) = [p]) :
    FlagsHash (probes.map (reportRow active)) hash ↔ (reportRow active p).hashHex = hash := by
  rw [FlagsHash, flagged_rows, h]
  simp

variable {hash : String}

theorem flagsHash_of_firstAnswer {kind : HostIdSourceKind} {raw : String}
    (h : FirstAnswer tables fetch cfg cfg.sources kind raw) :
    FlagsHash (dumpRows tables X509 fetch cfg) hash ↔
      sha256Hex X509 (normalizeHostId tables raw) = hash := by
  have hactive : activeKind tables X509 fetch cfg = some kind := by
    rw [activeKind, resolve_of_firstAnswer X509 h]
    rfl
  rw [dumpRows, hactive, flagsHash_iff (probes_of_asked h.answered.asked), h.answered.probe_eq]
  rfl

theorem flagsHash_of_fallback (h : NoAnswer tables fetch cfg cfg.sources)
    (hfallback : cfg.fallback ≠ .deny) :
    FlagsHash (dumpRows tables X509 fetch cfg) hash ↔
      (reportRow (some .override) (overrideProbe tables X509 cfg.overrideValue)).hashHex =
        hash := by
  obtain ⟨attempts, hresolve⟩ := resolve_of_noAnswer X509 h
  have hactive : activeKind tables X509 fetch cfg = some .override := by
    rw [activeKind, hresolve]
    cases hcase : cfg.fallback <;> simp_all [exhausted, resolved]
  rw [dumpRows, hactive, flagsHash_iff probes_of_override]

theorem not_flagsHash_of_deny (h : NoAnswer tables fetch cfg cfg.sources)
    (hfallback : cfg.fallback = .deny) :
    ¬ FlagsHash (dumpRows tables X509 fetch cfg) hash := by
  obtain ⟨attempts, hresolve⟩ := resolve_of_noAnswer X509 h
  have hactive : activeKind tables X509 fetch cfg = none := by
    rw [activeKind, hresolve, hfallback]
    rfl
  rintro ⟨row, hrow, -⟩
  simp [dumpRows, hactive, flagged_rows] at hrow

/-- The row of the override shows a hash of the section's value, if its normal form is not
empty, and otherwise a dash. -/
theorem overrideProbe_hash_iff (s : String) :
    (reportRow (some .override) (overrideProbe tables X509 cfg.overrideValue)).hashHex =
        sha256Hex X509 s ↔
      ∃ value, cfg.overrideValue = some value ∧ normalizeHostId tables value ≠ "" ∧
        sha256Hex X509 (normalizeHostId tables value) = sha256Hex X509 s := by
  have hdash : ¬ "-" = sha256Hex X509 s := fun h => sha256Hex_ne_dash s h.symm
  cases hvalue : cfg.overrideValue with
  | none => simp [overrideProbe, reportRow, hdash]
  | some value =>
    by_cases hempty : normalizeHostId tables value = ""
    · simp [overrideProbe, reportRow, hempty, hdash]
    · simp [overrideProbe, reportRow, hempty, resolved]

section

variable (tables X509 fetch cfg)

/-- When the chain alone decides on both sides, or the two values have one hash. -/
inductive Concordant : Prop
  /-- No override is in force and a configured source answers. -/
  | chained {kind : HostIdSourceKind} {raw : String} (unpinned : pinned cfg = none)
      (first : FirstAnswer tables fetch cfg cfg.sources kind raw)
  /-- The override in force is all there is, and the chain falls back. -/
  | pinnedAlone {value : String} (inForce : pinned cfg = some value)
      (silent : NoAnswer tables fetch cfg cfg.sources) (falls : cfg.fallback ≠ .deny)
      (nonempty : normalizeHostId tables value ≠ "")
  /-- The override in force has the hash of the first answer. -/
  | pinnedEqual {value raw : String} {kind : HostIdSourceKind} (inForce : pinned cfg = some value)
      (first : FirstAnswer tables fetch cfg cfg.sources kind raw)
      (equal : sha256Hex X509 (normalizeHostId tables raw) =
        sha256Hex X509 (normalizeHostId tables value))
  /-- An override that is not listed has the hash of the fallback's text. -/
  | unlistedEqual {value : String} (unpinned : pinned cfg = none)
      (silent : NoAnswer tables fetch cfg cfg.sources)
      (given : cfg.overrideValue = some value) (nonempty : normalizeHostId tables value ≠ "")
      (equal : sha256Hex X509 (normalizeHostId tables value) = sha256Hex X509 "unknown")

end

theorem flagsHash_pinned_iff {value : String} (hpinned : pinned cfg = some value) :
    FlagsHash (dumpRows tables X509 fetch cfg) (sha256Hex X509 (normalizeHostId tables value)) ↔
      Concordant tables X509 fetch cfg := by
  have hvalue : cfg.overrideValue = some value := by
    have : .override ∈ cfg.sources ∧ cfg.overrideValue = some value := by
      simpa [pinned] using hpinned
    exact this.2
  constructor
  · intro hflags
    rcases firstAnswer_or_noAnswer tables fetch cfg cfg.sources with ⟨kind, raw, hfirst⟩ | hnone
    · exact .pinnedEqual hpinned hfirst ((flagsHash_of_firstAnswer hfirst).mp hflags)
    · have hfallback : cfg.fallback ≠ .deny :=
        fun hdeny => not_flagsHash_of_deny hnone hdeny hflags
      rw [flagsHash_of_fallback hnone hfallback, overrideProbe_hash_iff] at hflags
      obtain ⟨other, hother, hnonempty, -⟩ := hflags
      obtain rfl : value = other := by simpa [hvalue] using hother
      exact .pinnedAlone hpinned hnone hfallback hnonempty
  · rintro (⟨hunpinned, -⟩ | ⟨hinForce, hnone, hfallback, hnonempty⟩ |
      ⟨hinForce, hfirst, hequal⟩ | ⟨hunpinned, -, -, -, -⟩)
    · simp [hpinned] at hunpinned
    · obtain rfl : value = _ := by simpa [hpinned] using hinForce
      rw [flagsHash_of_fallback hnone hfallback, overrideProbe_hash_iff]
      exact ⟨value, hvalue, hnonempty, rfl⟩
    · obtain rfl : value = _ := by simpa [hpinned] using hinForce
      exact (flagsHash_of_firstAnswer hfirst).mpr hequal
    · simp [hpinned] at hunpinned

theorem flagsHash_unpinned_iff {kind : HostIdSourceKind} {raw : String}
    (hunpinned : pinned cfg = none)
    (h : resolveHostIdentity tables X509 fetch cfg = .ok (kind, raw, hash)) :
    FlagsHash (dumpRows tables X509 fetch cfg) hash ↔ Concordant tables X509 fetch cfg := by
  rw [resolveHostIdentity_of_unpinned hunpinned] at h
  obtain ⟨id, hid, htuple⟩ := bind_eq_ok_iff.mp h
  obtain ⟨-, -, rfl⟩ : id.sourceKind = kind ∧ id.raw = raw ∧ id.hashHex = hash := by
    simpa using htuple
  rcases firstAnswer_or_noAnswer tables fetch cfg cfg.sources with ⟨kind', raw', hfirst⟩ | hnone
  · rw [resolve_of_firstAnswer X509 hfirst] at hid
    cases hid
    exact iff_of_true ((flagsHash_of_firstAnswer hfirst).mpr rfl) (.chained hunpinned hfirst)
  · obtain ⟨attempts, hresolve⟩ := resolve_of_noAnswer X509 hnone
    have hfallback : cfg.fallback ≠ .deny := by
      intro hdeny
      rw [hresolve, hdeny] at hid
      cases hid
    obtain rfl : resolved X509 .override "unknown" "unknown" = id := by
      rw [hresolve] at hid
      cases hcase : cfg.fallback <;> simp_all [exhausted]
    rw [flagsHash_of_fallback hnone hfallback]
    refine (overrideProbe_hash_iff "unknown").trans ⟨?_, ?_⟩
    · rintro ⟨value, hvalue, hnonempty, hequal⟩
      exact .unlistedEqual hunpinned hnone hvalue hnonempty hequal
    · rintro (⟨-, hfirst⟩ | ⟨hinForce, -, -, -⟩ | ⟨hinForce, -, -⟩ |
        ⟨-, -, hvalue, hnonempty, hequal⟩)
      · exact absurd hnone hfirst.not_noAnswer
      · simp [hunpinned] at hinForce
      · simp [hunpinned] at hinForce
      · exact ⟨_, hvalue, hnonempty, hequal⟩

/-- The report and the authentication agree on the identity exactly where the chain alone
decides, up to values with one hash. -/
theorem dump_agrees_iff {kind : HostIdSourceKind} {raw : String} {env : DumpEnv}
    {opts : DumpHostIdOptions} {report : DumpReport}
    (hlogin : resolveHostIdentity tables X509 fetch cfg = .ok (kind, raw, hash))
    (hdump : run tables X509 fetch cfg env opts = .ok report) :
    FlagsHash report.rows hash ↔ Concordant tables X509 fetch cfg := by
  rw [run_rows hdump]
  cases hpinned : pinned cfg with
  | none => exact flagsHash_unpinned_iff hpinned hlogin
  | some value =>
    rw [resolveHostIdentity_of_pinned hpinned] at hlogin
    cases hlogin
    exact flagsHash_pinned_iff hpinned

end

def asciiTables : CharTables where
  isWhitespace := isWhiteSpace
  toLowercase c := [c.toLower]

/-- A host with a machine id and a name. -/
def terminal : Host where
  readToString path :=
    if path = "/etc/machine-id" then .ok "4C4C4544\n"
    else if path = "/etc/hostname" then .ok "atm-0042\n"
    else .error "No such file or directory (os error 2)"
  run _ _ := .timedOut

def terminalSection (sources : List HostIdSourceKind) (hne : sources ≠ [])
    (hnodup : sources.Nodup) : HostIdentitySection where
  sources := sources
  fallback := .deny
  overrideValue := some "bootstrap"
  customCommand := none
  customCommandTimeout := Duration.fromSecs 5
  sources_ne_nil := hne
  sources_nodup := hnodup
  command_absolute := rfl
  timeout_bounded := ⟨5, by decide, by decide, rfl⟩

/-- The section of an image before it is given identities of its own. -/
def cloneSection : HostIdentitySection := terminalSection [.override] (by decide) (by decide)

/-- The section after that. -/
def hostSection : HostIdentitySection :=
  terminalSection [.dmiBoardSerial, .machineId] (by decide) (by decide)

def printed : DumpEnv where
  hostname := "atm-0042"
  iso := "2026-01-02T03:04:05Z"
  stamp := "20260102T030405Z"
  writeAtomic _ _ := .ok ()
  pickUsbPartition := .error (.usb "no USB partition with writable filesystem found")
  writeToUsb _ _ _ := .error (.usb "USB writes are Linux-only")

/-- A report that goes to the standard output. -/
def printedReport (cfg : HostIdentitySection) : DumpReport where
  rows := dumpRows asciiTables RecordX509 (terminal.fetch asciiTables cfg) cfg
  text := renderTsv (dumpProbes asciiTables RecordX509 (terminal.fetch asciiTables cfg) cfg)
    "atm-0042" "2026-01-02T03:04:05Z"
    (activeKind asciiTables RecordX509 (terminal.fetch asciiTables cfg) cfg)
  destination := .stdout

/-- Once the host is identified by its sources, the report shows what a login uses. -/
theorem dump_agrees_terminal :
    resolveHostIdentity asciiTables RecordX509 (terminal.fetch asciiTables hostSection)
        hostSection = .ok (.machineId, "4C4C4544", sha256Hex RecordX509 "4c4c4544") ∧
      run asciiTables RecordX509 (terminal.fetch asciiTables hostSection) hostSection printed
        ⟨none, false⟩ = .ok (printedReport hostSection) ∧
      FlagsHash (printedReport hostSection).rows (sha256Hex RecordX509 "4c4c4544") := by
  have hlogin : resolveHostIdentity asciiTables RecordX509
      (terminal.fetch asciiTables hostSection) hostSection =
        .ok (.machineId, "4C4C4544", sha256Hex RecordX509 "4c4c4544") := by decide +kernel
  have hdump : run asciiTables RecordX509 (terminal.fetch asciiTables hostSection) hostSection
      printed ⟨none, false⟩ = .ok (printedReport hostSection) :=
    run_of_delivered (by decide +kernel) rfl
  have hfirst : FirstAnswer asciiTables (terminal.fetch asciiTables hostSection) hostSection
      hostSection.sources .machineId "4C4C4544" := by
    refine ⟨[.dmiBoardSerial], [], rfl, ⟨rfl, by decide⟩, ?_⟩
    rintro _ (_ | ⟨_, ⟨⟩⟩) raw ⟨hasked, -⟩
    cases hasked
  exact ⟨hlogin, hdump, (dump_agrees_iff hlogin hdump).mpr (.chained rfl hfirst)⟩

/-- With the section that a cloned image starts from, a login uses the override and the
report flags no row at all. -/
theorem clone_report_flags_nothing :
    validateHostIdentity { sources := ["override"], overrideValue := some "bootstrap" } =
        .ok cloneSection ∧
      resolveHostIdentity asciiTables RecordX509 (terminal.fetch asciiTables cloneSection)
        cloneSection = .ok (.override, "bootstrap", sha256Hex RecordX509 "bootstrap") ∧
      run asciiTables RecordX509 (terminal.fetch asciiTables cloneSection) cloneSection printed
        ⟨none, false⟩ = .ok (printedReport cloneSection) ∧
      ¬ FlagsHash (printedReport cloneSection).rows (sha256Hex RecordX509 "bootstrap") := by
  refine ⟨rfl, by decide +kernel, run_of_delivered (by decide +kernel) rfl,
    not_flagsHash_of_deny ?_ rfl⟩
  rintro _ (_ | ⟨_, ⟨⟩⟩) raw ⟨hasked, -⟩
  cases hasked

end PamCertauth.DumpHostId
