import PamCertauth.ConfigurationFile
import PamCertauth.FaultFinding

/-!
# The faults of a configuration file

Validation stops at the first fault in the order of its steps. The faults of a file are
given here on their own, section by section and without an order;
`tryFrom_finds_faults` says that a file is accepted exactly if it has none and that the
error of a refused file is one of its faults.
-/

namespace PamCertauth.Config

open LexicalPaths (isAbsolute)
open X509 FaultFinding RadixNumerals HostIdentity Hooks Mac Wiring Discovery

@[mk_iff]
inductive PemFault (fs : FileSystem) (path : String) : Error → Prop where
  | unreadable (reason : String) (h : fs.readToString path = .error reason) :
    PemFault fs path (.trust (.anchorMissing path))
  | withoutCertificate (text : String) (h : fs.readToString path = .ok text)
    (hmark : containsText "-----BEGIN CERTIFICATE-----" text = false) :
    PemFault fs path (.trust (.anchorNotPem path))

@[mk_iff]
inductive RevocationFault (fs : FileSystem) (raw : RawRevocation) : Error → Prop where
  | list (path : String) (hmode : raw.mode = .crl) (h : path ∈ raw.crlPaths)
    (hfile : fs.isFile path = false) : RevocationFault fs raw (.trust (.crlPathMissing path))
  | responder (hmode : raw.mode = .ocsp ∨ raw.mode = .crlThenOcsp)
    (h : ¬ raw.ocspResponderUrl.any isHttpUrl) :
    RevocationFault fs raw (.trust (.ocspResponderInvalid "missing or non-http URL"))

@[mk_iff]
inductive TrustFault (fs : FileSystem) (raw : RawTrust) : Error → Prop where
  | depthZero (h : raw.maxChainDepth = 0) : TrustFault fs raw (.trust .maxChainDepthZero)
  | depthCap (h : raw.maxChainDepth > maxChainDepthHardCap) :
    TrustFault fs raw (.configInvalid ("trust.max_chain_depth " ++ toString raw.maxChainDepth ++
      " exceeds hard cap " ++ toString maxChainDepthHardCap))
  | skew (h : raw.clockSkewSeconds > 600) : TrustFault fs raw (.trust .clockSkewTooLarge)
  | pem (path : String) (e : Error) (hpath : path ∈ raw.anchors ++ raw.intermediates)
    (h : PemFault fs path e) : TrustFault fs raw e
  | revocation (e : Error) (h : RevocationFault fs raw.revocation e) : TrustFault fs raw e
  | pin (entry : String) (henabled : raw.pinning.enabled = true)
    (hentry : entry ∈ raw.pinning.allowedRootSpkiSha256) (h : isPinText entry = false) :
    TrustFault fs raw (.trust (.pinningHashInvalid entry))

theorem validatePem_finds (fs : FileSystem) (path : String) :
    Finds (validatePem fs path) (PemFault fs path) := by
  rw [validatePem]
  split
  · next reason hread =>
    exact Finds.fail (.unreadable reason hread)
  · next text hread =>
    by_cases hmark : containsText "-----BEGIN CERTIFICATE-----" text = true
    · rw [if_pos hmark]
      exact (Finds.pass ()).congr fun e => by simp [pemFault_iff, hread, hmark]
    · rw [if_neg hmark]
      exact Finds.fail (.withoutCertificate text hread (by simpa using hmark))

theorem validateRevocation_finds (fs : FileSystem) (raw : RawRevocation) :
    Finds (validateRevocation fs raw) (RevocationFault fs raw) := by
  rw [validateRevocation]
  by_cases hmode : raw.mode = .crl
  · rw [if_pos hmode]
    refine ((Finds.forM _ fun path => Finds.require _ ()).bind fun _ _ =>
      Finds.reject _ ()).congr fun e => ?_
    rw [revocationFault_iff]
    simp [hmode]
  · rw [if_neg hmode]
    refine (Finds.reject _ ()).congr fun e => ?_
    rw [revocationFault_iff]
    simp [hmode, and_assoc]

theorem validatePinning_finds (raw : PinningSection) :
    Finds (validatePinning raw) fun e => raw.enabled = true ∧
      ∃ entry ∈ raw.allowedRootSpkiSha256,
        ¬ isPinText entry = true ∧ e = .trust (.pinningHashInvalid entry) :=
  Finds.checkIf (Finds.forM _ fun _ => Finds.require _ ()) ()

theorem validateTrust_finds (fs : FileSystem) (raw : RawTrust) :
    Finds (validateTrust fs raw) (TrustFault fs raw) := by
  rw [validateTrust]
  refine (Finds.guard fun _ => Finds.guard fun _ => Finds.guard fun _ =>
    (Finds.forM _ (validatePem_finds fs)).bind fun _ _ =>
      (validateRevocation_finds fs raw.revocation).bind fun _ _ =>
        (validatePinning_finds raw.pinning).bind fun _ _ => Finds.pass _).congr fun e => ?_
  rw [trustFault_iff]
  simp only [or_false, Bool.not_eq_true, exists_and_left]

@[mk_iff]
inductive OverrideFault (fs : FileSystem) (raw : RawTrustOverride) : Error → Prop where
  | noHosts (h : raw.whenHostIdIn = []) :
    OverrideFault fs raw (.configInvalid "trust_override.when_host_id_in must be non-empty")
  | pem (path : String) (e : Error) (hpath : path ∈ raw.anchors ++ raw.intermediates)
    (h : PemFault fs path e) : OverrideFault fs raw e

theorem validateTrustOverride_finds (fs : FileSystem) (raw : RawTrustOverride) :
    Finds (validateTrustOverride fs raw) (OverrideFault fs raw) := by
  rw [validateTrustOverride]
  refine (Finds.guard fun _ => (Finds.forM _ (validatePem_finds fs)).bind fun _ _ =>
    Finds.pass _).congr fun e => ?_
  rw [overrideFault_iff]
  simp only [or_false]

/-- The kinds that the texts name, as far as they name one. -/
def namedSources (texts : List String) : List HostIdSourceKind :=
  texts.filterMap fun text => (fromStr text).toOption

@[mk_iff]
inductive HostIdentityFault (raw : RawHostIdentity) : Error → Prop where
  | unknown (text : String) (e : Error) (htext : text ∈ raw.sources)
    (h : fromStr text = .error e) : HostIdentityFault raw e
  | duplicate (h : ¬ (namedSources raw.sources).Nodup) :
    HostIdentityFault raw (.configInvalid "duplicate host identity source")
  | noSources (h : raw.sources = []) :
    HostIdentityFault raw (.configInvalid "host_identity.sources must be non-empty")
  | command (path : String) (hpath : raw.customCommand = some path)
      (h : isAbsolute path.toList = false) :
    HostIdentityFault raw (.configInvalid
      ("host_identity.custom_command must be an absolute path (got " ++ path ++ ")"))

theorem collectSources_finds (sources : List HostIdSourceKind) (hsources : sources.Nodup)
    (texts : List String) :
    Finds (collectSources sources texts) fun e =>
      (∃ text ∈ texts, fromStr text = .error e) ∨
        ¬ (sources ++ namedSources texts).Nodup ∧
          e = .configInvalid "duplicate host identity source" := by
  induction texts generalizing sources with
  | nil => exact (Finds.pass sources).congr fun e => by simp [namedSources, hsources]
  | cons text rest ih =>
    rw [collectSources]
    split
    · next e' hkind =>
      exact Finds.fail (.inl ⟨text, List.mem_cons_self, hkind⟩)
    · next kind hkind =>
      have hnamed : sources ++ namedSources (text :: rest) =
          (sources ++ [kind]) ++ namedSources rest := by
        simp [namedSources, hkind, Except.toOption]
      by_cases hmem : kind ∈ sources
      · rw [if_pos hmem]
        refine Finds.fail (.inr ⟨fun hnodup => ?_, rfl⟩)
        rw [hnamed, List.append_assoc] at hnodup
        exact (List.nodup_append.mp hnodup).2.2 kind hmem kind (by simp) rfl
      · rw [if_neg hmem]
        refine (ih (sources ++ [kind]) (by simpa using hsources.concat hmem)).congr fun e => ?_
        rw [hnamed]
        simp [hkind]

theorem collectSources_length {sources kinds : List HostIdSourceKind} {texts : List String}
    (h : collectSources sources texts = .ok kinds) :
    kinds.length = sources.length + texts.length := by
  induction texts generalizing sources with
  | nil =>
    cases h
    rfl
  | cons text rest ih =>
    rw [collectSources] at h
    split at h
    · cases h
    · rw [guard_bind_eq_ok_iff] at h
      have hlength := ih h.2
      simp only [List.length_append, List.length_cons, List.length_nil] at hlength ⊢
      omega

-- The sources are as they should be, so what is left is the list and the command.
theorem hostIdentityFault_iff_of_collected {raw : RawHostIdentity} {kinds : List HostIdSourceKind}
    (hkinds : collectSources [] raw.sources = .ok kinds) (e : Error) :
    HostIdentityFault raw e ↔
      kinds = [] ∧ e = .configInvalid "host_identity.sources must be non-empty" ∨
        ∃ path, raw.customCommand = some path ∧ isAbsolute path.toList = false ∧
          e = .configInvalid
            ("host_identity.custom_command must be an absolute path (got " ++ path ++ ")") := by
  have hnone := (collectSources_finds [] List.nodup_nil raw.sources).passed hkinds
  have hempty : kinds = [] ↔ raw.sources = [] := by
    have hlength := collectSources_length hkinds
    rw [← List.length_eq_zero_iff, ← List.length_eq_zero_iff, hlength]
    simp
  rw [hostIdentityFault_iff, hempty]
  constructor
  · rintro (⟨text, htext, herror⟩ | ⟨hnodup, rfl⟩ | h | h)
    · exact absurd (.inl ⟨text, htext, herror⟩) (hnone e)
    · exact absurd (.inr ⟨by simpa using hnodup, rfl⟩) (hnone _)
    · exact .inl h
    · exact .inr h
  · rintro (h | h)
    · exact .inr (.inr (.inl h))
    · exact .inr (.inr (.inr h))

theorem validateHostIdentity_finds (raw : RawHostIdentity) :
    Finds (validateHostIdentity raw) (HostIdentityFault raw) := by
  unfold validateHostIdentity
  split
  · next e he =>
    refine Finds.fail ?_
    rcases (collectSources_finds [] List.nodup_nil raw.sources).reported he with
      ⟨text, htext, herror⟩ | ⟨hnodup, rfl⟩
    · exact .unknown text e htext herror
    · exact .duplicate (by simpa using hnodup)
  · next kinds hkinds =>
    refine Finds.congr ?_ fun e => (hostIdentityFault_iff_of_collected hkinds e).symm
    split
    · next hnil => exact Finds.fail (.inl ⟨hnil, rfl⟩)
    · next hne =>
      cases hcommand : raw.customCommand with
      | none =>
        rw [dif_pos (by simp)]
        exact (Finds.pass _).congr fun e => by simp [hne]
      | some path =>
        by_cases hpath : isAbsolute path.toList = true
        · rw [dif_pos (by simpa using hpath)]
          exact (Finds.pass _).congr fun e => by simp [hne, hpath]
        · rw [dif_neg (by simpa using hpath)]
          exact Finds.fail (.inr ⟨path, rfl, by simpa using hpath, rfl⟩)

@[mk_iff]
inductive MappingFault (raw : List RawUserMapping) : Reason → Prop where
  | invalidUser (mapping : RawUserMapping) (hmem : mapping ∈ raw)
    (h : isUserName mapping.pamUser = false) : MappingFault raw .invalidOrDuplicateUser
  | duplicateUser (h : ¬ (raw.map (·.pamUser)).Nodup) : MappingFault raw .invalidOrDuplicateUser
  | criteria (mapping : RawUserMapping) (hmem : mapping ∈ raw) (h : mapping.criterion = none) :
    MappingFault raw .notOneCriterion

-- The names that were seen stand for the entries in front.
theorem collectMappings_finds (seen : List String) (hseen : seen.Nodup)
    (raw : List RawUserMapping) :
    Finds (collectMappings seen raw) fun r =>
      ((∃ mapping ∈ raw, isUserName mapping.pamUser = false) ∨
          ¬ (raw.map (·.pamUser) ++ seen).Nodup) ∧ r = .invalidOrDuplicateUser ∨
        (∃ mapping ∈ raw, mapping.criterion = none) ∧ r = .notOneCriterion := by
  induction raw generalizing seen with
  | nil => exact (Finds.pass []).congr fun r => by simp [hseen]
  | cons mapping rest ih =>
    rw [collectMappings]
    by_cases hbad : ¬ isUserName mapping.pamUser ∨ mapping.pamUser ∈ seen
    · rw [if_pos hbad]
      refine Finds.fail (.inl ⟨?_, rfl⟩)
      rcases hbad with hname | hmem
      · exact .inl ⟨mapping, List.mem_cons_self, by simpa using hname⟩
      · refine .inr fun hnodup => ?_
        exact (List.nodup_append.mp hnodup).2.2 mapping.pamUser (by simp) mapping.pamUser hmem rfl
    · rw [if_neg hbad]
      obtain ⟨hname, hnew⟩ := not_or.mp hbad
      rw [not_not] at hname
      cases hone : mapping.criterion with
      | none => exact Finds.fail (.inr ⟨⟨mapping, List.mem_cons_self, hone⟩, rfl⟩)
      | some criteria =>
        refine ((ih (mapping.pamUser :: seen) (List.nodup_cons.mpr ⟨hnew, hseen⟩)).bind
          fun _ _ => Finds.pass _).congr fun r => ?_
        have hmiddle : (rest.map (·.pamUser) ++ mapping.pamUser :: seen).Nodup ↔
            ((mapping :: rest).map (·.pamUser) ++ seen).Nodup := List.perm_middle.nodup_iff
        simp only [hmiddle, List.exists_mem_cons_iff, hone, hname, Bool.true_eq_false, reduceCtorEq,
          false_or, or_false]

theorem validateUserMappings_finds (raw : List RawUserMapping) :
    Finds (validateUserMappings raw) (MappingFault raw) := by
  refine (collectMappings_finds [] List.nodup_nil raw).congr fun r => ?_
  rw [mappingFault_iff]
  simp only [List.append_nil]
  aesop

@[mk_iff]
inductive LoggingFault (raw : RawLogging) : Reason → Prop where
  | level (h : toAsciiLowercase raw.level ∉
      ["trace", "debug", "info", "warn", "warning", "error"]) :
    LoggingFault raw (.logLevel raw.level)
  | facility (h : toAsciiLowercase raw.syslogFacility ∉ ["auth", "authpriv", "user", "daemon"]) :
    LoggingFault raw (.syslogFacility raw.syslogFacility)

theorem logLevel_finds (s : String) :
    Finds (LogLevel.fromStr s) fun r =>
      toAsciiLowercase s ∉ ["trace", "debug", "info", "warn", "warning", "error"] ∧
        r = .logLevel s := by
  unfold LogLevel.fromStr
  split
  all_goals first
    | exact (Finds.pass _).congr fun r => by simp [*]
    | exact Finds.fail ⟨by simp; tauto, rfl⟩

theorem syslogFacility_finds (s : String) :
    Finds (SyslogFacility.fromStr s) fun r =>
      toAsciiLowercase s ∉ ["auth", "authpriv", "user", "daemon"] ∧ r = .syslogFacility s := by
  unfold SyslogFacility.fromStr
  split
  all_goals first
    | exact (Finds.pass _).congr fun r => by simp [*]
    | exact Finds.fail ⟨by simp; tauto, rfl⟩

theorem validateLogging_finds (raw : RawLogging) :
    Finds (validateLogging raw) (LoggingFault raw) := by
  refine ((logLevel_finds raw.level).bind fun _ _ => (syslogFacility_finds raw.syslogFacility).bind
    fun _ _ => Finds.pass _).congr fun r => ?_
  rw [loggingFault_iff]
  simp only [or_false]

@[mk_iff]
inductive HookFault (raw : RawHook) : HookValidationError → Prop where
  | noCommand (h : raw.command = []) : HookFault raw .emptyCommand
  | relativeCommand (path : String) (rest : List String) (hcommand : raw.command = path :: rest)
    (h : isAbsolute path.toList = false) : HookFault raw (.invalidCommandPath path)
  | timeout (h : raw.timeoutSeconds = 0 ∨ raw.timeoutSeconds > 120) : HookFault raw .invalidTimeout
  | template (entry : String × String) (reason : String) (hentry : entry ∈ raw.env)
    (h : Template.parse entry.2 = .error reason) : HookFault raw (.template reason)
  | placeholder (entry : String × String) (template : List TemplatePart) (var : PlaceholderVar)
    (hentry : entry ∈ raw.env) (hparse : Template.parse entry.2 = .ok template)
    (hvar : .var var ∈ template) (h : isVarAllowed raw.stage var = false) :
    HookFault raw (.placeholderNotAllowedAtStage raw.stage var)

theorem checkPart_finds (stage : HookStage) (part : TemplatePart) :
    Finds (checkPart stage part) fun e => ∃ var, part = .var var ∧ isVarAllowed stage var = false ∧
      e = .placeholderNotAllowedAtStage stage var := by
  cases part with
  | literal text => exact (Finds.pass ()).congr fun e => by simp
  | var var => exact (Finds.require _ ()).congr fun e => by simp

theorem validateEnvEntry_finds (stage : HookStage) (entry : String × String) :
    Finds (validateEnvEntry stage entry) fun e =>
      (∃ reason, Template.parse entry.2 = .error reason ∧ e = .template reason) ∨
        ∃ template var, Template.parse entry.2 = .ok template ∧ .var var ∈ template ∧
          isVarAllowed stage var = false ∧ e = .placeholderNotAllowedAtStage stage var := by
  cases hparse : Template.parse entry.2 with
  | error reason =>
    have hentry : validateEnvEntry stage entry = .error (.template reason) := by
      rw [validateEnvEntry, hparse]
      rfl
    rw [hentry]
    exact Finds.fail (.inl ⟨reason, rfl, rfl⟩)
  | ok template =>
    have hentry : validateEnvEntry stage entry =
        (template.forM (checkPart stage) >>= fun _ => .ok (entry.1, template)) := by
      rw [validateEnvEntry, hparse]
      rfl
    rw [hentry]
    refine ((Finds.forM template (checkPart_finds stage)).bind fun _ _ => Finds.pass _).congr
      fun e => ?_
    simp only [or_false, reduceCtorEq, false_and, exists_false, false_or, Except.ok.injEq]
    aesop

theorem validateHook_finds (raw : RawHook) : Finds (validateHook raw) (HookFault raw) := by
  rw [validateHook]
  cases hcommand : raw.command with
  | nil => exact Finds.fail (.noCommand hcommand)
  | cons path rest =>
    refine (Finds.guard fun _ => Finds.guard fun _ =>
      (Finds.mapM raw.env (validateEnvEntry_finds raw.stage)).bind fun _ _ =>
        Finds.pass _).congr fun e => ?_
    rw [hookFault_iff]
    simp only [hcommand, Bool.not_eq_true, or_false, reduceCtorEq, false_and, false_or,
      List.cons.injEq, and_or_left, exists_or, and_assoc, exists_and_left, exists_eq_left']

@[mk_iff]
inductive GostFault (host : LoadHost) (raw : RawConfig) : LoadError → Prop where
  | backend (path : String) (hpath : raw.gostEnginePath = some path)
    (h : raw.cryptoBackend ≠ .openssl) : GostFault host raw .gostEnginePathRequiresOpenssl
  | unreadable (path source : String) (hpath : raw.gostEnginePath = some path)
    (h : host.metadata path = .error source) :
    GostFault host raw (.gostEnginePathUnreadable path source)
  | noFile (path : String) (hpath : raw.gostEnginePath = some path)
    (h : host.metadata path = .ok false) :
    GostFault host raw
      (.gostEnginePathUnreadable path "gost_engine_path is not a regular file")

theorem validateGostEnginePath_finds (host : LoadHost) (raw : RawConfig) :
    Finds (validateGostEnginePath host raw) (GostFault host raw) := by
  rw [validateGostEnginePath]
  cases hpath : raw.gostEnginePath with
  | none => exact (Finds.pass none).congr fun e => by simp [gostFault_iff, hpath]
  | some path =>
    refine (Finds.guard fun _ => (?_ : Finds _ fun e : LoadError =>
      (∃ source, host.metadata path = .error source ∧ e = .gostEnginePathUnreadable path source) ∨
        host.metadata path = .ok false ∧ e = .gostEnginePathUnreadable path
          "gost_engine_path is not a regular file")).congr fun e => ?_
    · cases hmeta : host.metadata path with
      | error source => exact Finds.fail (.inl ⟨source, rfl, rfl⟩)
      | ok isFile => exact (Finds.require _ _).congr fun e => by simp
    · rw [gostFault_iff]
      simp [hpath]

@[mk_iff]
inductive LabelFault (field value : String) : Reason → Prop where
  | empty (h : value = "") : LabelFault field value (.labelEmpty field)
  | tooLong (h : value.utf8ByteSize > pkcs11LabelMaxLen) :
    LabelFault field value (.labelTooLong field value.utf8ByteSize)
  | withNul (h : '\x00' ∈ value.toList) : LabelFault field value (.labelWithNul field)

@[mk_iff]
inductive PromptFault (prompt : String) : Reason → Prop where
  | empty (h : prompt = "") : PromptFault prompt .promptEmpty
  | tooLong (h : prompt.utf8ByteSize > pkcs11PromptMaxLen) :
    PromptFault prompt (.promptTooLong prompt.utf8ByteSize)

@[mk_iff]
inductive Pkcs11Fault (raw : RawConfig) : Reason → Prop where
  | noModule (hmode : raw.mode = .pkcs11) (h : raw.pkcs11Module = none) :
    Pkcs11Fault raw .pkcs11ModuleMissing
  | tokenLabel (label : String) (r : Reason) (hlabel : raw.pkcs11TokenLabel = some label)
    (h : LabelFault "pkcs11_token_label" label r) : Pkcs11Fault raw r
  | objectLabel (label : String) (r : Reason) (hlabel : raw.pkcs11ObjectLabel = some label)
    (h : LabelFault "pkcs11_object_label" label r) : Pkcs11Fault raw r
  | attempts (h : raw.pkcs11MaxPinAttempts = 0 ∨ raw.pkcs11MaxPinAttempts > 5) :
    Pkcs11Fault raw (.pinAttempts raw.pkcs11MaxPinAttempts)
  | slotWait (h : raw.pkcs11SlotWaitSeconds > 60) :
    Pkcs11Fault raw (.slotWait raw.pkcs11SlotWaitSeconds)
  | prompt (prompt : String) (r : Reason) (hprompt : raw.pkcs11PinPrompt = some prompt)
    (h : PromptFault prompt r) : Pkcs11Fault raw r

theorem reject_finds (p : Prop) [Decidable p] (reason : Reason) :
    Finds (reject p reason) fun r => p ∧ r = reason :=
  Finds.reject reason ()

theorem checkSome_finds {value : Option String} {check : String → Except Reason Unit}
    {Fault : String → Reason → Prop} (h : ∀ text, Finds (check text) (Fault text)) :
    Finds (checkSome value check) fun r => ∃ text, value = some text ∧ Fault text r := by
  cases value with
  | none => exact (Finds.pass ()).congr fun r => by simp
  | some text => exact (h text).congr fun r => by simp

theorem validatePkcs11Label_finds (field value : String) :
    Finds (validatePkcs11Label field value) (LabelFault field value) := by
  refine ((reject_finds _ _).bind fun _ _ => (reject_finds _ _).bind fun _ _ =>
    reject_finds _ _).congr fun r => ?_
  rw [labelFault_iff]

theorem validatePkcs11Prompt_finds (prompt : String) :
    Finds (validatePkcs11Prompt prompt) (PromptFault prompt) := by
  refine ((reject_finds _ _).bind fun _ _ => reject_finds _ _).congr fun r => ?_
  rw [promptFault_iff]

theorem validatePkcs11Section_finds (raw : RawConfig) :
    Finds (validatePkcs11Section raw) (Pkcs11Fault raw) := by
  refine ((reject_finds _ _).bind fun _ _ =>
    (checkSome_finds (validatePkcs11Label_finds _)).bind fun _ _ =>
      (checkSome_finds (validatePkcs11Label_finds _)).bind fun _ _ =>
        (reject_finds _ _).bind fun _ _ => (reject_finds _ _).bind fun _ _ =>
          checkSome_finds validatePkcs11Prompt_finds).congr fun r => ?_
  have hattempts : ¬ (1 ≤ raw.pkcs11MaxPinAttempts ∧ raw.pkcs11MaxPinAttempts ≤ 5) ↔
      raw.pkcs11MaxPinAttempts = 0 ∨ raw.pkcs11MaxPinAttempts > 5 := by omega
  rw [pkcs11Fault_iff, hattempts, not_le, and_assoc]

@[mk_iff]
inductive PatternFault (raw : Option String) : Error → Prop where
  | empty (h : raw = some "") :
    PatternFault raw (.configInvalid "pkcs12_path_pattern must be non-empty when set")
  | absolute (value : String) (hvalue : raw = some value)
    (h : isAbsolute value.toList = true) :
    PatternFault raw (.configInvalid
      ("pkcs12_path_pattern must be a relative path under the USB " ++ "mountpoint (got " ++
        debugText value.toList ++ ")"))
  | dots (value : String) (hvalue : raw = some value)
    (h : ['.', '.'] ∈ value.toList.splitOn '/' ∨ ['.'] ∈ value.toList.splitOn '/') :
    PatternFault raw (.configInvalid
      ("pkcs12_path_pattern must not contain '..' or '.' segments (got " ++
        debugText value.toList ++ ")"))

theorem validatePkcs12PathPattern_finds (raw : Option String) :
    Finds (validatePkcs12PathPattern raw) (PatternFault raw) := by
  cases raw with
  | none => exact (Finds.pass none).congr fun e => by simp [patternFault_iff]
  | some value =>
    rw [validatePkcs12PathPattern]
    refine (Finds.guard fun _ => Finds.guard fun _ => Finds.reject _ _).congr fun e => ?_
    rw [patternFault_iff]
    simp

@[mk_iff]
inductive PartitionsFault (raw : Option ℕ) : Reason → Prop where
  | none (h : raw = some 0) : PartitionsFault raw .noPartitions
  | tooMany (v : ℕ) (hv : raw = some v) (h : v > maxUsbPartitionsHardCap) :
    PartitionsFault raw (.tooLarge "max_usb_partitions" maxUsbPartitionsHardCap v)

theorem validateMaxUsbPartitions_finds (raw : Option ℕ) :
    Finds (validateMaxUsbPartitions raw) (PartitionsFault raw) := by
  refine ((reject_finds _ _).bind fun _ _ => (reject_finds _ _).bind fun _ _ =>
    Finds.pass _).congr fun r => ?_
  rw [partitionsFault_iff]
  cases raw <;> simp [maxUsbPartitionsHardCap]

@[mk_iff]
inductive MonitorFault (raw : RawConfig) : Reason → Prop where
  | socketPath (h : isAbsolute raw.monitor.effectiveSocketPath.toList = false) :
    MonitorFault raw (.notAbsolute "monitor.socket_path" raw.monitor.effectiveSocketPath)
  | stateFilePath (h : isAbsolute raw.monitor.effectiveStateFilePath.toList = false) :
    MonitorFault raw (.notAbsolute "monitor.state_file_path" raw.monitor.effectiveStateFilePath)
  | timeout (ms : ℕ) (hms : raw.monitor.timeoutMs = some ms) (h : ms < 100 ∨ 60000 < ms) :
    MonitorFault raw (.outside "monitor.timeout_ms" 100 60000 ms)
  | failMode (text : String) (htext : raw.monitor.failMode = some text)
    (h : text ∉ ["strict", "permissive", "degraded"]) : MonitorFault raw (.failMode text)
  | hookPathMissing (haction : raw.removalAction = .hook)
    (h : raw.monitor.onUsbRemovedHookPath = none) : MonitorFault raw .hookPathMissing
  | hookPathRelative (path : String) (haction : raw.removalAction = .hook)
    (hpath : raw.monitor.onUsbRemovedHookPath = some path) (h : isAbsolute path.toList = false) :
    MonitorFault raw (.notAbsolute "monitor.on_usb_removed_hook_path" path)
  | hookPathUnused (path : String) (haction : raw.removalAction ≠ .hook)
    (hpath : raw.monitor.onUsbRemovedHookPath = some path) : MonitorFault raw .hookPathUnused
  | removalGrace (h : raw.removalGrace > 600) :
    MonitorFault raw (.tooLarge "monitor.usb_removed_grace_seconds" 600 raw.removalGrace)
  | suspendGrace (h : raw.suspendGrace > 600) :
    MonitorFault raw (.tooLarge "monitor.suspend_grace_seconds" 600 raw.suspendGrace)
  | idleTimeout (secs : ℕ) (hsecs : raw.monitor.idleTimeoutSeconds = some secs)
    (h : secs < 1 ∨ 3600 < secs) :
    MonitorFault raw (.outside "monitor.idle_timeout_seconds" 1 3600 secs)
  | connections (count : ℕ) (hcount : raw.monitor.maxConcurrentConnections = some count)
    (h : count < 1 ∨ 4096 < count) :
    MonitorFault raw (.outside "monitor.max_concurrent_connections" 1 4096 count)

theorem parseFailMode_finds (legacy : Ipc.MonitorFailMode) (raw : Option String) :
    Finds (parseFailMode legacy raw) fun r => ∃ text, raw = some text ∧
      text ∉ ["strict", "permissive", "degraded"] ∧ r = .failMode text := by
  unfold parseFailMode
  split
  all_goals first
    | exact (Finds.pass _).congr fun r => by simp
    | exact Finds.fail ⟨_, rfl, by simp; tauto, rfl⟩

theorem validateHookPath_finds (action : RemovalAction) (path : Option String) :
    Finds (validateHookPath action path) fun r =>
      (action = .hook ∧ path = none ∧ r = .hookPathMissing) ∨
        (∃ text, action = .hook ∧ path = some text ∧ isAbsolute text.toList = false ∧
          r = .notAbsolute "monitor.on_usb_removed_hook_path" text) ∨
          ∃ text, action ≠ .hook ∧ path = some text ∧ r = .hookPathUnused := by
  by_cases haction : action = .hook
  · subst haction
    cases path with
    | none => exact Finds.fail (.inl ⟨rfl, rfl, rfl⟩)
    | some text =>
      exact ((reject_finds _ _).bind fun _ _ => Finds.pass _).congr fun r => by simp
  · cases path with
    | none =>
      have hpath : validateHookPath action none = .ok none := by
        cases action <;> first | rfl | exact absurd rfl haction
      rw [hpath]
      exact (Finds.pass none).congr fun r => by simp [haction]
    | some text =>
      have hpath : validateHookPath action (some text) = .error .hookPathUnused := by
        cases action <;> first | rfl | exact absurd rfl haction
      rw [hpath]
      exact Finds.fail (.inr (.inr ⟨text, haction, rfl, rfl⟩))

/-- A bound on a value that may be absent, when the default lies within it. -/
theorem rejectOutside_finds (field : String) {low high fallback : ℕ} (value : Option ℕ)
    (hlow : low ≤ fallback) (hhigh : fallback ≤ high) :
    Finds (rejectOutside field low high (value.getD fallback)) fun r => ∃ v, value = some v ∧
      (v < low ∨ high < v) ∧ r = .outside field low high v := by
  refine (reject_finds _ _).congr fun r => ?_
  cases value with
  | none => simp [hlow, hhigh]
  | some v =>
    simp only [Option.getD_some, Option.some.injEq, not_and_or, not_le, exists_eq_left']

theorem validateMonitor_finds (raw : RawConfig) :
    Finds (validateMonitor raw) (MonitorFault raw) := by
  refine ((reject_finds _ _).bind fun _ _ => (reject_finds _ _).bind fun _ _ =>
    (rejectOutside_finds _ _ (by decide) (by decide)).bind fun _ _ =>
      (parseFailMode_finds _ _).bind fun _ _ => (validateHookPath_finds _ _).bind fun _ _ =>
        (reject_finds _ _).bind fun _ _ => (reject_finds _ _).bind fun _ _ =>
          (rejectOutside_finds _ _ (by decide) (by decide)).bind fun _ _ =>
            (rejectOutside_finds _ _ (by decide) (by decide)).bind fun _ _ =>
              Finds.pass _).congr fun r => ?_
  rw [monitorFault_iff]
  simp only [or_false, Bool.not_eq_true, or_assoc]
  rfl

@[mk_iff]
inductive CategoriesFault (text : String) : Reason → Prop where
  | tooLong (h : text.utf8ByteSize > macCategoriesHexMaxLen) :
    CategoriesFault text (.categoriesTooLong text.utf8ByteSize)
  | notHex (e : NumeralError) (hne : text ≠ "")
    (h : fromStrRadix 16 0 (2 ^ 64 - 1) text.toList = .error e) :
    CategoriesFault text (.categoriesNotHex e)

@[mk_iff]
inductive MacFault (astraMac : Bool) (raw : RawMacPolicy) : Reason → Prop where
  | disabledButRequired (hruntime : raw.runtime = some .disabled)
    (h : raw.certIntegrity = some .required) : MacFault astraMac raw .disabledButRequired
  | integrityNotBuilt (hbuild : astraMac = false) (h : raw.certIntegrity = some .required) :
    MacFault astraMac raw .integrityNotBuilt
  | runtimeNotBuilt (hbuild : astraMac = false) (h : raw.runtime = some .required) :
    MacFault astraMac raw .runtimeNotBuilt
  | categories (label : RawIntegrityLabel) (r : Reason)
    (hlabel : raw.fallbackMaxIntegrity = some label) (h : CategoriesFault label.categories r) :
    MacFault astraMac raw r

theorem parseCategories_finds (text : String) :
    Finds (parseCategories text) (CategoriesFault text) := by
  rw [parseCategories]
  by_cases hempty : text = ""
  · subst hempty
    exact (Finds.pass 0).congr fun r => by simp [categoriesFault_iff]
  · rw [if_neg hempty]
    by_cases hlen : text.utf8ByteSize > macCategoriesHexMaxLen
    · rw [if_pos hlen]
      exact Finds.fail (.tooLong hlen)
    · rw [if_neg hlen]
      cases hparse : fromStrRadix 16 0 (2 ^ 64 - 1) text.toList with
      | error e => exact Finds.fail (.notHex e hempty hparse)
      | ok v =>
        refine (Finds.pass _).congr fun r => ⟨False.elim, fun h => ?_⟩
        cases h with
        | tooLong h => exact hlen h
        | notHex e _ h =>
          rw [hparse] at h
          cases h

theorem validateLabel_finds (raw : Option RawIntegrityLabel) :
    Finds (validateLabel raw) fun r => ∃ label, raw = some label ∧
      CategoriesFault label.categories r := by
  cases raw with
  | none => exact (Finds.pass none).congr fun r => by simp
  | some label =>
    exact ((parseCategories_finds label.categories).bind fun _ _ => Finds.pass _).congr
      fun r => by simp

theorem validateMac_finds (astraMac : Bool) (raw : RawMacPolicy) :
    Finds (validateMac astraMac raw) (MacFault astraMac raw) := by
  refine ((reject_finds _ _).bind fun _ _ => (reject_finds _ _).bind fun _ _ =>
    (reject_finds _ _).bind fun _ _ => (validateLabel_finds _).bind fun _ _ =>
      Finds.pass _).congr fun r => ?_
  have hintegrity : raw.certIntegrity.getD .optional = .required ↔
      raw.certIntegrity = some .required := by cases raw.certIntegrity <;> simp
  have hdisabled : raw.runtime.getD .auto = .disabled ↔ raw.runtime = some .disabled := by
    cases raw.runtime <;> simp
  have hrequired : raw.runtime.getD .auto = .required ↔ raw.runtime = some .required := by
    cases raw.runtime <;> simp
  rw [macFault_iff, hintegrity, hdisabled, hrequired]
  simp only [or_false, and_assoc]

/-- A colour in the form `#RRGGBB` or `#RRGGBBAA`. -/
def IsHexColor (s : String) : Prop :=
  ∃ digits, s.toList = '#' :: digits ∧ (∀ c ∈ digits, isAsciiHexdigit c = true) ∧
    (digits.length = 6 ∨ digits.length = 8)

@[mk_iff]
inductive GreeterFault (raw : RawFlyDmGreeter) : Reason → Prop where
  | target (path : String) (hpath : raw.wallpaperTarget = some path)
      (h : isAbsolute path.toList = false) :
    GreeterFault raw (.notAbsolute "fly_dm_greeter.wallpaper_target" path)
  | backup (path : String) (hpath : raw.wallpaperBackup = some path)
      (h : isAbsolute path.toList = false) :
    GreeterFault raw (.notAbsolute "fly_dm_greeter.wallpaper_backup" path)
  | font (path : String) (hpath : raw.wallpaperFont = some path)
      (h : isAbsolute path.toList = false) :
    GreeterFault raw (.notAbsolute "fly_dm_greeter.wallpaper_font" path)
  | textColor (text : String) (htext : raw.wallpaperTextColor = some text) (h : ¬ IsHexColor text) :
    GreeterFault raw (.textColor text)
  | gravity (text : String) (htext : raw.wallpaperGravity = some text)
    (h : toAsciiLowercase text ∉ ["north", "south", "east", "west", "center", "centre"]) :
    GreeterFault raw (.gravity text)
  | fontSize (h : raw.wallpaperFontSize = some 0) : GreeterFault raw .fontSizeZero

theorem parseOr_finds {α : Type} {parse : String → Option α} {reason : String → Reason}
    {fallback : α} {Bad : String → Prop} (h : ∀ text, parse text = none ↔ Bad text)
    (value : Option String) :
    Finds (parseOr parse reason fallback value) fun r => ∃ text, value = some text ∧ Bad text ∧
      r = reason text := by
  cases value with
  | none => exact (Finds.pass fallback).congr fun r => by simp
  | some text =>
    cases hparse : parse text with
    | none =>
      rw [parseOr, hparse]
      exact Finds.fail ⟨text, rfl, (h text).mp hparse, rfl⟩
    | some v =>
      rw [parseOr, hparse]
      exact (Finds.pass v).congr fun r => by simp [← h, hparse]

theorem absolutePath_finds (field : String) (value : Option String) (fallback : String) :
    Finds (absolutePath field value fallback) fun r => ∃ path, value = some path ∧
      isAbsolute path.toList = false ∧ r = .notAbsolute ("fly_dm_greeter." ++ field) path :=
  parseOr_finds (fun path => by simp) value

theorem parseGravity_eq_none_iff (text : String) :
    parseGravity text = none ↔
      toAsciiLowercase text ∉ ["north", "south", "east", "west", "center", "centre"] := by
  unfold parseGravity
  split
  all_goals first
    | simp [*]; done
    | simp; tauto

theorem toDigit_of_isAsciiHexdigit {c : Char} (h : isAsciiHexdigit c = true) :
    ∃ d < 16, toDigit 16 c = some d := by
  have hle (a b : Char) : a ≤ b ↔ a.toNat ≤ b.toNat := Iff.rfl
  simp only [isAsciiHexdigit, Bool.or_eq_true, Bool.and_eq_true, decide_eq_true_eq, hle,
    Char.reduceToNat] at h
  simp only [toDigit, hle, Char.reduceToNat]
  rcases h with (h | h) | h
  · rw [if_pos h]
    exact ⟨c.toNat - 48, by omega, by simp; omega⟩
  · rw [if_neg (by omega), if_pos (by omega)]
    exact ⟨c.toNat - 87, by omega, by simp; omega⟩
  · rw [if_neg (by omega), if_neg (by omega), if_pos (by omega)]
    exact ⟨c.toNat - 55, by omega, by simp; omega⟩

theorem parseHexByte_isSome {a b : Char} (ha : isAsciiHexdigit a = true)
    (hb : isAsciiHexdigit b = true) : ∃ v, parseHexByte [a, b] = some v := by
  obtain ⟨d, hd, hdigit⟩ := toDigit_of_isAsciiHexdigit ha
  obtain ⟨d', hd', hdigit'⟩ := toDigit_of_isAsciiHexdigit hb
  have hplus : a ≠ '+' := by rintro rfl; exact absurd ha (by decide)
  have hminus : a ≠ '-' := by rintro rfl; exact absurd ha (by decide)
  have hread : fromStrRadix 16 0 255 [a, b] = .ok (d * 16 + d' : ℤ) := by
    rw [fromStrRadix_of_digit hplus hminus]
    simp only [readDigits, hdigit, hdigit', signed, Bool.false_eq_true, if_false]
    rw [if_pos (by omega), if_pos (by omega)]
    simp
  rw [parseHexByte, hread]
  exact ⟨_, rfl⟩

theorem parseHexByte_slice {digits : List Char} (h : ∀ c ∈ digits, isAsciiHexdigit c = true)
    {k : ℕ} (hk : k + 2 ≤ digits.length) :
    ∃ v, parseHexByte ((digits.drop k).take 2) = some v := by
  have hlength : ((digits.drop k).take 2).length = 2 := by simp; omega
  obtain ⟨a, b, hpair⟩ := List.length_eq_two.mp hlength
  have hmem (c : Char) (hc : c ∈ [a, b]) : isAsciiHexdigit c = true :=
    h c (List.mem_of_mem_drop (List.mem_of_mem_take (hpair ▸ hc)))
  rw [hpair]
  exact parseHexByte_isSome (hmem a (by simp)) (hmem b (by simp))

-- The red, green and blue of a colour, with or without an alpha behind them.
theorem parseHexByte_channels {digits : List Char} (h : ∀ c ∈ digits, isAsciiHexdigit c = true)
    (hlength : 6 ≤ digits.length) :
    ∃ r g b, parseHexByte (digits.take 2) = some r ∧
      parseHexByte ((digits.drop 2).take 2) = some g ∧
      parseHexByte ((digits.drop 4).take 2) = some b := by
  obtain ⟨r, hr⟩ := parseHexByte_slice h (k := 0) (by omega)
  obtain ⟨g, hg⟩ := parseHexByte_slice h (k := 2) (by omega)
  obtain ⟨b, hb⟩ := parseHexByte_slice h (k := 4) (by omega)
  exact ⟨r, g, b, hr, hg, hb⟩

theorem parseHexColor_eq_none_iff (text : String) :
    parseHexColor text = none ↔ ¬ IsHexColor text := by
  unfold parseHexColor
  split
  · next digits hdigits =>
    have hcolor : IsHexColor text ↔ (∀ c ∈ digits, isAsciiHexdigit c = true) ∧
        (digits.length = 6 ∨ digits.length = 8) := by
      simp [IsHexColor, hdigits]
    rw [hcolor]
    by_cases hhex : ∀ c ∈ digits, isAsciiHexdigit c = true
    · have hall : ¬ ¬ digits.all isAsciiHexdigit = true := by simpa using hhex
      rw [if_neg hall]
      by_cases hsix : digits.length = 6
      · rw [if_pos hsix]
        obtain ⟨r, g, b, hr, hg, hb⟩ := parseHexByte_channels hhex (by omega)
        simpa [hr, hg, hb, hsix] using hhex
      · rw [if_neg hsix]
        by_cases height : digits.length = 8
        · rw [if_pos height]
          obtain ⟨r, g, b, hr, hg, hb⟩ := parseHexByte_channels hhex (by omega)
          obtain ⟨a, ha⟩ := parseHexByte_slice hhex (k := 6) (by omega)
          simpa [hr, hg, hb, ha, height] using hhex
        · simp [hsix, height]
    · have hall : ¬ digits.all isAsciiHexdigit = true := by simpa using hhex
      rw [if_pos hall]
      exact ⟨fun _ h => hhex h.1, fun _ => rfl⟩
  · next hother =>
    refine ⟨fun _ h => ?_, fun _ => rfl⟩
    obtain ⟨digits, hdigits, -⟩ := h
    exact hother digits hdigits

theorem validateFlyDmGreeter_finds (raw : Option RawFlyDmGreeter) :
    Finds (validateFlyDmGreeter raw) fun r => ∃ greeter, raw = some greeter ∧
      GreeterFault greeter r := by
  cases raw with
  | none => exact (Finds.pass _).congr fun r => by simp
  | some raw =>
    refine ((absolutePath_finds _ _ _).bind fun _ _ => (absolutePath_finds _ _ _).bind fun _ _ =>
      (absolutePath_finds _ _ _).bind fun _ _ =>
        (parseOr_finds parseHexColor_eq_none_iff _).bind fun _ _ =>
          (parseOr_finds parseGravity_eq_none_iff _).bind fun _ _ =>
            (reject_finds _ _).bind fun _ _ => Finds.pass _).congr fun r => ?_
    have hsize : raw.wallpaperFontSize.getD FlyDmGreeterSection.default.wallpaperFontSize = 0 ↔
        raw.wallpaperFontSize = some 0 := by
      cases raw.wallpaperFontSize <;> simp [FlyDmGreeterSection.default]
    simp only [Option.some.injEq, exists_eq_left', greeterFault_iff, or_false, hsize]
    rfl

/-- Something in the file that validation has to refuse, with the error it is refused
with. -/
@[mk_iff]
inductive Fault (host : LoadHost) (raw : RawConfig) : LoadError → Prop where
  | trust {e : Error} (h : TrustFault host.fs raw.trust e) : Fault host raw (.config e)
  | hostIdentity {e : Error} (h : HostIdentityFault raw.hostIdentity e) :
    Fault host raw (.config e)
  | userMapping {r : Reason} (h : MappingFault raw.userMapping r) : Fault host raw (.invalid r)
  | logging {r : Reason} (h : LoggingFault raw.logging r) : Fault host raw (.invalid r)
  | hook {e : HookValidationError} (h : ∃ hook ∈ raw.hooks, HookFault hook e) :
    Fault host raw (.hookValidation e)
  | gost {e : LoadError} (h : GostFault host raw e) : Fault host raw e
  | pkcs11 {r : Reason} (h : Pkcs11Fault raw r) : Fault host raw (.invalid r)
  | pattern {e : Error} (h : PatternFault raw.pkcs12PathPattern e) : Fault host raw (.config e)
  | partitions {r : Reason} (h : PartitionsFault raw.maxUsbPartitions r) :
    Fault host raw (.invalid r)
  | monitor {r : Reason} (h : MonitorFault raw r) : Fault host raw (.invalid r)
  | override {e : Error} (h : ∃ entry ∈ raw.trustOverride, OverrideFault host.fs entry e) :
    Fault host raw (.config e)
  | mac {r : Reason} (h : MacFault host.astraMac raw.mac r) : Fault host raw (.invalid r)
  | greeter {r : Reason} (h : ∃ greeter, raw.flyDmGreeter = some greeter ∧ GreeterFault greeter r) :
    Fault host raw (.invalid r)

/-- A file is accepted exactly if nothing in it has to be refused, and the error of a file
that is not accepted is one that something in it has to be refused with, whatever else is
wrong and in whatever order the sections are looked at. -/
theorem tryFrom_finds_faults (host : LoadHost) (raw : RawConfig) :
    ((∃ cfg, tryFrom host raw = .ok cfg) ↔ ∀ e, ¬ Fault host raw e) ∧
      ∀ e, tryFrom host raw = .error e → Fault host raw e := by
  have hfinds : Finds (tryFrom host raw) (Fault host raw) := by
    refine ((validateTrust_finds host.fs raw.trust).mapError.bind fun _ _ =>
      (validateHostIdentity_finds raw.hostIdentity).mapError.bind fun _ _ =>
        (validateUserMappings_finds raw.userMapping).mapError.bind fun _ _ =>
          (validateLogging_finds raw.logging).mapError.bind fun _ _ =>
            (Finds.mapM raw.hooks validateHook_finds).mapError.bind fun _ _ =>
              (validateGostEnginePath_finds host raw).bind fun _ _ =>
                (validatePkcs11Section_finds raw).mapError.bind fun _ _ =>
                  (validatePkcs12PathPattern_finds _).mapError.bind fun _ _ =>
                    (validateMaxUsbPartitions_finds _).mapError.bind fun _ _ =>
                      (validateMonitor_finds raw).mapError.bind fun _ _ =>
                        (Finds.mapM raw.trustOverride
                          (validateTrustOverride_finds host.fs)).mapError.bind fun _ _ =>
                          (validateMac_finds _ _).mapError.bind fun _ _ =>
                            (validateFlyDmGreeter_finds _).mapError.bind fun _ _ =>
                              Finds.pass _).congr fun e => ?_
    rw [fault_iff]
    simp only [or_false]
  exact ⟨hfinds.passes_iff, fun e => hfinds.reported⟩

end PamCertauth.Config
