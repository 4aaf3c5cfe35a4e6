import PamCertauth.HookProcesses
import PamCertauth.HostIdReports
import PamCertauth.SessionEntries
import PamCertauth.TokenGates

/-!
# The host as hooks see it

The entry point resolves a raw host identity and its hash, and keeps the hash alone. It goes
through `Deps` and the context of the login to the values of the hooks, where it is given out
both as `host_id` and as `host_id_hash`. Every value that a run hands to a hook is followed
here, from the hooks before a login to those at the end of the session.
-/

namespace PamCertauth.HookHostIds

open X509 X509.CryptoLibrary Hooks PamCertauth.Flow Session HostIdentity

/-- Both values for the host are this text. -/
def BothAre (hash : String) (vars : HookVars) : Prop :=
  vars.hostId = some hash ∧ vars.hostIdHash = some hash

section

variable {σ X509 : Type} [CryptoLibrary X509]

/-- A hook among the calls of a login gets the text for both values. -/
def CallGives (hash : String) : Call X509 → Prop
  | .hook _ vars _ => BothAre hash vars
  | _ => True

theorem callGives_of_quiet {hash : String} {c : Call X509} (h : c.Quiet) : CallGives hash c := by
  cases c <;> trivial

theorem logsOnly_of_quiet {ε α : Type} {p : Prog σ (Call X509) ε α} (hash : String)
    (h : Prog.LogsOnly Call.Quiet p) : Prog.LogsOnly (CallGives hash) p :=
  h.mono fun _ => callGives_of_quiet

variable {deps : Deps σ X509} {platform : Platform σ X509} {promptPin : PinPrompter σ}
  {login : Login}

theorem preAuthHooks_gives :
    Prog.LogsOnly (CallGives deps.hostIdHash) (preAuthHooks deps login) := by
  apply Prog.LogsOnly.mapError
  apply runHooksForStage_logsOnly
  intro hook _ outcome
  exact ⟨rfl, rfl⟩

theorem assembleContext_hostId {leaf : Certificate X509} {verified : Stage2VerifiedChain X509}
    {usbSerial usbVidPid : Option String} {ctx : AuthContext} {s s' : σ} {log : List (Call X509)}
    (h : assembleContext deps platform login leaf verified usbSerial usbVidPid s =
      ⟨.ok ctx, s', log⟩) : ctx.hostId = deps.hostIdHash := by
  obtain ⟨label, s₁, t₁, u₁, -, h₁, rfl⟩ := Prog.bind_eq_ok_iff.mp h
  obtain ⟨homeDir, s₂, t₂, u₂, -, h₂, rfl⟩ := Prog.bind_eq_ok_iff.mp h₁
  obtain ⟨now, s₃, t₃, u₃, -, hpure, rfl⟩ := Prog.bind_eq_ok_iff.mp h₂
  cases hpure
  rfl

theorem concludeLogin_gives {leaf : Certificate X509} {ctx : AuthContext}
    {mount : Option MountSession} (hctx : ctx.hostId = deps.hostIdHash) :
    Prog.LogsOnly (CallGives deps.hostIdHash)
      (concludeLogin deps platform login leaf ctx mount) := by
  refine Prog.LogsOnly.bind (Prog.LogsOnly.mapError ?_) fun _ => ?_
  · apply runHooksForStage_logsOnly
    intro hook _ outcome
    rw [← hctx]
    exact ⟨rfl, rfl⟩
  · refine Prog.LogsOnly.bind ?_ fun _ => Prog.LogsOnly.pure _
    refine Prog.LogsOnly.bind ?_ fun uid => ?_
    · refine Prog.LogsOnly.bind (Prog.LogsOnly.call fun _ => trivial) fun answer => ?_
      split <;> exact Prog.LogsOnly.pure _
    · exact Prog.LogsOnly.bind (Prog.LogsOnly.call fun _ => trivial) fun _ => Prog.LogsOnly.pure _

theorem authenticatePkcs12_gives {io : FlowIo σ} :
    Prog.LogsOnly (CallGives deps.hostIdHash)
      (authenticatePkcs12 deps platform io promptPin login) := by
  refine preAuthHooks_gives.bind fun _ => ?_
  refine Prog.LogsOnly.bind (logsOnly_of_quiet _ (ask_quiet fun _ => trivial)) fun devices => ?_
  refine Prog.LogsOnly.bind (logsOnly_of_quiet _ bindCandidate_quiet) fun bound => ?_
  refine Prog.LogsOnly.onFailure ?_ (logsOnly_of_quiet _ (notify_quiet trivial))
  refine Prog.LogsOnly.bind (logsOnly_of_quiet _ pkcs12Checks_quiet) fun checked => ?_
  refine Prog.LogsOnly.bind (Prog.LogsOnly.ofExcept _) fun _ => ?_
  refine Prog.LogsOnly.bind_of_result (logsOnly_of_quiet _ assembleContext_quiet)
    (fun _ _ _ _ => assembleContext_hostId) fun ctx hctx => ?_
  exact concludeLogin_gives hctx

theorem withSession_hostId {session : Pkcs11Session σ} {tokenSerial : String}
    {passed : Certificate X509 × AuthContext} {s s' : σ} {log : List (Call X509)}
    (h : withSession deps platform login session tokenSerial s = ⟨.ok passed, s', log⟩) :
    passed.2.hostId = deps.hostIdHash := by
  obtain ⟨passed', s₁, t₁, u₁, hpassed, h₁, rfl⟩ := Prog.bind_eq_ok_iff.mp h
  obtain ⟨⟨⟩, s₂, t₂, u₂, -, hpure, rfl⟩ := Prog.bind_eq_ok_iff.mp h₁
  cases hpure
  have hbody := Prog.onFailure_eq_ok_iff.mp hpassed
  obtain ⟨checked, s₃, t₃, u₃, -, h₃, rfl⟩ := Prog.bind_eq_ok_iff.mp hbody
  obtain ⟨⟨⟩, s₄, t₄, u₄, -, h₄, rfl⟩ := Prog.bind_eq_ok_iff.mp h₃
  obtain ⟨ctx, s₅, t₅, u₅, hctx, hpure, rfl⟩ := Prog.bind_eq_ok_iff.mp h₄
  cases hpure
  exact assembleContext_hostId hctx

theorem authenticatePkcs11_gives {io : Pkcs11Io σ} :
    Prog.LogsOnly (CallGives deps.hostIdHash)
      (authenticatePkcs11 deps platform io promptPin login) := by
  refine preAuthHooks_gives.bind fun _ => ?_
  refine Prog.LogsOnly.bind (logsOnly_of_quiet _ (ask_quiet fun _ => trivial)) fun slot => ?_
  refine Prog.LogsOnly.bind (logsOnly_of_quiet _ (ask_quiet fun _ => trivial)) fun serial => ?_
  refine Prog.LogsOnly.bind (logsOnly_of_quiet _ acquireSession_quiet) fun session => ?_
  refine Prog.LogsOnly.bind_of_result (logsOnly_of_quiet _ withSession_quiet)
    (fun _ _ _ _ => withSession_hostId) fun passed hctx => ?_
  exact concludeLogin_gives hctx

theorem authenticatePkcs12_hostId {io : FlowIo σ} {outcome : FlowOutcome} {s s' : σ}
    {log : List (Call X509)}
    (h : authenticatePkcs12 deps platform io promptPin login s = ⟨.ok outcome, s', log⟩) :
    outcome.authCtx.hostId = deps.hostIdHash := by
  obtain ⟨⟨⟩, s₁, t₁, u₁, -, h₁, rfl⟩ := Prog.bind_eq_ok_iff.mp h
  obtain ⟨devices, s₂, t₂, u₂, -, h₂, rfl⟩ := Prog.bind_eq_ok_iff.mp h₁
  obtain ⟨bound, s₃, t₃, u₃, -, h₃, rfl⟩ := Prog.bind_eq_ok_iff.mp h₂
  obtain ⟨checked, s₄, t₄, u₄, -, h₄, rfl⟩ :=
    Prog.bind_eq_ok_iff.mp (Prog.onFailure_eq_ok_iff.mp h₃)
  obtain ⟨⟨⟩, s₅, t₅, u₅, -, h₅, rfl⟩ := Prog.bind_eq_ok_iff.mp h₄
  obtain ⟨ctx, s₆, t₆, u₆, hctx, h₆, rfl⟩ := Prog.bind_eq_ok_iff.mp h₅
  rw [concludeLogin_authCtx h₆]
  exact assembleContext_hostId hctx

theorem authenticatePkcs11_hostId {io : Pkcs11Io σ} {outcome : FlowOutcome} {s s' : σ}
    {log : List (Call X509)}
    (h : authenticatePkcs11 deps platform io promptPin login s = ⟨.ok outcome, s', log⟩) :
    outcome.authCtx.hostId = deps.hostIdHash := by
  obtain ⟨⟨⟩, s₁, t₁, u₁, -, h₁, rfl⟩ := Prog.bind_eq_ok_iff.mp h
  obtain ⟨slot, s₂, t₂, u₂, -, h₂, rfl⟩ := Prog.bind_eq_ok_iff.mp h₁
  obtain ⟨serial, s₃, t₃, u₃, -, h₃, rfl⟩ := Prog.bind_eq_ok_iff.mp h₂
  obtain ⟨session, s₄, t₄, u₄, -, h₄, rfl⟩ := Prog.bind_eq_ok_iff.mp h₃
  obtain ⟨passed, s₅, t₅, u₅, hctx, h₅, rfl⟩ := Prog.bind_eq_ok_iff.mp h₄
  rw [concludeLogin_authCtx h₅]
  exact withSession_hostId hctx

end

section

variable {σ : Type} {host : SessionHost σ} {hash : String}

/-- A hook among the events of a session gets the text for both values. -/
def EventGives (hash : String) : SessionEvent → Prop
  | .hook _ vars _ => BothAre hash vars
  | _ => True

theorem logsOnly_of_neutral {ε α : Type} {p : Prog σ SessionEvent ε α} (hash : String)
    (h : Prog.LogsOnly SessionEvent.Neutral p) : Prog.LogsOnly (EventGives hash) p := by
  refine h.mono fun event hneutral => ?_
  cases event <;> trivial

theorem runOpenSessionPipeline_gives {cfg : SessionConfig} {ctx : AuthContext} {pamUser : String} :
    Prog.LogsOnly (EventGives hash) (runOpenSessionPipeline host cfg ctx pamUser) := by
  refine (logsOnly_of_neutral hash (buildBackend_neutral host _)).bind fun backend => ?_
  refine Prog.LogsOnly.bind (Prog.LogsOnly.attempt (Prog.LogsOnly.mapCalls fun _ => trivial))
    fun result => ?_
  split
  · exact Prog.LogsOnly.pure _
  · refine Prog.LogsOnly.bind ?_ fun _ => Prog.LogsOnly.fail _
    refine Prog.LogsOnly.bind ?_ fun _ => Prog.LogsOnly.pure _
    refine Prog.LogsOnly.bind ?_ fun answer => Prog.LogsOnly.call fun _ => trivial
    exact Prog.LogsOnly.attempt (Prog.LogsOnly.mapCalls fun _ => trivial)

theorem openSession_gives {cfg : SessionConfig} {ctx : AuthContext} (hctx : ctx.hostId = hash) :
    Prog.LogsOnly (EventGives hash) (openSession host cfg ctx) := by
  refine (logsOnly_of_neutral hash (sessionUser_neutral host ctx)).bind fun pamUser => ?_
  refine runOpenSessionPipeline_gives.bind fun _ => ?_
  refine (logsOnly_of_neutral hash (captureSessionTarget_neutral host cfg ctx)).bind fun _ => ?_
  apply Prog.LogsOnly.mapError
  apply runHooksForStage_logsOnly
  intro hook _ outcome
  rw [← hctx]
  exact ⟨rfl, rfl⟩

theorem closeSession_gives {cfg : SessionConfig} {ctx : AuthContext} (hctx : ctx.hostId = hash) :
    Prog.LogsOnly (EventGives hash) (Session.closeSession host cfg ctx) := by
  refine (logsOnly_of_neutral hash (sessionUser_neutral host ctx)).bind fun pamUser => ?_
  refine Prog.LogsOnly.bind (Prog.LogsOnly.attempt ?_) fun _ => Prog.LogsOnly.pure _
  apply runHooksForStage_logsOnly
  intro hook _ outcome
  rw [← hctx]
  exact ⟨rfl, rfl⟩

/-- Every context that the host stores is of this machine. -/
def StoresContextsOf (host : SessionHost σ) (hash : String) : Prop :=
  ∀ s ctx, (host.getAuthContext s).1 = some ctx → ctx.hostId = hash

theorem getAuthContext_hostId (hstored : StoresContextsOf host hash) {ε : Type} {s s' : σ}
    {found : Option AuthContext} {t : List SessionEvent}
    (h : (Prog.call host.getAuthContext .getAuthContext : Prog σ SessionEvent ε _) s =
      ⟨.ok found, s', t⟩) : ∀ ctx, found = some ctx → ctx.hostId = hash := by
  obtain ⟨hop, -⟩ := Prog.call_eq_ok_iff.mp h
  intro ctx hctx
  exact hstored s ctx (by rw [hop, hctx])

theorem pamSmOpenSession_gives (hstored : StoresContextsOf host hash) :
    Prog.LogsOnly (EventGives hash) (pamSmOpenSession host) := by
  refine Prog.LogsOnly.bind (Prog.LogsOnly.request fun _ => trivial) fun cfg => ?_
  refine Prog.LogsOnly.bind_of_result (Prog.LogsOnly.call fun _ => trivial)
    (fun _ _ _ _ => getAuthContext_hostId hstored) fun found hfound => ?_
  split
  · exact Prog.LogsOnly.fail _
  · next ctx => exact openSession_gives (hfound ctx rfl)

theorem pamSmCloseSession_gives (hstored : StoresContextsOf host hash) :
    Prog.LogsOnly (EventGives hash) (pamSmCloseSession host) := by
  refine Prog.LogsOnly.bind (Prog.LogsOnly.call fun _ => trivial) fun loaded => ?_
  split
  · exact Prog.LogsOnly.pure _
  · refine Prog.LogsOnly.bind_of_result (Prog.LogsOnly.call fun _ => trivial)
      (fun _ _ _ _ => getAuthContext_hostId hstored) fun found hfound => ?_
    split
    · exact Prog.LogsOnly.pure _
    · next ctx => exact closeSession_gives (hfound ctx rfl)

end

section

variable (X509 : Type) [CryptoLibrary X509] (source : HostIdSourceKind) (hash : String)

/-- The flow runs with this identity of the host. -/
def HasIdentity {σ : Type} {X509 : Type} [CryptoLibrary X509] (deps : Deps σ X509)
    (source : HostIdSourceKind) (hash : String) : Prop :=
  deps.hostIdHash = hash ∧ deps.hostIdSource = source

/-- A login with this identity leaves the context. -/
inductive LeftByLogin : AuthContext → Prop where
  | pkcs12 {σ : Type} {deps : Deps σ X509} {platform : Platform σ X509} {io : FlowIo σ}
      {promptPin : PinPrompter σ} {login : Login} {outcome : FlowOutcome} {s s' : σ}
      {log : List (Call X509)} (hdeps : HasIdentity deps source hash)
      (hrun : authenticatePkcs12 deps platform io promptPin login s = ⟨.ok outcome, s', log⟩) :
      LeftByLogin outcome.authCtx
  | pkcs11 {σ : Type} {deps : Deps σ X509} {platform : Platform σ X509} {io : Pkcs11Io σ}
      {promptPin : PinPrompter σ} {login : Login} {outcome : FlowOutcome} {s s' : σ}
      {log : List (Call X509)} (hdeps : HasIdentity deps source hash)
      (hrun : authenticatePkcs11 deps platform io promptPin login s = ⟨.ok outcome, s', log⟩) :
      LeftByLogin outcome.authCtx

/-- A login with this identity, or a session of such a login, runs a hook with the values. -/
inductive HandedToHook : HookVars → Prop where
  | pkcs12 {σ : Type} {deps : Deps σ X509} {platform : Platform σ X509} {io : FlowIo σ}
      {promptPin : PinPrompter σ} {login : Login} {s : σ} {hook : HookConfig} {vars : HookVars}
      {outcome : Except HookError HookOutcome} (hdeps : HasIdentity deps source hash)
      (hcall : .hook hook vars outcome ∈
        (authenticatePkcs12 deps platform io promptPin login s).calls) : HandedToHook vars
  | pkcs11 {σ : Type} {deps : Deps σ X509} {platform : Platform σ X509} {io : Pkcs11Io σ}
      {promptPin : PinPrompter σ} {login : Login} {s : σ} {hook : HookConfig} {vars : HookVars}
      {outcome : Except HookError HookOutcome} (hdeps : HasIdentity deps source hash)
      (hcall : .hook hook vars outcome ∈
        (authenticatePkcs11 deps platform io promptPin login s).calls) : HandedToHook vars
  | opening {σ : Type} {host : SessionHost σ} {s : σ} {hook : HookConfig} {vars : HookVars}
      {outcome : Except HookError HookOutcome}
      (hstored : ∀ s ctx, (host.getAuthContext s).1 = some ctx →
        LeftByLogin X509 source hash ctx)
      (hcall : .hook hook vars outcome ∈ (pamSmOpenSession host s).calls) : HandedToHook vars
  | closing {σ : Type} {host : SessionHost σ} {s : σ} {hook : HookConfig} {vars : HookVars}
      {outcome : Except HookError HookOutcome}
      (hstored : ∀ s ctx, (host.getAuthContext s).1 = some ctx →
        LeftByLogin X509 source hash ctx)
      (hcall : .hook hook vars outcome ∈ (pamSmCloseSession host s).calls) : HandedToHook vars

variable {X509 source hash}

theorem LeftByLogin.hostId_eq {ctx : AuthContext} (h : LeftByLogin X509 source hash ctx) :
    ctx.hostId = hash := by
  cases h with
  | pkcs12 hdeps hrun => exact (authenticatePkcs12_hostId hrun).trans hdeps.1
  | pkcs11 hdeps hrun => exact (authenticatePkcs11_hostId hrun).trans hdeps.1

theorem HandedToHook.bothAre {vars : HookVars} (h : HandedToHook X509 source hash vars) :
    BothAre hash vars := by
  cases h with
  | pkcs12 hdeps hcall => exact hdeps.1 ▸ authenticatePkcs12_gives _ _ hcall
  | pkcs11 hdeps hcall => exact hdeps.1 ▸ authenticatePkcs11_gives _ _ hcall
  | opening hstored hcall =>
    exact pamSmOpenSession_gives (fun s ctx hctx => (hstored s ctx hctx).hostId_eq) _ _ hcall
  | closing hstored hcall =>
    exact pamSmCloseSession_gives (fun s ctx hctx => (hstored s ctx hctx).hostId_eq) _ _ hcall

/-- What the placeholder for the host, and the one for its hash, render to. -/
def renderedHostId (vars : HookVars) : Except HookError String :=
  renderTemplate vars [.var .hostId]

def renderedHostIdHash (vars : HookVars) : Except HookError String :=
  renderTemplate vars [.var .hostIdHash]

theorem BothAre.renderedHostId {vars : HookVars} (h : BothAre hash vars) :
    renderedHostId vars = .ok hash := by
  simp [HookHostIds.renderedHostId, renderTemplate, renderParts, renderPart, HookVars.resolve, h.1]

theorem BothAre.renderedHostIdHash {vars : HookVars} (h : BothAre hash vars) :
    renderedHostIdHash vars = .ok hash := by
  simp [HookHostIds.renderedHostIdHash, renderTemplate, renderParts, renderPart, HookVars.resolve,
    h.2]

/-- A hook before every login that has to succeed. -/
def guardHook : HookConfig where
  stage := .preAuth
  command := ["/usr/local/bin/guard"]
  timeout := Duration.fromSecs 10
  onFailure := .abort
  runAs := .root
  env := [("HOST", [.var .hostId]), ("HASH", [.var .hostIdHash])]

/-- A machine whose hook before a login cannot be started. -/
def guardedDeps (X509 : Type) [CryptoLibrary X509] (source : HostIdSourceKind) (hash : String) :
    Deps Unit X509 where
  cfg := { Wiring.recordConfig (Wiring.recordTrust .none [] ⟨false, []⟩) with
    hooks := [guardHook] }
  trustVerify _ _ s := (.error .anchorMismatch, s)
  monitor := Ipc.wiredMonitor Wiring.refusedLink ⟨"/run/monitord.sock", Duration.fromSecs 2⟩ .strict
  hookExecutor _ _ s := (.error (.fork "EAGAIN"), s)
  hostIdHash := hash
  hostIdSource := source
  userMappings := []
  pamTarget := .tty "/dev/tty1"

def guardedPlatform (X509 : Type) [CryptoLibrary X509] : Platform Unit X509 where
  fillNonce s := (.error "no randomness", s)
  sign _ _ _ s := (.error ⟨"no key"⟩, s)
  now s := (5, s)
  userFromName _ s := (.ok none, s)
  loadBackend path _ s := (.error (.modulePathMissing path), s)

def guardedIo : FlowIo Unit where
  waitForUsb s := (.ok [], s)
  mount _ s := (.ok ⟨"/run/usb", 1⟩, s)
  unmount _ s := s
  discover _ pattern _ s := (.error (.p12NotFound pattern), s)
  showInfo _ s := s

def guardVars (source : HostIdSourceKind) (hash : String) : HookVars :=
  HookVars.forPreAuth "alice" "login" hash hash source.display

/-- The hook is started with the hash of the host, whatever it is, and aborts the login. -/
theorem guardVars_handed : HandedToHook X509 source hash (guardVars source hash) := by
  have hdeps : HasIdentity (guardedDeps X509 source hash) source hash := ⟨rfl, rfl⟩
  have hcall : Call.hook guardHook (guardVars source hash) (.error (.fork "EAGAIN")) ∈
      (authenticatePkcs12 (guardedDeps X509 source hash) (guardedPlatform X509) guardedIo
        (fun _ s => (.ok "1234", s)) ⟨"alice", "login", "session-1"⟩ ()).calls :=
    List.mem_singleton.mpr rfl
  exact .pkcs12 hdeps hcall

end

section

variable {tables : CharTables} {X509 : Type} [CryptoLibrary X509] {fetch : Answers}
  {cfg : HostIdentitySection} {source : HostIdSourceKind} {raw hash : String}

/-- The text for the hash is the digest of the text for the host. -/
def HashesHostId (tables : CharTables) (X509 : Type) [CryptoLibrary X509] (vars : HookVars) :
    Prop :=
  ∃ hostId, renderedHostId vars = .ok hostId ∧
    renderedHostIdHash vars = .ok (sha256Hex X509 (normalizeHostId tables hostId))

theorem BothAre.hashesHostId_iff {vars : HookVars} (h : BothAre hash vars) :
    HashesHostId tables X509 vars ↔ sha256Hex X509 (normalizeHostId tables hash) = hash := by
  constructor
  · rintro ⟨hostId, hid, hhash⟩
    rw [h.renderedHostId] at hid
    rw [h.renderedHostIdHash] at hhash
    cases hid
    exact (Except.ok.inj hhash).symm
  · intro hfixed
    exact ⟨hash, h.renderedHostId, by rw [hfixed, h.renderedHostIdHash]⟩

/-- The hash of an identity is that of its raw value. The identity that the chain falls back
to has a fixed text, which is hashed as it is. -/
theorem resolveHostIdentity_hash
    (h : resolveHostIdentity tables X509 fetch cfg = .ok (source, raw, hash)) :
    hash = sha256Hex X509 (normalizeHostId tables raw) ∨
      raw = "unknown" ∧ hash = sha256Hex X509 "unknown" := by
  cases hpinned : pinned cfg with
  | some value =>
    rw [resolveHostIdentity_of_pinned hpinned] at h
    cases h
    exact .inl rfl
  | none =>
    rw [resolveHostIdentity_of_unpinned hpinned] at h
    rcases firstAnswer_or_noAnswer tables fetch cfg cfg.sources with ⟨kind, answer, hfirst⟩ | hnone
    · rw [resolve_of_firstAnswer X509 hfirst] at h
      cases h
      exact .inl rfl
    · obtain ⟨attempts, hexhausted⟩ := resolve_of_noAnswer X509 hnone
      rw [hexhausted] at h
      cases hfallback : cfg.fallback <;> rw [hfallback] at h <;> cases h <;>
        exact .inr ⟨rfl, rfl⟩

/-- Hooks of a login and of its session always get the resolved hash under its own name. They
also get it as the host itself, so that the pair is right for a hash that is its own digest
and for no other. -/
theorem hook_host_ids_iff
    (hresolved : resolveHostIdentity tables X509 fetch cfg = .ok (source, raw, hash)) :
    (hash = sha256Hex X509 (normalizeHostId tables raw) ∨
        raw = "unknown" ∧ hash = sha256Hex X509 "unknown") ∧
      (∀ vars, HandedToHook X509 source hash vars →
        renderedHostIdHash vars = .ok hash ∧ renderedHostId vars = .ok hash) ∧
      ((∀ vars, HandedToHook X509 source hash vars →
          renderedHostIdHash vars = .ok hash ∧ HashesHostId tables X509 vars) ↔
        sha256Hex X509 (normalizeHostId tables hash) = hash) := by
  refine ⟨resolveHostIdentity_hash hresolved, ?_, ?_, ?_⟩
  · intro vars hvars
    exact ⟨hvars.bothAre.renderedHostIdHash, hvars.bothAre.renderedHostId⟩
  · intro hall
    have hguard : HandedToHook X509 source hash (guardVars source hash) := guardVars_handed
    exact hguard.bothAre.hashesHostId_iff.mp (hall _ hguard).2
  · intro hfixed vars hvars
    exact ⟨hvars.bothAre.renderedHostIdHash, hvars.bothAre.hashesHostId_iff.mpr hfixed⟩

/-- The terminal with its machine id. -/
theorem hook_host_ids_terminal :
    resolveHostIdentity DumpHostId.asciiTables RecordX509
        (DumpHostId.terminal.fetch DumpHostId.asciiTables DumpHostId.hostSection)
        DumpHostId.hostSection =
      .ok (.machineId, "4C4C4544", sha256Hex RecordX509 "4c4c4544") ∧
      ∀ vars, HandedToHook RecordX509 .machineId (sha256Hex RecordX509 "4c4c4544") vars →
        renderedHostIdHash vars = .ok (sha256Hex RecordX509 "4c4c4544") := by
  have hresolved : resolveHostIdentity DumpHostId.asciiTables RecordX509
      (DumpHostId.terminal.fetch DumpHostId.asciiTables DumpHostId.hostSection)
      DumpHostId.hostSection =
        .ok (.machineId, "4C4C4544", sha256Hex RecordX509 "4c4c4544") := by decide +kernel
  exact ⟨hresolved, fun vars hvars => ((hook_host_ids_iff hresolved).2.1 vars hvars).1⟩

/-- The certificates of the samples, under a digest that repeats the length of its input. -/
def MeasuredX509 : Type := RecordX509

instance : CryptoLibrary MeasuredX509 :=
  { (inferInstance : CryptoLibrary RecordX509) with
    sha256 := fun bytes => Vector.replicate 32 (UInt8.ofNat bytes.length) }

/-- The hash that the hook of the terminal gets is that of its machine id of eight bytes. The
text it gets for the host has 64 bytes and another hash. -/
theorem guardVars_host_not_hashed :
    resolveHostIdentity DumpHostId.asciiTables MeasuredX509
        (DumpHostId.terminal.fetch DumpHostId.asciiTables DumpHostId.hostSection)
        DumpHostId.hostSection =
      .ok (.machineId, "4C4C4544", sha256Hex MeasuredX509 "4c4c4544") ∧
      HandedToHook MeasuredX509 .machineId (sha256Hex MeasuredX509 "4c4c4544")
        (guardVars .machineId (sha256Hex MeasuredX509 "4c4c4544")) ∧
      ¬ HashesHostId DumpHostId.asciiTables MeasuredX509
        (guardVars .machineId (sha256Hex MeasuredX509 "4c4c4544")) := by
  refine ⟨by decide +kernel, guardVars_handed, ?_⟩
  have hboth : BothAre (sha256Hex MeasuredX509 "4c4c4544")
      (guardVars .machineId (sha256Hex MeasuredX509 "4c4c4544")) := ⟨rfl, rfl⟩
  rw [hboth.hashesHostId_iff]
  decide +kernel

end

end PamCertauth.HookHostIds
