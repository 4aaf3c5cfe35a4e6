import PamCertauth.CandidateLoop

/-!
# The gates of the flow

A login is admitted only behind all gates, and they are about one certificate: hooks
before the login, possession of the private key, the chain, the host, the user, hooks
after the login. Each step of a pipeline has a lemma about its successful runs. That
hooks after the login and reports to the monitor lie behind the gates in failing runs
as well follows from the calls that the earlier steps can make.
-/

namespace PamCertauth.Flow

open X509 X509.CryptoLibrary Hooks

variable {σ X509 : Type} [CryptoLibrary X509]

/-- A call other than a hook after the login and a report to the monitor. -/
def Call.Early : Call X509 → Prop
  | .hook config _ _ => config.stage ≠ .postAuthSuccess
  | .openSession _ _ => False
  | _ => True

/-- A call other than a hook and a report to the monitor. -/
def Call.Quiet : Call X509 → Prop
  | .hook _ _ _ => False
  | .openSession _ _ => False
  | _ => True

/-- A call of the checks on a certificate and of the context, which concerns no device, no
token, no PIN, no hook and no monitor. -/
def Call.Check : Call X509 → Prop
  | .showInfo _ => True
  | .fillNonce _ => True
  | .sign _ _ _ _ => True
  | .trustVerify _ _ _ => True
  | .now _ => True
  | .userFromName _ _ => True
  | .auditParseFailed _ _ _ => True
  | _ => False

theorem Call.Quiet.early {c : Call X509} (h : c.Quiet) : c.Early := by
  cases c <;> trivial

theorem Call.Check.quiet {c : Call X509} (h : c.Check) : c.Quiet := by
  cases c <;> trivial

theorem early_of_quiet {ε α : Type} {p : Prog σ (Call X509) ε α}
    (h : Prog.LogsOnly Call.Quiet p) : Prog.LogsOnly Call.Early p :=
  h.mono fun _ => Call.Quiet.early

section Early

variable {deps : Deps σ X509} {platform : Platform σ X509} {io : FlowIo σ}
  {promptPin : PinPrompter σ} {login : Login}

theorem ask_quiet {ε α : Type} {op : σ → Except ε α × σ} {entry : Except ε α → Call X509}
    {f : ε → FlowError} (h : ∀ answer, (entry answer).Quiet) :
    Prog.LogsOnly Call.Quiet (ask op entry f) :=
  Prog.LogsOnly.request h

theorem notify_quiet {ε : Type} {op : σ → σ} {entry : Call X509} (h : entry.Quiet) :
    Prog.LogsOnly Call.Quiet (notify op entry : Prog σ (Call X509) ε Unit) :=
  Prog.LogsOnly.call fun _ => h

theorem preAuthHooks_early : Prog.LogsOnly Call.Early (preAuthHooks deps login) := by
  apply Prog.LogsOnly.mapError
  apply runHooksForStage_logsOnly
  intro hook hstage outcome
  simp [Call.Early, hstage]

theorem assembleContext_check {leaf : Certificate X509} {verified : Stage2VerifiedChain X509}
    {usbSerial usbVidPid : Option String} :
    Prog.LogsOnly Call.Check
      (assembleContext deps platform login leaf verified usbSerial usbVidPid) := by
  apply Prog.LogsOnly.bind
  · rw [certMaxIntegrity]
    split
    · exact Prog.LogsOnly.pure _
    · exact Prog.LogsOnly.bind (Prog.LogsOnly.call fun _ => trivial) fun _ => Prog.LogsOnly.pure _
  · intro label
    refine Prog.LogsOnly.bind ?_ fun homeDir => ?_
    · refine Prog.LogsOnly.bind (Prog.LogsOnly.call fun _ => trivial) fun answer => ?_
      split <;> exact Prog.LogsOnly.pure _
    · exact Prog.LogsOnly.bind (Prog.LogsOnly.call fun _ => trivial) fun _ => Prog.LogsOnly.pure _

theorem assembleContext_quiet {leaf : Certificate X509} {verified : Stage2VerifiedChain X509}
    {usbSerial usbVidPid : Option String} :
    Prog.LogsOnly Call.Quiet
      (assembleContext deps platform login leaf verified usbSerial usbVidPid) :=
  assembleContext_check.mono fun _ => Call.Check.quiet

theorem bindCandidate_quiet {pattern : String} {devices : List UsbDevice}
    {lastDiscoveryErr : Option DiscoveryError}
    {lastEnvelopeErr : Option Pkcs12.P12EnvelopeError} :
    Prog.LogsOnly Call.Quiet
      (bindCandidate io login pattern devices lastDiscoveryErr lastEnvelopeErr :
        FlowProg σ X509 _) := by
  intro s c hc
  have hdevice := (bindCandidate_loopRun X509 io login pattern devices lastDiscoveryErr
    lastEnvelopeErr s).onDevice c hc
  cases c <;> trivial

theorem acquireP12MaterialWithPrompter_quiet {bytes : Bytes} {tries : ℕ} :
    Prog.LogsOnly Call.Quiet
      (acquireP12MaterialWithPrompter promptPin bytes tries :
        Prog σ (Call X509) _ (Pkcs12.LoadedKeyMaterial X509)) := by
  induction tries with
  | zero => exact Prog.LogsOnly.fail _
  | succ tries ih =>
    rw [acquireP12MaterialWithPrompter]
    refine Prog.LogsOnly.bind (Prog.LogsOnly.request fun _ => trivial) fun pin => ?_
    split
    · exact Prog.LogsOnly.pure _
    · exact ih
    · exact Prog.LogsOnly.fail _
    · exact Prog.LogsOnly.fail _
    · exact Prog.LogsOnly.fail _

theorem loadMaterial_quiet {bytes : Bytes} :
    Prog.LogsOnly Call.Quiet
      (loadMaterial io promptPin bytes : FlowProg σ X509 (Pkcs12.LoadedKeyMaterial X509)) := by
  refine acquireP12MaterialWithPrompter_quiet.attempt.bind fun acquired => ?_
  split
  · exact Prog.LogsOnly.pure _
  · refine (Prog.LogsOnly.ofExcept _).bind fun text => ?_
    exact Prog.LogsOnly.bind (notify_quiet trivial) fun _ => Prog.LogsOnly.fail _
  · exact Prog.LogsOnly.fail _

theorem challengeResponse_check {leaf : Certificate X509} {key : PrivateKey X509}
    {gostEnginePath : Option String} :
    Prog.LogsOnly Call.Check (challengeResponse platform leaf key gostEnginePath) := by
  refine (Prog.LogsOnly.ofExcept _).bind fun pubKey => ?_
  refine (Prog.LogsOnly.ofExcept _).bind fun scheme => ?_
  refine Prog.LogsOnly.bind (Prog.LogsOnly.request fun _ => trivial) fun nonce => ?_
  exact Prog.LogsOnly.bind (Prog.LogsOnly.request fun _ => trivial) fun sig => Prog.LogsOnly.ofExcept _

theorem checkHostBinding_check {leaf : Certificate X509} :
    Prog.LogsOnly Call.Check (checkHostBinding deps io leaf) := by
  rw [checkHostBinding]
  split
  · exact Prog.LogsOnly.pure _
  · exact Prog.LogsOnly.fail _
  · refine (Prog.LogsOnly.ofExcept _).bind fun shown => ?_
    exact Prog.LogsOnly.bind (Prog.LogsOnly.call fun _ => trivial) fun _ => Prog.LogsOnly.fail _

variable (deps platform io) in
/-- Steps 6 to 9, behind the PIN: challenge, chain and host. -/
def checkMaterial (chainPem : Option Bytes) (loaded : Pkcs12.LoadedKeyMaterial X509) :
    FlowProg σ X509 (Certificate X509 × Stage2VerifiedChain X509) := do
  let privKey ← liftExcept .ofPkcs12 loaded.privateKey
  Prog.mapError (fun e => .error (.crypto e))
    (challengeResponse platform loaded.endEntity privKey deps.cfg.gostEnginePath)
  let presented ← liftExcept .trust (presentedCertificates loaded chainPem)
  let verified ← ask (deps.trustVerify loaded.endEntity presented)
    (.trustVerify loaded.endEntity presented) .trust
  checkHostBinding deps io loaded.endEntity
  pure (loaded.endEntity, verified)

theorem pkcs12Checks_eq (creds : DiscoveredCreds) :
    pkcs12Checks deps platform io promptPin creds =
      loadMaterial io promptPin creds.p12Bytes >>= checkMaterial deps platform io creds.chainPem :=
  rfl

theorem checkMaterial_check {chainPem : Option Bytes} {loaded : Pkcs12.LoadedKeyMaterial X509} :
    Prog.LogsOnly Call.Check (checkMaterial deps platform io chainPem loaded) := by
  refine (Prog.LogsOnly.ofExcept _).bind fun key => ?_
  refine challengeResponse_check.mapError.bind fun _ => ?_
  refine (Prog.LogsOnly.ofExcept _).bind fun presented => ?_
  refine Prog.LogsOnly.bind (Prog.LogsOnly.request fun _ => trivial) fun verified => ?_
  exact checkHostBinding_check.bind fun _ => Prog.LogsOnly.pure _

theorem pkcs12Checks_quiet {creds : DiscoveredCreds} :
    Prog.LogsOnly Call.Quiet (pkcs12Checks deps platform io promptPin creds) := by
  rw [pkcs12Checks_eq]
  exact loadMaterial_quiet.bind fun loaded => checkMaterial_check.mono fun _ => Call.Check.quiet

end Early

/-- A nonce drawn in the run was signed in the run with the key, and the signature
verifies under the public key of the certificate. -/
inductive KeyProved (leaf : Certificate X509) (key : PrivateKey X509)
    (log : List (Call X509)) : Prop where
  | intro {pubKey : PublicKey X509} {scheme : SignatureScheme} {nonce : Vector UInt8 32}
      {sig : Bytes} (publicKey : leaf.publicKey = .ok pubKey)
      (drawn : .fillNonce (.ok nonce) ∈ log)
      (signed : .sign key scheme nonce.toList (.ok sig) ∈ log)
      (valid : verifyData pubKey scheme nonce.toList sig = .ok true)

/-- The bundle was read in the run from a mounted device with this serial. -/
inductive ReadFromDevice (pattern pamUser : String) (log : List (Call X509)) :
    Option String → Bytes → Prop where
  | intro {dev : UsbDevice} {session : MountSession} {creds : DiscoveredCreds}
      (mounted : .mount dev (.ok session) ∈ log)
      (discovered : .discover session.mountpoint pattern pamUser (.ok creds) ∈ log) :
      ReadFromDevice pattern pamUser log dev.serial creds.p12Bytes

/-- The bundle was opened with a PIN given in the run, and its key matches the certificate. -/
inductive OpenedBundle (bytes : Bytes) (leaf : Certificate X509) (log : List (Call X509)) :
    Prop where
  | intro {pin : String} {loaded : Pkcs12.LoadedKeyMaterial X509} {key : PrivateKey X509}
      (prompted : .prompt "Smart-card PIN: " (.ok pin) ∈ log)
      (opened : Pkcs12.LoadedKeyMaterial.fromP12 bytes pin = .ok loaded)
      (endEntity : loaded.endEntity = leaf) (privateKey : loaded.privateKey = .ok key)
      (proved : KeyProved leaf key log)

theorem KeyProved.mono {leaf : Certificate X509} {key : PrivateKey X509}
    {log log' : List (Call X509)} (h : KeyProved leaf key log) (hsub : log ⊆ log') :
    KeyProved leaf key log' := by
  obtain ⟨hpub, hdrawn, hsigned, hvalid⟩ := h
  exact ⟨hpub, hsub hdrawn, hsub hsigned, hvalid⟩

theorem ReadFromDevice.mono {pattern pamUser : String} {usbSerial : Option String}
    {bytes : Bytes} {log log' : List (Call X509)}
    (h : ReadFromDevice pattern pamUser log usbSerial bytes) (hsub : log ⊆ log') :
    ReadFromDevice pattern pamUser log' usbSerial bytes := by
  obtain ⟨hmounted, hdiscovered⟩ := h
  exact ⟨hsub hmounted, hsub hdiscovered⟩

theorem OpenedBundle.mono {bytes : Bytes} {leaf : Certificate X509}
    {log log' : List (Call X509)} (h : OpenedBundle bytes leaf log) (hsub : log ⊆ log') :
    OpenedBundle bytes leaf log' := by
  obtain ⟨hprompted, hopened, hleaf, hkey, hproved⟩ := h
  exact ⟨hsub hprompted, hopened, hleaf, hkey, hproved.mono hsub⟩

section Successful

variable {deps : Deps σ X509} {platform : Platform σ X509} {io : FlowIo σ}
  {promptPin : PinPrompter σ} {login : Login} {s s' : σ} {log : List (Call X509)}

theorem liftExcept_eq_ok_iff {ε α : Type} {f : ε → FlowError} {x : Except ε α} {a : α} :
    (liftExcept f x : FlowProg σ X509 α) s = ⟨.ok a, s', log⟩ ↔
      x = .ok a ∧ s' = s ∧ log = [] := by
  rcases x with e | b
  · simp [liftExcept, Except.mapError]
  · simp only [liftExcept, Except.mapError, Prog.ofExcept_apply, Run.mk.injEq, Except.ok.injEq]
    constructor
    · intro ⟨ha, hs, hlog⟩
      exact ⟨ha, hs.symm, hlog.symm⟩
    · intro ⟨ha, hs, hlog⟩
      exact ⟨ha, hs.symm, hlog.symm⟩

theorem authorizeUser_eq_ok {leaf : Certificate X509}
    (h : authorizeUser deps login leaf = .ok ()) :
    verifyUserBinding leaf.inner login.pamUser = .ok () ∨
      ∃ m, matchUser leaf login.pamUser deps.userMappings = .ok m := by
  unfold authorizeUser at h
  split at h
  · exact .inl (PamCertauth.mapError_eq_ok_iff.mp h)
  · right
    split at h
    · next m hm => exact ⟨m, hm⟩
    · cases h

theorem bindCandidate_eq_ok {pattern : String} {devices : List UsbDevice}
    {lastDiscoveryErr : Option DiscoveryError}
    {lastEnvelopeErr : Option Pkcs12.P12EnvelopeError} {dev : UsbDevice}
    {session : MountSession} {creds : DiscoveredCreds}
    (h : bindCandidate io login pattern devices lastDiscoveryErr lastEnvelopeErr s =
      ⟨.ok (dev, session, creds), s', log⟩) :
    ReadFromDevice pattern login.pamUser log dev.serial creds.p12Bytes := by
  have hloop := bindCandidate_loopRun X509 io login pattern devices lastDiscoveryErr
    lastEnvelopeErr s
  rw [h] at hloop
  obtain ⟨before, after, given, -, -, -, rfl⟩ := hloop.eq_of_ok
  have hmounted : .mount dev (.ok session) ∈
      given ++ taken X509 pattern login.pamUser dev session creds := by simp [taken]
  exact ⟨hmounted, by simp [taken]⟩

theorem acquireP12MaterialWithPrompter_eq_ok {bytes : Bytes} {tries : ℕ}
    {material : Pkcs12.LoadedKeyMaterial X509}
    (h : acquireP12MaterialWithPrompter promptPin bytes tries s = ⟨.ok material, s', log⟩) :
    ∃ pin, .prompt "Smart-card PIN: " (.ok pin) ∈ log ∧
      Pkcs12.LoadedKeyMaterial.fromP12 bytes pin = .ok material := by
  induction tries generalizing s log with
  | zero => cases h
  | succ tries ih =>
    unfold acquireP12MaterialWithPrompter at h
    obtain ⟨pin, s₁, t₁, t₂, hprompt, hrest, rfl⟩ := Prog.bind_eq_ok_iff.mp h
    have hprompted := (Prog.request_eq_ok_iff.mp hprompt).2
    subst hprompted
    rcases hopened : (Pkcs12.LoadedKeyMaterial.fromP12 bytes pin :
      Except _ (Pkcs12.LoadedKeyMaterial X509)) with e | found
    · simp only [hopened] at hrest
      cases e with
      | wrongPin =>
        obtain ⟨pin', hmem, hopened'⟩ := ih hrest
        exact ⟨pin', by simp [hmem], hopened'⟩
      | missingKey => cases hrest
      | missingCert => cases hrest
      | corrupt m => cases hrest
    · simp only [hopened] at hrest
      cases hrest
      exact ⟨pin, by simp, hopened⟩

theorem loadMaterial_eq_ok {bytes : Bytes} {loaded : Pkcs12.LoadedKeyMaterial X509}
    (h : loadMaterial io promptPin bytes s = ⟨.ok loaded, s', log⟩) :
    ∃ pin, .prompt "Smart-card PIN: " (.ok pin) ∈ log ∧
      Pkcs12.LoadedKeyMaterial.fromP12 bytes pin = .ok loaded := by
  obtain ⟨acquired, s₁, t₁, t₂, hacquire, hrest, rfl⟩ := Prog.bind_eq_ok_iff.mp h
  have hrun := Prog.attempt_eq_ok_iff.mp hacquire
  split at hrest
  · cases hrest
    simpa using acquireP12MaterialWithPrompter_eq_ok hrun
  · obtain ⟨text, s₂, t₃, t₄, -, hshow, rfl⟩ := Prog.bind_eq_ok_iff.mp hrest
    obtain ⟨⟨⟩, s₃, t₅, t₆, -, hfail, rfl⟩ := Prog.bind_eq_ok_iff.mp hshow
    cases hfail
  · cases hrest

theorem challengeResponse_eq_ok {leaf : Certificate X509} {key : PrivateKey X509}
    {gostEnginePath : Option String}
    (h : challengeResponse platform leaf key gostEnginePath s = ⟨.ok (), s', log⟩) :
    KeyProved leaf key log := by
  obtain ⟨pubKey, s₁, t₁, t₂, hpub, h₁, rfl⟩ := Prog.bind_eq_ok_iff.mp h
  obtain ⟨scheme, s₂, t₃, t₄, -, h₂, rfl⟩ := Prog.bind_eq_ok_iff.mp h₁
  obtain ⟨nonce, s₃, t₅, t₆, hnonce, h₃, rfl⟩ := Prog.bind_eq_ok_iff.mp h₂
  obtain ⟨sig, s₄, t₇, t₈, hsign, hvalid, rfl⟩ := Prog.bind_eq_ok_iff.mp h₃
  have hpublic : leaf.publicKey = .ok pubKey :=
    PamCertauth.mapError_eq_ok_iff.mp (congrArg Run.result hpub)
  have hdrawn := (Prog.request_eq_ok_iff.mp hnonce).2
  have hsigned := (Prog.request_eq_ok_iff.mp hsign).2
  have hverified : verifyData pubKey scheme nonce.toList sig = .ok true :=
    Challenge.requireValid_eq_ok_iff.mp (congrArg Run.result hvalid)
  exact ⟨hpublic, by simp [hdrawn], by simp [hsigned], hverified⟩

theorem checkHostBinding_eq_ok {leaf : Certificate X509}
    (h : checkHostBinding deps io leaf s = ⟨.ok (), s', log⟩) :
    verifyHostBinding leaf.inner deps.hostIdHash = .ok () := by
  unfold checkHostBinding at h
  rcases hbound : verifyHostBinding leaf.inner deps.hostIdHash with halt | ⟨⟨⟩⟩
  · simp only [hbound] at h
    cases halt with
    | panicked message => cases h
    | error e =>
      obtain ⟨shown, s₁, t₁, t₂, -, hshow, rfl⟩ := Prog.bind_eq_ok_iff.mp h
      obtain ⟨⟨⟩, s₂, t₃, t₄, -, hfail, rfl⟩ := Prog.bind_eq_ok_iff.mp hshow
      cases hfail
  · rfl

theorem pkcs12Checks_eq_ok {creds : DiscoveredCreds} {leaf : Certificate X509}
    {verified : Stage2VerifiedChain X509}
    (h : pkcs12Checks deps platform io promptPin creds s = ⟨.ok (leaf, verified), s', log⟩) :
    OpenedBundle creds.p12Bytes leaf log ∧
      (∃ presented, .trustVerify leaf presented (.ok verified) ∈ log) ∧
      verifyHostBinding leaf.inner deps.hostIdHash = .ok () := by
  obtain ⟨loaded, s₁, t₁, u₁, hload, h₁, rfl⟩ := Prog.bind_eq_ok_iff.mp h
  obtain ⟨key, s₂, t₂, u₂, hkey, h₂, rfl⟩ := Prog.bind_eq_ok_iff.mp h₁
  obtain ⟨⟨⟩, s₃, t₃, u₃, hchallenge, h₃, rfl⟩ := Prog.bind_eq_ok_iff.mp h₂
  obtain ⟨presented, s₄, t₄, u₄, -, h₄, rfl⟩ := Prog.bind_eq_ok_iff.mp h₃
  obtain ⟨verified', s₅, t₅, u₅, htrust, h₅, rfl⟩ := Prog.bind_eq_ok_iff.mp h₄
  obtain ⟨⟨⟩, s₆, t₆, u₆, hhost, hpure, rfl⟩ := Prog.bind_eq_ok_iff.mp h₅
  cases hpure
  obtain ⟨pin, hprompted, hopened⟩ := loadMaterial_eq_ok hload
  have hproved := challengeResponse_eq_ok (Prog.mapError_eq_ok_iff.mp hchallenge)
  have htrusted := (Prog.request_eq_ok_iff.mp htrust).2
  refine ⟨?_, ⟨presented, by simp [htrusted]⟩, checkHostBinding_eq_ok hhost⟩
  refine ⟨by simp [hprompted], hopened, rfl, (liftExcept_eq_ok_iff.mp hkey).1, ?_⟩
  apply hproved.mono
  intro call hcall
  simp [hcall]

end Successful

/-- The gates in front of the verdict, all about the certificate `leaf`. The run from `s`
logs `front` in the hooks before the login and `checks` in the steps behind them, and
`possession` says what the pipeline knows about the key and the device. -/
structure Gates (deps : Deps σ X509) (login : Login)
    (possession : Certificate X509 → Option String → List (Call X509) → Prop) (s : σ)
    (front checks : List (Call X509)) (leaf : Certificate X509) (usbSerial : Option String) :
    Prop where
  preAuth : ∃ s₁, preAuthHooks deps login s = ⟨.ok (), s₁, front⟩
  onlyHooks : ∀ call ∈ front, ∃ hook vars outcome, call = .hook hook vars outcome
  early : ∀ call ∈ front ++ checks, call.Early
  possession : possession leaf usbSerial checks
  trusted : ∃ presented verified, .trustVerify leaf presented (.ok verified) ∈ checks
  hostBound : verifyHostBinding leaf.inner deps.hostIdHash = .ok ()
  userAuthorized : verifyUserBinding leaf.inner login.pamUser = .ok () ∨
    ∃ m, matchUser leaf login.pamUser deps.userMappings = .ok m

/-- The context is about the certificate and the device. -/
structure ContextOf (leaf : Certificate X509) (usbSerial : Option String) (ctx : AuthContext) :
    Prop where
  certCn : ctx.certCn = leaf.subjectCn.toOption
  certSerial : ctx.certSerial = some leaf.serialHex.toLower
  certNotAfter : ctx.certNotAfter = some leaf.notAfter
  usbSerial : ctx.usbSerial = usbSerial

/-- A flow that admits a login, runs a hook after the login or reports to the monitor
only behind the gates. -/
structure Gated (deps : Deps σ X509) (login : Login)
    (possession : Certificate X509 → Option String → List (Call X509) → Prop)
    (flow : FlowProg σ X509 FlowOutcome) (s : σ) : Prop where
  admitted : ∀ outcome s' log, flow s = ⟨.ok outcome, s', log⟩ →
    ∃ leaf usbSerial front checks hooks rest, log = front ++ checks ++ (hooks ++ rest) ∧
      Gates deps login possession s front checks leaf usbSerial ∧
      (∃ s₁ s₂, postAuthHooks deps login outcome.authCtx s₁ = ⟨.ok (), s₂, hooks⟩) ∧
      ContextOf leaf usbSerial outcome.authCtx
  silent : ∀ call ∈ (flow s).calls, ¬ call.Early →
    ∃ leaf usbSerial front checks rest, (flow s).calls = front ++ checks ++ rest ∧
      Gates deps login possession s front checks leaf usbSerial

/-- The key was loaded together with the certificate from a bundle on a mounted device. -/
def LoadedTogether (deps : Deps σ X509) (login : Login) (leaf : Certificate X509)
    (usbSerial : Option String) (log : List (Call X509)) : Prop :=
  ∃ bytes, ReadFromDevice (deps.cfg.pkcs12PathPattern.getD defaultPkcs12PathPattern)
    login.pamUser log usbSerial bytes ∧ OpenedBundle bytes leaf log

section Behind

variable {deps : Deps σ X509} {platform : Platform σ X509} {io : FlowIo σ}
  {promptPin : PinPrompter σ} {login : Login} {s s' : σ} {log : List (Call X509)}

theorem preAuthHooks_onlyHooks {call : Call X509} (h : call ∈ (preAuthHooks deps login s).calls) :
    ∃ hook vars outcome, call = .hook hook vars outcome := by
  have honly : Prog.LogsOnly (fun call => ∃ hook vars outcome, call = .hook hook vars outcome)
      (preAuthHooks deps login) := by
    apply Prog.LogsOnly.mapError
    apply runHooksForStage_logsOnly
    intro hook _ outcome
    exact ⟨hook, _, outcome, rfl⟩
  exact honly s call h

/-- The calls of a successful run of a part that makes only early calls are early. -/
theorem early_of_run {α : Type} {p : FlowProg σ X509 α} (hp : Prog.LogsOnly Call.Early p) {a : α}
    (h : p s = ⟨.ok a, s', log⟩) : ∀ call ∈ log, call.Early := by
  intro call hcall
  apply hp s
  rw [h]
  exact hcall

theorem assembleContext_eq_ok {leaf : Certificate X509} {verified : Stage2VerifiedChain X509}
    {usbSerial usbVidPid : Option String} {ctx : AuthContext}
    (h : assembleContext deps platform login leaf verified usbSerial usbVidPid s =
      ⟨.ok ctx, s', log⟩) : ContextOf leaf usbSerial ctx := by
  obtain ⟨label, s₁, t₁, u₁, -, h₁, rfl⟩ := Prog.bind_eq_ok_iff.mp h
  obtain ⟨homeDir, s₂, t₂, u₂, -, h₂, rfl⟩ := Prog.bind_eq_ok_iff.mp h₁
  obtain ⟨now, s₃, t₃, u₃, -, hpure, rfl⟩ := Prog.bind_eq_ok_iff.mp h₂
  cases hpure
  exact ⟨rfl, rfl, rfl, rfl⟩

theorem concludeLogin_eq_ok {leaf : Certificate X509} {ctx : AuthContext} {mount : Option MountSession}
    {outcome : FlowOutcome}
    (h : concludeLogin deps platform login leaf ctx mount s = ⟨.ok outcome, s', log⟩) :
    ∃ s₁ hooks rest, outcome = ⟨ctx, mount⟩ ∧ log = hooks ++ rest ∧
      postAuthHooks deps login ctx s = ⟨.ok (), s₁, hooks⟩ := by
  obtain ⟨⟨⟩, s₁, t₁, u₁, hhooks, h₁, rfl⟩ := Prog.bind_eq_ok_iff.mp h
  obtain ⟨⟨⟩, s₂, t₂, u₂, -, hpure, rfl⟩ := Prog.bind_eq_ok_iff.mp h₁
  cases hpure
  exact ⟨s₁, t₁, _, rfl, rfl, hhooks⟩

theorem concludeLogin_authCtx {leaf : Certificate X509} {ctx : AuthContext}
    {mount : Option MountSession} {outcome : FlowOutcome}
    (h : concludeLogin deps platform login leaf ctx mount s = ⟨.ok outcome, s', log⟩) :
    outcome.authCtx = ctx := by
  obtain ⟨s₁, hooks, rest, rfl, -, -⟩ := concludeLogin_eq_ok h
  rfl

/-- A flow is gated when every run that admits a login, runs a hook after the login or
reports to the monitor passes the gates and then continues with the admission. -/
theorem Gated.of_beyond
    {possession : Certificate X509 → Option String → List (Call X509) → Prop}
    {flow : FlowProg σ X509 FlowOutcome}
    (h : (flow s).Beyond Call.Early → ∃ leaf usbSerial front checks ctx mount s₁,
      Gates deps login possession s front checks leaf usbSerial ∧
      ContextOf leaf usbSerial ctx ∧
      (flow s).Continues (front ++ checks) (concludeLogin deps platform login leaf ctx mount s₁)) :
    Gated deps login possession flow s := by
  constructor
  · intro outcome s' log hrun
    obtain ⟨leaf, usbSerial, front, checks, ctx, mount, s₁, hgates, hctx, hresult, extra, hcalls⟩ :=
      h (.inl ⟨outcome, by rw [hrun]⟩)
    rw [hrun] at hresult hcalls
    rcases hconclude : concludeLogin deps platform login leaf ctx mount s₁ with ⟨r, s₂, t⟩
    rw [hconclude] at hresult hcalls
    cases hresult
    obtain ⟨s₃, hooks, rest, rfl, rfl, hhooks⟩ := concludeLogin_eq_ok hconclude
    refine ⟨leaf, usbSerial, front, checks, hooks, rest ++ extra, ?_, hgates,
      ⟨s₁, s₃, hhooks⟩, hctx⟩
    simpa using hcalls
  · intro call hcall hnot
    obtain ⟨leaf, usbSerial, front, checks, ctx, mount, s₁, hgates, -, -, extra, hcalls⟩ :=
      h (.inr ⟨call, hcall, hnot⟩)
    exact ⟨leaf, usbSerial, front, checks, _, hcalls, hgates⟩

theorem withBoundDevice_beyond {dev : UsbDevice} {session : MountSession}
    {creds : DiscoveredCreds}
    (h : (withBoundDevice deps platform io promptPin login dev session creds s).Beyond
      Call.Early) :
    ∃ leaf verified ctx s₁ s₂ checks context,
      pkcs12Checks deps platform io promptPin creds s = ⟨.ok (leaf, verified), s₁, checks⟩ ∧
      authorizeUser deps login leaf = .ok () ∧ ContextOf leaf dev.serial ctx ∧
      (∀ call ∈ context, call.Early) ∧
      (withBoundDevice deps platform io promptPin login dev session creds s).Continues
        (checks ++ context) (concludeLogin deps platform login leaf ctx (some session) s₂) := by
  have h₁ := Prog.beyond_onFailure h (early_of_quiet (notify_quiet trivial))
  obtain ⟨⟨leaf, verified⟩, s₁, t₁, hchecks, h₂, hcont₁⟩ :=
    Prog.beyond_bind h₁ (early_of_quiet pkcs12Checks_quiet)
  obtain ⟨⟨⟩, s₂, t₂, hauth, h₃, hcont₂⟩ := Prog.beyond_bind h₂ (Prog.LogsOnly.ofExcept _)
  obtain ⟨ctx, s₃, t₃, hctx, -, hcont₃⟩ := Prog.beyond_bind h₃ (early_of_quiet assembleContext_quiet)
  obtain ⟨hauthorized, -, rfl⟩ := liftExcept_eq_ok_iff.mp hauth
  have hverdict : (pkcs12Verdict deps platform login dev session leaf verified s₁).Continues t₃
      (concludeLogin deps platform login leaf ctx (some session) s₃) := hcont₂.trans hcont₃
  have hbody : (withBoundDevice deps platform io promptPin login dev session creds s).Continues []
      _ := Prog.continues_onFailure _ _ s
  exact ⟨leaf, verified, ctx, s₁, s₃, t₁, t₃, hchecks, hauthorized, assembleContext_eq_ok hctx,
    early_of_run (early_of_quiet assembleContext_quiet) hctx, hbody.trans (hcont₁.trans hverdict)⟩

theorem authenticatePkcs12_beyond
    (h : (authenticatePkcs12 deps platform io promptPin login s).Beyond Call.Early) :
    ∃ leaf usbSerial front checks ctx mount s₁,
      Gates deps login (LoadedTogether deps login) s front checks leaf usbSerial ∧
      ContextOf leaf usbSerial ctx ∧
      (authenticatePkcs12 deps platform io promptPin login s).Continues (front ++ checks)
        (concludeLogin deps platform login leaf ctx mount s₁) := by
  obtain ⟨⟨⟩, s₁, t₁, hpre, h₁, hcont₁⟩ := Prog.beyond_bind h preAuthHooks_early
  obtain ⟨devices, s₂, t₂, husb, h₂, hcont₂⟩ :=
    Prog.beyond_bind h₁ (early_of_quiet (ask_quiet fun _ => trivial))
  obtain ⟨⟨dev, session, creds⟩, s₃, t₃, hbind, h₃, hcont₃⟩ :=
    Prog.beyond_bind h₂ (early_of_quiet bindCandidate_quiet)
  obtain ⟨leaf, verified, ctx, s₄, s₅, t₄, t₅, hchecks, hauth, hctx, hctxEarly, hcont₄⟩ :=
    withBoundDevice_beyond h₃
  obtain ⟨hopened, ⟨presented, htrusted⟩, hhost⟩ := pkcs12Checks_eq_ok hchecks
  have hread := bindCandidate_eq_ok hbind
  have husbEarly : ∀ call ∈ t₂, call.Early := by
    rw [(Prog.request_eq_ok_iff.mp husb).2]
    simp [Call.Early]
  have hearly : ∀ call ∈ t₁ ++ (t₂ ++ (t₃ ++ (t₄ ++ t₅))), call.Early := by
    simp only [List.mem_append]
    rintro call (hcall | hcall | hcall | hcall | hcall)
    · exact early_of_run preAuthHooks_early hpre call hcall
    · exact husbEarly call hcall
    · exact early_of_run (early_of_quiet bindCandidate_quiet) hbind call hcall
    · exact early_of_run (early_of_quiet pkcs12Checks_quiet) hchecks call hcall
    · exact hctxEarly call hcall
  refine ⟨leaf, dev.serial, t₁, t₂ ++ (t₃ ++ (t₄ ++ t₅)), ctx, some session, s₅, ?_, hctx,
    hcont₁.trans (hcont₂.trans (hcont₃.trans hcont₄))⟩
  exact
    { preAuth := ⟨s₁, hpre⟩
      onlyHooks := fun call hcall => preAuthHooks_onlyHooks (s := s) (by rw [hpre]; exact hcall)
      early := hearly
      possession := by
        refine ⟨creds.p12Bytes, hread.mono ?_, hopened.mono ?_⟩ <;> intro call hcall <;>
          simp [hcall]
      trusted := ⟨presented, verified, by simp [htrusted]⟩
      hostBound := hhost
      userAuthorized := authorizeUser_eq_ok hauth }

end Behind

end PamCertauth.Flow
