import PamCertauth.SessionEntries
import PamCertauth.SessionReporting

/-!
# The integrity label from the certificate to the session

The authentication reads the integrity label of the verified leaf into the context, and
the opening of the session bounds the label of the user by it. A label that does not
decode is reported and dropped on the way, so that the second phase cannot tell it from a
label that was never there. `malformed_label_refused_iff` says what becomes of such a
login.
-/

namespace PamCertauth.Session

open X509 X509.CryptoLibrary PamCertauth.Flow Ipc Mac

variable {σ X509 : Type} [CryptoLibrary X509]

section Login

variable (deps : Deps σ X509) (platform : Platform σ X509) (io : FlowIo σ)
  (promptPin : PinPrompter σ) (login : Login)

/-- The login from `s` verifies the chain and goes on to the authorisation of the user. -/
def ModeVerifies (s : σ) (verified : Stage2VerifiedChain X509) :
    Config.Mode → Config.CryptoBackend → Prop
  | .pkcs12, _ => ∃ dev session leaf s₁,
      Pkcs12Checked deps platform io promptPin login s dev session leaf verified s₁
  | .pkcs11, .pkcs11Native => ∃ tokenIo s₁ t, loadPkcs11Io deps platform s = ⟨.ok tokenIo, s₁, t⟩ ∧
      ∃ tokenSerial session leaf s₂,
        Pkcs11Checked deps platform tokenIo promptPin login s₁ tokenSerial session leaf verified s₂
  | .pkcs11, .openssl => False

def Verifies (s : σ) (verified : Stage2VerifiedChain X509) : Prop :=
  ∃ s₁ t, banner deps io s = ⟨.ok (), s₁, t⟩ ∧
    ModeVerifies deps platform io promptPin login s₁ verified deps.cfg.mode deps.cfg.cryptoBackend

end Login

/-- What the context keeps of the label of a leaf. -/
def labelOf (leaf : VerifiedX509 X509) : Option IntegrityLabel :=
  match extractMaxIntegrity leaf with
  | .ok label => label
  | .error _ => none

section Context

variable {deps : Deps σ X509} {platform : Platform σ X509} {io : FlowIo σ}
  {tokenIo : Pkcs11Io σ} {promptPin : PinPrompter σ} {login : Login} {s s' : σ}
  {log : List (Call X509)} {outcome : FlowOutcome}

theorem certMaxIntegrity_eq_ok {leaf : VerifiedX509 X509} {label : Option IntegrityLabel}
    (h : certMaxIntegrity login leaf s = ⟨.ok label, s', log⟩) : label = labelOf leaf := by
  rcases hlabel : extractMaxIntegrity leaf with e | label'
  · simp only [certMaxIntegrity, hlabel] at h
    obtain ⟨⟨⟩, s₁, t₁, t₂, -, hpure, -⟩ := Prog.bind_eq_ok_iff.mp h
    cases hpure
    simp only [labelOf, hlabel]
  · simp only [certMaxIntegrity, hlabel] at h
    cases h
    simp only [labelOf, hlabel]

theorem assembleContext_label {leaf : Certificate X509} {verified : Stage2VerifiedChain X509}
    {usbSerial usbVidPid : Option String} {ctx : AuthContext}
    (h : assembleContext deps platform login leaf verified usbSerial usbVidPid s =
      ⟨.ok ctx, s', log⟩) : ctx.certMaxIntegrity = labelOf verified.verifiedLeaf := by
  obtain ⟨label, s₁, t₁, u₁, hlabel, h₁, -⟩ := Prog.bind_eq_ok_iff.mp h
  obtain ⟨homeDir, s₂, t₂, u₂, -, h₂, -⟩ := Prog.bind_eq_ok_iff.mp h₁
  obtain ⟨now, s₃, t₃, u₃, -, hpure, -⟩ := Prog.bind_eq_ok_iff.mp h₂
  cases hpure
  exact certMaxIntegrity_eq_ok hlabel

theorem authenticatePkcs12_label {dev : UsbDevice} {session : MountSession}
    {leaf : Certificate X509} {verified : Stage2VerifiedChain X509} {s₁ : σ}
    (h : (authenticatePkcs12 deps platform io promptPin login s).result = .ok outcome)
    (hchecked : Pkcs12Checked deps platform io promptPin login s dev session leaf verified s₁) :
    outcome.authCtx.certMaxIntegrity = labelOf verified.verifiedLeaf := by
  obtain ⟨t, hcontinues⟩ := hchecked.continues
  have hresult := hcontinues.result.symm.trans h
  have hverdict : pkcs12Verdict deps platform login dev session leaf verified s₁ =
      ⟨.ok outcome, _, _⟩ := Run.eq_of_result hresult
  obtain ⟨⟨⟩, s₂, t₂, u₂, -, h₂, -⟩ := Prog.bind_eq_ok_iff.mp hverdict
  obtain ⟨ctx, s₃, t₃, u₃, hctx, hconclude, -⟩ := Prog.bind_eq_ok_iff.mp h₂
  rw [concludeLogin_authCtx hconclude]
  exact assembleContext_label hctx

theorem authenticatePkcs11_label {tokenSerial : String} {session : Pkcs11Session σ}
    {leaf : Certificate X509} {verified : Stage2VerifiedChain X509} {s₁ : σ}
    (h : (authenticatePkcs11 deps platform tokenIo promptPin login s).result = .ok outcome)
    (hchecked : Pkcs11Checked deps platform tokenIo promptPin login s tokenSerial session leaf
      verified s₁) :
    outcome.authCtx.certMaxIntegrity = labelOf verified.verifiedLeaf := by
  obtain ⟨hpre, htoken, hserial, hacquire, hchecks⟩ := hchecked
  rw [authenticatePkcs11, Prog.bind_of_ok hpre, Prog.bind_of_ok htoken, Prog.bind_of_ok hserial,
    Prog.bind_of_ok hacquire] at h
  -- what is left of the run is the session on the token and the conclusion
  have hrest : (withSession deps platform login session tokenSerial >>= fun passed =>
      concludeLogin deps platform login passed.1 passed.2 none) _ = ⟨.ok outcome, _, _⟩ :=
    Run.eq_of_result h
  obtain ⟨passed, s₂, t₂, u₂, hsession, hconclude, -⟩ := Prog.bind_eq_ok_iff.mp hrest
  obtain ⟨passed', s₃, t₃, u₃, hpassed, hclose, -⟩ := Prog.bind_eq_ok_iff.mp hsession
  obtain ⟨⟨⟩, s₄, t₄, u₄, -, hpure, -⟩ := Prog.bind_eq_ok_iff.mp hclose
  cases hpure
  have hbody := Prog.onFailure_eq_ok_iff.mp hpassed
  obtain ⟨found, s₅, t₅, u₅, hchecks', hverdict, -⟩ := Prog.bind_eq_ok_iff.mp hbody
  rw [hchecks] at hchecks'
  cases hchecks'
  obtain ⟨⟨⟩, s₆, t₆, u₆, -, h₆, -⟩ := Prog.bind_eq_ok_iff.mp hverdict
  obtain ⟨ctx, s₇, t₇, u₇, hctx, hpure, -⟩ := Prog.bind_eq_ok_iff.mp h₆
  cases hpure
  rw [concludeLogin_authCtx hconclude]
  exact assembleContext_label hctx

/-- The context of a login carries the label of the leaf that the login verified. -/
theorem authenticate_label {verified : Stage2VerifiedChain X509}
    (h : (authenticate deps platform io promptPin login s).result = .ok outcome)
    (hverified : Verifies deps platform io promptPin login s verified) :
    outcome.authCtx.certMaxIntegrity = labelOf verified.verifiedLeaf := by
  obtain ⟨s₁, t, hbanner, hmode⟩ := hverified
  rw [authenticate, Prog.bind_of_ok hbanner] at h
  match hm : deps.cfg.mode, hb : deps.cfg.cryptoBackend with
  | .pkcs12, _ =>
    rw [hm] at h hmode
    obtain ⟨dev, session, leaf, s₂, hchecked⟩ := hmode
    exact authenticatePkcs12_label h hchecked
  | .pkcs11, .pkcs11Native =>
    rw [hm, hb] at h hmode
    obtain ⟨tokenIo, s₂, t₂, hload, tokenSerial, session, leaf, s₃, hchecked⟩ := hmode
    rw [authenticateMode, Prog.bind_of_ok hload] at h
    exact authenticatePkcs11_label h hchecked
  | .pkcs11, .openssl =>
    rw [hm, hb] at hmode
    exact hmode.elim

end Context

section Opening

variable {backend : MacBackend σ} {cfg : SessionConfig} {ctx : AuthContext} {pamUser : String}

/-- The pipeline returned `Ok`, and the backend applied a label on the way. -/
def EndsApplied (run : Run σ SessionEvent ℕ Unit) : Prop :=
  run.result = .ok () ∧ ∃ l, .mac (.applySession l (.ok ())) ∈ run.calls

/-- The backend does not know the user, or does not apply the label that is computed without a
label of the certificate. -/
def BackendRefuses (backend : MacBackend σ) (policy : MacPolicy) (ctx : SessionContext) (s : σ) :
    Prop :=
  match backend.getUserMnkc ctx.pamUser (backend.probe s).2 with
  | (.error _, _) => True
  | (.ok m, s₁) => ∃ e, applyAnswer backend policy none ctx m s₁ = .error e

theorem endsApplied_iff (monitor : Option (SessionMonitor σ)) (s : σ) :
    EndsApplied (runOpenSessionPipelineWithBackendAndMonitor cfg ctx pamUser backend monitor s) ↔
      ∃ l, (applySessionPolicy backend cfg.mac ctx.certMaxIntegrity (sessionContext ctx pamUser)
        s).result = .ok ⟨.applied l⟩ := by
  have hdecision := applySessionPolicy_decision backend cfg.mac ctx.certMaxIntegrity
    (sessionContext ctx pamUser) s
  rcases hpolicy : applySessionPolicy backend cfg.mac ctx.certMaxIntegrity
    (sessionContext ctx pamUser) s with ⟨e | outcome, s₁, t⟩
  · rw [pipeline_of_error monitor hpolicy]
    constructor
    · rintro ⟨hok, -⟩
      cases hok
    · rintro ⟨l, hok⟩
      cases hok
  · rw [hpolicy] at hdecision
    rw [pipeline_of_ok monitor hpolicy]
    constructor
    · rintro ⟨-, l, hmem⟩
      obtain ⟨event, hevent, heq⟩ := List.mem_map.mp hmem
      cases heq
      exact ⟨l, hdecision.mem_applySession hevent⟩
    · rintro ⟨l, happlied⟩
      obtain ⟨-, m, -, -, happly, -⟩ := hdecision.applied happlied
      have hmem : .applySession l (.ok ()) ∈ t.filter MacEvent.isApplySession := by
        rw [happly]
        exact List.mem_singleton_self _
      exact ⟨rfl, l, List.mem_map.mpr ⟨_, List.mem_of_mem_filter hmem, rfl⟩⟩

/-- Without a label in the context an active backend applies one exactly in the optional mode,
and unless it refuses. -/
theorem endsApplied_without_label (hactive : ∀ s, (backend.probe s).1 = .active)
    (hmode : cfg.mac.certIntegrity = .optional ∨ cfg.mac.certIntegrity = .required)
    (hlabel : ctx.certMaxIntegrity = none) (monitor : Option (SessionMonitor σ)) (s : σ) :
    EndsApplied (runOpenSessionPipelineWithBackendAndMonitor cfg ctx pamUser backend monitor s) ↔
      cfg.mac.certIntegrity = .optional ∧
        ¬ BackendRefuses backend cfg.mac (sessionContext ctx pamUser) s := by
  rw [endsApplied_iff, hlabel]
  rcases hmode with hoptional | hrequired
  · have hprobe : backend.probe s = (.active, (backend.probe s).2) := Prod.ext (hactive s) rfl
    rw [applySessionPolicy_of_active hprobe (.inl hoptional), BackendRefuses]
    simp only [hoptional, true_and]
    rcases hlookup : backend.getUserMnkc (sessionContext ctx pamUser).pamUser
      (backend.probe s).2 with ⟨e | m, s₁⟩
    · have herror : ∃ shown, (enforce backend cfg.mac none (sessionContext ctx pamUser)
          (backend.probe s).2).result = .error (.applyFailed shown) :=
        enforce_of_lookup_error hlookup
      obtain ⟨shown, hresult⟩ := herror
      simp [hresult]
    · rw [enforce_of_known hlookup]
      rcases hanswer : applyAnswer backend cfg.mac none (sessionContext ctx pamUser) m s₁ with
        e | ⟨⟩
      · simp [conclusion, hanswer]
      · simp [conclusion, hanswer]
  · constructor
    · rintro ⟨l, hresult⟩
      have hdecision := applySessionPolicy_decision backend cfg.mac none
        (sessionContext ctx pamUser) s
      rcases (hdecision.applied hresult).1 with hoptional | ⟨-, hnone⟩
      · rw [hrequired] at hoptional
        cases hoptional
      · exact absurd rfl hnone
    · rintro ⟨hoptional, -⟩
      rw [hrequired] at hoptional
      cases hoptional

end Opening

/-- The leaf carries the extension, and its value is not the encoding of a label. -/
def MalformedLabel (leaf : VerifiedX509 X509) : Prop :=
  ∃ der value e, toDer leaf.cert = .ok der ∧
    extractExtensionByOid X509 der maxIntegrityOid = .ok (some value) ∧
    IntegrityLabel.fromDer value = .error e

theorem MalformedLabel.labelOf_eq {leaf : VerifiedX509 X509} (h : MalformedLabel leaf) :
    labelOf leaf = none := by
  obtain ⟨der, value, e, hder, hvalue, hdecode⟩ := h
  have hextract : extractMaxIntegrity leaf = .error (.parse e) := by
    simp only [extractMaxIntegrity, hder, Except.mapError, bind, Except.bind, hvalue, hdecode]
    rfl
  rw [labelOf, hextract]

/-- After a login with a leaf whose label does not decode, no label is applied on an active
backend exactly if the policy requires the label or the backend itself refuses. -/
theorem malformed_label_refused_iff (deps : Deps σ X509) (platform : Platform σ X509)
    (io : FlowIo σ) (promptPin : PinPrompter σ) (login : Login) (s : σ) (outcome : FlowOutcome)
    (hlogin : (authenticate deps platform io promptPin login s).result = .ok outcome)
    (verified : Stage2VerifiedChain X509)
    (hverified : Verifies deps platform io promptPin login s verified)
    (hmalformed : MalformedLabel verified.verifiedLeaf) (backend : MacBackend σ)
    (hactive : ∀ s, (backend.probe s).1 = .active) (cfg : SessionConfig)
    (hmode : cfg.mac.certIntegrity = .optional ∨ cfg.mac.certIntegrity = .required)
    (monitor : Option (SessionMonitor σ)) (pamUser : String) (s₁ : σ) :
    ¬ EndsApplied (runOpenSessionPipelineWithBackendAndMonitor cfg outcome.authCtx pamUser backend
        monitor s₁) ↔
      cfg.mac.certIntegrity = .required ∨
        BackendRefuses backend cfg.mac (sessionContext outcome.authCtx pamUser) s₁ := by
  have hlabel : outcome.authCtx.certMaxIntegrity = none := by
    rw [authenticate_label hlogin hverified]
    exact hmalformed.labelOf_eq
  rw [endsApplied_without_label hactive hmode hlabel]
  rcases hmode with hmode | hmode
  · simp [hmode]
  · simp [hmode]

section Sample

open RecordX509

/-- A login of `alice` with a leaf whose label has a level of two bytes. -/
theorem malformedLogin_verifies :
    Verifies (recordDeps [⟨"alice", .subjectCn "engineer"⟩]) recordPlatform
      (recordIo leafMalformedLabel) recordPin aliceLogin ()
      ⟨leafMalformedLabel.certificate, [], root.certificate⟩ := by
  have hchecks : (pkcs12Checks (recordDeps [⟨"alice", .subjectCn "engineer"⟩]) recordPlatform
      (recordIo leafMalformedLabel) recordPin ⟨"certs/user.p12", utf8Bytes "0E", none⟩ ()).result =
        .ok (leafMalformedLabel.certificate,
          ⟨leafMalformedLabel.certificate, [], root.certificate⟩) := by
    decide +kernel
  have hbind : (bindCandidate (recordIo leafMalformedLabel) aliceLogin "certs/user.p12"
      [recordDevice] none none () : Run Unit (Call RecordX509) _ _).result =
        .ok (recordDevice, ⟨"/run/usb", 1⟩, ⟨"certs/user.p12", utf8Bytes "0E", none⟩) := by
    decide +kernel
  exact ⟨(), _, rfl, recordDevice, ⟨"/run/usb", 1⟩, _, _, rfl, rfl, Run.eq_of_result hbind,
    Run.eq_of_result hchecks⟩

theorem malformedLabel_leafMalformedLabel :
    MalformedLabel (⟨leafMalformedLabel⟩ : VerifiedX509 RecordX509) :=
  ⟨leafMalformedLabel.der, derElement tagSequence [0x02, 0x02, 0x00, 0x80], .levelOutOfRange, rfl,
    by decide +kernel, by decide +kernel⟩

theorem malformedLogin_admitted :
    ∃ outcome, (authenticate (recordDeps [⟨"alice", .subjectCn "engineer"⟩]) recordPlatform
      (recordIo leafMalformedLabel) recordPin aliceLogin ()).result = .ok outcome := by
  have hadmitted : (authenticate (recordDeps [⟨"alice", .subjectCn "engineer"⟩]) recordPlatform
      (recordIo leafMalformedLabel) recordPin aliceLogin ()).result.isOk = true := by decide +kernel
  rcases hresult : (authenticate (recordDeps [⟨"alice", .subjectCn "engineer"⟩]) recordPlatform
    (recordIo leafMalformedLabel) recordPin aliceLogin ()).result with e | outcome
  · rw [hresult] at hadmitted
    cases hadmitted
  · exact ⟨outcome, rfl⟩

/-- With the default policy the session of this login gets the label of the user. -/
theorem malformed_label_applied :
    MalformedLabel (⟨leafMalformedLabel⟩ : VerifiedX509 RecordX509) ∧
      ∃ outcome, (authenticate (recordDeps [⟨"alice", .subjectCn "engineer"⟩]) recordPlatform
          (recordIo leafMalformedLabel) recordPin aliceLogin ()).result = .ok outcome ∧
        EndsApplied (runOpenSessionPipelineWithBackendAndMonitor (sampleConfig .default [])
          outcome.authCtx "alice" (labelledBackend ⟨3, 5⟩) none ()) := by
  obtain ⟨outcome, hlogin⟩ := malformedLogin_admitted
  have hlabel : outcome.authCtx.certMaxIntegrity = none := by
    rw [authenticate_label hlogin malformedLogin_verifies]
    exact malformedLabel_leafMalformedLabel.labelOf_eq
  refine ⟨malformedLabel_leafMalformedLabel, outcome, hlogin, ?_⟩
  refine (endsApplied_without_label (fun _ => rfl) (.inl rfl) hlabel none ()).mpr ⟨rfl, ?_⟩
  rintro ⟨e, hrefused⟩
  cases hrefused

/-- A policy that requires the label refuses the session. -/
theorem malformed_label_refused_required :
    ∃ outcome, (authenticate (recordDeps [⟨"alice", .subjectCn "engineer"⟩]) recordPlatform
        (recordIo leafMalformedLabel) recordPin aliceLogin ()).result = .ok outcome ∧
      ¬ EndsApplied (runOpenSessionPipelineWithBackendAndMonitor (sampleConfig requiredLabel [])
        outcome.authCtx "alice" (labelledBackend ⟨3, 5⟩) none ()) := by
  obtain ⟨outcome, hlogin⟩ := malformedLogin_admitted
  refine ⟨outcome, hlogin, ?_⟩
  exact (malformed_label_refused_iff _ _ _ _ _ _ outcome hlogin _ malformedLogin_verifies
    malformedLabel_leafMalformedLabel (labelledBackend ⟨3, 5⟩) (fun _ => rfl)
    (sampleConfig requiredLabel []) (.inr rfl) none "alice" ()).mpr (.inl rfl)

end Sample

end PamCertauth.Session
