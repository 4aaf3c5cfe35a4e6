import PamCertauth.TokenGates
import PamCertauth.Wiring

/-!
# Who decides about the user

A certificate that carries the user-binding extension should be judged by it alone. The
flows ask whether the extension parses, not whether it is there. So the configured
mapping decides as soon as the extension does not parse, be it that the walk to it fails or
that its value does not decode to a non-empty list, and only then.
-/

namespace PamCertauth.Flow

open X509 X509.CryptoLibrary Hooks

variable {σ X509 : Type} [CryptoLibrary X509]

/-- The same collaborators with another mapping list. -/
def Deps.withMappings (deps : Deps σ X509) (mappings : List UserMapping) : Deps σ X509 :=
  { deps with userMappings := mappings }

/-- The extension names the user or everybody. -/
def NamesUser (leaf : Certificate X509) (pamUser : String) : Prop :=
  ∃ entries, UserBindingEntries leaf.inner entries ∧ ("*" ∈ entries ∨ pamUser ∈ entries)

section Authorize

variable (deps : Deps σ X509) (login : Login) {leaf : Certificate X509}

theorem namesUser_of_verifyUserBinding {pamUser : String}
    (h : verifyUserBinding leaf.inner pamUser = .ok ()) : NamesUser leaf pamUser := by
  obtain ⟨entries, hentries, hmem⟩ := verifyUserBinding_eq_ok_iff.mp h
  exact ⟨entries, userBindingEntries_of_bindingStrings hentries, hmem⟩

/-- The extension decides when it parses. -/
theorem authorizeUser_of_parsed (hparse : (UserBindingExt.parse leaf.inner).isOk = true) :
    authorizeUser deps login leaf =
      (verifyUserBinding leaf.inner login.pamUser).mapError .certScope := by
  rw [authorizeUser, if_pos hparse]

theorem authorizeUser_withMappings_of_not_parsed
    (hparse : ¬ (UserBindingExt.parse leaf.inner).isOk = true) :
    authorizeUser (deps.withMappings []) login leaf =
        .error (.mapping (.noMappingForUser login.pamUser)) ∧
      authorizeUser (deps.withMappings [⟨login.pamUser, .sanUpn ""⟩]) login leaf =
        .error (.mapping (.emptyMapping login.pamUser)) := by
  constructor
  · rw [authorizeUser, if_neg hparse]
    rfl
  · rw [authorizeUser, if_neg hparse]
    simp [Deps.withMappings, matchUser, matchCandidates]

end Authorize

/-- The run of the first pipeline from `s` passes the steps before the authorisation of the
user, with this device, session, certificate and chain, and in the last environment. -/
inductive Pkcs12Checked (deps : Deps σ X509) (platform : Platform σ X509) (io : FlowIo σ)
    (promptPin : PinPrompter σ) (login : Login) (s : σ) :
    UsbDevice → MountSession → Certificate X509 → Stage2VerifiedChain X509 → σ → Prop where
  | intro {devices : List UsbDevice} {dev : UsbDevice} {session : MountSession}
      {creds : DiscoveredCreds} {leaf : Certificate X509} {verified : Stage2VerifiedChain X509}
      {s₁ s₂ s₃ s₄ : σ} {t₁ t₂ t₃ t₄ : List (Call X509)}
      (preAuth : preAuthHooks deps login s = ⟨.ok (), s₁, t₁⟩)
      (usb : ask io.waitForUsb .waitForUsb .usb s₁ = ⟨.ok devices, s₂, t₂⟩)
      (bound : bindCandidate io login
        (deps.cfg.pkcs12PathPattern.getD defaultPkcs12PathPattern) devices none none s₂ =
          ⟨.ok (dev, session, creds), s₃, t₃⟩)
      (checked : pkcs12Checks deps platform io promptPin creds s₃ =
        ⟨.ok (leaf, verified), s₄, t₄⟩) :
      Pkcs12Checked deps platform io promptPin login s dev session leaf verified s₄

/-- The same for the second pipeline, with the serial of the token and the session on it. -/
inductive Pkcs11Checked (deps : Deps σ X509) (platform : Platform σ X509) (io : Pkcs11Io σ)
    (promptPin : PinPrompter σ) (login : Login) (s : σ) :
    String → Pkcs11Session σ → Certificate X509 → Stage2VerifiedChain X509 → σ → Prop where
  | intro {slot : Pkcs11.Slot} {tokenSerial : String} {session : Pkcs11Session σ}
      {leaf : Certificate X509} {verified : Stage2VerifiedChain X509} {s₁ s₂ s₃ s₄ s₅ : σ}
      {t₁ t₂ t₃ t₄ t₅ : List (Call X509)}
      (preAuth : preAuthHooks deps login s = ⟨.ok (), s₁, t₁⟩)
      (token : ask io.waitForToken .waitForToken .pkcs11 s₁ = ⟨.ok slot, s₂, t₂⟩)
      (serial : ask (io.readTokenSerial slot) (.readTokenSerial slot) .pkcs11 s₂ =
        ⟨.ok tokenSerial, s₃, t₃⟩)
      (acquired : acquireSession deps io promptPin slot s₃ = ⟨.ok session, s₄, t₄⟩)
      (checked : pkcs11Checks deps platform session s₄ = ⟨.ok (leaf, verified), s₅, t₅⟩) :
      Pkcs11Checked deps platform io promptPin login s tokenSerial session leaf verified s₅

/-- The run arrives at the authorisation of the user with `leaf`. -/
def Pkcs12Authorizes (deps : Deps σ X509) (platform : Platform σ X509) (io : FlowIo σ)
    (promptPin : PinPrompter σ) (login : Login) (s : σ) (leaf : Certificate X509) : Prop :=
  ∃ dev session verified s₁,
    Pkcs12Checked deps platform io promptPin login s dev session leaf verified s₁

def Pkcs11Authorizes (deps : Deps σ X509) (platform : Platform σ X509) (io : Pkcs11Io σ)
    (promptPin : PinPrompter σ) (login : Login) (s : σ) (leaf : Certificate X509) : Prop :=
  ∃ tokenSerial session verified s₁,
    Pkcs11Checked deps platform io promptPin login s tokenSerial session leaf verified s₁

/-- What the flows do with the answer about the user: it ends the run when it is an error,
nothing else of the run depends on the mapping list, and no login is admitted without it. -/
structure AuthorizedBy (flow : List UserMapping → FlowProg σ X509 FlowOutcome)
    (deps : Deps σ X509) (login : Login) (s : σ) (authorizes : Certificate X509 → Prop) :
    Prop where
  of_ok : ∀ mappings outcome, (flow mappings s).result = .ok outcome → ∃ leaf, authorizes leaf
  result_of_error : ∀ leaf, authorizes leaf → ∀ mappings e,
    authorizeUser (deps.withMappings mappings) login leaf = .error e →
      (flow mappings s).result = .error (.error e)
  congr : ∀ leaf, authorizes leaf → ∀ mappings mappings',
    authorizeUser (deps.withMappings mappings) login leaf =
      authorizeUser (deps.withMappings mappings') login leaf →
        flow mappings s = flow mappings' s

section Pipelines

variable {deps : Deps σ X509} {platform : Platform σ X509} {io : FlowIo σ}
  {tokenIo : Pkcs11Io σ} {promptPin : PinPrompter σ} {login : Login} {s s' : σ}
  {log : List (Call X509)} {outcome : FlowOutcome}

theorem authenticatePkcs12_eq_ok
    (h : authenticatePkcs12 deps platform io promptPin login s = ⟨.ok outcome, s', log⟩) :
    ∃ dev session leaf verified s₁ t,
      Pkcs12Checked deps platform io promptPin login s dev session leaf verified s₁ ∧
      pkcs12Verdict deps platform login dev session leaf verified s₁ = ⟨.ok outcome, s', t⟩ := by
  obtain ⟨⟨⟩, s₁, t₁, u₁, hpre, h₁, -⟩ := Prog.bind_eq_ok_iff.mp h
  obtain ⟨devices, s₂, t₂, u₂, husb, h₂, -⟩ := Prog.bind_eq_ok_iff.mp h₁
  obtain ⟨⟨dev, session, creds⟩, s₃, t₃, u₃, hbind, h₃, -⟩ := Prog.bind_eq_ok_iff.mp h₂
  have hbody := Prog.onFailure_eq_ok_iff.mp h₃
  obtain ⟨⟨leaf, verified⟩, s₄, t₄, u₄, hchecks, hverdict, -⟩ := Prog.bind_eq_ok_iff.mp hbody
  exact ⟨dev, session, leaf, verified, s₄, u₄, ⟨hpre, husb, hbind, hchecks⟩, hverdict⟩

theorem withBoundDevice_continues {dev : UsbDevice} {session : MountSession}
    {creds : DiscoveredCreds} {leaf : Certificate X509} {verified : Stage2VerifiedChain X509}
    (h : pkcs12Checks deps platform io promptPin creds s = ⟨.ok (leaf, verified), s', log⟩) :
    (withBoundDevice deps platform io promptPin login dev session creds s).Continues log
      (pkcs12Verdict deps platform login dev session leaf verified s') := by
  have hbody : (withBoundDevice deps platform io promptPin login dev session creds s).Continues []
      _ := Prog.continues_onFailure _ _ s
  let verdict : Certificate X509 × Stage2VerifiedChain X509 → FlowProg σ X509 FlowOutcome :=
    fun checked => pkcs12Verdict deps platform login dev session checked.1 checked.2
  have hverdict := Prog.continues_bind_of_ok (f := verdict) h
  exact hbody.trans hverdict

theorem Pkcs12Checked.continues {dev : UsbDevice} {session : MountSession}
    {leaf : Certificate X509} {verified : Stage2VerifiedChain X509}
    (h : Pkcs12Checked deps platform io promptPin login s dev session leaf verified s') :
    ∃ t, (authenticatePkcs12 deps platform io promptPin login s).Continues t
      (pkcs12Verdict deps platform login dev session leaf verified s') := by
  obtain ⟨hpre, husb, hbind, hchecks⟩ := h
  exact ⟨_, (Prog.continues_bind_of_ok hpre).trans ((Prog.continues_bind_of_ok husb).trans
    ((Prog.continues_bind_of_ok hbind).trans (withBoundDevice_continues hchecks)))⟩

theorem authenticatePkcs12_authorizedBy :
    AuthorizedBy
      (fun mappings => authenticatePkcs12 (deps.withMappings mappings) platform io promptPin login)
      deps login s (Pkcs12Authorizes deps platform io promptPin login s) where
  of_ok mappings outcome h := by
    have hrun : authenticatePkcs12 (deps.withMappings mappings) platform io promptPin login s =
        ⟨.ok outcome, _, _⟩ := Run.eq_of_result h
    obtain ⟨dev, session, leaf, verified, s₁, t, hchecked, -⟩ := authenticatePkcs12_eq_ok hrun
    obtain ⟨hpre, husb, hbind, hchecks⟩ := hchecked
    exact ⟨leaf, dev, session, verified, s₁, hpre, husb, hbind, hchecks⟩
  result_of_error leaf hleaf mappings e he := by
    obtain ⟨dev, session, verified, s₁, hpre, husb, hbind, hchecks⟩ := hleaf
    have hchecked : Pkcs12Checked (deps.withMappings mappings) platform io promptPin login s dev
        session leaf verified s₁ := ⟨hpre, husb, hbind, hchecks⟩
    obtain ⟨t, hcont⟩ := hchecked.continues
    rw [hcont.result]
    apply Prog.result_bind_of_error
    simp only [liftExcept, he]
    rfl
  congr leaf hleaf mappings mappings' heq := by
    obtain ⟨dev, session, verified, s₁, hpre, husb, hbind, hchecks⟩ := hleaf
    refine Prog.bind_congr_of_ok hpre ?_
    refine Prog.bind_congr_of_ok husb ?_
    refine Prog.bind_congr_of_ok hbind ?_
    refine Prog.onFailure_congr ?_
    refine Prog.bind_congr_of_ok hchecks ?_
    simp only [pkcs12Verdict, heq]
    rfl

theorem authenticatePkcs11_eq_ok
    (h : authenticatePkcs11 deps platform tokenIo promptPin login s = ⟨.ok outcome, s', log⟩) :
    ∃ tokenSerial session leaf verified ctx s₁ s₂ t₁ t₂,
      Pkcs11Checked deps platform tokenIo promptPin login s tokenSerial session leaf verified s₁ ∧
      pkcs11Verdict deps platform login tokenSerial leaf verified s₁ = ⟨.ok (leaf, ctx), s₂, t₁⟩ ∧
      concludeLogin deps platform login leaf ctx none (session.close s₂) = ⟨.ok outcome, s', t₂⟩ := by
  obtain ⟨⟨⟩, s₁, t₁, u₁, hpre, h₁, -⟩ := Prog.bind_eq_ok_iff.mp h
  obtain ⟨slot, s₂, t₂, u₂, htoken, h₂, -⟩ := Prog.bind_eq_ok_iff.mp h₁
  obtain ⟨tokenSerial, s₃, t₃, u₃, hserial, h₃, -⟩ := Prog.bind_eq_ok_iff.mp h₂
  obtain ⟨session, s₄, t₄, u₄, hacquire, h₄, -⟩ := Prog.bind_eq_ok_iff.mp h₃
  obtain ⟨passed, s₅, t₅, u₅, hsession, hconclude, -⟩ := Prog.bind_eq_ok_iff.mp h₄
  obtain ⟨passed', s₆, t₆, u₆, hpassed, hclose, -⟩ := Prog.bind_eq_ok_iff.mp hsession
  obtain ⟨⟨⟩, s₇, t₇, u₇, hnotify, hpure, -⟩ := Prog.bind_eq_ok_iff.mp hclose
  cases hpure
  cases hnotify
  have hbody := Prog.onFailure_eq_ok_iff.mp hpassed
  obtain ⟨⟨leaf, verified⟩, s₈, t₈, u₈, hchecks, hverdict, -⟩ := Prog.bind_eq_ok_iff.mp hbody
  obtain ⟨⟨⟩, s₉, t₉, u₉, hauth, hctx, rfl⟩ := Prog.bind_eq_ok_iff.mp hverdict
  obtain ⟨ctx, s₁₀, t₁₀, u₁₀, hassemble, hpure, rfl⟩ := Prog.bind_eq_ok_iff.mp hctx
  cases hpure
  exact ⟨tokenSerial, session, leaf, verified, ctx, s₈, _, _, u₅,
    ⟨hpre, htoken, hserial, hacquire, hchecks⟩, hverdict, hconclude⟩

theorem withSession_result_of_error {session : Pkcs11Session σ} {tokenSerial : String}
    {leaf : Certificate X509} {verified : Stage2VerifiedChain X509} {e : FlowError}
    (h : pkcs11Checks deps platform session s = ⟨.ok (leaf, verified), s', log⟩)
    (he : authorizeUser deps login leaf = .error e) :
    (withSession deps platform login session tokenSerial s).result = .error (.error e) := by
  apply Prog.result_bind_of_error
  rw [(Prog.continues_onFailure _ _ _).result]
  refine (Prog.continues_bind_of_ok h).result.trans ?_
  apply Prog.result_bind_of_error
  simp only [liftExcept, he]
  rfl

theorem authenticatePkcs11_authorizedBy :
    AuthorizedBy
      (fun mappings =>
        authenticatePkcs11 (deps.withMappings mappings) platform tokenIo promptPin login)
      deps login s (Pkcs11Authorizes deps platform tokenIo promptPin login s) where
  of_ok mappings outcome h := by
    have hrun : authenticatePkcs11 (deps.withMappings mappings) platform tokenIo promptPin login s =
        ⟨.ok outcome, _, _⟩ := Run.eq_of_result h
    obtain ⟨tokenSerial, session, leaf, verified, ctx, s₁, -, -, -, hchecked, -, -⟩ :=
      authenticatePkcs11_eq_ok hrun
    obtain ⟨hpre, htoken, hserial, hacquire, hchecks⟩ := hchecked
    exact ⟨leaf, tokenSerial, session, verified, s₁, hpre, htoken, hserial, hacquire, hchecks⟩
  result_of_error leaf hleaf mappings e he := by
    obtain ⟨tokenSerial, session, verified, s₁, hpre, htoken, hserial, hacquire, hchecks⟩ := hleaf
    refine (Prog.continues_bind_of_ok hpre).result.trans ?_
    refine (Prog.continues_bind_of_ok htoken).result.trans ?_
    refine (Prog.continues_bind_of_ok hserial).result.trans ?_
    refine (Prog.continues_bind_of_ok hacquire).result.trans ?_
    exact Prog.result_bind_of_error (withSession_result_of_error hchecks he)
  congr leaf hleaf mappings mappings' heq := by
    obtain ⟨tokenSerial, session, verified, s₁, hpre, htoken, hserial, hacquire, hchecks⟩ := hleaf
    refine Prog.bind_congr_of_ok hpre ?_
    refine Prog.bind_congr_of_ok htoken ?_
    refine Prog.bind_congr_of_ok hserial ?_
    refine Prog.bind_congr_of_ok hacquire ?_
    refine Prog.bind_congr_left (Prog.bind_congr_left ?_)
    refine Prog.onFailure_congr ?_
    refine Prog.bind_congr_of_ok hchecks ?_
    simp only [pkcs11Verdict, heq]
    rfl

end Pipelines

/-- For a certificate with the extension, a login is admitted only if the extension names
the user, and the run does not depend on the mapping list. -/
def BindingDecides (flow : List UserMapping → FlowProg σ X509 FlowOutcome) (login : Login) (s : σ)
    (authorizes : Certificate X509 → Prop) : Prop :=
  ∀ leaf, authorizes leaf → CarriesUserBinding leaf.inner →
    (∀ mappings outcome, (flow mappings s).result = .ok outcome →
      NamesUser leaf login.pamUser) ∧
    ∀ mappings mappings', flow mappings s = flow mappings' s

/-- The extension of every certificate that the run authorises parses where there is one. -/
def BindingParses (authorizes : Certificate X509 → Prop) : Prop :=
  ∀ leaf, authorizes leaf → CarriesUserBinding leaf.inner →
    (UserBindingExt.parse leaf.inner).isOk = true

theorem AuthorizedBy.bindingDecides_iff
    {flow : List UserMapping → FlowProg σ X509 FlowOutcome} {deps : Deps σ X509} {login : Login}
    {s : σ} {authorizes : Certificate X509 → Prop}
    (h : AuthorizedBy flow deps login s authorizes) :
    BindingDecides flow login s authorizes ↔ BindingParses authorizes := by
  constructor
  · intro hdecides leaf hleaf hcarries
    by_contra hnot
    obtain ⟨hnone, hempty⟩ := authorizeUser_withMappings_of_not_parsed deps login hnot
    have hsame := congrArg Run.result ((hdecides leaf hleaf hcarries).2 []
      [⟨login.pamUser, .sanUpn ""⟩])
    rw [h.result_of_error leaf hleaf _ _ hnone, h.result_of_error leaf hleaf _ _ hempty] at hsame
    simp at hsame
  · intro hparses leaf hleaf hcarries
    have hextension (mappings : List UserMapping) :=
      authorizeUser_of_parsed (deps.withMappings mappings) login (hparses leaf hleaf hcarries)
    constructor
    · intro mappings outcome hok
      rcases hverify : verifyUserBinding leaf.inner login.pamUser with e | ⟨⟨⟩⟩
      · have hrefused := (hextension mappings).trans (by rw [hverify, Except.mapError])
        rw [h.result_of_error leaf hleaf mappings _ hrefused] at hok
        cases hok
      · exact namesUser_of_verifyUserBinding hverify
    · intro mappings mappings'
      apply h.congr leaf hleaf
      rw [hextension mappings, hextension mappings']

/-- In both pipelines only a certificate that arrives at the authorisation is admitted,
and its extension decides about the user exactly when it parses. -/
theorem userBinding_decides_iff (deps : Deps σ X509) (platform : Platform σ X509)
    (io : FlowIo σ) (tokenIo : Pkcs11Io σ) (promptPin : PinPrompter σ) (login : Login) (s : σ) :
    ((∀ mappings outcome,
        (authenticatePkcs12 (deps.withMappings mappings) platform io promptPin login s).result =
          .ok outcome → ∃ leaf, Pkcs12Authorizes deps platform io promptPin login s leaf) ∧
      (BindingDecides
        (fun mappings =>
          authenticatePkcs12 (deps.withMappings mappings) platform io promptPin login)
        login s (Pkcs12Authorizes deps platform io promptPin login s) ↔
          BindingParses (Pkcs12Authorizes deps platform io promptPin login s))) ∧
    (∀ mappings outcome,
        (authenticatePkcs11 (deps.withMappings mappings) platform tokenIo promptPin login s).result =
          .ok outcome → ∃ leaf, Pkcs11Authorizes deps platform tokenIo promptPin login s leaf) ∧
      (BindingDecides
        (fun mappings =>
          authenticatePkcs11 (deps.withMappings mappings) platform tokenIo promptPin login)
        login s (Pkcs11Authorizes deps platform tokenIo promptPin login s) ↔
          BindingParses (Pkcs11Authorizes deps platform tokenIo promptPin login s)) :=
  ⟨⟨authenticatePkcs12_authorizedBy.of_ok, authenticatePkcs12_authorizedBy.bindingDecides_iff⟩,
    authenticatePkcs11_authorizedBy.of_ok, authenticatePkcs11_authorizedBy.bindingDecides_iff⟩

section Sample

open RecordX509 Config

/-- A deployment of the sample certificates. Nothing is monitored. -/
def recordDeps (mappings : List UserMapping) : Deps Unit RecordX509 where
  cfg := Wiring.recordConfig (Wiring.recordTrust .none [] ⟨false, []⟩)
  trustVerify leaf presented s :=
    ((Wiring.recordVerifier [] false []).verifyAt leaf presented 5, s)
  monitor := Ipc.wiredMonitor Wiring.refusedLink ⟨"/run/monitord.sock", Duration.fromSecs 2⟩ .strict
  hookExecutor _ _ s := (.error (.fork "no hooks here"), s)
  hostIdHash := "cafe0123"
  hostIdSource := .machineId
  userMappings := mappings
  pamTarget := .tty "/dev/tty1"

def recordPlatform : Platform Unit RecordX509 where
  fillNonce s := (.ok (Vector.replicate 32 7), s)
  sign key _ data s := (.ok (utf8Bytes key ++ data), s)
  now s := (5, s)
  userFromName _ s := (.ok none, s)
  loadBackend path _ s := (.error (.modulePathMissing path), s)

def recordDevice : UsbDevice := ⟨"/dev/sda1", some "USB-1", 0x0951, 0x1666, some "vfat"⟩

/-- One device with the bundle of a certificate. -/
def recordIo (leaf : RecordX509) : FlowIo Unit where
  waitForUsb s := (.ok [recordDevice], s)
  mount _ s := (.ok ⟨"/run/usb", 1⟩, s)
  unmount _ s := s
  discover _ pattern _ s := (.ok ⟨pattern, utf8Bytes leaf.serial, none⟩, s)
  showInfo _ s := s

def recordPin : PinPrompter Unit := fun _ s => (.ok "1234", s)

def aliceLogin : Login := ⟨"alice", "login", "session-1"⟩

theorem recordFlow_authorizes :
    Pkcs12Authorizes (recordDeps []) recordPlatform (recordIo leafEmptyBinding) recordPin
      aliceLogin () leafEmptyBinding.certificate := by
  have hchecks : (pkcs12Checks (recordDeps []) recordPlatform (recordIo leafEmptyBinding)
      recordPin ⟨"certs/user.p12", utf8Bytes "0C", none⟩ ()).result =
        .ok (leafEmptyBinding.certificate,
          ⟨leafEmptyBinding.certificate, [], root.certificate⟩) := by
    decide +kernel
  have hbind : (bindCandidate (recordIo leafEmptyBinding) aliceLogin "certs/user.p12"
      [recordDevice] none none () : Run Unit (Call RecordX509) _ _).result =
        .ok (recordDevice, ⟨"/run/usb", 1⟩, ⟨"certs/user.p12", utf8Bytes "0C", none⟩) := by
    decide +kernel
  exact ⟨_, _, _, _, rfl, rfl, Run.eq_of_result hbind, Run.eq_of_result hchecks⟩

/-- The extension of the certificate is an empty list, and the mapping list admits `alice`. -/
theorem authenticatePkcs12_empty_binding_admitted :
    CarriesUserBinding leafEmptyBinding.certificate.inner ∧
      ¬ NamesUser leafEmptyBinding.certificate aliceLogin.pamUser ∧
      Pkcs12Authorizes (recordDeps []) recordPlatform (recordIo leafEmptyBinding) recordPin
        aliceLogin () leafEmptyBinding.certificate ∧
      (authenticatePkcs12 ((recordDeps []).withMappings [⟨"alice", .subjectCn "engineer"⟩])
        recordPlatform (recordIo leafEmptyBinding) recordPin aliceLogin ()).result.isOk = true ∧
      (authenticatePkcs12 ((recordDeps []).withMappings [])
        recordPlatform (recordIo leafEmptyBinding) recordPin aliceLogin ()).result =
          .error (.error (.mapping (.noMappingForUser "alice"))) := by
  have hvalue : extractExtensionByOid RecordX509 leafEmptyBinding.certificate.inner.der
      userBindingOid = .ok (some (derSeqOfUtf8 [])) := by
    decide +kernel
  have hempty : parseSeqOfUtf8 (derSeqOfUtf8 []) = .ok [] := by decide +kernel
  refine ⟨?_, ?_, recordFlow_authorizes, by decide +kernel, by decide +kernel⟩
  · intro der hder
    cases hder
    rw [hvalue]
    simp
  · intro hnames
    obtain ⟨entries, ⟨der, value, hder, hfound, hentries⟩, hmem⟩ := hnames
    cases hder
    rw [hvalue] at hfound
    cases hfound
    rw [hempty] at hentries
    cases hentries
    simp at hmem

end Sample

end PamCertauth.Flow
