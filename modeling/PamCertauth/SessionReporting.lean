import PamCertauth.UserAuthorization

/-!
# What the monitor has to say about a login

The last step of a login reports the session to the monitor. The wrapper around the
client decides which failures of the exchange are errors, but the flows discard what
it answers. A login that gets as far as the report is admitted whatever the daemon
does, and a login that does not is refused.
-/

namespace PamCertauth.Flow

open X509 X509.CryptoLibrary Hooks

variable {σ X509 : Type} [CryptoLibrary X509]

/-- The same collaborators with another monitor. -/
def Deps.withMonitor (deps : Deps σ X509) (monitor : Ipc.MonitorClient σ) : Deps σ X509 :=
  { deps with monitor := monitor }

def Deps.monitorFactory (deps : Deps σ X509) : Ipc.MonitorClientFactory :=
  ⟨deps.cfg.monitor.socketPath, deps.cfg.monitor.timeout⟩

/-- The collaborators with the monitor that the production wiring makes of a link. -/
def Deps.wiredTo (deps : Deps σ X509) (link : Ipc.DaemonLink σ) : Deps σ X509 :=
  deps.withMonitor (Ipc.wiredMonitor link deps.monitorFactory deps.cfg.monitor.failMode)

/-- The exchange about a session is acknowledged, or it fails in the permissive mode
with an error that does not change the verdict. -/
def Tolerable (link : Ipc.DaemonLink σ) (factory : Ipc.MonitorClientFactory)
    (mode : Ipc.MonitorFailMode) (info : Ipc.OpenSessionInfo) (s : σ) : Prop :=
  let exchange := Ipc.connectPerCallOpenSession link factory info s
  (exchange.result = .ok () ∧ Ipc.Acknowledged link info exchange.calls) ∨
    mode = .permissive ∧ ∃ e, exchange.result = .error e ∧ e ≠ .deviceGone ∧
      e ≠ .unauthorized ∧ ∀ version, e ≠ .protocolMismatch version

section Reports

variable (deps : Deps σ X509) (platform : Platform σ X509) (io : FlowIo σ)
  (tokenIo : Pkcs11Io σ) (promptPin : PinPrompter σ) (login : Login)

/-- The admission from `s` gets as far as the report of `info` in the environment `s'`. -/
def ConcludeReports (leaf : Certificate X509) (ctx : AuthContext) (s : σ)
    (info : Ipc.OpenSessionInfo) (s' : σ) : Prop :=
  ∃ s₁ t₁ uid t₂, postAuthHooks deps login ctx s = ⟨.ok (), s₁, t₁⟩ ∧
    (resolveUid platform login : FlowProg σ X509 UInt32) s₁ = ⟨.ok uid, s', t₂⟩ ∧
    info = openSessionInfo deps login leaf ctx uid

def Pkcs12Reports (s : σ) (info : Ipc.OpenSessionInfo) (s' : σ) : Prop :=
  ∃ dev session leaf verified s₁ ctx s₂ t,
    Pkcs12Checked deps platform io promptPin login s dev session leaf verified s₁ ∧
    authorizeUser deps login leaf = .ok () ∧
    assembleContext deps platform login leaf verified dev.serial (some (vidPid dev)) s₁ =
      ⟨.ok ctx, s₂, t⟩ ∧
    ConcludeReports deps platform login leaf ctx s₂ info s'

def Pkcs11Reports (s : σ) (info : Ipc.OpenSessionInfo) (s' : σ) : Prop :=
  ∃ tokenSerial session leaf verified s₁ ctx s₂ t,
    Pkcs11Checked deps platform tokenIo promptPin login s tokenSerial session leaf verified s₁ ∧
    authorizeUser deps login leaf = .ok () ∧
    assembleContext deps platform login leaf verified (some tokenSerial) none s₁ =
      ⟨.ok ctx, s₂, t⟩ ∧
    ConcludeReports deps platform login leaf ctx (session.close s₂) info s'

def ModeReports (s : σ) (info : Ipc.OpenSessionInfo) (s' : σ) :
    Config.Mode → Config.CryptoBackend → Prop
  | .pkcs12, _ => Pkcs12Reports deps platform io promptPin login s info s'
  | .pkcs11, .pkcs11Native => ∃ tokenIo s₁ t, loadPkcs11Io deps platform s = ⟨.ok tokenIo, s₁, t⟩ ∧
      Pkcs11Reports deps platform tokenIo promptPin login s₁ info s'
  | .pkcs11, .openssl => False

/-- The login from `s` gets as far as the report of `info` in the environment `s'`. -/
def Reports (s : σ) (info : Ipc.OpenSessionInfo) (s' : σ) : Prop :=
  ∃ s₁ t, banner deps io s = ⟨.ok (), s₁, t⟩ ∧
    ModeReports deps platform io promptPin login s₁ info s' deps.cfg.mode deps.cfg.cryptoBackend

end Reports

section Unique

variable {deps : Deps σ X509} {platform : Platform σ X509} {io : FlowIo σ}
  {tokenIo : Pkcs11Io σ} {promptPin : PinPrompter σ} {login : Login} {s s₁ s₂ : σ}
  {info₁ info₂ : Ipc.OpenSessionInfo}

theorem ConcludeReports.unique {leaf : Certificate X509} {ctx : AuthContext}
    (h₁ : ConcludeReports deps platform login leaf ctx s info₁ s₁)
    (h₂ : ConcludeReports deps platform login leaf ctx s info₂ s₂) : info₁ = info₂ ∧ s₁ = s₂ := by
  obtain ⟨_, _, uid, _, hhooks, huid, rfl⟩ := h₁
  obtain ⟨_, _, uid', _, hhooks', huid', rfl⟩ := h₂
  obtain ⟨-, rfl, -⟩ := Run.ok_inj hhooks hhooks'
  obtain ⟨rfl, rfl, -⟩ := Run.ok_inj huid huid'
  exact ⟨rfl, rfl⟩

theorem Pkcs12Reports.unique (h₁ : Pkcs12Reports deps platform io promptPin login s info₁ s₁)
    (h₂ : Pkcs12Reports deps platform io promptPin login s info₂ s₂) :
    info₁ = info₂ ∧ s₁ = s₂ := by
  obtain ⟨_, _, _, _, _, _, _, _, ⟨hpre, husb, hbind, hchecks⟩, -, hctx, hconclude⟩ := h₁
  obtain ⟨_, _, _, _, _, _, _, _, ⟨hpre', husb', hbind', hchecks'⟩, -, hctx', hconclude'⟩ := h₂
  obtain ⟨-, rfl, -⟩ := Run.ok_inj hpre hpre'
  obtain ⟨rfl, rfl, -⟩ := Run.ok_inj husb husb'
  obtain ⟨hbound, rfl, -⟩ := Run.ok_inj hbind hbind'
  cases hbound
  obtain ⟨hpassed, rfl, -⟩ := Run.ok_inj hchecks hchecks'
  cases hpassed
  obtain ⟨rfl, rfl, -⟩ := Run.ok_inj hctx hctx'
  exact hconclude.unique hconclude'

theorem Pkcs11Reports.unique
    (h₁ : Pkcs11Reports deps platform tokenIo promptPin login s info₁ s₁)
    (h₂ : Pkcs11Reports deps platform tokenIo promptPin login s info₂ s₂) :
    info₁ = info₂ ∧ s₁ = s₂ := by
  obtain ⟨_, _, _, _, _, _, _, _, ⟨hpre, htoken, hserial, hacquire, hchecks⟩, -, hctx, hconclude⟩ := h₁
  obtain ⟨_, _, _, _, _, _, _, _, ⟨hpre', htoken', hserial', hacquire', hchecks'⟩, -, hctx',
    hconclude'⟩ := h₂
  obtain ⟨-, rfl, -⟩ := Run.ok_inj hpre hpre'
  obtain ⟨rfl, rfl, -⟩ := Run.ok_inj htoken htoken'
  obtain ⟨rfl, rfl, -⟩ := Run.ok_inj hserial hserial'
  obtain ⟨rfl, rfl, -⟩ := Run.ok_inj hacquire hacquire'
  obtain ⟨hpassed, rfl, -⟩ := Run.ok_inj hchecks hchecks'
  cases hpassed
  obtain ⟨rfl, rfl, -⟩ := Run.ok_inj hctx hctx'
  exact hconclude.unique hconclude'

/-- A login reports one session at most, in one environment. -/
theorem Reports.unique (h₁ : Reports deps platform io promptPin login s info₁ s₁)
    (h₂ : Reports deps platform io promptPin login s info₂ s₂) : info₁ = info₂ ∧ s₁ = s₂ := by
  obtain ⟨_, _, hbanner, hmode⟩ := h₁
  obtain ⟨_, _, hbanner', hmode'⟩ := h₂
  obtain ⟨-, rfl, -⟩ := Run.ok_inj hbanner hbanner'
  revert hmode hmode'
  cases deps.cfg.mode with
  | pkcs12 => exact Pkcs12Reports.unique
  | pkcs11 =>
    cases deps.cfg.cryptoBackend with
    | openssl => exact fun h => h.elim
    | pkcs11Native =>
      rintro ⟨_, _, _, hload, hreports⟩ ⟨_, _, _, hload', hreports'⟩
      obtain ⟨rfl, rfl, -⟩ := Run.ok_inj hload hload'
      exact hreports.unique hreports'

end Unique

section Unmonitored

variable {deps : Deps σ X509} {platform : Platform σ X509} {io : FlowIo σ}
  {tokenIo : Pkcs11Io σ} {promptPin : PinPrompter σ} {login : Login} {s s' : σ}
  {info : Ipc.OpenSessionInfo} (monitor : Ipc.MonitorClient σ)

theorem pkcs12Reports_withMonitor :
    Pkcs12Reports (deps.withMonitor monitor) platform io promptPin login s info s' ↔
      Pkcs12Reports deps platform io promptPin login s info s' := by
  constructor
  · intro hreports
    obtain ⟨dev, session, leaf, verified, s₁, ctx, s₂, t, ⟨hpre, husb, hbind, hchecks⟩, hrest⟩ := hreports
    exact ⟨dev, session, leaf, verified, s₁, ctx, s₂, t, ⟨hpre, husb, hbind, hchecks⟩, hrest⟩
  · intro hreports
    obtain ⟨dev, session, leaf, verified, s₁, ctx, s₂, t, ⟨hpre, husb, hbind, hchecks⟩, hrest⟩ := hreports
    exact ⟨dev, session, leaf, verified, s₁, ctx, s₂, t, ⟨hpre, husb, hbind, hchecks⟩, hrest⟩

theorem pkcs11Reports_withMonitor :
    Pkcs11Reports (deps.withMonitor monitor) platform tokenIo promptPin login s info s' ↔
      Pkcs11Reports deps platform tokenIo promptPin login s info s' := by
  constructor
  · rintro ⟨serial, session, leaf, verified, s₁, ctx, s₂, t,
      ⟨hpre, htoken, hserial, hacquire, hchecks⟩, hrest⟩
    exact ⟨serial, session, leaf, verified, s₁, ctx, s₂, t,
      ⟨hpre, htoken, hserial, hacquire, hchecks⟩, hrest⟩
  · rintro ⟨serial, session, leaf, verified, s₁, ctx, s₂, t,
      ⟨hpre, htoken, hserial, hacquire, hchecks⟩, hrest⟩
    exact ⟨serial, session, leaf, verified, s₁, ctx, s₂, t,
      ⟨hpre, htoken, hserial, hacquire, hchecks⟩, hrest⟩

/-- Whether a login gets as far as the report does not depend on the monitor. -/
theorem reports_withMonitor :
    Reports (deps.withMonitor monitor) platform io promptPin login s info s' ↔
      Reports deps platform io promptPin login s info s' := by
  have hmode : ∀ s₁ mode backend,
      ModeReports (deps.withMonitor monitor) platform io promptPin login s₁ info s' mode backend ↔
        ModeReports deps platform io promptPin login s₁ info s' mode backend := by
    intro s₁ mode backend
    match mode, backend with
    | .pkcs12, _ => exact pkcs12Reports_withMonitor monitor
    | .pkcs11, .pkcs11Native =>
      simp only [ModeReports, pkcs11Reports_withMonitor]
      rfl
    | .pkcs11, .openssl => exact Iff.rfl
  simp only [Reports, hmode]
  rfl

end Unmonitored

/-- A run that ends with the report of `info` in the environment `s'`, and with a login. -/
def Reported (monitor : Ipc.MonitorClient σ) (info : Ipc.OpenSessionInfo) (s' : σ)
    (run : Run σ (Call X509) (Halt FlowError) FlowOutcome) : Prop :=
  ∃ outcome, run.result = .ok outcome ∧
    .openSession info (monitor.openSession info s').1 ∈ run.calls

theorem Reported.of_continues {monitor : Ipc.MonitorClient σ} {info : Ipc.OpenSessionInfo}
    {s' : σ} {run run' : Run σ (Call X509) (Halt FlowError) FlowOutcome} {t : List (Call X509)}
    (h : Reported monitor info s' run') (hcont : run.Continues t run') :
    Reported monitor info s' run := by
  obtain ⟨outcome, hok, hcall⟩ := h
  obtain ⟨extra, hcalls⟩ := hcont.calls
  refine ⟨outcome, hcont.result.trans hok, ?_⟩
  rw [hcalls]
  simp [hcall]

section Pipelines

variable {deps : Deps σ X509} {platform : Platform σ X509} {io : FlowIo σ}
  {tokenIo : Pkcs11Io σ} {promptPin : PinPrompter σ} {login : Login} {s s' : σ}
  {info : Ipc.OpenSessionInfo} {log : List (Call X509)} {outcome : FlowOutcome}
  {leaf : Certificate X509} {ctx : AuthContext} {mount : Option MountSession}

theorem ConcludeReports.reported (h : ConcludeReports deps platform login leaf ctx s info s') :
    Reported deps.monitor info s' (concludeLogin deps platform login leaf ctx mount s) := by
  obtain ⟨s₁, t₁, uid, t₂, hhooks, huid, rfl⟩ := h
  have hreport : reportSession deps platform login leaf ctx s₁ =
      ⟨.ok (), (deps.monitor.openSession (openSessionInfo deps login leaf ctx uid) s').2,
        t₂ ++ [.openSession (openSessionInfo deps login leaf ctx uid)
          (deps.monitor.openSession (openSessionInfo deps login leaf ctx uid) s').1]⟩ :=
    Prog.bind_of_ok huid
  have hlast : ((reportSession deps platform login leaf ctx >>= fun _ =>
      (pure ⟨ctx, mount⟩ : FlowProg σ X509 FlowOutcome)) s₁) = _ := Prog.bind_of_ok hreport
  refine Reported.of_continues ⟨⟨ctx, mount⟩, ?_, ?_⟩ (Prog.continues_bind_of_ok hhooks)
  · rw [hlast]
    rfl
  · rw [hlast]
    simp

theorem concludeReports_of_ok
    (h : concludeLogin deps platform login leaf ctx mount s = ⟨.ok outcome, s', log⟩) :
    ∃ info s₁, ConcludeReports deps platform login leaf ctx s info s₁ := by
  obtain ⟨⟨⟩, s₁, t₁, u₁, hhooks, h₁, -⟩ := Prog.bind_eq_ok_iff.mp h
  obtain ⟨⟨⟩, s₂, t₂, u₂, hreport, -, -⟩ := Prog.bind_eq_ok_iff.mp h₁
  obtain ⟨uid, s₃, t₃, u₃, huid, -, -⟩ := Prog.bind_eq_ok_iff.mp hreport
  exact ⟨_, s₃, s₁, t₁, uid, t₃, hhooks, huid, rfl⟩

theorem pkcs12Reports_of_ok
    (h : authenticatePkcs12 deps platform io promptPin login s = ⟨.ok outcome, s', log⟩) :
    ∃ info s₁, Pkcs12Reports deps platform io promptPin login s info s₁ := by
  obtain ⟨dev, session, leaf, verified, s₁, t, hchecked, hverdict⟩ := authenticatePkcs12_eq_ok h
  obtain ⟨⟨⟩, s₂, t₂, u₂, hauth, h₂, -⟩ := Prog.bind_eq_ok_iff.mp hverdict
  obtain ⟨ctx, s₃, t₃, u₃, hctx, hconclude, -⟩ := Prog.bind_eq_ok_iff.mp h₂
  obtain ⟨hauthorized, rfl, -⟩ := liftExcept_eq_ok_iff.mp hauth
  obtain ⟨info, s₄, hreports⟩ := concludeReports_of_ok hconclude
  exact ⟨info, s₄, dev, session, leaf, verified, s₂, ctx, s₃, t₃, hchecked, hauthorized, hctx,
    hreports⟩

theorem Pkcs12Reports.reported (h : Pkcs12Reports deps platform io promptPin login s info s') :
    Reported deps.monitor info s' (authenticatePkcs12 deps platform io promptPin login s) := by
  obtain ⟨dev, session, leaf, verified, s₁, ctx, s₂, t, hchecked, hauth, hctx, hreports⟩ := h
  obtain ⟨t₁, hcont⟩ := hchecked.continues
  have hpassed : (liftExcept id (authorizeUser deps login leaf) : FlowProg σ X509 Unit) s₁ =
      ⟨.ok (), s₁, []⟩ := liftExcept_eq_ok_iff.mpr ⟨hauth, rfl, rfl⟩
  have hverdict : (pkcs12Verdict deps platform login dev session leaf verified s₁).Continues _ _ :=
    (Prog.continues_bind_of_ok hpassed).trans (Prog.continues_bind_of_ok hctx)
  exact hreports.reported.of_continues (hcont.trans hverdict)

theorem pkcs11Reports_of_ok
    (h : authenticatePkcs11 deps platform tokenIo promptPin login s = ⟨.ok outcome, s', log⟩) :
    ∃ info s₁, Pkcs11Reports deps platform tokenIo promptPin login s info s₁ := by
  obtain ⟨tokenSerial, session, leaf, verified, ctx, s₁, s₂, t₁, t₂, hchecked, hverdict, hconclude⟩ :=
    authenticatePkcs11_eq_ok h
  obtain ⟨⟨⟩, s₃, t₃, u₃, hauth, h₃, -⟩ := Prog.bind_eq_ok_iff.mp hverdict
  obtain ⟨ctx', s₄, t₄, u₄, hctx, hpure, -⟩ := Prog.bind_eq_ok_iff.mp h₃
  cases hpure
  obtain ⟨hauthorized, rfl, -⟩ := liftExcept_eq_ok_iff.mp hauth
  obtain ⟨info, s₅, hreports⟩ := concludeReports_of_ok hconclude
  exact ⟨info, s₅, tokenSerial, session, leaf, verified, _, ctx, _, _, hchecked, hauthorized, hctx,
    hreports⟩

theorem pkcs11Verdict_of_ok {tokenSerial : String} {verified : Stage2VerifiedChain X509}
    (hauth : authorizeUser deps login leaf = .ok ())
    (hctx : assembleContext deps platform login leaf verified (some tokenSerial) none s =
      ⟨.ok ctx, s', log⟩) :
    pkcs11Verdict deps platform login tokenSerial leaf verified s = ⟨.ok (leaf, ctx), s', log⟩ := by
  have hpassed : (liftExcept id (authorizeUser deps login leaf) : FlowProg σ X509 Unit) s =
      ⟨.ok (), s, []⟩ := liftExcept_eq_ok_iff.mpr ⟨hauth, rfl, rfl⟩
  refine Prog.bind_eq_ok_iff.mpr ⟨(), s, [], log, hpassed, ?_, rfl⟩
  exact Prog.bind_eq_ok_iff.mpr ⟨ctx, s', log, [], hctx, rfl, (List.append_nil _).symm⟩

theorem withSession_of_ok {session : Pkcs11Session σ} {tokenSerial : String}
    {verified : Stage2VerifiedChain X509} {s₁ : σ} {t : List (Call X509)}
    (hchecks : pkcs11Checks deps platform session s = ⟨.ok (leaf, verified), s₁, t⟩)
    (hverdict : pkcs11Verdict deps platform login tokenSerial leaf verified s₁ =
      ⟨.ok (leaf, ctx), s', log⟩) :
    withSession deps platform login session tokenSerial s =
      ⟨.ok (leaf, ctx), session.close s', t ++ log ++ [.closeSession]⟩ := by
  refine Prog.bind_eq_ok_iff.mpr ⟨(leaf, ctx), s', t ++ log, [.closeSession], ?_, rfl, rfl⟩
  apply Prog.onFailure_eq_ok_iff.mpr
  exact Prog.bind_eq_ok_iff.mpr ⟨(leaf, verified), s₁, t, log, hchecks, hverdict, rfl⟩

theorem Pkcs11Reports.reported
    (h : Pkcs11Reports deps platform tokenIo promptPin login s info s') :
    Reported deps.monitor info s' (authenticatePkcs11 deps platform tokenIo promptPin login s) := by
  obtain ⟨tokenSerial, session, leaf, verified, s₁, ctx, s₂, t, hchecked, hauth, hctx, hreports⟩ := h
  obtain ⟨hpre, htoken, hserial, hacquire, hchecks⟩ := hchecked
  have hsession := withSession_of_ok hchecks (pkcs11Verdict_of_ok hauth hctx)
  refine Reported.of_continues ?_ (Prog.continues_bind_of_ok hpre)
  refine Reported.of_continues ?_ (Prog.continues_bind_of_ok htoken)
  refine Reported.of_continues ?_ (Prog.continues_bind_of_ok hserial)
  refine Reported.of_continues ?_ (Prog.continues_bind_of_ok hacquire)
  exact hreports.reported.of_continues (Prog.continues_bind_of_ok hsession)

theorem modeReports_of_ok {mode : Config.Mode} {backend : Config.CryptoBackend}
    (h : authenticateMode deps platform io promptPin login mode backend s =
      ⟨.ok outcome, s', log⟩) :
    ∃ info s₁, ModeReports deps platform io promptPin login s info s₁ mode backend := by
  match mode, backend with
  | .pkcs12, _ => exact pkcs12Reports_of_ok h
  | .pkcs11, .pkcs11Native =>
    obtain ⟨tokenIo, s₁, t₁, u₁, hload, hclosing, -⟩ := Prog.bind_eq_ok_iff.mp h
    obtain ⟨s₃, hflow, -⟩ := Prog.closing_eq_ok hclosing
    obtain ⟨info, s₂, hreports⟩ := pkcs11Reports_of_ok hflow
    exact ⟨info, s₂, tokenIo, s₁, t₁, hload, hreports⟩
  | .pkcs11, .openssl => cases h

theorem ModeReports.reported {mode : Config.Mode} {backend : Config.CryptoBackend}
    (h : ModeReports deps platform io promptPin login s info s' mode backend) :
    Reported deps.monitor info s'
      (authenticateMode deps platform io promptPin login mode backend s) := by
  match mode, backend with
  | .pkcs12, _ => exact Pkcs12Reports.reported h
  | .pkcs11, .pkcs11Native =>
    obtain ⟨tokenIo, s₁, t, hload, hreports⟩ := h
    exact (hreports.reported.of_continues (Prog.continues_closing _ _ _)).of_continues
      (Prog.continues_bind_of_ok hload)
  | .pkcs11, .openssl => exact h.elim

theorem reports_of_ok
    (h : authenticate deps platform io promptPin login s = ⟨.ok outcome, s', log⟩) :
    ∃ info s₁, Reports deps platform io promptPin login s info s₁ := by
  obtain ⟨⟨⟩, s₁, t₁, u₁, hbanner, hflow, -⟩ := Prog.bind_eq_ok_iff.mp h
  obtain ⟨info, s₂, hreports⟩ := modeReports_of_ok hflow
  exact ⟨info, s₂, s₁, t₁, hbanner, hreports⟩

theorem Reports.reported (h : Reports deps platform io promptPin login s info s') :
    Reported deps.monitor info s' (authenticate deps platform io promptPin login s) := by
  obtain ⟨s₁, t, hbanner, hmode⟩ := h
  exact hmode.reported.of_continues (Prog.continues_bind_of_ok hbanner)

end Pipelines

/-- With this daemon, a login is admitted only when the exchange about it is tolerable. -/
def MonitorHeard (deps : Deps σ X509) (platform : Platform σ X509) (io : FlowIo σ)
    (promptPin : PinPrompter σ) (login : Login) (s : σ) (link : Ipc.DaemonLink σ) : Prop :=
  ∀ outcome, (authenticate (deps.wiredTo link) platform io promptPin login s).result = .ok outcome →
    ∃ info s', Reports deps platform io promptPin login s info s' ∧
      Tolerable link deps.monitorFactory deps.cfg.monitor.failMode info s'

/-- The exchange is tolerable exactly if the wrapper answers with success, except that in
the permissive mode it lets the error pass that the versions differ. -/
theorem tolerable_iff {link : Ipc.DaemonLink σ} {factory : Ipc.MonitorClientFactory}
    {mode : Ipc.MonitorFailMode} {info : Ipc.OpenSessionInfo} {s : σ} :
    Tolerable link factory mode info s ↔
      ((Ipc.wiredMonitor link factory mode).openSession info s).1 = .ok () ∧
        ∀ version, (Ipc.connectPerCallOpenSession link factory info s).result ≠
          .error (.protocolMismatch version) := by
  rw [Ipc.openSession_admitted_iff]
  constructor
  · rintro (⟨hok, -⟩ | ⟨hmode, e, he, hgone, hunauthorized, hversion⟩)
    · exact ⟨.inl hok, fun version h => by rw [hok] at h; cases h⟩
    · refine ⟨.inr ⟨hmode, e, he, hgone, hunauthorized⟩, fun version h => ?_⟩
      rw [he] at h
      exact hversion version (Except.error.inj h)
  · rintro ⟨hok | ⟨hmode, e, he, hgone, hunauthorized⟩, hversion⟩
    · exact .inl ⟨hok, Ipc.connectPerCall_openSession_eq_ok (Run.eq_of_result hok)⟩
    · refine .inr ⟨hmode, e, he, hgone, hunauthorized, fun version heq => ?_⟩
      exact hversion version (heq ▸ he)

/-- A login that gets as far as the report is admitted with every daemon, and reports. So a
daemon is heard exactly when no login gets there, or the wired monitor answers the report
with success and not because it let a difference of the versions pass. -/
theorem monitorHeard_iff (deps : Deps σ X509) (platform : Platform σ X509) (io : FlowIo σ)
    (promptPin : PinPrompter σ) (login : Login) (s : σ) (link : Ipc.DaemonLink σ) :
    (∀ info s', Reports deps platform io promptPin login s info s' →
      Reported (deps.wiredTo link).monitor info s'
        (authenticate (deps.wiredTo link) platform io promptPin login s)) ∧
    (MonitorHeard deps platform io promptPin login s link ↔
      ∀ info s', Reports deps platform io promptPin login s info s' →
        ((deps.wiredTo link).monitor.openSession info s').1 = .ok () ∧
          ∀ version, (Ipc.connectPerCallOpenSession link deps.monitorFactory info s').result ≠
            .error (.protocolMismatch version)) := by
  have hreported : ∀ info s', Reports deps platform io promptPin login s info s' →
      Reported (deps.wiredTo link).monitor info s'
        (authenticate (deps.wiredTo link) platform io promptPin login s) := by
    intro info s' hreports
    exact Reports.reported ((reports_withMonitor _).mpr hreports)
  refine ⟨hreported, ?_, ?_⟩
  · intro hheard info s' hreports
    obtain ⟨outcome, hok, -⟩ := hreported info s' hreports
    obtain ⟨info', s₁, hreports', htolerable⟩ := hheard outcome hok
    obtain ⟨rfl, rfl⟩ := hreports.unique hreports'
    exact tolerable_iff.mp htolerable
  · intro hanswered outcome hok
    have hrun : authenticate (deps.wiredTo link) platform io promptPin login s =
        ⟨.ok outcome, _, _⟩ := Run.eq_of_result hok
    obtain ⟨info, s₁, hreports⟩ := reports_of_ok hrun
    have hreports' := (reports_withMonitor _).mp hreports
    exact ⟨info, s₁, hreports', tolerable_iff.mpr (hanswered info s₁ hreports')⟩

/-- A daemon that answers every greeting with the error that the device is gone. -/
def deviceGoneLink (σ : Type) : Ipc.DaemonLink σ where
  connect _ s := (.ok (), s)
  configure _ s := (.ok (), s)
  writeAll _ s := (.ok (), s)
  readLine s := (.ok "gone", s)
  now s := (0, s)
  serde := ⟨fun _ => .ok [], fun _ => .ok (.error Ipc.ErrorCodes.deviceGone "device gone")⟩
  uuidFromSessionId _ := 0

/-- In strict mode the daemon says that the device is gone, and `alice` logs in. -/
theorem authenticate_admits_deviceGone :
    (recordDeps [⟨"alice", .subjectCn "engineer"⟩]).cfg.monitor.failMode = .strict ∧
      (authenticate ((recordDeps [⟨"alice", .subjectCn "engineer"⟩]).wiredTo (deviceGoneLink Unit))
        recordPlatform (recordIo RecordX509.leafUnbound) recordPin aliceLogin ()).result.isOk =
          true ∧
      ∀ factory info, (Ipc.connectPerCallOpenSession (deviceGoneLink Unit) factory info ()).result =
        .error .deviceGone :=
  ⟨rfl, by decide +kernel, fun _ _ => Prog.result_bind_of_error rfl⟩

end PamCertauth.Flow
