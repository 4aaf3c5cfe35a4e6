import PamCertauth.FlowGates
import PamCertauth.UserAuthorization

/-!
# Account management

After the login `pam_sm_acct_mgmt` looks at the expiry of the certificate again, from the
value that the flow has put into the context. The login tolerates a clock that runs ahead;
the account check does not know the tolerance. So an admitted certificate is reported as
expired exactly inside the tolerated time (`acctMgmt_tolerates_iff`).
-/

namespace PamCertauth.Flow

open X509 X509.CryptoLibrary

def pamSuccess : ℕ := 0

def pamAcctExpired : ℕ := 13

def acctMgmtCore (ctx : AuthContext) (now : SystemTime) : ℕ :=
  match ctx.certNotAfter with
  | some notAfter => if now > notAfter then pamAcctExpired else pamSuccess
  | none => pamSuccess

/-- The entry; without a context there was no login. -/
def pamSmAcctMgmt (ctx : Option AuthContext) (now : SystemTime) : ℕ :=
  match ctx with
  | none => 9
  | some ctx =>
    let code := acctMgmtCore ctx now
    if code = pamSuccess ∨ code = pamAcctExpired then code else 4

theorem acctMgmtCore_eq_expired_iff {ctx : AuthContext} {notAfter : SystemTime}
    (h : ctx.certNotAfter = some notAfter) (now : SystemTime) :
    acctMgmtCore ctx now = pamAcctExpired ↔ notAfter < now := by
  rw [acctMgmtCore, h]
  simp [pamAcctExpired, pamSuccess]

/-- The entry passes the verdict of the core on. -/
theorem pamSmAcctMgmt_some (ctx : AuthContext) (now : SystemTime) :
    pamSmAcctMgmt (some ctx) now = acctMgmtCore ctx now := by
  have hcode : acctMgmtCore ctx now = pamSuccess ∨ acctMgmtCore ctx now = pamAcctExpired := by
    rw [acctMgmtCore]
    split
    · split
      · exact .inr rfl
      · exact .inl rfl
    · exact .inl rfl
  exact if_pos hcode

section

variable {σ X509 : Type} [CryptoLibrary X509] {deps : Deps σ X509} {platform : Platform σ X509}
  {login : Login} {leaf : Certificate X509} {verified : Stage2VerifiedChain X509}
  {usbSerial usbVidPid : Option String} {s s' : σ} {ctx : AuthContext} {log : List (Call X509)}

/-- A leaf whose validity window is accepted at an instant is not reported as expired at that
instant exactly if the instant lies outside the tolerance behind its expiry. -/
theorem acctMgmt_tolerates_iff
    (hctx : assembleContext deps platform login leaf verified usbSerial usbVidPid s =
      ⟨.ok ctx, s', log⟩) (clockSkew : Duration) (now : SystemTime) :
    (checkValidityWindow leaf clockSkew now = .ok () →
        pamSmAcctMgmt (some ctx) now ≠ pamAcctExpired) ↔
      ¬ (leaf.notAfter < now ∧ now ≤ leaf.notAfter + clockSkew ∧
        leaf.notBefore ≤ now + clockSkew) := by
  have hexpired := acctMgmtCore_eq_expired_iff (assembleContext_eq_ok hctx).certNotAfter now
  rw [checkValidityWindow_eq_ok_iff, pamSmAcctMgmt_some, ne_eq, hexpired, Certificate.ValidAt]
  constructor
  · intro htolerated hwindow
    obtain ⟨hlate, hwithin, hbegun⟩ := hwindow
    exact htolerated ⟨hbegun, hwithin⟩ hlate
  · intro hwindow hvalid hlate
    exact hwindow ⟨hlate, hvalid.2, hvalid.1⟩

end

section Sample

open RecordX509

def sampleAssembly : FlowProg Unit RecordX509 AuthContext :=
  assembleContext (recordDeps []) recordPlatform aliceLogin leafUnbound.certificate
    ⟨leafUnbound.certificate, [], root.certificate⟩ (some "USB-1") none

theorem sampleAssembly_ok : ∃ ctx, (sampleAssembly ()).result = .ok ctx :=
  exists_ok_of_isOk (by decide +kernel)

theorem acctMgmt_tolerates_expiry :
    ∃ ctx, (sampleAssembly ()).result = .ok ctx ∧
      checkValidityWindow leafUnbound.certificate (Duration.fromSecs 60) (1000 * 10 ^ 9) = .ok () ∧
      pamSmAcctMgmt (some ctx) (1000 * 10 ^ 9) ≠ pamAcctExpired := by
  have hvalid : checkValidityWindow leafUnbound.certificate (Duration.fromSecs 60)
      (1000 * 10 ^ 9) = .ok () := by
    decide +kernel
  obtain ⟨ctx, hctx⟩ := sampleAssembly_ok
  have hinside : ¬ (leafUnbound.certificate.notAfter < 1000 * 10 ^ 9 ∧
      (1000 * 10 ^ 9 : ℤ) ≤ leafUnbound.certificate.notAfter + Duration.fromSecs 60 ∧
      leafUnbound.certificate.notBefore ≤ 1000 * 10 ^ 9 + Duration.fromSecs 60) := by
    decide +kernel
  exact ⟨ctx, hctx, hvalid,
    (acctMgmt_tolerates_iff (Run.eq_of_result hctx) _ _).mpr hinside hvalid⟩

/-- Thirty seconds later the login still accepts it and the account check does not. -/
theorem acctMgmt_refuses_accepted :
    ∃ ctx, (sampleAssembly ()).result = .ok ctx ∧
      preValidateEndEntity leafUnbound.certificate ⟨Duration.fromSecs 60, []⟩ (1030 * 10 ^ 9) =
        .ok () ∧
      checkValidityWindow leafUnbound.certificate (Duration.fromSecs 60) (1030 * 10 ^ 9) = .ok () ∧
      pamSmAcctMgmt (some ctx) (1030 * 10 ^ 9) = pamAcctExpired := by
  obtain ⟨ctx, hctx⟩ := sampleAssembly_ok
  have hcontext := assembleContext_eq_ok (Run.eq_of_result hctx)
  refine ⟨ctx, hctx, by decide +kernel, by decide +kernel, ?_⟩
  rw [pamSmAcctMgmt_some, acctMgmtCore_eq_expired_iff hcontext.certNotAfter]
  decide +kernel

end Sample

end PamCertauth.Flow
