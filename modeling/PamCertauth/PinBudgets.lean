import PamCertauth.PinPrompts
import PamCertauth.RetryLoops

/-!
# How often a PIN is tried

The two loops that ask for a PIN, `acquire_pkcs11_session` for a token and
`acquire_p12_material_with_prompter` for a bundle, are bounded retries. Each is compared
with the loop of `RetryLoops`, whose log has all calls of the prompter and of the opener,
and keeps the budget because that loop does.
-/

namespace PamCertauth.Flow

open X509 X509.CryptoLibrary RetryLoops

variable {σ X509 : Type} [CryptoLibrary X509]

/-- The error that ends the loop over the PINs of a token; a wrong PIN does not end it. -/
def pkcs11Fatal : Pkcs11.Pkcs11Error → Option Pkcs11.AcquireError
  | .pinIncorrect => none
  | .pinLocked => some .pinLocked
  | other => some (.pkcs11 other)

/-- The loop of a token with its calls. -/
def retryPkcs11 (prompter : PinPrompter σ) (backend : Pkcs11Backend σ) (slot : Pkcs11.Slot) :
    ℕ → Prog σ (RetryEvent PamConvError String Pkcs11.Pkcs11Error (Pkcs11Session σ))
      Pkcs11.AcquireError (Pkcs11Session σ) :=
  retry (prompter defaultPrompt) (backend.openWithPin slot) .conv pkcs11Fatal .maxAttemptsExceeded

/-- How the dialogue of the flow logs a call of the loop. -/
def pkcs11Call : RetryEvent PamConvError String Pkcs11.Pkcs11Error (Pkcs11Session σ) → Call X509
  | .prompted answer => .prompt defaultPrompt answer
  | .opened _ _ => .tokenStep

/-- How the loop of a token goes on behind an answer of the opener. -/
def pkcs11Next (backend : Pkcs11Backend σ) (slot : Pkcs11.Slot) (attempts : ℕ) :
    Except Pkcs11.Pkcs11Error (Pkcs11Session σ) → PinDialog σ Pkcs11.AcquireError (Pkcs11Session σ)
  | .ok session => .done (.ok session)
  | .error o =>
    match pkcs11Fatal o with
    | none => acquirePkcs11Session backend slot attempts
    | some e => .done (.error e)

section

variable {prompter : PinPrompter σ} {backend : Pkcs11Backend σ} {slot : Pkcs11.Slot}

theorem run_acquire_of_error {s s₁ : σ} {e : PamConvError}
    (hprompt : prompter defaultPrompt s = (.error e, s₁)) (n : ℕ) :
    ((acquirePkcs11Session backend slot (n + 1)).run prompter :
        Prog σ (Call X509) _ (Pkcs11Session σ)) s =
      ⟨.error (.conv e), s₁, [.prompt defaultPrompt (.error e)]⟩ := by
  rw [acquirePkcs11Session, PinDialog.run, Prog.call_bind_apply, hprompt]
  rfl

theorem run_acquire_of_pin {s s₁ s₂ : σ} {pin : String}
    {answer : Except Pkcs11.Pkcs11Error (Pkcs11Session σ)}
    (hprompt : prompter defaultPrompt s = (.ok pin, s₁))
    (hopen : backend.openWithPin slot pin s₁ = (answer, s₂)) (n : ℕ) :
    ((acquirePkcs11Session backend slot (n + 1)).run prompter :
        Prog σ (Call X509) _ (Pkcs11Session σ)) s =
      ⟨((pkcs11Next backend slot n answer).run prompter s₂ : Run σ (Call X509) _ _).result,
        ((pkcs11Next backend slot n answer).run prompter s₂ : Run σ (Call X509) _ _).env,
        .prompt defaultPrompt (.ok pin) :: .tokenStep ::
          ((pkcs11Next backend slot n answer).run prompter s₂ : Run σ (Call X509) _ _).calls⟩ := by
  rw [acquirePkcs11Session, PinDialog.run, Prog.call_bind_apply, hprompt]
  simp only [PinDialog.run, Prog.call_bind_apply, hopen]
  rcases answer with o | session
  · cases o <;> rfl
  · rfl

/-- The loop in the flow is the one of the library, logged as the flow logs. -/
theorem mapCalls_retryPkcs11 (n : ℕ) :
    Prog.mapCalls pkcs11Call (retryPkcs11 prompter backend slot n) =
      ((acquirePkcs11Session backend slot n).run prompter :
        Prog σ (Call X509) _ (Pkcs11Session σ)) := by
  induction n with
  | zero => rfl
  | succ n ih =>
    funext s
    rw [Prog.mapCalls, retryPkcs11]
    rcases hprompt : prompter defaultPrompt s with ⟨e | pin, s₁⟩
    · rw [retry_succ_of_error hprompt, run_acquire_of_error hprompt]
      rfl
    · rcases hopen : backend.openWithPin slot pin s₁ with ⟨o | session, s₂⟩
      · rw [run_acquire_of_pin hprompt hopen, pkcs11Next]
        cases hfatal : pkcs11Fatal o with
        | some e =>
          rw [retry_succ_of_fatal hprompt hopen hfatal]
          rfl
        | none =>
          rw [retry_succ_of_wrong hprompt hopen hfatal]
          simp only [← ih]
          rfl
      · rw [retry_succ_of_ok hprompt hopen, run_acquire_of_pin hprompt hopen]
        rfl

theorem retryPkcs11_withinBudget (n : ℕ) (s : σ) :
    WithinBudget .conv pkcs11Fatal .maxAttemptsExceeded n
      (retryPkcs11 prompter backend slot n s).calls
      (retryPkcs11 prompter backend slot n s).result := by
  obtain ⟨attempts, hcalls, hrounds⟩ := retry_rounds n s
  rw [retryPkcs11, hcalls]
  refine withinBudget_of_rounds ?_ ?_ hrounds
  · intro e
    exact Pkcs11.AcquireError.noConfusion
  · intro o
    cases o <;> simp [pkcs11Fatal]

end

/-- The error that ends the loop over the PINs of a bundle. -/
def p12Fatal : Pkcs12.Pkcs12Error → Option Pkcs12.AcquireError
  | .wrongPin => none
  | .missingKey => some (.missing "key")
  | .missingCert => some (.missing "cert")
  | .corrupt m => some (.corrupt m)

/-- The loop of a bundle with its calls. -/
def retryP12 (prompter : PinPrompter σ) (bytes : Bytes) :
    ℕ → Prog σ (RetryEvent PamConvError String Pkcs12.Pkcs12Error (Pkcs12.LoadedKeyMaterial X509))
      Pkcs12.AcquireError (Pkcs12.LoadedKeyMaterial X509) :=
  retry (prompter "Smart-card PIN: ")
    (fun pin s => (Pkcs12.LoadedKeyMaterial.fromP12 bytes pin, s)) .conv p12Fatal .maxTries

/-- How the flow logs a call of the loop. A bundle is opened without asking anyone. -/
def p12Call :
    RetryEvent PamConvError String Pkcs12.Pkcs12Error (Pkcs12.LoadedKeyMaterial X509) →
      Option (Call X509)
  | .prompted answer => some (.prompt "Smart-card PIN: " answer)
  | .opened _ _ => none

section

variable {prompter : PinPrompter σ} {bytes : Bytes}

theorem project_retryP12 (n : ℕ) :
    Prog.project p12Call (retryP12 prompter bytes n) =
      (acquireP12MaterialWithPrompter prompter bytes n :
        Prog σ (Call X509) _ (Pkcs12.LoadedKeyMaterial X509)) := by
  induction n with
  | zero => rfl
  | succ n ih =>
    funext s
    rw [Prog.project, retryP12, acquireP12MaterialWithPrompter]
    rcases hprompt : prompter "Smart-card PIN: " s with ⟨e | pin, s₁⟩
    · rw [retry_succ_of_error hprompt, Prog.bind_of_error (Prog.request_of_error hprompt)]
      rfl
    · rw [Prog.bind_of_ok (Prog.request_of_ok hprompt)]
      rcases hopen : (Pkcs12.LoadedKeyMaterial.fromP12 bytes pin :
        Except _ (Pkcs12.LoadedKeyMaterial X509)) with o | material
      · cases hfatal : p12Fatal o with
        | some e =>
          rw [retry_succ_of_fatal hprompt (by rw [hopen]) hfatal]
          cases o <;> cases hfatal <;> rfl
        | none =>
          rw [retry_succ_of_wrong hprompt (by rw [hopen]) hfatal]
          cases o <;> cases hfatal
          simp only [← ih]
          rfl
      · rw [retry_succ_of_ok hprompt (by rw [hopen])]
        rfl

theorem retryP12_withinBudget (n : ℕ) (s : σ) :
    WithinBudget .conv p12Fatal .maxTries n
      (retryP12 prompter bytes n s : Run σ _ _ (Pkcs12.LoadedKeyMaterial X509)).calls
      (retryP12 prompter bytes n s : Run σ _ _ (Pkcs12.LoadedKeyMaterial X509)).result := by
  obtain ⟨attempts, hcalls, hrounds⟩ := retry_rounds n s
  rw [retryP12, hcalls]
  refine withinBudget_of_rounds ?_ ?_ hrounds
  · intro e
    exact Pkcs12.AcquireError.noConfusion
  · intro o
    cases o <;> simp [p12Fatal]

end

/-- Both loops keep the budget of attempts, for every limit and all answers of the prompter
and of the opener. -/
theorem pin_attempts_within_budget (prompter : PinPrompter σ) (n : ℕ) :
    (∀ (backend : Pkcs11Backend σ) (slot : Pkcs11.Slot),
      ((acquirePkcs11Session backend slot n).run prompter :
          Prog σ (Call X509) _ (Pkcs11Session σ)) =
        Prog.mapCalls pkcs11Call (retryPkcs11 prompter backend slot n) ∧
      ∀ s, WithinBudget .conv pkcs11Fatal .maxAttemptsExceeded n
        (retryPkcs11 prompter backend slot n s).calls
        (retryPkcs11 prompter backend slot n s).result) ∧
    ∀ bytes : Bytes,
      (acquireP12MaterialWithPrompter prompter bytes n :
          Prog σ (Call X509) _ (Pkcs12.LoadedKeyMaterial X509)) =
        Prog.project p12Call (retryP12 prompter bytes n) ∧
      ∀ s, WithinBudget .conv p12Fatal .maxTries n
        (retryP12 prompter bytes n s : Run σ _ _ (Pkcs12.LoadedKeyMaterial X509)).calls
        (retryP12 prompter bytes n s : Run σ _ _ (Pkcs12.LoadedKeyMaterial X509)).result := by
  constructor
  · intro backend slot
    exact ⟨(mapCalls_retryPkcs11 n).symm, retryPkcs11_withinBudget n⟩
  · intro bytes
    exact ⟨(project_retryP12 n).symm, retryP12_withinBudget n⟩

end PamCertauth.Flow
