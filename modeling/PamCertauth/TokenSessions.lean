import PamCertauth.LockedCalls
import PamCertauth.PinBudgets
import PamCertauth.TokenBackend

/-!
# Sessions on a token

What a login does with the token, from the first call of the module to the last. The module is
loaded, initialised and finalised, once by the self-check and once by the flow. In between, at
any time there is at most one session. It is closed whatever happens, once, and it is logged out
before that if and only if the login succeeded; nothing is asked of it before the login or after
the logout. Nobody is prompted, no hook runs and nothing is reported while a session is open; the
challenge, the verification of the chain and the context of the login are made there.

With the locking mode `mutex` the calls of the module are made under the lock of the process,
with three exceptions: its loading, its finalisation, and the close of a session whose login
was refused.
-/

namespace PamCertauth.Flow

open X509 X509.CryptoLibrary Hooks Pkcs11 ProtocolRuns TokenWorld

/-- What there is of the module, from nothing over its context to a session. -/
inductive TokenPhase where
  | unloaded
  | loaded
  | idle
  | opened (h : SessionHandle)
  | refused (h : SessionHandle)
  | loggedIn (h : SessionHandle)
  | loggedOut (h : SessionHandle)
  deriving DecidableEq, Repr

/-- The calls that are allowed. -/
def TokenPhase.after : TokenPhase → TokenCall → Option TokenPhase
  | unloaded, .loadModule success => some (if success then loaded else unloaded)
  | loaded, .cInitialize accepted => some (if accepted then idle else loaded)
  | loaded, .cFinalize | idle, .cFinalize => some unloaded
  | idle, .getSlotList | idle, .getTokenInfo _ => some idle
  | idle, .openSession _ none => some idle
  | idle, .openSession _ (some h) => some (opened h)
  | opened h, .login h' accepted =>
    if h' = h then some (if accepted then loggedIn h else refused h) else none
  | refused h, .closeRefused h' => if h' = h then some idle else none
  | loggedIn h, .findObjects h' | loggedIn h, .getAttributes h' | loggedIn h, .sign h' =>
    if h' = h then some (loggedIn h) else none
  | loggedIn h, .logout h' => if h' = h then some (loggedOut h) else none
  | loggedOut h, .closeSession h' => if h' = h then some idle else none
  | _, _ => none

/-- The calls that are made under the lock. -/
def TokenCall.guarded : TokenCall → Bool
  | .loadModule _ | .closeRefused _ | .cFinalize => false
  | _ => true

/-- What may be done with a session open: the nonce of the challenge, the verification of the
chain, the home of the user and the time of the login. -/
def OutsideEvent.inSession : OutsideEvent → Bool
  | .random | .verify | .passwd | .wallClock => true
  | _ => false

def TokenPhase.admits : TokenPhase → OutsideEvent → Bool
  | unloaded, _ | loaded, _ | idle, _ => true
  | loggedIn _, e => e.inSession
  | _, _ => false

/-- The events that the sessions and the lock allow. The lock is held during the guarded calls,
and only then, if the mode is `mutex`, and never in the mode `os`. -/
def allow (mode : LockingMode) : TokenPhase × Bool → TokenEvent → Option (TokenPhase × Bool)
  | (q, held), .lock => if mode = .mutex ∧ held = false then some (q, true) else none
  | (q, held), .unlock => if held then some (q, false) else none
  | (q, held), .call c =>
    if held = (c.guarded && decide (mode = .mutex)) then (q.after c).map fun q' => (q', held)
    else none
  | (q, held), .outside e => if q.admits e = true ∧ held = false then some (q, held) else none

section Programs

variable {ρ ε α : Type} {ck : Cryptoki ρ} {mode : LockingMode} {q : TokenPhase}

/-- A guarded call and its lock. -/
theorem obeys_withGlobalLock {p : Prog ρ TokenEvent ε α}
    {Q : Except ε α → TokenPhase × Bool → Prop}
    (h : ∀ s, ∃ c q', (p s).calls = [.call c] ∧ c.guarded = true ∧ q.after c = some q' ∧
      Q (p s).result (q', false)) :
    Prog.Obeys (allow mode) (q, false) (withGlobalLock mode p) Q := by
  intro s
  obtain ⟨c, q', hcalls, hguarded, hafter, hq'⟩ := h s
  refine ⟨(q', false), ?_, ?_⟩
  · cases mode <;> simp [withGlobalLock, hcalls, allow, hguarded, hafter]
  · cases mode <;> exact hq'

/-- A call without the lock. -/
theorem allow_unguarded {c : TokenCall} {q' : TokenPhase} (hguarded : c.guarded = false)
    (hafter : q.after c = some q') : allow mode (q, false) (.call c) = some (q', false) := by
  simp [allow, hguarded, hafter]

theorem allow_outside {e : OutsideEvent} (h : q.admits e = true) :
    allow mode (q, false) (.outside e) = some (q, false) := by
  simp [allow, h]

/-- What is done beside the module where it may be done. -/
theorem obeys_outside {op : ρ → α × ρ} {e : OutsideEvent} (h : q.admits e = true) :
    Prog.Obeys (allow mode) (q, false)
      (Prog.call op fun _ => .outside e : Prog ρ TokenEvent ε α) fun _ st => st = (q, false) :=
  Prog.Obeys.call fun _ => ⟨_, allow_outside h, rfl⟩

theorem obeys_dropContext (hafter : q.after .cFinalize = some .unloaded) :
    Prog.Obeys (allow mode) (q, false) (dropContext ck : Prog ρ TokenEvent ε Unit)
      fun _ st => st = (.unloaded, false) :=
  Prog.Obeys.call fun _ => ⟨_, allow_unguarded rfl hafter, rfl⟩

/-- Where the loading of the module leads. -/
def loadedPhase (r : Except ε α) : TokenPhase := if r.isOk then .idle else .unloaded

theorem loadedPhase_mapError {ε' : Type} (f : ε → ε') (r : Except ε α) :
    loadedPhase (r.mapError f) = loadedPhase r := by
  cases r <;> rfl

theorem loadedPhase_map {β : Type} (f : α → β) (r : Except ε α) :
    loadedPhase (r.map f) = loadedPhase r := by
  cases r <;> rfl

theorem obeys_initContext :
    Prog.Obeys (allow mode) (.loaded, false) (initContext ck mode)
      fun r st => st = (if r.isOk then .idle else .loaded, false) := by
  refine obeys_withGlobalLock fun s => ?_
  rcases hinit : ck.cInitialize s with ⟨e | ⟨⟩, s₁⟩
  · rw [Prog.request_of_error hinit]
    exact ⟨.cInitialize false, .loaded, rfl, rfl, rfl, rfl⟩
  · rw [Prog.request_of_ok hinit]
    exact ⟨.cInitialize true, .idle, rfl, rfl, rfl, rfl⟩

theorem obeys_load (modulePath : String) :
    Prog.Obeys (allow mode) (.unloaded, false) (load ck mode modulePath)
      fun r st => st = (loadedPhase r, false) := by
  refine Prog.Obeys.bind_of_keeps (obeys_outside rfl) (fun found => ?_) fun _ => rfl
  split
  · refine Prog.Obeys.bind
      (Q := fun r st => st = (if r.isOk then .loaded else .unloaded, false)) ?_ ?_ ?_
    · refine Prog.Obeys.request fun answer => ⟨_, allow_unguarded rfl rfl, ?_⟩
      cases answer <;> rfl
    · rintro ⟨⟩ st rfl
      refine Prog.Obeys.onFailure obeys_initContext ?_ ?_
      · rintro e st rfl
        exact obeys_dropContext rfl
      · rintro ⟨⟩ st rfl
        rfl
    · rintro e st rfl
      rfl
  · exact Prog.Obeys.fail rfl

theorem obeys_listSlotsWithToken :
    Prog.Obeys (allow mode) (.idle, false) (listSlotsWithToken ck mode)
      fun _ st => st = (.idle, false) :=
  obeys_withGlobalLock fun _ => ⟨.getSlotList, .idle, rfl, rfl, rfl, rfl⟩

/-- The self-check leaves nothing of the module behind, whatever it finds. -/
theorem obeys_selfCheckPkcs11 (modulePath : Option String) :
    Prog.Obeys (allow mode) (.unloaded, false) (selfCheckPkcs11 ck mode modulePath)
      fun _ st => st = (.unloaded, false) := by
  cases modulePath with
  | none => exact Prog.Obeys.fail rfl
  | some modulePath =>
    refine Prog.Obeys.bind_of_keeps (obeys_outside rfl) (fun found => ?_) fun _ => rfl
    split
    · refine Prog.Obeys.bind_of_keeps
        (Prog.Obeys.request fun _ => ⟨_, allow_outside rfl, rfl⟩) (fun isFile => ?_) fun _ => rfl
      split
      · refine Prog.Obeys.bind (Q := fun r st => st = (loadedPhase r, false)) ?_ ?_ ?_
        · refine Prog.Obeys.mapError ?_
          simp only [loadedPhase_mapError]
          exact obeys_load modulePath
        · rintro ⟨⟩ st rfl
          refine Prog.Obeys.attempt_bind obeys_listSlotsWithToken ?_
          rintro _ st rfl
          exact obeys_dropContext rfl
        · rintro e st rfl
          rfl
      · exact Prog.Obeys.fail rfl
    · exact Prog.Obeys.fail rfl

theorem obeys_tokenInfo (slot : Slot) :
    Prog.Obeys (allow mode) (.idle, false) (tokenInfo ck mode slot)
      fun _ st => st = (.idle, false) :=
  obeys_withGlobalLock fun _ => ⟨.getTokenInfo slot, .idle, rfl, rfl, rfl, rfl⟩

theorem obeys_slotWithLabel (want : String) (slots : List Slot) :
    Prog.Obeys (allow mode) (.idle, false) (slotWithLabel ck mode want slots)
      fun _ st => st = (.idle, false) := by
  induction slots with
  | nil => exact Prog.Obeys.fail rfl
  | cons slot slots ih =>
    refine Prog.Obeys.bind_of_keeps (obeys_tokenInfo slot) (fun info => ?_) fun _ => rfl
    split
    · exact Prog.Obeys.pure rfl
    · exact ih

theorem obeys_findSlot (tokenLabel : Option String) :
    Prog.Obeys (allow mode) (.idle, false) (findSlot ck mode tokenLabel)
      fun _ st => st = (.idle, false) := by
  refine Prog.Obeys.bind_of_keeps ?_ (fun slots => ?_) fun _ => rfl
  · exact obeys_listSlotsWithToken
  · split
    · exact Prog.Obeys.fail rfl
    · exact Prog.Obeys.pure rfl
    · exact obeys_slotWithLabel _ _

theorem obeys_pollForToken (tokenLabel : Option String) (timeout elapsed : ℕ) :
    Prog.Obeys (allow mode) (.idle, false) (pollForToken ck mode tokenLabel timeout elapsed)
      fun _ st => st = (.idle, false) := by
  induction elapsed using pollForToken.induct timeout with
  | case1 elapsed ih =>
    rw [pollForToken]
    refine Prog.Obeys.attempt_bind (obeys_findSlot tokenLabel) ?_
    rintro found st rfl
    split
    · exact Prog.Obeys.pure rfl
    · split
      · refine Prog.Obeys.bind_of_keeps (obeys_outside rfl) (fun passed => ?_) fun _ => rfl
        split_ifs with htimeout
        · exact Prog.Obeys.fail rfl
        · exact Prog.Obeys.bind_of_keeps (obeys_outside rfl) (ih passed htimeout) fun _ => rfl
      · exact Prog.Obeys.fail rfl

theorem obeys_readTokenSerial (slot : Slot) :
    Prog.Obeys (allow mode) (.idle, false) (readTokenSerial ck mode slot)
      fun _ st => st = (.idle, false) := by
  refine Prog.Obeys.bind_of_keeps (obeys_tokenInfo slot) (fun info => ?_) fun _ => rfl
  split
  · exact Prog.Obeys.fail rfl
  · exact Prog.Obeys.pure rfl

/-- Where the opening of a session leads. -/
def openedPhase : Except Pkcs11Error SessionHandle → TokenPhase
  | .ok h => .loggedIn h
  | .error _ => .idle

/-- The session of a refused login is closed without the lock. -/
theorem obeys_closeRefused (h : SessionHandle) (e : Pkcs11Error) :
    Prog.Obeys (allow mode) (.refused h, false)
      (do
        Prog.call (fun s => ((), ck.closeSession h s)) fun _ => .call (.closeRefused h)
        Prog.fail e : TokenProg ρ SessionHandle)
      fun r st => st = (openedPhase r, false) := by
  exact Prog.Obeys.call_bind fun _ =>
    ⟨(.idle, false), allow_unguarded rfl (if_pos rfl), Prog.Obeys.fail rfl⟩

theorem obeys_openPkcs11Session (slot : Slot) (pin : String) :
    Prog.Obeys (allow mode) (.idle, false) (openPkcs11Session ck mode slot pin)
      fun r st => st = (openedPhase r, false) := by
  -- The call that opens the session decides the phase, whether it yields a session or not.
  refine Prog.Obeys.bind
    (Q := fun r st => st = (r.toOption.elim .idle .opened, false)) ?_ ?_ ?_
  · refine obeys_withGlobalLock fun s => ?_
    rcases hopen : ck.openRwSession slot s with ⟨e | h, s₁⟩
    · rw [Prog.request_of_error hopen]
      exact ⟨.openSession slot none, .idle, rfl, rfl, rfl, rfl⟩
    · rw [Prog.request_of_ok hopen]
      exact ⟨.openSession slot (some h), .opened h, rfl, rfl, rfl, rfl⟩
  · rintro h st rfl
    refine Prog.Obeys.bind (Q := fun r st => ∃ answer, r = .ok answer ∧
      st = (if answer.isOk then .loggedIn h else .refused h, false)) ?_ ?_ ?_
    · exact obeys_withGlobalLock fun s => ⟨.login h (ck.login h pin s).1.isOk, _, rfl, rfl,
        if_pos rfl, _, rfl, rfl⟩
    · rintro (e | _) st ⟨answer, hanswer, rfl⟩
      · cases hanswer
        exact obeys_closeRefused h _
      · cases hanswer
        exact Prog.Obeys.pure rfl
    · rintro e st ⟨answer, hanswer, -⟩
      cases hanswer
  · rintro e st rfl
    rfl

theorem obeys_dropPkcs11Session (h : SessionHandle) :
    Prog.Obeys (allow mode) (.loggedIn h, false) (dropPkcs11Session ck mode h)
      fun _ st => st = (.idle, false) := by
  refine Prog.Obeys.bind (Q := fun _ st => st = (.loggedOut h, false)) ?_ ?_ fun e => e.elim
  · exact obeys_withGlobalLock fun _ => ⟨.logout h, .loggedOut h, rfl, rfl, if_pos rfl, rfl⟩
  · rintro _ st rfl
    exact obeys_withGlobalLock fun _ => ⟨.closeSession h, .idle, rfl, rfl, if_pos rfl, rfl⟩

theorem obeys_session_call {h : SessionHandle} {p : Prog ρ TokenEvent ε α} {c : TokenCall}
    (hcalls : ∀ s, (p s).calls = [.call c]) (hguarded : c.guarded = true)
    (hafter : (TokenPhase.loggedIn h).after c = some (.loggedIn h)) :
    Prog.Obeys (allow mode) (.loggedIn h, false) (withGlobalLock mode p)
      fun _ st => st = (.loggedIn h, false) :=
  obeys_withGlobalLock fun s => ⟨c, _, hcalls s, hguarded, hafter, rfl⟩

end Programs

section Flow

variable {ρ X509 ε α : Type} [CryptoLibrary X509] {ck : Cryptoki ρ} {mode : LockingMode}
  {q : TokenPhase}

/-- The log has led to this phase, and the lock is free. -/
def At (mode : LockingMode) (q : TokenPhase) (w : TokenWorld ρ) : Prop :=
  run (allow mode) (.unloaded, false) w.trace = some (q, false)

theorem At.perform {g : Except ε α → TokenPhase} {p : Prog ρ TokenEvent ε α} {w : TokenWorld ρ}
    (h : At mode q w)
    (hp : Prog.Obeys (allow mode) (q, false) p fun r st => st = (g r, false)) :
    At mode (g (w.perform p).1) (w.perform p).2 := by
  obtain ⟨st, hrun, hst⟩ := hp w.env
  rw [hst] at hrun
  rw [At] at h ⊢
  rw [TokenWorld.perform, run_append, h, Option.bind_some]
  exact hrun

theorem At.beside {w : TokenWorld ρ} {e : OutsideEvent} (h : At mode q w)
    (hadmits : q.admits e = true) (op : ρ → α × ρ) : At mode q (w.beside e op).2 :=
  run_concat h (allow_outside hadmits)

variable {deps : Deps ρ X509} {platform : Platform ρ X509} {promptPin : PinPrompter ρ}
  {login : Login} {h : SessionHandle}

theorem preserves_findObjects (template : List Attribute) (w : TokenWorld ρ)
    (hw : At mode (.loggedIn h) w) :
    At mode (.loggedIn h) ((tokenSession ck mode h).findObjects template w).2 :=
  hw.perform (g := fun _ => .loggedIn h)
    (obeys_session_call (fun _ => rfl) rfl (if_pos rfl))

theorem preserves_getAttributes (object : ObjectHandle) (types : List AttributeType)
    (w : TokenWorld ρ) (hw : At mode (.loggedIn h) w) :
    At mode (.loggedIn h) ((tokenSession ck mode h).getAttributes object types w).2 :=
  hw.perform (g := fun _ => .loggedIn h)
    (obeys_session_call (fun _ => rfl) rfl (if_pos rfl))

theorem preserves_sign (mechanism : Mechanism) (key : ObjectHandle) (data : Bytes)
    (w : TokenWorld ρ) (hw : At mode (.loggedIn h) w) :
    At mode (.loggedIn h) ((tokenSession ck mode h).sign mechanism key data w).2 :=
  hw.perform (g := fun _ => .loggedIn h)
    (obeys_session_call (fun _ => rfl) rfl (if_pos rfl))

theorem at_close (w : TokenWorld ρ) (hw : At mode (.loggedIn h) w) :
    At mode .idle ((tokenSession ck mode h).close w) :=
  hw.perform (g := fun _ => .idle) (obeys_dropPkcs11Session h)

theorem preserves_firstCertificate (labelFilter : Option String) (handles : List ObjectHandle) :
    Prog.Preserves (At mode (.loggedIn h))
      (firstCertificate (tokenSession ck mode h) labelFilter handles :
        Prog _ (Call X509) _ (FoundCertificate X509)) := by
  induction handles with
  | nil => exact Prog.Preserves.fail _
  | cons handle handles ih =>
    refine (Prog.Preserves.call (preserves_getAttributes handle _)).bind fun attrs => ?_
    split
    · exact ih
    · split
      · exact Prog.Preserves.pure _
      · exact ih

theorem preserves_findCertificate (labelFilter : Option String) :
    Prog.Preserves (At mode (.loggedIn h))
      (findCertificate (tokenSession ck mode h) labelFilter :
        Prog _ (Call X509) _ (FoundCertificate X509)) :=
  (Prog.Preserves.request (preserves_findObjects _)).bind fun handles =>
    preserves_firstCertificate labelFilter handles

theorem preserves_findPrivateKeyForCert (cert : FoundCertificate X509) :
    Prog.Preserves (At mode (.loggedIn h))
      (findPrivateKeyForCert (tokenSession ck mode h) cert : Prog _ (Call X509) _ _) := by
  refine (Prog.Preserves.request (preserves_findObjects _)).bind fun handles => ?_
  split
  · exact Prog.Preserves.fail _
  · exact (Prog.Preserves.request (preserves_getAttributes _ _)).bind fun _ =>
      Prog.Preserves.ofExcept _

theorem preserves_pkcs11ChallengeResponse (keyHandle : ObjectHandle) (keyType : KeyType)
    (mechanism : TokenSignMechanism) (endEntity : Certificate X509) :
    Prog.Preserves (At mode (.loggedIn h))
      (pkcs11ChallengeResponse (platform.withTokens ck) (tokenSession ck mode h) keyHandle keyType
        mechanism endEntity) := by
  refine (Prog.Preserves.request fun w hw => hw.beside rfl _).bind fun nonce => ?_
  refine (Prog.Preserves.ofExcept _).bind fun input => ?_
  refine (Prog.Preserves.request (preserves_sign _ _ _)).bind fun signature => ?_
  exact (Prog.Preserves.ofExcept _).bind fun pubkey => Prog.Preserves.ofExcept _

theorem preserves_pkcs11Checks :
    Prog.Preserves (At mode (.loggedIn h))
      (pkcs11Checks deps.withTokens (platform.withTokens ck) (tokenSession ck mode h)) := by
  refine (preserves_findCertificate _).mapError.bind fun cert => ?_
  refine (preserves_findPrivateKeyForCert cert).mapError.bind fun key => ?_
  refine (Prog.Preserves.ofExcept _).bind fun pubkey => ?_
  refine (Prog.Preserves.ofExcept _).bind fun mechanism => ?_
  refine (preserves_pkcs11ChallengeResponse _ _ _ _).mapError.bind fun _ => ?_
  refine (Prog.Preserves.request fun w hw => hw.beside rfl _).bind fun verified => ?_
  exact (Prog.Preserves.ofExcept _).bind fun _ => Prog.Preserves.pure _

theorem preserves_assembleContext (leaf : Certificate X509) (verified : Stage2VerifiedChain X509)
    (usbSerial usbVidPid : Option String) :
    Prog.Preserves (At mode (.loggedIn h)) (assembleContext deps.withTokens
      (platform.withTokens ck) login leaf verified usbSerial usbVidPid) := by
  refine Prog.Preserves.bind ?_ fun label => Prog.Preserves.bind ?_ fun home => ?_
  · rw [certMaxIntegrity]
    split
    · exact Prog.Preserves.pure _
    · exact (Prog.Preserves.call fun _ hw => hw).bind fun _ => Prog.Preserves.pure _
  · refine (Prog.Preserves.call fun w hw => hw.beside rfl _).bind fun answer => ?_
    split
    · exact Prog.Preserves.pure _
    · exact Prog.Preserves.pure _
  · exact (Prog.Preserves.call fun w hw => hw.beside rfl _).bind fun _ => Prog.Preserves.pure _

/-- The session is closed behind the checks, whatever they say. -/
theorem ensures_withSession (tokenSerial : String) :
    Prog.Ensures (At mode (.loggedIn h))
      (withSession deps.withTokens (platform.withTokens ck) login (tokenSession ck mode h)
        tokenSerial)
      fun _ w => At mode .idle w := by
  refine Prog.Ensures.bind
    (Q := fun r w => if r.isOk then At mode (.loggedIn h) w else At mode .idle w)
    (Prog.Ensures.onFailure (Q := fun _ w => At mode (.loggedIn h) w) ?_ ?_ ?_) ?_ ?_
  · refine Prog.Ensures.of_preserves (preserves_pkcs11Checks.bind fun checked => ?_)
    refine (Prog.Preserves.ofExcept _).bind fun _ => ?_
    exact (preserves_assembleContext _ _ _ _).bind fun ctx => Prog.Preserves.pure _
  · intro e w hw
    exact at_close w hw
  · intro passed w hw
    exact hw
  · intro passed w hw
    exact at_close w hw
  · intro e w hw
    exact hw

theorem preserves_preAuthHooks :
    Prog.Preserves (At mode .idle) (preAuthHooks deps.withTokens login) :=
  (runHooksForStage_preserves fun _ _ hw => hw.beside rfl _).mapError

theorem preserves_concludeLogin (leaf : Certificate X509) (ctx : AuthContext)
    (mount : Option MountSession) :
    Prog.Preserves (At mode .idle)
      (concludeLogin deps.withTokens (platform.withTokens ck) login leaf ctx mount) := by
  refine (runHooksForStage_preserves fun _ _ hw => hw.beside rfl _).mapError.bind fun _ => ?_
  refine Prog.Preserves.bind ?_ fun _ => Prog.Preserves.pure _
  refine Prog.Preserves.bind ?_ fun uid => ?_
  · refine (Prog.Preserves.call fun w hw => hw.beside rfl _).bind fun answer => ?_
    split
    · exact Prog.Preserves.pure _
    · exact Prog.Preserves.pure _
  · exact (Prog.Preserves.call fun w hw => hw.beside rfl _).bind fun _ => Prog.Preserves.pure _

/-- The dialogue has ended with a session that is logged in, or without one. -/
def Acquired (ck : Cryptoki ρ) (mode : LockingMode)
    (r : Except ε (Pkcs11Session (TokenWorld ρ))) (w : TokenWorld ρ) : Prop :=
  (∃ h, r = .ok (tokenSession ck mode h) ∧ At mode (.loggedIn h) w) ∨
    (∃ e, r = .error e) ∧ At mode .idle w

theorem Acquired.at_idle {e : ε} {w : TokenWorld ρ} (h : Acquired ck mode (.error e) w) :
    At mode .idle w := by
  rcases h with ⟨h, hsession, -⟩ | ⟨-, hw⟩
  · cases hsession
  · exact hw

theorem acquired_openWithPin {slot : Slot} {pin : String} {w w' : TokenWorld ρ}
    {answer : Except Pkcs11Error (Pkcs11Session (TokenWorld ρ))} (hw : At mode .idle w)
    (hopen : (tokenBackend ck mode).openWithPin slot pin w = (answer, w')) :
    Acquired ck mode answer w' := by
  have hobeys : Prog.Obeys (allow mode) (.idle, false) (openPkcs11Session ck mode slot pin)
      fun r st => st = (openedPhase r, false) := obeys_openPkcs11Session slot pin
  have hafter := hw.perform (g := openedPhase) hobeys
  obtain ⟨hanswer, hw'⟩ := Prod.mk.inj hopen
  rw [hw'] at hafter
  rw [← hanswer]
  cases hresult : (w.perform (openPkcs11Session ck mode slot pin)).1 with
  | error e =>
    rw [hresult] at hafter
    exact .inr ⟨⟨e, rfl⟩, hafter⟩
  | ok h =>
    rw [hresult] at hafter
    exact .inl ⟨h, rfl, hafter⟩

variable (X509 ck) in
/-- Behind each refused PIN there is no session, so the next prompt finds none. -/
theorem ensures_acquirePkcs11Session {prompter : PinPrompter (TokenWorld ρ)}
    (hprompter : ∀ text w, At mode .idle w → At mode .idle (prompter text w).2) (slot : Slot)
    (attempts : ℕ) :
    Prog.Ensures (At mode .idle)
      ((acquirePkcs11Session (tokenBackend ck mode) slot attempts).run prompter :
        Prog _ (Call X509) _ _)
      (Acquired ck mode) := by
  induction attempts with
  | zero => exact fun w hw => .inr ⟨⟨_, rfl⟩, hw⟩
  | succ attempts ih =>
    intro w hw
    have hprompted := hprompter defaultPrompt w hw
    rcases hprompt : prompter defaultPrompt w with ⟨e | pin, w₁⟩
    · rw [hprompt] at hprompted
      rw [run_acquire_of_error hprompt]
      exact .inr ⟨⟨_, rfl⟩, hprompted⟩
    · rw [hprompt] at hprompted
      rcases hopen : (tokenBackend ck mode).openWithPin slot pin w₁ with ⟨answer, w₂⟩
      have hacquired := acquired_openWithPin hprompted hopen
      rw [run_acquire_of_pin hprompt hopen]
      cases answer with
      | ok session =>
        rcases hacquired with ⟨h, hsession, hw₂⟩ | ⟨⟨e, he⟩, -⟩
        · exact .inl ⟨h, congrArg _ (Except.ok.inj hsession), hw₂⟩
        · cases he
      | error o =>
        have hw₂ := hacquired.at_idle
        rw [pkcs11Next]
        cases pkcs11Fatal o with
        | none => exact ih w₂ hw₂
        | some e => exact .inr ⟨⟨e, rfl⟩, hw₂⟩

theorem ensures_acquireSession (cfg : Config.ValidatedConfig) (slot : Slot) :
    Prog.Ensures (At mode .idle)
      (acquireSession deps.withTokens (realPkcs11Io cfg (tokenBackend ck mode))
        promptPin.withTokens slot)
      (Acquired ck mode) := by
  have hprompter : ∀ text w, At mode .idle w →
      At mode .idle (overridePrompt promptPin.withTokens deps.cfg.pkcs11PinPrompt text w).2 :=
    fun _ _ hw => hw.beside rfl _
  refine Prog.Ensures.mapError fun w hw => ?_
  have hacquired :=
    ensures_acquirePkcs11Session X509 ck hprompter slot cfg.pkcs11MaxPinAttempts w hw
  rcases hacquired with ⟨h, hsession, hw'⟩ | ⟨⟨e, he⟩, hw'⟩
  · exact .inl ⟨h, congrArg (Except.mapError _) hsession, hw'⟩
  · exact .inr ⟨⟨_, congrArg (Except.mapError _) he⟩, hw'⟩

theorem preserves_authenticatePkcs11 (cfg : Config.ValidatedConfig) :
    Prog.Preserves (At mode .idle)
      (authenticatePkcs11 deps.withTokens (platform.withTokens ck)
        (realPkcs11Io cfg (tokenBackend ck mode)) promptPin.withTokens login) := by
  refine preserves_preAuthHooks.bind fun _ => ?_
  refine Prog.Preserves.bind (Prog.Preserves.request fun w hw => ?_) fun slot => ?_
  · exact hw.perform (g := fun _ => .idle) (obeys_pollForToken _ _ _)
  refine Prog.Preserves.bind (Prog.Preserves.request fun w hw => ?_) fun tokenSerial => ?_
  · exact hw.perform (g := fun _ => .idle) (obeys_readTokenSerial _)
  refine Prog.Ensures.preserves
    (Prog.Ensures.bind (ensures_acquireSession cfg slot) (fun session w hw => ?_) ?_)
  · rcases hw with ⟨h, hsession, hw⟩ | ⟨⟨e, he⟩, -⟩
    · cases hsession
      exact Prog.Ensures.bind (ensures_withSession tokenSerial)
        (fun passed => Prog.Ensures.of_preserves (preserves_concludeLogin _ _ _))
        (fun _ _ hw => hw) w hw
    · cases he
  · intro e w hw
    exact hw.at_idle

theorem loadBackend_eq {path : String} {w : TokenWorld ρ} {backend : Pkcs11Backend (TokenWorld ρ)}
    (hload : ((platform.withTokens ck).loadBackend path mode w).1 = .ok backend) :
    backend = tokenBackend ck mode := by
  simp only [Platform.withTokens] at hload
  cases hresult : (w.perform (load ck mode path)).1 with
  | error e =>
    rw [hresult] at hload
    cases hload
  | ok _ =>
    rw [hresult] at hload
    exact (Except.ok.inj hload).symm

/-- The module is loaded for the configured locking mode. -/
theorem ensures_loadPkcs11Io :
    Prog.Ensures (At deps.cfg.pkcs11LockingMode .unloaded)
      (loadPkcs11Io deps.withTokens (platform.withTokens ck))
      fun r w => (∀ io, r = .ok io →
        io = realPkcs11Io deps.cfg (tokenBackend ck deps.cfg.pkcs11LockingMode)) ∧
          At deps.cfg.pkcs11LockingMode (loadedPhase r) w := by
  rw [loadPkcs11Io]
  split
  · exact fun w hw => ⟨fun io hio => (nomatch hio), hw⟩
  · next path _ =>
    refine Prog.Ensures.bind (Q := fun r w => (∀ backend, r = .ok backend →
        backend = tokenBackend ck deps.cfg.pkcs11LockingMode) ∧
          At deps.cfg.pkcs11LockingMode (loadedPhase r) w)
      (Prog.Ensures.request fun w hw => ⟨fun backend hbackend => ?_, ?_⟩) (fun backend w hw => ?_)
      fun e w hw => ⟨fun io hio => (nomatch hio), hw.2⟩
    · exact loadBackend_eq (mapError_eq_ok_iff.mp hbackend)
    · simp only [Platform.withTokens, loadedPhase_mapError, loadedPhase_map]
      exact hw.perform (g := loadedPhase) (obeys_load path)
    · refine ⟨fun io hio => ?_, hw.2⟩
      rw [← Except.ok.inj hio, hw.1 backend rfl]
      rfl

theorem preserves_authenticateMode (io : FlowIo (TokenWorld ρ)) (backend : Config.CryptoBackend) :
    Prog.Preserves (At deps.cfg.pkcs11LockingMode .unloaded)
      (authenticateMode deps.withTokens (platform.withTokens ck) io promptPin.withTokens login
        .pkcs11 backend) := by
  cases backend with
  | openssl => exact Prog.Preserves.fail _
  | pkcs11Native =>
    refine Prog.Ensures.preserves (Prog.Ensures.bind ensures_loadPkcs11Io (fun tokenIo w hw => ?_)
      fun e w hw => hw.2)
    have htokens := hw.1 tokenIo rfl
    subst htokens
    -- The flow leaves no session behind, and the drop of the backend finalises the module.
    have hflow : Prog.Preserves (At deps.cfg.pkcs11LockingMode .idle)
        (authenticatePkcs11 deps.withTokens (platform.withTokens ck)
          (realPkcs11Io deps.cfg (tokenBackend ck deps.cfg.pkcs11LockingMode))
          promptPin.withTokens login) := preserves_authenticatePkcs11 deps.cfg
    refine Prog.Ensures.closing (R := fun _ => At deps.cfg.pkcs11LockingMode .unloaded)
      (Prog.Ensures.of_preserves hflow) (fun _ w hw => ?_) w hw.2
    exact hw.perform (g := fun _ => .unloaded) (obeys_dropContext rfl)

end Flow

section Logs

variable {mode : LockingMode} {q q' : TokenPhase} {held held' : Bool} {h : SessionHandle}
  {c : TokenCall} {trace : List TokenEvent}

/-- The calls that are allowed, one by one. -/
inductive TokenPhase.Leads : TokenPhase → TokenCall → TokenPhase → Prop
  | loaded : Leads unloaded (.loadModule true) loaded
  | unloaded : Leads unloaded (.loadModule false) unloaded
  | initialized : Leads loaded (.cInitialize true) idle
  | uninitialized : Leads loaded (.cInitialize false) loaded
  | dropped : Leads loaded .cFinalize unloaded
  | finalized : Leads idle .cFinalize unloaded
  | getSlotList : Leads idle .getSlotList idle
  | getTokenInfo (slot : Slot) : Leads idle (.getTokenInfo slot) idle
  | unopened (slot : Slot) : Leads idle (.openSession slot none) idle
  | opened (slot : Slot) (h : SessionHandle) : Leads idle (.openSession slot (some h)) (opened h)
  | accepted (h : SessionHandle) : Leads (opened h) (.login h true) (loggedIn h)
  | refused (h : SessionHandle) : Leads (opened h) (.login h false) (refused h)
  | closeRefused (h : SessionHandle) : Leads (refused h) (.closeRefused h) idle
  | findObjects (h : SessionHandle) : Leads (loggedIn h) (.findObjects h) (loggedIn h)
  | getAttributes (h : SessionHandle) : Leads (loggedIn h) (.getAttributes h) (loggedIn h)
  | sign (h : SessionHandle) : Leads (loggedIn h) (.sign h) (loggedIn h)
  | logout (h : SessionHandle) : Leads (loggedIn h) (.logout h) (loggedOut h)
  | closeSession (h : SessionHandle) : Leads (loggedOut h) (.closeSession h) idle

theorem leads_of_after (hafter : q.after c = some q') : q.Leads c q' := by
  unfold TokenPhase.after at hafter
  split at hafter
  · next success =>
    cases success
    · cases hafter
      exact .unloaded
    · cases hafter
      exact .loaded
  · next accepted =>
    cases accepted
    · cases hafter
      exact .uninitialized
    · cases hafter
      exact .initialized
  · cases hafter
    exact .dropped
  · cases hafter
    exact .finalized
  · cases hafter
    exact .getSlotList
  · cases hafter
    exact .getTokenInfo _
  · cases hafter
    exact .unopened _
  · cases hafter
    exact .opened _ _
  · next accepted =>
    split_ifs at hafter with hsame haccepted
    · cases hafter
      subst hsame haccepted
      exact .accepted _
    · cases hafter
      subst hsame
      rw [Bool.not_eq_true] at haccepted
      subst haccepted
      exact .refused _
  all_goals first
    | cases hafter
    | (split_ifs at hafter with hsame
       cases hafter
       subst hsame
       constructor)

theorem allow_call {st : TokenPhase × Bool}
    (hallow : allow mode (q, held) (.call c) = some st) :
    held = (c.guarded && decide (mode = .mutex)) ∧ ∃ q', q.after c = some q' ∧ st = (q', held) := by
  rw [allow] at hallow
  split_ifs at hallow with hheld
  obtain ⟨q', hafter, hst⟩ := Option.map_eq_some_iff.mp hallow
  exact ⟨hheld, q', hafter, hst.symm⟩

def TokenPhase.session : TokenPhase → Option SessionHandle
  | unloaded | loaded | idle => none
  | opened h | refused h | loggedIn h | loggedOut h => some h

/-- The event is the lock's or a call on this session, or belongs to the checks that are made
with the session open. -/
def TokenEvent.Concerns (h : SessionHandle) : TokenEvent → Prop
  | lock | unlock => True
  | call c => c = .login h true ∨ c = .login h false ∨ c = .findObjects h ∨ c = .getAttributes h ∨
      c = .sign h ∨ c = .logout h
  | outside e => e.inSession = true

theorem concerns_of_admits {e : OutsideEvent} (hq : q.session = some h) (hadmits : q.admits e = true) :
    TokenEvent.Concerns h (.outside e) := by
  cases q with
  | unloaded | loaded | idle => cases hq
  | opened | refused | loggedOut => cases hadmits
  | loggedIn => exact hadmits

/-- A call in a session belongs to it, and ends it or not. -/
theorem leads_session (hq : q.session = some h) (hleads : q.Leads c q') :
    (TokenEvent.Concerns h (.call c) ∧ q'.session = some h) ∨
      q' = .idle ∧ (c = .closeSession h ∨ c = .closeRefused h) := by
  cases hleads <;> simp_all [TokenPhase.session, TokenEvent.Concerns]

/-- A session is closed before anything happens that does not concern it. -/
theorem exists_close (hq : q.session = some h)
    (hrun : run (allow mode) (q, held) trace = some (.unloaded, held')) :
    ∃ between close after, trace = between ++ .call close :: after ∧
      (close = .closeSession h ∨ close = .closeRefused h) ∧ ∀ e ∈ between, e.Concerns h := by
  induction trace generalizing q held with
  | nil =>
    cases hrun
    cases hq
  | cons e trace ih =>
    obtain ⟨⟨q₁, held₁⟩, hallow, hrun⟩ := run_uncons hrun
    -- An event after which the session is still open is the first of those in between.
    have hopen : q₁.session = some h → e.Concerns h → ∃ between close after,
        e :: trace = between ++ .call close :: after ∧
          (close = .closeSession h ∨ close = .closeRefused h) ∧ ∀ e ∈ between, e.Concerns h := by
      intro hq₁ he
      obtain ⟨between, close, after, rfl, hclose, hbetween⟩ := ih hq₁ hrun
      exact ⟨e :: between, close, after, rfl, hclose, List.forall_mem_cons.mpr ⟨he, hbetween⟩⟩
    cases e with
    | lock =>
      rw [allow] at hallow
      split_ifs at hallow
      cases hallow
      exact hopen hq trivial
    | unlock =>
      rw [allow] at hallow
      split_ifs at hallow
      cases hallow
      exact hopen hq trivial
    | outside e =>
      rw [allow] at hallow
      split_ifs at hallow with hadmits
      cases hallow
      exact hopen hq (concerns_of_admits hq hadmits.1)
    | call c =>
      obtain ⟨-, q', hafter, hst⟩ := allow_call hallow
      cases hst
      rcases leads_session hq (leads_of_after hafter) with ⟨hconcerns, hq₁⟩ | ⟨-, hclose⟩
      · exact hopen hq₁ hconcerns
      · exact ⟨[], c, trace, rfl, hclose, by simp⟩

end Logs

/-- A call of `pam_sm_authenticate` with a token, with everything it depends on. `checkFiles` is
what precedes the self-check of the module, and `prepare` what comes between it and the flow:
the user, the identity of the machine and the wiring. -/
structure TokenLogin (ρ X509 : Type) [CryptoLibrary X509] where
  deps : Deps ρ X509
  platform : Platform ρ X509
  ck : Cryptoki ρ
  checkFiles : ρ → Bool × ρ
  prepare : ρ → Bool × ρ
  io : FlowIo (TokenWorld ρ)
  promptPin : PinPrompter ρ
  login : Login
  env : ρ

namespace TokenLogin

variable {ρ X509 : Type} [CryptoLibrary X509] (a : TokenLogin ρ X509)

def mode : LockingMode := a.deps.cfg.pkcs11LockingMode

def authenticates (w : TokenWorld ρ) : TokenWorld ρ :=
  (authenticateMode a.deps.withTokens (a.platform.withTokens a.ck) a.io a.promptPin.withTokens
    a.login .pkcs11 a.deps.cfg.cryptoBackend w).env

def preparesAndAuthenticates (w : TokenWorld ρ) : TokenWorld ρ :=
  let prepared := w.beside .entry a.prepare
  if prepared.1 then a.authenticates prepared.2 else prepared.2

/-- The self-check of the module, and the login behind it if nothing stops it before. -/
def runs (w : TokenWorld ρ) : TokenWorld ρ :=
  let files := w.beside .entry a.checkFiles
  if files.1 then
    let checked := files.2.perform (selfCheckPkcs11 a.ck a.mode a.deps.cfg.pkcs11Module)
    if checked.1.isOk then a.preparesAndAuthenticates checked.2 else checked.2
  else files.2

/-- What is logged from the beginning to the end. -/
def trace : List TokenEvent := (a.runs ⟨a.env, []⟩).trace

theorem at_preparesAndAuthenticates {w : TokenWorld ρ} (hw : At a.mode .unloaded w) :
    At a.mode .unloaded (a.preparesAndAuthenticates w) := by
  have hprepared : At a.mode .unloaded (w.beside .entry a.prepare).2 := hw.beside rfl _
  rw [preparesAndAuthenticates]
  split
  · exact preserves_authenticateMode a.io a.deps.cfg.cryptoBackend _ hprepared
  · exact hprepared

theorem at_runs {w : TokenWorld ρ} (hw : At a.mode .unloaded w) :
    At a.mode .unloaded (a.runs w) := by
  have hfiles : At a.mode .unloaded (w.beside .entry a.checkFiles).2 := hw.beside rfl _
  have hobeys : Prog.Obeys (allow a.mode) (.unloaded, false)
      (selfCheckPkcs11 a.ck a.mode a.deps.cfg.pkcs11Module) fun _ st => st = (.unloaded, false) :=
    obeys_selfCheckPkcs11 a.deps.cfg.pkcs11Module
  have hchecked := hfiles.perform (g := fun _ => .unloaded) hobeys
  rw [runs]
  split
  · simp only
    split
    · exact a.at_preparesAndAuthenticates hchecked
    · exact hchecked
  · exact hfiles

theorem run_trace : run (allow a.mode) (.unloaded, false) a.trace = some (.unloaded, false) :=
  a.at_runs (w := ⟨a.env, []⟩) rfl

end TokenLogin

/-- Every login keeps to the protocol from its first call to its end, where the module is
finalised, no session is open and the lock is free. Each session that it opened was closed, with
nothing in between but the lock, calls on this session and the checks of the login. -/
theorem token_sessions_settled {ρ X509 : Type} [CryptoLibrary X509] (a : TokenLogin ρ X509) :
    run (allow a.mode) (.unloaded, false) a.trace = some (.unloaded, false) ∧
      ∀ front slot h rest, a.trace = front ++ .call (.openSession slot (some h)) :: rest →
        ∃ between close after, rest = between ++ .call close :: after ∧
          (close = .closeSession h ∨ close = .closeRefused h) ∧ ∀ e ∈ between, e.Concerns h := by
  refine ⟨a.run_trace, fun front slot h rest hsplit => ?_⟩
  have hrun := a.run_trace
  rw [hsplit] at hrun
  obtain ⟨⟨q, held⟩, st, -, hopen, hrest⟩ := run_around hrun
  obtain ⟨-, q', hafter, rfl⟩ := allow_call hopen
  cases leads_of_after hafter with
  | opened => exact exists_close rfl hrest

end PamCertauth.Flow
