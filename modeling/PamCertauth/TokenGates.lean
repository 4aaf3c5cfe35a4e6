import PamCertauth.FlowGates

/-!
# The gates of the token pipeline

On a token the certificate and its private key are separate objects. The pipeline pairs
them by their identifier, lets the token sign and verifies the signature on the host
under the public key of the certificate. Both pipelines are gated in the same sense.
-/

namespace PamCertauth.Flow

open X509 X509.CryptoLibrary Hooks Pkcs11

variable {σ X509 : Type} [CryptoLibrary X509]

section Quiet

variable {deps : Deps σ X509} {platform : Platform σ X509} {session : Pkcs11Session σ}

theorem firstCertificate_quiet {labelFilter : Option String} {handles : List ObjectHandle} :
    Prog.LogsOnly Call.Quiet
      (firstCertificate session labelFilter handles :
        Prog σ (Call X509) _ (FoundCertificate X509)) := by
  induction handles with
  | nil => exact Prog.LogsOnly.fail _
  | cons handle handles ih =>
    rw [firstCertificate]
    refine Prog.LogsOnly.bind (Prog.LogsOnly.call fun _ => trivial) fun attrs => ?_
    split
    · exact ih
    · split
      · exact Prog.LogsOnly.pure _
      · exact ih

theorem findPrivateKeyForCert_quiet {cert : FoundCertificate X509} :
    Prog.LogsOnly Call.Quiet (findPrivateKeyForCert session cert) := by
  refine Prog.LogsOnly.bind (Prog.LogsOnly.request fun _ => trivial) fun handles => ?_
  split
  · exact Prog.LogsOnly.fail _
  · refine Prog.LogsOnly.bind (Prog.LogsOnly.request fun _ => trivial) fun attrs => ?_
    exact Prog.LogsOnly.ofExcept _

theorem pkcs11ChallengeResponse_quiet {keyHandle : ObjectHandle} {keyType : KeyType}
    {mechanism : TokenSignMechanism} {leaf : Certificate X509} :
    Prog.LogsOnly Call.Quiet
      (pkcs11ChallengeResponse platform session keyHandle keyType mechanism leaf) := by
  refine Prog.LogsOnly.bind (Prog.LogsOnly.request fun _ => trivial) fun nonce => ?_
  refine Prog.LogsOnly.bind (Prog.LogsOnly.ofExcept _) fun input => ?_
  refine Prog.LogsOnly.bind (Prog.LogsOnly.request fun _ => trivial) fun signature => ?_
  refine Prog.LogsOnly.bind (Prog.LogsOnly.ofExcept _) fun pubkey => ?_
  exact Prog.LogsOnly.ofExcept _

theorem pkcs11Checks_quiet : Prog.LogsOnly Call.Quiet (pkcs11Checks deps platform session) := by
  refine Prog.LogsOnly.bind (Prog.LogsOnly.mapError ?_) fun cert => ?_
  · refine Prog.LogsOnly.bind (Prog.LogsOnly.request fun _ => trivial) fun handles => ?_
    exact firstCertificate_quiet
  refine Prog.LogsOnly.bind findPrivateKeyForCert_quiet.mapError fun key => ?_
  refine Prog.LogsOnly.bind (Prog.LogsOnly.ofExcept _) fun pubkey => ?_
  refine Prog.LogsOnly.bind (Prog.LogsOnly.ofExcept _) fun mechanism => ?_
  refine Prog.LogsOnly.bind pkcs11ChallengeResponse_quiet.mapError fun _ => ?_
  refine Prog.LogsOnly.bind (ask_quiet fun _ => trivial) fun verified => ?_
  refine Prog.LogsOnly.bind (Prog.LogsOnly.ofExcept _) fun _ => ?_
  exact Prog.LogsOnly.pure _

end Quiet

/-- The certificate object was read from the token in the run. -/
inductive FoundOnToken (found : FoundCertificate X509) (log : List (Call X509)) : Prop where
  | intro {handle : ObjectHandle} {attrs : List Attribute}
      (attributes : .getAttributes handle [.value, .id, .label] (.ok attrs) ∈ log)
      (parsed : parseCertificateObject handle attrs = .ok found)

/-- The private key is the first one with the identifier of the certificate object. -/
inductive PairedByCkaId (found : FoundCertificate X509) (key : ObjectHandle)
    (log : List (Call X509)) : Prop where
  | intro {others : List ObjectHandle}
      (search : .findObjects (privateKeyTemplate found.ckaId) (.ok (key :: others)) ∈ log)

/-- The token signed a nonce drawn in the run with the key, and the signature verifies on
the host under the public key of the certificate. -/
inductive TokenKeyProved (leaf : Certificate X509) (key : ObjectHandle)
    (log : List (Call X509)) : Prop where
  | intro {pubKey : PublicKey X509} {keyType : KeyType} {mechanism : TokenSignMechanism}
      {m : Mechanism} {data : Bytes} {nonce : Vector UInt8 32} {signature : Bytes}
      (publicKey : leaf.publicKey = .ok pubKey) (drawn : .fillNonce (.ok nonce) ∈ log)
      (input : tokenInput X509 mechanism nonce.toList = .ok (m, data))
      (signed : .tokenSign m key data (.ok signature) ∈ log)
      (valid : verifyOnHost pubKey keyType mechanism.hostHash nonce.toList signature = .ok ())

/-- The key paired with the certificate on a token with this serial was proved. -/
inductive PairedOnToken (leaf : Certificate X509) :
    Option String → List (Call X509) → Prop where
  | intro {log : List (Call X509)} {slot : Slot} {serial : String}
      {found : FoundCertificate X509} {key : ObjectHandle}
      (token : .waitForToken (.ok slot) ∈ log)
      (tokenSerial : .readTokenSerial slot (.ok serial) ∈ log)
      (certificate : FoundOnToken found log) (leaf_eq : found.certificate = leaf)
      (paired : PairedByCkaId found key log) (proved : TokenKeyProved leaf key log) :
      PairedOnToken leaf (some serial) log

section Monotone

variable {found : FoundCertificate X509} {leaf : Certificate X509} {key : ObjectHandle}
  {log log' : List (Call X509)}

theorem FoundOnToken.mono (h : FoundOnToken found log) (hsub : log ⊆ log') :
    FoundOnToken found log' := by
  obtain ⟨hread, hparsed⟩ := h
  exact ⟨hsub hread, hparsed⟩

theorem PairedByCkaId.mono (h : PairedByCkaId found key log) (hsub : log ⊆ log') :
    PairedByCkaId found key log' := by
  obtain ⟨hsearch⟩ := h
  exact ⟨hsub hsearch⟩

theorem TokenKeyProved.mono (h : TokenKeyProved leaf key log) (hsub : log ⊆ log') :
    TokenKeyProved leaf key log' := by
  obtain ⟨hpublic, hdrawn, hinput, hsigned, hvalid⟩ := h
  exact ⟨hpublic, hsub hdrawn, hinput, hsub hsigned, hvalid⟩

end Monotone

section Successful

variable {deps : Deps σ X509} {platform : Platform σ X509} {session : Pkcs11Session σ}
  {s s' : σ} {log : List (Call X509)}

theorem firstCertificate_eq_ok {labelFilter : Option String} {handles : List ObjectHandle}
    {found : FoundCertificate X509}
    (h : firstCertificate session labelFilter handles s = ⟨.ok found, s', log⟩) :
    FoundOnToken found log := by
  induction handles generalizing s log with
  | nil => cases h
  | cons handle handles ih =>
    unfold firstCertificate at h
    obtain ⟨answer, s₁, t₁, t₂, hattrs, hrest, rfl⟩ := Prog.bind_eq_ok_iff.mp h
    have hread := (Prog.call_eq_ok_iff.mp hattrs).2
    subst hread
    have skip (h : firstCertificate session labelFilter handles s₁ = ⟨.ok found, s', t₂⟩) :
        FoundOnToken found
          ([.getAttributes handle [.value, .id, .label] answer] ++ t₂) := by
      exact (ih h).mono (List.subset_append_right _ _)
    rcases answer with e | attrs
    · exact skip hrest
    · rcases hparsed : (parseCertificateObject handle attrs :
        Except _ (FoundCertificate X509)) with e | found'
      · simp only [hparsed] at hrest
        exact skip hrest
      · simp only [hparsed] at hrest
        cases hrest
        exact ⟨List.mem_cons_self, hparsed⟩

theorem findPrivateKeyForCert_eq_ok {found : FoundCertificate X509} {key : FoundPrivateKey}
    (h : findPrivateKeyForCert session found s = ⟨.ok key, s', log⟩) :
    PairedByCkaId found key.object log := by
  obtain ⟨handles, s₁, t₁, t₂, hsearch, hrest, rfl⟩ := Prog.bind_eq_ok_iff.mp h
  have hsearched := (Prog.request_eq_ok_iff.mp hsearch).2
  subst hsearched
  match handles with
  | [] => cases hrest
  | handle :: others =>
    obtain ⟨attrs, s₂, t₃, t₄, -, hparse, rfl⟩ := Prog.bind_eq_ok_iff.mp hrest
    have hparsed : parsePrivateKeyAttributes handle attrs = .ok key := congrArg Run.result hparse
    have hobject : key.object = handle := by
      unfold parsePrivateKeyAttributes at hparsed
      split at hparsed
      split at hparsed
      · cases hparsed
      · cases hparsed
        rfl
    subst hobject
    exact ⟨List.mem_cons_self⟩

theorem pkcs11ChallengeResponse_eq_ok {key : ObjectHandle} {keyType : KeyType}
    {mechanism : TokenSignMechanism} {leaf : Certificate X509}
    (h : pkcs11ChallengeResponse platform session key keyType mechanism leaf s =
      ⟨.ok (), s', log⟩) : TokenKeyProved leaf key log := by
  obtain ⟨nonce, s₁, t₁, u₁, hnonce, h₁, rfl⟩ := Prog.bind_eq_ok_iff.mp h
  obtain ⟨⟨m, data⟩, s₂, t₂, u₂, hinput, h₂, rfl⟩ := Prog.bind_eq_ok_iff.mp h₁
  obtain ⟨signature, s₃, t₃, u₃, hsign, h₃, rfl⟩ := Prog.bind_eq_ok_iff.mp h₂
  obtain ⟨pubKey, s₄, t₄, u₄, hpub, hvalid, rfl⟩ := Prog.bind_eq_ok_iff.mp h₃
  have hdrawn := (Prog.request_eq_ok_iff.mp hnonce).2
  have hsigned := (Prog.request_eq_ok_iff.mp hsign).2
  have hpublic : leaf.publicKey = .ok pubKey :=
    PamCertauth.mapError_eq_ok_iff.mp (congrArg Run.result hpub)
  exact ⟨hpublic, by simp [hdrawn], congrArg Run.result hinput, by simp [hsigned],
    congrArg Run.result hvalid⟩

theorem pkcs11Checks_eq_ok {leaf : Certificate X509} {verified : Stage2VerifiedChain X509}
    (h : pkcs11Checks deps platform session s = ⟨.ok (leaf, verified), s', log⟩) :
    (∃ found key, FoundOnToken found log ∧ found.certificate = leaf ∧
      PairedByCkaId found key log ∧ TokenKeyProved leaf key log) ∧
      .trustVerify leaf [] (.ok verified) ∈ log ∧
      verifyHostBinding leaf.inner deps.hostIdHash = .ok () := by
  obtain ⟨found, s₁, t₁, u₁, hfind, h₁, rfl⟩ := Prog.bind_eq_ok_iff.mp h
  obtain ⟨key, s₂, t₂, u₂, hkey, h₂, rfl⟩ := Prog.bind_eq_ok_iff.mp h₁
  obtain ⟨pubKey, s₃, t₃, u₃, -, h₃, rfl⟩ := Prog.bind_eq_ok_iff.mp h₂
  obtain ⟨mechanism, s₄, t₄, u₄, -, h₄, rfl⟩ := Prog.bind_eq_ok_iff.mp h₃
  obtain ⟨⟨⟩, s₅, t₅, u₅, hchallenge, h₅, rfl⟩ := Prog.bind_eq_ok_iff.mp h₄
  obtain ⟨verified', s₆, t₆, u₆, htrust, h₆, rfl⟩ := Prog.bind_eq_ok_iff.mp h₅
  obtain ⟨⟨⟩, s₇, t₇, u₇, hhost, hpure, rfl⟩ := Prog.bind_eq_ok_iff.mp h₆
  cases hpure
  obtain ⟨handles, s₈, t₈, u₈, -, hfirst, rfl⟩ :=
    Prog.bind_eq_ok_iff.mp (Prog.mapError_eq_ok_iff.mp hfind)
  have hfound := firstCertificate_eq_ok hfirst
  have hpaired := findPrivateKeyForCert_eq_ok (Prog.mapError_eq_ok_iff.mp hkey)
  have hproved := pkcs11ChallengeResponse_eq_ok (Prog.mapError_eq_ok_iff.mp hchallenge)
  have htrusted := (Prog.request_eq_ok_iff.mp htrust).2
  have hbound : verifyHostBinding found.certificate.inner deps.hostIdHash = .ok () :=
    PamCertauth.mapError_eq_ok_iff.mp (congrArg Run.result hhost)
  refine ⟨⟨found, key.object, hfound.mono ?_, rfl, hpaired.mono ?_, hproved.mono ?_⟩,
    by simp [htrusted], hbound⟩ <;> intro call hcall <;> simp [hcall]

end Successful

section Behind

variable {deps : Deps σ X509} {platform : Platform σ X509} {io : Pkcs11Io σ}
  {promptPin : PinPrompter σ} {login : Login} {s s' : σ} {log : List (Call X509)}

theorem acquireSession_quiet {slot : Slot} :
    Prog.LogsOnly Call.Quiet (acquireSession deps io promptPin slot) :=
  (PinDialog.run_logsOnly trivial (fun _ _ => trivial) _).mapError

theorem withSession_quiet {session : Pkcs11Session σ} {tokenSerial : String} :
    Prog.LogsOnly Call.Quiet (withSession deps platform login session tokenSerial) := by
  refine Prog.LogsOnly.bind (Prog.LogsOnly.onFailure ?_ (notify_quiet trivial)) fun passed => ?_
  · refine Prog.LogsOnly.bind pkcs11Checks_quiet fun checked => ?_
    refine Prog.LogsOnly.bind (Prog.LogsOnly.ofExcept _) fun _ => ?_
    exact Prog.LogsOnly.bind assembleContext_quiet fun ctx => Prog.LogsOnly.pure _
  · exact Prog.LogsOnly.bind (notify_quiet trivial) fun _ => Prog.LogsOnly.pure _

theorem withSession_eq_ok {session : Pkcs11Session σ} {tokenSerial : String}
    {leaf : Certificate X509} {ctx : AuthContext}
    (h : withSession deps platform login session tokenSerial s = ⟨.ok (leaf, ctx), s', log⟩) :
    ∃ verified s₁ checks rest, log = checks ++ rest ∧
      pkcs11Checks deps platform session s = ⟨.ok (leaf, verified), s₁, checks⟩ ∧
      authorizeUser deps login leaf = .ok () ∧ ContextOf leaf (some tokenSerial) ctx := by
  obtain ⟨passed, s₁, t₁, u₁, hpassed, h₁, rfl⟩ := Prog.bind_eq_ok_iff.mp h
  obtain ⟨⟨⟩, s₂, t₂, u₂, -, hpure, rfl⟩ := Prog.bind_eq_ok_iff.mp h₁
  cases hpure
  have hbody := Prog.onFailure_eq_ok_iff.mp hpassed
  obtain ⟨⟨leaf', verified⟩, s₃, t₃, u₃, hchecks, h₃, rfl⟩ := Prog.bind_eq_ok_iff.mp hbody
  obtain ⟨⟨⟩, s₄, t₄, u₄, hauth, h₄, rfl⟩ := Prog.bind_eq_ok_iff.mp h₃
  obtain ⟨ctx', s₅, t₅, u₅, hctx, hpure, rfl⟩ := Prog.bind_eq_ok_iff.mp h₄
  cases hpure
  exact ⟨verified, s₃, t₃, _, List.append_assoc _ _ _, hchecks,
    (liftExcept_eq_ok_iff.mp hauth).1, assembleContext_eq_ok hctx⟩

theorem authenticatePkcs11_beyond
    (h : (authenticatePkcs11 deps platform io promptPin login s).Beyond Call.Early) :
    ∃ leaf usbSerial front checks ctx mount s₁,
      Gates deps login PairedOnToken s front checks leaf usbSerial ∧
      ContextOf leaf usbSerial ctx ∧
      (authenticatePkcs11 deps platform io promptPin login s).Continues (front ++ checks)
        (concludeLogin deps platform login leaf ctx mount s₁) := by
  obtain ⟨⟨⟩, s₁, t₁, hpre, h₁, hcont₁⟩ := Prog.beyond_bind h preAuthHooks_early
  obtain ⟨slot, s₂, t₂, hwait, h₂, hcont₂⟩ :=
    Prog.beyond_bind h₁ (early_of_quiet (ask_quiet fun _ => trivial))
  obtain ⟨tokenSerial, s₃, t₃, hserial, h₃, hcont₃⟩ :=
    Prog.beyond_bind h₂ (early_of_quiet (ask_quiet fun _ => trivial))
  obtain ⟨session, s₄, t₄, hacquire, h₄, hcont₄⟩ := Prog.beyond_bind h₃ (early_of_quiet acquireSession_quiet)
  obtain ⟨⟨leaf, ctx⟩, s₅, t₅, hsession, -, hcont₅⟩ := Prog.beyond_bind h₄ (early_of_quiet withSession_quiet)
  have htoken := (Prog.request_eq_ok_iff.mp hwait).2
  have hread := (Prog.request_eq_ok_iff.mp hserial).2
  have hdialogEarly := early_of_run (early_of_quiet acquireSession_quiet) hacquire
  have hsessionEarly := early_of_run (early_of_quiet withSession_quiet) hsession
  obtain ⟨verified, s₆, checks, rest, rfl, hchecks, hauth, hctx⟩ := withSession_eq_ok hsession
  obtain ⟨⟨found, key, hfound, hleaf, hpaired, hproved⟩, htrusted, hhost⟩ :=
    pkcs11Checks_eq_ok hchecks
  subst htoken hread
  have hsub : checks ⊆ [.waitForToken (.ok slot)] ++ ([.readTokenSerial slot (.ok tokenSerial)] ++
      (t₄ ++ (checks ++ rest))) := by
    intro call hcall
    simp [hcall]
  refine ⟨leaf, some tokenSerial, t₁, _, ctx, none, s₅, ?_, hctx,
    hcont₁.trans (hcont₂.trans (hcont₃.trans (hcont₄.trans hcont₅)))⟩
  exact
    { preAuth := ⟨s₁, hpre⟩
      onlyHooks := fun call hcall => preAuthHooks_onlyHooks (s := s) (by rw [hpre]; exact hcall)
      early := by
        intro call hcall
        rcases List.mem_append.mp hcall with hcall | hcall
        · exact early_of_run preAuthHooks_early hpre call hcall
        · simp only [List.singleton_append, List.mem_cons, List.mem_append] at hcall
          rcases hcall with rfl | rfl | hcall | hcall
          · trivial
          · trivial
          · exact hdialogEarly call hcall
          · exact hsessionEarly call (List.mem_append.mpr hcall)
      possession := ⟨List.mem_cons_self, List.mem_cons_of_mem _ List.mem_cons_self,
        hfound.mono hsub, hleaf, hpaired.mono hsub, hproved.mono hsub⟩
      trusted := ⟨[], verified, hsub htrusted⟩
      hostBound := hhost
      userAuthorized := authorizeUser_eq_ok hauth }

end Behind

/-- In both pipelines a login is admitted, a hook after the login runs and the monitor
hears of the session only behind all gates, which are about one certificate. -/
theorem flows_gated (deps : Deps σ X509) (platform : Platform σ X509) (io : FlowIo σ)
    (tokenIo : Pkcs11Io σ) (promptPin : PinPrompter σ) (login : Login) (s : σ) :
    Gated deps login (LoadedTogether deps login)
      (authenticatePkcs12 deps platform io promptPin login) s ∧
    Gated deps login PairedOnToken
      (authenticatePkcs11 deps platform tokenIo promptPin login) s :=
  ⟨Gated.of_beyond authenticatePkcs12_beyond, Gated.of_beyond authenticatePkcs11_beyond⟩

end PamCertauth.Flow
