import PamCertauth.UserAuthorization

/-!
# Which certificate of a token is used

A search on a token returns the certificate objects in the order of the token, and the first
one whose value parses is taken for the certificate of the user. The trust verifier accepts
end-entity certificates only. The content of a token is given here by its objects, with what
the token answers for each, and the object that is taken is compared with the first one that
holds an end-entity certificate.
-/

namespace PamCertauth.Flow

open X509 X509.CryptoLibrary Pkcs11

variable {σ X509 : Type} [CryptoLibrary X509]

/-- A certificate object, with what the token answers when its attributes are read. -/
structure TokenObject where
  handle : ObjectHandle
  label : Option Bytes
  attributes : Except String (List Attribute)
  deriving DecidableEq

/-- The object has this attribute of a search for certificates. -/
def TokenObject.has (object : TokenObject) : Attribute → Bool
  | .class .certificate => true
  | .certificateTypeX509 => true
  | .label bytes => object.label = some bytes
  | _ => false

/-- The objects that a search for this label finds, in the order of the token. -/
def matching (content : List TokenObject) (labelFilter : Option String) : List TokenObject :=
  content.filter fun object => (certificateTemplate labelFilter).all object.has

/-- The session works on a token with this content, whatever else happens to the token. -/
structure Holds (session : Pkcs11Session σ) (content : List TokenObject) : Prop where
  search : ∀ labelFilter s, (session.findObjects (certificateTemplate labelFilter) s).1 =
    .ok ((matching content labelFilter).map (·.handle))
  read : ∀ object ∈ content, ∀ s,
    (session.getAttributes object.handle [.value, .id, .label] s).1 = object.attributes

variable (X509) in
/-- The certificate in the object, if it can be read and parses. -/
def TokenObject.found (object : TokenObject) : Option (FoundCertificate X509) :=
  match object.attributes with
  | .error _ => none
  | .ok attrs => (parseCertificateObject object.handle attrs).toOption

/-- The certificate is not that of an authority. -/
def isEndEntity (cert : Certificate X509) : Bool :=
  match cert.basicConstraints with
  | .error _ => false
  | .ok none => true
  | .ok (some bc) => !bc.isCa

variable (X509) in
def TokenObject.holdsEndEntity (object : TokenObject) : Bool :=
  (object.found X509).any fun found => isEndEntity found.certificate

theorem TokenObject.holdsEndEntity_of_found {object : TokenObject} {found : FoundCertificate X509}
    (h : object.found X509 = some found) :
    object.holdsEndEntity X509 = isEndEntity found.certificate := by
  simp [TokenObject.holdsEndEntity, h]

theorem AcceptableLeaf.isEndEntity {cert : Certificate X509} {cfg : PreValidateConfig}
    {now : SystemTime} (h : AcceptableLeaf cert cfg now) : isEndEntity cert = true := by
  obtain ⟨bc, hbc, hnot⟩ := h.not_ca
  cases bc with
  | none => simp [Flow.isEndEntity, hbc]
  | some view => simp [Flow.isEndEntity, hbc, hnot view rfl]

section

variable {session : Pkcs11Session σ} {content : List TokenObject} {labelFilter : Option String}

/-- The first object that parses, as the answer of the search. -/
def firstParsed (objects : List TokenObject) (labelFilter : Option String) :
    Except Pkcs11Error (FoundCertificate X509) :=
  ((objects.findSome? (·.found X509)).map .ok).getD (.error (.certificateNotFound labelFilter))

theorem firstCertificate_result (hholds : Holds session content) {objects : List TokenObject}
    (hsub : objects ⊆ content) (s : σ) :
    (firstCertificate session labelFilter (objects.map (·.handle)) s :
        Run σ (Call X509) _ _).result = firstParsed objects labelFilter := by
  induction objects generalizing s with
  | nil => rfl
  | cons object objects ih =>
    obtain ⟨hmem, hrest⟩ := List.cons_subset.mp hsub
    rw [List.map_cons, firstCertificate, Prog.call_bind_apply, hholds.read object hmem s]
    cases hattrs : object.attributes with
    | error e =>
      have hnone : object.found X509 = none := by simp [TokenObject.found, hattrs]
      simpa [firstParsed, hnone] using ih hrest _
    | ok attrs =>
      cases hparsed : (parseCertificateObject object.handle attrs :
          Except _ (FoundCertificate X509)) with
      | error e =>
        have hnone : object.found X509 = none := by
          simp [TokenObject.found, hattrs, hparsed, Except.toOption]
        simpa [hparsed, firstParsed, hnone] using ih hrest _
      | ok found =>
        have hsome : object.found X509 = some found := by
          simp [TokenObject.found, hattrs, hparsed, Except.toOption]
        simp [hparsed, firstParsed, hsome]

theorem findCertificate_result (hholds : Holds session content) (s : σ) :
    (findCertificate session labelFilter s : Run σ (Call X509) _ _).result =
      firstParsed (matching content labelFilter) labelFilter := by
  have hsearch : session.findObjects (certificateTemplate labelFilter) s =
      (.ok ((matching content labelFilter).map (·.handle)), _) :=
    Prod.ext (hholds.search labelFilter s) rfl
  have hsub : matching content labelFilter ⊆ content := fun _ => List.mem_of_mem_filter
  rw [findCertificate, Prog.bind_of_ok (Prog.request_of_ok hsearch)]
  exact firstCertificate_result hholds hsub _

/-- The search answers with the first object that holds an end-entity certificate. -/
def TakesFirstEndEntity (session : Pkcs11Session σ) (content : List TokenObject)
    (labelFilter : Option String) (X509 : Type) [CryptoLibrary X509] (s : σ) : Prop :=
  ∀ object, (matching content labelFilter).find? (·.holdsEndEntity X509) = some object →
    ∃ found, object.found X509 = some found ∧
      (findCertificate session labelFilter s : Run σ (Call X509) _ _).result = .ok found

/-- A certificate that is not an end-entity one stands before the first object that holds one. -/
def Shadowed (X509 : Type) [CryptoLibrary X509] (objects : List TokenObject) : Prop :=
  ∃ before object after found, objects = before ++ object :: after ∧
    object.found X509 = some found ∧ isEndEntity found.certificate = false ∧
    (∀ other ∈ before, other.holdsEndEntity X509 = false) ∧
    ∃ other ∈ after, other.holdsEndEntity X509 = true

variable {objects : List TokenObject}

/-- Behind nothing but objects without an end-entity certificate, a certificate of another
kind is what the search takes, or one before it. -/
theorem Shadowed.firstParsed (h : Shadowed X509 objects) :
    ∃ found, objects.findSome? (·.found X509) = some found ∧
      isEndEntity found.certificate = false := by
  obtain ⟨before, object, after, found, rfl, hfound, hother, hbefore, -⟩ := h
  rw [List.findSome?_append]
  cases hfirst : before.findSome? (·.found X509) with
  | none => exact ⟨found, by simp [hfound], hother⟩
  | some first =>
    obtain ⟨earlier, hmem, hearlier⟩ := List.exists_of_findSome?_eq_some hfirst
    refine ⟨first, rfl, ?_⟩
    rw [← TokenObject.holdsEndEntity_of_found hearlier]
    exact hbefore earlier hmem

/-- Without a shadow, nothing before the first end-entity certificate parses. -/
theorem findSome_of_not_shadowed (h : ¬ Shadowed X509 objects) {object : TokenObject}
    (hobject : objects.find? (·.holdsEndEntity X509) = some object) :
    objects.findSome? (·.found X509) = object.found X509 := by
  obtain ⟨hends, before, after, rfl, hbefore⟩ := List.find?_eq_some_iff_append.mp hobject
  have hnone : ∀ other ∈ before, other.found X509 = none := by
    intro other hother
    by_contra hparses
    obtain ⟨found, hfound⟩ := Option.ne_none_iff_exists'.mp hparses
    obtain ⟨front, back, rfl⟩ := List.append_of_mem hother
    have hkind : other.holdsEndEntity X509 = false := by simpa using hbefore other hother
    refine h ⟨front, other, back ++ object :: after, found, by simp, hfound, ?_, ?_, object,
      by simp, hends⟩
    · rw [← TokenObject.holdsEndEntity_of_found hfound, hkind]
    · intro earlier hearlier
      simpa using hbefore earlier (List.mem_append_left _ hearlier)
  obtain ⟨found, hfound⟩ : ∃ found, object.found X509 = some found := by
    simp only [TokenObject.holdsEndEntity, Option.any_eq_true] at hends
    obtain ⟨found, hfound, -⟩ := hends
    exact ⟨found, hfound⟩
  rw [List.findSome?_append, List.findSome?_eq_none_iff.mpr hnone]
  simp [hfound]

theorem takesFirstEndEntity_iff (hholds : Holds session content) (s : σ) :
    TakesFirstEndEntity session content labelFilter X509 s ↔
      ¬ Shadowed X509 (matching content labelFilter) := by
  simp only [TakesFirstEndEntity, findCertificate_result hholds s]
  constructor
  · intro htakes hshadowed
    obtain ⟨first, hfirst, hother⟩ := hshadowed.firstParsed
    obtain ⟨before, object, after, -, heq, -, -, -, last, hlast, hends⟩ := hshadowed
    have hsome : ((matching content labelFilter).find? (·.holdsEndEntity X509)).isSome := by
      rw [List.find?_isSome]
      exact ⟨last, by simp [heq, hlast], hends⟩
    obtain ⟨object, hobject⟩ := Option.isSome_iff_exists.mp hsome
    obtain ⟨found, hfound, hanswer⟩ := htakes object hobject
    have hkind : object.holdsEndEntity X509 = true := List.find?_some hobject
    rw [Flow.firstParsed, hfirst] at hanswer
    cases hanswer
    rw [TokenObject.holdsEndEntity_of_found hfound, hother] at hkind
    cases hkind
  · intro hclear object hobject
    have hkind : object.holdsEndEntity X509 = true := List.find?_some hobject
    simp only [TokenObject.holdsEndEntity, Option.any_eq_true] at hkind
    obtain ⟨found, hfound, -⟩ := hkind
    refine ⟨found, hfound, ?_⟩
    rw [Flow.firstParsed, findSome_of_not_shadowed hclear hobject, hfound]
    rfl

end

/-- Every value that the dialogue can end in satisfies `P`. -/
def PinDialog.Yields {ε α : Type} (P : α → Prop) : PinDialog σ ε α → Prop
  | .done result => ∀ a, result = .ok a → P a
  | .effect _ k => ∀ s, (k s).Yields P
  | .ask _ k => ∀ answer, (k answer).Yields P

theorem PinDialog.Yields.of_run {ε α : Type} {P : α → Prop} {prompter : PinPrompter σ}
    {dialog : PinDialog σ ε α} (h : dialog.Yields P) {s s' : σ} {a : α}
    {log : List (Call X509)} (hrun : dialog.run prompter s = ⟨.ok a, s', log⟩) : P a := by
  induction dialog generalizing s log with
  | done result =>
    cases hrun
    exact h a rfl
  | effect next k ih =>
    obtain ⟨s₀, s₁, t₁, u₁, -, hrest, rfl⟩ := Prog.bind_eq_ok_iff.mp hrun
    exact ih s₀ (h s₀) hrest
  | ask text k ih =>
    obtain ⟨answer, s₁, t₁, u₁, -, hrest, rfl⟩ := Prog.bind_eq_ok_iff.mp hrun
    exact ih answer (h answer) hrest

/-- The flow verifies with this verifier, at whatever time. -/
def VerifiesWith (deps : Deps σ X509) (verifier : OpensslVerifier X509) : Prop :=
  ∀ leaf presented s, ∃ now,
    (deps.trustVerify leaf presented s).1 = verifier.verifyAt leaf presented now

section

variable {deps : Deps σ X509} {platform : Platform σ X509} {io : Pkcs11Io σ}
  {promptPin : PinPrompter σ} {login : Login} {verifier : OpensslVerifier X509}
  {session : Pkcs11Session σ} {content : List TokenObject} {s s' : σ} {log : List (Call X509)}

/-- A chain is verified for the certificate that the search took. -/
theorem pkcs11Checks_taken {leaf : Certificate X509} {verified : Stage2VerifiedChain X509}
    (h : pkcs11Checks deps platform session s = ⟨.ok (leaf, verified), s', log⟩) :
    ∃ found s₁, (findCertificate session deps.cfg.pkcs11ObjectLabel s :
        Run σ (Call X509) _ _).result = .ok found ∧
      (deps.trustVerify found.certificate [] s₁).1 = .ok verified := by
  obtain ⟨found, s₁, t₁, u₁, hfind, h₁, rfl⟩ := Prog.bind_eq_ok_iff.mp h
  obtain ⟨key, s₂, t₂, u₂, -, h₂, rfl⟩ := Prog.bind_eq_ok_iff.mp h₁
  obtain ⟨pubKey, s₃, t₃, u₃, -, h₃, rfl⟩ := Prog.bind_eq_ok_iff.mp h₂
  obtain ⟨mechanism, s₄, t₄, u₄, -, h₄, rfl⟩ := Prog.bind_eq_ok_iff.mp h₃
  obtain ⟨⟨⟩, s₅, t₅, u₅, -, h₅, rfl⟩ := Prog.bind_eq_ok_iff.mp h₄
  obtain ⟨verified', s₆, t₆, u₆, htrust, h₆, rfl⟩ := Prog.bind_eq_ok_iff.mp h₅
  obtain ⟨⟨⟩, s₇, t₇, u₇, -, hpure, rfl⟩ := Prog.bind_eq_ok_iff.mp h₆
  cases hpure
  have hanswer := (Prog.request_eq_ok_iff.mp htrust).1
  exact ⟨found, s₅, congrArg Run.result (Prog.mapError_eq_ok_iff.mp hfind), by rw [hanswer]⟩

/-- The verifier refuses what a shadowed search takes. -/
theorem pkcs11Checks_ne_ok_of_shadowed (hholds : Holds session content)
    (hverifier : VerifiesWith deps verifier)
    (hshadowed : Shadowed X509 (matching content deps.cfg.pkcs11ObjectLabel))
    {checked : Certificate X509 × Stage2VerifiedChain X509} :
    pkcs11Checks deps platform session s ≠ ⟨.ok checked, s', log⟩ := by
  intro h
  obtain ⟨found, s₁, hfound, htrust⟩ := pkcs11Checks_taken h
  obtain ⟨first, hfirst, hother⟩ := hshadowed.firstParsed
  rw [findCertificate_result hholds, firstParsed, hfirst] at hfound
  cases hfound
  obtain ⟨now, hnow⟩ := hverifier found.certificate [] s₁
  rw [hnow] at htrust
  have hleaf := (OpensslVerifier.accepted_of_verifyAt htrust).acceptableLeaf
  rw [AcceptableLeaf.isEndEntity hleaf] at hother
  cases hother

theorem authenticatePkcs11_refused_of_shadowed (hverifier : VerifiesWith deps verifier)
    (htoken : ∀ slot, (io.acquireSession slot).Yields fun session => Holds session content)
    (hshadowed : Shadowed X509 (matching content deps.cfg.pkcs11ObjectLabel))
    (outcome : FlowOutcome) :
    (authenticatePkcs11 deps platform io promptPin login s).result ≠ .ok outcome := by
  intro hok
  obtain ⟨⟨⟩, s₁, t₁, u₁, -, h₁, -⟩ := Prog.bind_eq_ok_iff.mp (Run.eq_of_result hok)
  obtain ⟨slot, s₂, t₂, u₂, -, h₂, -⟩ := Prog.bind_eq_ok_iff.mp h₁
  obtain ⟨serial, s₃, t₃, u₃, -, h₃, -⟩ := Prog.bind_eq_ok_iff.mp h₂
  obtain ⟨session, s₄, t₄, u₄, hsession, h₄, -⟩ := Prog.bind_eq_ok_iff.mp h₃
  obtain ⟨⟨leaf, ctx⟩, s₅, t₅, u₅, hpassed, -, -⟩ := Prog.bind_eq_ok_iff.mp h₄
  have hholds : Holds session content :=
    (htoken slot).of_run (Prog.mapError_eq_ok_iff.mp hsession)
  obtain ⟨verified, s₆, checks, rest, -, hchecks, -⟩ := withSession_eq_ok hpassed
  exact pkcs11Checks_ne_ok_of_shadowed hholds hverifier hshadowed hchecks

end

/-- The search takes the first end-entity certificate of a token exactly if no certificate of
another kind stands before it. If one does, no login succeeds with the token. -/
theorem find_certificate_first_end_entity_iff {session : Pkcs11Session σ}
    {content : List TokenObject} (hholds : Holds session content) (labelFilter : Option String)
    (s : σ) :
    (TakesFirstEndEntity session content labelFilter X509 s ↔
        ¬ Shadowed X509 (matching content labelFilter)) ∧
      (Shadowed X509 (matching content labelFilter) →
        ∀ (deps : Deps σ X509) (platform : Platform σ X509) (io : Pkcs11Io σ)
          (promptPin : PinPrompter σ) (login : Login) (verifier : OpensslVerifier X509),
          deps.cfg.pkcs11ObjectLabel = labelFilter → VerifiesWith deps verifier →
          (∀ slot, (io.acquireSession slot).Yields fun session => Holds session content) →
          ∀ outcome,
            (authenticatePkcs11 deps platform io promptPin login s).result ≠ .ok outcome) := by
  refine ⟨takesFirstEndEntity_iff hholds s, ?_⟩
  intro hshadowed deps platform io promptPin login verifier hlabel hverifier htoken
  rw [← hlabel] at hshadowed
  exact authenticatePkcs11_refused_of_shadowed hverifier htoken hshadowed

section Sample

open RecordX509

/-- A card with certificate objects and a private key. The key signs like the library of the
sample certificates. -/
structure Card where
  content : List TokenObject
  key : String
  keyHandle : ObjectHandle
  keyId : Bytes

def Card.session (card : Card) : Pkcs11Session Unit where
  findObjects template s :=
    if template = privateKeyTemplate card.keyId then (.ok [card.keyHandle], s)
    else (.ok ((card.content.filter fun object => template.all object.has).map (·.handle)), s)
  getAttributes handle _ s :=
    match card.content.find? (·.handle = handle) with
    | some object => (object.attributes, s)
    | none => (.ok [.keyType .rsa, .extractable false], s)
  sign _ _ data s := (.ok (utf8Bytes card.key ++ data), s)
  close s := s

/-- The handles of a card name its objects. -/
theorem Card.session_holds {card : Card} (h : (card.content.map (·.handle)).Nodup) :
    Holds card.session card.content where
  search labelFilter s := by
    have hkind : certificateTemplate labelFilter ≠ privateKeyTemplate card.keyId := by
      simp [certificateTemplate, privateKeyTemplate]
    simp only [Card.session, hkind, if_false]
    rfl
  read object hobject s := by
    have hfirst : card.content.find? (·.handle = object.handle) = some object := by
      obtain ⟨before, after, hcontent⟩ := List.append_of_mem hobject
      rw [hcontent, List.find?_eq_some_iff_append]
      refine ⟨by simp, before, after, rfl, ?_⟩
      intro other hother
      rw [hcontent, List.map_append, List.map_cons] at h
      have hdisjoint := (List.nodup_append.mp h).2.2
      have hne := hdisjoint other.handle (List.mem_map_of_mem hother) object.handle
        List.mem_cons_self
      simpa using hne
    simp only [Card.session, hfirst]

def issuerObject : TokenObject where
  handle := 1
  label := some (utf8Bytes "issuer")
  attributes := .ok [.value root.der, .id [1], .label (utf8Bytes "issuer")]

def engineerObject : TokenObject where
  handle := 2
  label := some (utf8Bytes "engineer")
  attributes := .ok [.value leafBound.der, .id [2], .label (utf8Bytes "engineer")]

def brokenObject : TokenObject where
  handle := 3
  label := none
  attributes := .ok [.value [0x30, 0x00], .id [3]]

def engineerCard (content : List TokenObject) : Card := ⟨content, "0B", 9, [2]⟩

def cardIo (card : Card) : Pkcs11Io Unit where
  waitForToken s := (.ok 0, s)
  readTokenSerial _ s := (.ok "CARD-1", s)
  acquireSession _ := .done (.ok card.session)
  close s := s

/-- An object that does not parse is skipped, and the issuer may stand behind the engineer. -/
theorem find_certificate_engineer :
    ([brokenObject, engineerObject, issuerObject].map (·.handle)).Nodup ∧
      TakesFirstEndEntity (engineerCard [brokenObject, engineerObject, issuerObject]).session
        [brokenObject, engineerObject, issuerObject] none RecordX509 () := by
  have hnodup : ([brokenObject, engineerObject, issuerObject].map (·.handle)).Nodup := by decide
  have hholds : Holds (engineerCard [brokenObject, engineerObject, issuerObject]).session
      [brokenObject, engineerObject, issuerObject] := Card.session_holds hnodup
  have htaken : ([brokenObject, engineerObject, issuerObject].findSome? (·.found RecordX509)).any
      (fun found => isEndEntity found.certificate) = true := by decide +kernel
  refine ⟨hnodup, (find_certificate_first_end_entity_iff hholds none ()).1.mpr ?_⟩
  intro hshadowed
  obtain ⟨found, hfound, hother⟩ := hshadowed.firstParsed
  have hall : matching [brokenObject, engineerObject, issuerObject] none =
      [brokenObject, engineerObject, issuerObject] := rfl
  rw [hall] at hfound
  rw [hfound, Option.any_some, hother] at htaken
  cases htaken

/-- With their certificate alone the engineer logs in. The certificate of the issuer before it
is taken in its place, no key is paired with it, and the login fails. -/
theorem find_certificate_takes_issuer :
    (matching [issuerObject, engineerObject] none).find? (·.holdsEndEntity RecordX509) =
        some engineerObject ∧
      ((findCertificate (engineerCard [issuerObject, engineerObject]).session none () :
        Run Unit (Call RecordX509) _ _).result.map fun found => (found.object, found.certificate)) =
          .ok (1, root.certificate) ∧
      (authenticatePkcs11 (recordDeps []) recordPlatform
        (cardIo (engineerCard [engineerObject])) recordPin aliceLogin ()).result.isOk = true ∧
      (authenticatePkcs11 (recordDeps []) recordPlatform
        (cardIo (engineerCard [issuerObject, engineerObject])) recordPin aliceLogin ()).result =
          .error (.error (.pkcs11 (.privateKeyNotFound "01"))) := by
  refine ⟨?_, ?_, ?_, ?_⟩ <;> decide +kernel

end Sample

end PamCertauth.Flow
