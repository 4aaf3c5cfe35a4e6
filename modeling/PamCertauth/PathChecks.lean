import PamCertauth.PathBuilding

/-!
# Checks on a built chain

The passes that run on a leaf and on the chain built from it: the intrinsic checks
of the leaf (`x509/pre_validate.rs`), the signatures (`x509/signatures.rs`), the
constraints on the certificates behind the leaf (`x509/basic_constraints.rs`) and
the pinning of the anchor (`x509/pinning.rs`). Each pass comes with a lemma that
says what its success means.
-/

namespace PamCertauth.X509

open CryptoLibrary

/-- Classified signature algorithm. -/
inductive SignatureAlg where
  | rsaWithSha256
  | rsaWithSha384
  | rsaWithSha512
  | ecdsaWithSha256
  | ecdsaWithSha384
  | ecdsaWithSha512
  | idTc26SignWithDigestGostR341012_256
  | idTc26SignWithDigestGostR341012_512
  | other (token : String)
  deriving DecidableEq, Repr

def SignatureAlg.fromOidString : String → SignatureAlg
  | "1.2.840.113549.1.1.11" | "rsa-with-sha256" | "sha256WithRSAEncryption" => rsaWithSha256
  | "1.2.840.113549.1.1.12" | "rsa-with-sha384" | "sha384WithRSAEncryption" => rsaWithSha384
  | "1.2.840.113549.1.1.13" | "rsa-with-sha512" | "sha512WithRSAEncryption" => rsaWithSha512
  | "1.2.840.10045.4.3.2" | "ecdsa-with-sha256" | "ecdsa-with-SHA256" => ecdsaWithSha256
  | "1.2.840.10045.4.3.3" | "ecdsa-with-sha384" | "ecdsa-with-SHA384" => ecdsaWithSha384
  | "1.2.840.10045.4.3.4" | "ecdsa-with-sha512" | "ecdsa-with-SHA512" => ecdsaWithSha512
  | "1.2.643.7.1.1.3.2" | "id-tc26-signwithdigest-gost3410-2012-256" =>
      idTc26SignWithDigestGostR341012_256
  | "1.2.643.7.1.1.3.3" | "id-tc26-signwithdigest-gost3410-2012-512" =>
      idTc26SignWithDigestGostR341012_512
  | s => other s

def SignatureAlg.isGost : SignatureAlg → Bool
  | idTc26SignWithDigestGostR341012_256 | idTc26SignWithDigestGostR341012_512 => true
  | _ => false

variable {X509 : Type} [CryptoLibrary X509]

def Certificate.signatureAlg (cert : Certificate X509) : SignatureAlg :=
  .fromOidString cert.signatureAlgorithm

/-- Load the engine if one of the certificates carries a GOST signature. -/
def ensureLoadedIfAnyGost (certs : List (Certificate X509)) (gostEnginePath : Option String) :
    Except GostEngineError Unit :=
  if certs.any (·.signatureAlg.isGost) then ensureEngineLoaded X509 gostEnginePath else .ok ()

/-- The validity window of a certificate, widened by the clock skew, covers `now`. -/
def Certificate.ValidAt (cert : Certificate X509) (clockSkew : Duration) (now : SystemTime) :
    Prop :=
  cert.notBefore ≤ now + clockSkew ∧ now ≤ cert.notAfter + clockSkew

structure PreValidateConfig where
  clockSkew : Duration
  signatureAlgWhitelist : List String
  deriving DecidableEq, Repr

/-- The intrinsic checks of a leaf certificate. -/
def preValidateEndEntity (cert : Certificate X509) (cfg : PreValidateConfig) (now : SystemTime) :
    Except TrustError Unit := do
  if cert.version ≠ 2 then .error (.validity "not X.509 v3")
  else if now + cfg.clockSkew < cert.notBefore then .error (.validity "not yet valid")
  else if now > cert.notAfter + cfg.clockSkew then .error (.validity "expired")
  else if cfg.signatureAlgWhitelist ≠ [] ∧ cert.signatureAlgorithm ∉ cfg.signatureAlgWhitelist then
    .error (.signatureAlgorithm cert.signatureAlgorithm)
  else
    if !(← cert.keyUsageDigitalSignature) then .error .keyUsage
    else if !(← cert.ekuClientAuth) then .error .eku
    else
      match ← cert.basicConstraints with
      | none => .ok ()
      | some bc =>
        if bc.isCa then .error (.basicConstraints "end-entity must not be CA") else .ok ()

/-- What the leaf checks establish. -/
structure AcceptableLeaf (cert : Certificate X509) (cfg : PreValidateConfig) (now : SystemTime) :
    Prop where
  version_eq : cert.version = 2
  validAt : cert.ValidAt cfg.clockSkew now
  signatureAlgorithm_mem :
    cfg.signatureAlgWhitelist ≠ [] → cert.signatureAlgorithm ∈ cfg.signatureAlgWhitelist
  digitalSignature : cert.keyUsageDigitalSignature = .ok true
  clientAuth : cert.ekuClientAuth = .ok true
  not_ca : ∃ bc, cert.basicConstraints = .ok bc ∧ ∀ view ∈ bc, view.isCa = false

/-! The checks of the leaf one by one. -/

def checkVersion (cert : Certificate X509) : Except TrustError Unit :=
  if cert.version ≠ 2 then .error (.validity "not X.509 v3") else .ok ()

def checkValidityWindow (cert : Certificate X509) (clockSkew : Duration) (now : SystemTime) :
    Except TrustError Unit :=
  if now + clockSkew < cert.notBefore then .error (.validity "not yet valid")
  else if now > cert.notAfter + clockSkew then .error (.validity "expired")
  else .ok ()

def checkSignatureAlgorithm (cert : Certificate X509) (whitelist : List String) :
    Except TrustError Unit :=
  if whitelist ≠ [] ∧ cert.signatureAlgorithm ∉ whitelist then
    .error (.signatureAlgorithm cert.signatureAlgorithm)
  else .ok ()

def checkPurpose (cert : Certificate X509) : Except TrustError Unit := do
  if !(← cert.keyUsageDigitalSignature) then .error .keyUsage
  else if !(← cert.ekuClientAuth) then .error .eku
  else
    match ← cert.basicConstraints with
    | none => .ok ()
    | some bc =>
      if bc.isCa then .error (.basicConstraints "end-entity must not be CA") else .ok ()

/-- The checks of a leaf are made one behind the other. -/
theorem preValidateEndEntity_eq (cert : Certificate X509) (cfg : PreValidateConfig)
    (now : SystemTime) :
    preValidateEndEntity cert cfg now = (do
      checkVersion cert
      checkValidityWindow cert cfg.clockSkew now
      checkSignatureAlgorithm cert cfg.signatureAlgWhitelist
      checkPurpose cert) := by
  rw [preValidateEndEntity, checkVersion, checkValidityWindow, checkSignatureAlgorithm]
  split
  · rfl
  · split
    · rfl
    · split
      · rfl
      · split <;> rfl

theorem checkVersion_eq_ok_iff {cert : Certificate X509} :
    checkVersion cert = .ok () ↔ cert.version = 2 := by
  simp [checkVersion]

theorem checkValidityWindow_eq_ok_iff {cert : Certificate X509} {clockSkew : Duration}
    {now : SystemTime} :
    checkValidityWindow cert clockSkew now = .ok () ↔ cert.ValidAt clockSkew now := by
  rw [checkValidityWindow, guard_bind_eq_ok_iff, guard_bind_eq_ok_iff, Certificate.ValidAt,
    Int.not_lt, Int.not_lt]
  simp

theorem checkSignatureAlgorithm_eq_ok_iff {cert : Certificate X509} {whitelist : List String} :
    checkSignatureAlgorithm cert whitelist = .ok () ↔
      (whitelist ≠ [] → cert.signatureAlgorithm ∈ whitelist) := by
  simp [checkSignatureAlgorithm]

theorem checkPurpose_eq_ok_iff {cert : Certificate X509} :
    checkPurpose cert = .ok () ↔
      cert.keyUsageDigitalSignature = .ok true ∧ cert.ekuClientAuth = .ok true ∧
        ∃ bc, cert.basicConstraints = .ok bc ∧ ∀ view ∈ bc, view.isCa = false := by
  have hbc : ∀ bc : Option BasicConstraintsView,
      ((match bc with
        | none => (.ok () : Except TrustError Unit)
        | some view =>
          if view.isCa then .error (.basicConstraints "end-entity must not be CA") else .ok ()) =
            .ok ()) ↔ ∀ view ∈ bc, view.isCa = false := by
    rintro (_ | view) <;> simp
  simp only [checkPurpose, guard_bind_eq_ok_iff, bind_eq_ok_iff, hbc]
  constructor
  · rintro ⟨ku, hku, hsigns, eku, heku, hclient, hca⟩
    simp only [Bool.not_eq_true', Bool.not_eq_false] at hsigns hclient
    subst hsigns hclient
    exact ⟨hku, heku, hca⟩
  · rintro ⟨hku, heku, hca⟩
    exact ⟨true, hku, by simp, true, heku, by simp, hca⟩

theorem preValidateEndEntity_eq_ok_iff {cert : Certificate X509} {cfg : PreValidateConfig}
    {now : SystemTime} :
    preValidateEndEntity cert cfg now = .ok () ↔ AcceptableLeaf cert cfg now := by
  rw [preValidateEndEntity_eq, seq_eq_ok_iff, seq_eq_ok_iff, seq_eq_ok_iff, checkVersion_eq_ok_iff,
    checkValidityWindow_eq_ok_iff, checkSignatureAlgorithm_eq_ok_iff, checkPurpose_eq_ok_iff]
  constructor
  · rintro ⟨hversion, hvalid, halg, hku, heku, hca⟩
    exact ⟨hversion, hvalid, halg, hku, heku, hca⟩
  · rintro ⟨hversion, hvalid, halg, hku, heku, hca⟩
    exact ⟨hversion, hvalid, halg, hku, heku, hca⟩

/-- Each certificate verifies under the key of the next one. -/
def verifyLinks (depth : ℕ) : List (Certificate X509) → Except TrustError Unit
  | child :: parent :: chain => do
    let pk ← parent.publicKey
    if !(← (verify child.inner pk).mapError .openssl) then .error (.badSignature depth)
    else verifyLinks (depth + 1) (parent :: chain)
  | _ => .ok ()

/-- Each certificate verifies under the key of the next one and the last one under
its own key. -/
def verifyChainSignatures (chain : List (Certificate X509)) : Except TrustError Unit :=
  if chain.length < 2 then .error (.pathBuild "chain too short")
  else do
    verifyLinks 0 chain
    match chain.getLast? with
    | none => .error (.pathBuild "internal: empty chain")
    | some anchor =>
      let pk ← anchor.publicKey
      if !(← (verify anchor.inner pk).mapError .openssl) then
        .error (.badSignature (chain.length - 1))
      else .ok ()

/-- The signature of `child` verifies under the public key of `parent`. -/
def SignedBy (child parent : Certificate X509) : Prop :=
  ∃ pk, CryptoLibrary.publicKey parent.inner = .ok pk ∧ verify child.inner pk = .ok true

theorem verified_eq_ok_iff {child parent : Certificate X509} {e : TrustError}
    {k : Except TrustError Unit} :
    (do let pk ← parent.publicKey
        if !(← (verify child.inner pk).mapError .openssl) then .error e else k) = .ok () ↔
      SignedBy child parent ∧ k = .ok () := by
  simp only [bind_eq_ok_iff, Certificate.publicKey, mapError_eq_ok_iff, guard_bind_eq_ok_iff,
    Bool.not_eq_true', Bool.not_eq_false, SignedBy]
  constructor
  · intro hpasses
    obtain ⟨pk, hpk, ok, hok, rfl, hk⟩ := hpasses
    exact ⟨⟨pk, hpk, hok⟩, hk⟩
  · intro hsigned
    obtain ⟨⟨pk, hpk, hok⟩, hk⟩ := hsigned
    exact ⟨pk, hpk, true, hok, rfl, hk⟩

theorem verifyLinks_eq_ok_iff {depth : ℕ} {chain : List (Certificate X509)} :
    verifyLinks depth chain = .ok () ↔ chain.IsChain SignedBy := by
  induction chain generalizing depth with
  | nil => simp [verifyLinks]
  | cons child chain ih =>
    cases chain with
    | nil => simp [verifyLinks]
    | cons parent chain =>
      rw [verifyLinks, verified_eq_ok_iff, ih, List.isChain_cons_cons]

theorem verifyChainSignatures_eq_ok_iff {chain : List (Certificate X509)} :
    verifyChainSignatures chain = .ok () ↔
      2 ≤ chain.length ∧ chain.IsChain SignedBy ∧
        ∃ anchor, chain.getLast? = some anchor ∧ SignedBy anchor anchor := by
  rw [verifyChainSignatures, guard_bind_eq_ok_iff, seq_eq_ok_iff, not_lt, verifyLinks_eq_ok_iff]
  refine and_congr_right fun _ => and_congr_right fun _ => ?_
  cases chain.getLast? with
  | none => simp
  | some anchor =>
    rw [verified_eq_ok_iff]
    simp

/-- The constraint view of a certificate that must be a certification authority. -/
def requireCa (cert : Certificate X509) : Except TrustError BasicConstraintsView := do
  match ← cert.basicConstraints with
  | none => .error (.basicConstraints "missing on intermediate/anchor")
  | some bc => if !bc.isCa then .error (.basicConstraints "intermediate not CA") else .ok bc

/-- The certificate at position `i` is an authority whose path length allows the
`i - 1` intermediates below it. -/
def checkPathLen (cert : Certificate X509) (i : ℕ) : Except TrustError Unit := do
  let bc ← requireCa cert
  match bc.pathLen with
  | none => .ok ()
  | some allowed =>
    if i - 1 > allowed then .error (.basicConstraints "pathLenConstraint exceeded") else .ok ()

def verifyBasicConstraints (chain : List (Certificate X509)) : Except TrustError Unit :=
  if chain.length < 2 then .error (.pathBuild "chain too short")
  else (chain.zipIdx.drop 1).forM fun (cert, i) => checkPathLen cert i

/-- An authority inside its validity window that may sign certificates. -/
def checkIntermediate (now : SystemTime) (clockSkew : Duration) (cert : Certificate X509) :
    Except TrustError Unit := do
  if now + clockSkew < cert.notBefore then .error (.validity "intermediate not yet valid")
  else if now > cert.notAfter + clockSkew then .error (.validity "intermediate expired")
  else
    let _ ← requireCa cert
    if !(← cert.keyUsageKeyCertSign) then .error .keyUsage else .ok ()

def verifyIntermediateConstraints (chain : List (Certificate X509)) (now : SystemTime)
    (clockSkew : Duration) : Except TrustError Unit :=
  if chain.length < 2 then .error (.pathBuild "chain too short")
  else (chain.drop 1).forM (checkIntermediate now clockSkew)

theorem requireCa_eq_ok_iff {cert : Certificate X509} {bc : BasicConstraintsView} :
    requireCa cert = .ok bc ↔ cert.basicConstraints = .ok (some bc) ∧ bc.isCa = true := by
  simp only [requireCa, bind_eq_ok_iff]
  constructor
  · intro hpasses
    obtain ⟨_ | view, hview, h⟩ := hpasses
    · cases h
    · rw [guard_bind_eq_ok_iff] at h
      obtain ⟨hca, hok⟩ := h
      cases hok
      exact ⟨hview, by simpa using hca⟩
  · intro hpasses
    obtain ⟨hview, hca⟩ := hpasses
    exact ⟨some bc, hview, by simp [hca]⟩

theorem checkPathLen_eq_ok_iff {cert : Certificate X509} {i : ℕ} :
    checkPathLen cert i = .ok () ↔
      ∃ bc, cert.basicConstraints = .ok (some bc) ∧ bc.isCa = true ∧
        ∀ allowed ∈ bc.pathLen, i - 1 ≤ allowed := by
  simp only [checkPathLen, bind_eq_ok_iff, requireCa_eq_ok_iff, and_assoc]
  refine exists_congr fun bc => and_congr_right fun _ => and_congr_right fun _ => ?_
  cases bc.pathLen <;> simp

theorem checkIntermediate_eq_ok_iff {now : SystemTime} {clockSkew : Duration}
    {cert : Certificate X509} :
    checkIntermediate now clockSkew cert = .ok () ↔
      cert.ValidAt clockSkew now ∧
        (∃ bc, cert.basicConstraints = .ok (some bc) ∧ bc.isCa = true) ∧
          cert.keyUsageKeyCertSign = .ok true := by
  simp only [checkIntermediate, guard_bind_eq_ok_iff, bind_eq_ok_iff, requireCa_eq_ok_iff,
    Certificate.ValidAt, Int.not_lt, gt_iff_lt]
  constructor
  · intro hpasses
    obtain ⟨hnb, hna, bc, hbc, ku, hku, hku', -⟩ := hpasses
    obtain rfl : ku = true := by simpa using hku'
    exact ⟨⟨hnb, hna⟩, ⟨bc, hbc⟩, hku⟩
  · intro hpasses
    obtain ⟨⟨hnb, hna⟩, ⟨bc, hbc⟩, hku⟩ := hpasses
    exact ⟨hnb, hna, bc, hbc, true, hku, by simp⟩

/-- Success of the constraint pass, position by position. -/
theorem verifyBasicConstraints_eq_ok_iff {chain : List (Certificate X509)} :
    verifyBasicConstraints chain = .ok () ↔
      2 ≤ chain.length ∧ ∀ (i : ℕ) (h : i < chain.length), 1 ≤ i →
        ∃ bc, chain[i].basicConstraints = .ok (some bc) ∧ bc.isCa = true ∧
          ∀ allowed ∈ bc.pathLen, i - 1 ≤ allowed := by
  rw [verifyBasicConstraints, guard_bind_eq_ok_iff, forM_eq_ok_iff, not_lt]
  refine and_congr_right fun _ => ?_
  simp only [← checkPathLen_eq_ok_iff, List.mem_iff_getElem, List.getElem_drop, List.length_drop,
    List.length_zipIdx, List.getElem_zipIdx]
  constructor
  · intro h i hi hpos
    have := h (chain[i], i) ⟨i - 1, by omega, by simp [show 1 + (i - 1) = i by omega]⟩
    simpa using this
  · rintro h _ ⟨i, hi, rfl⟩
    simpa using h (1 + i) (by omega) (by omega)

theorem verifyIntermediateConstraints_eq_ok_iff {chain : List (Certificate X509)}
    {now : SystemTime} {clockSkew : Duration} :
    verifyIntermediateConstraints chain now clockSkew = .ok () ↔
      2 ≤ chain.length ∧ ∀ cert ∈ chain.drop 1,
        cert.ValidAt clockSkew now ∧
          (∃ bc, cert.basicConstraints = .ok (some bc) ∧ bc.isCa = true) ∧
            cert.keyUsageKeyCertSign = .ok true := by
  simp only [verifyIntermediateConstraints, guard_bind_eq_ok_iff, forM_eq_ok_iff, not_lt,
    checkIntermediate_eq_ok_iff]

/-- The SHA-256 of a `SubjectPublicKeyInfo`. -/
abbrev SpkiPin := Vector UInt8 32

def spkiSha256 (cert : Certificate X509) : Except TrustError SpkiPin := do
  let pk ← cert.publicKey
  let der ← (publicKeyToDer pk).mapError .openssl
  .ok (sha256 X509 der)

/-- The anchor has one of the pinned keys. No pins mean no constraint. -/
def verifyPinning (anchor : Certificate X509) (pins : List SpkiPin) : Except TrustError Unit :=
  if pins = [] then .ok ()
  else do
    let actual ← spkiSha256 anchor
    if actual ∈ pins then .ok () else .error .pinMismatch

theorem verifyPinning_eq_ok_iff {anchor : Certificate X509} {pins : List SpkiPin} :
    verifyPinning anchor pins = .ok () ↔
      (pins ≠ [] → ∃ pin ∈ pins, spkiSha256 anchor = .ok pin) := by
  by_cases hpins : pins = []
  · simp [verifyPinning, hpins]
  · simp only [verifyPinning, hpins, if_false, bind_eq_ok_iff, ne_eq, not_false_eq_true,
      forall_const]
    refine exists_congr fun pin => ?_
    split <;> simp [*]

end PamCertauth.X509
