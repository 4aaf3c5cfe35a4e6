import PamCertauth.PathChecks
import PamCertauth.Revocation

/-!
# The trust verifier

The stage-2 verifier of `trust/openssl_verifier.rs` runs the passes one after
another: leaf checks, path building, signatures, constraints, revocation and
pinning. `CertificationPath` states what a trustworthy path is without reference to
the search; `verifyAt_sound` shows that every accepted chain is one.
-/

namespace PamCertauth.X509

open CryptoLibrary

variable {X509 : Type} [CryptoLibrary X509]

/-- The result of a successful verification. -/
structure Stage2VerifiedChain (X509 : Type) where
  endEntity : Certificate X509
  chain : List (Certificate X509)
  anchor : Certificate X509
  deriving DecidableEq

namespace Stage2VerifiedChain

def verifiedLeaf (v : Stage2VerifiedChain X509) : VerifiedX509 X509 := ⟨v.endEntity.inner⟩

/-- The whole chain, from the leaf to the anchor. -/
def path (v : Stage2VerifiedChain X509) : List (Certificate X509) :=
  v.endEntity :: v.chain ++ [v.anchor]

end Stage2VerifiedChain

structure OpensslVerifierConfig (X509 : Type) where
  anchors : List (Certificate X509)
  intermediates : List (Certificate X509)
  crlPems : List Bytes
  crlStrict : Bool
  clockSkew : Duration
  signatureAlgWhitelist : List String
  spkiPins : List SpkiPin
  maxDepth : ℕ
  gostEnginePath : Option String

structure OpensslVerifier (X509 : Type) where
  anchors : List (Certificate X509)
  intermediates : List (Certificate X509)
  crlStore : CrlStore
  revCfg : RevocationConfig
  preCfg : PreValidateConfig
  pins : List SpkiPin
  maxDepth : ℕ
  gostEnginePath : Option String
  deriving DecidableEq

namespace OpensslVerifier

def new (cfg : OpensslVerifierConfig X509) : Except TrustError (OpensslVerifier X509) :=
  if cfg.anchors = [] then .error (.pathBuild "no anchors configured")
  else if cfg.maxDepth = 0 then .error (.pathBuild "max_depth must be at least 1")
  else do
    let crlStore ← CrlStore.fromPems X509 cfg.crlPems
    .ok
      { anchors := cfg.anchors
        intermediates := cfg.intermediates
        crlStore := crlStore
        revCfg := ⟨cfg.crlStrict⟩
        preCfg := ⟨cfg.clockSkew, cfg.signatureAlgWhitelist⟩
        pins := cfg.spkiPins
        maxDepth := cfg.maxDepth
        gostEnginePath := cfg.gostEnginePath }

/-- Verify a leaf at the given instant, with the help of the presented certificates. -/
def verifyAt (verifier : OpensslVerifier X509) (leaf : Certificate X509)
    (presented : List (Certificate X509)) (now : SystemTime) :
    Except TrustError (Stage2VerifiedChain X509) := do
  (ensureLoadedIfAnyGost (leaf :: presented ++ verifier.intermediates ++ verifier.anchors)
    verifier.gostEnginePath).mapError .engineLoadFailed
  preValidateEndEntity leaf verifier.preCfg now
  let chain ← buildChain leaf presented verifier.intermediates verifier.anchors verifier.maxDepth
  verifyChainSignatures chain
  verifyBasicConstraints chain
  verifyIntermediateConstraints chain now verifier.preCfg.clockSkew
  checkRevocation chain verifier.crlStore verifier.revCfg now
  match chain.getLast?, chain.head? with
  | some anchor, some endEntity =>
    verifyPinning anchor verifier.pins
    let middle := if chain.length > 2 then (chain.drop 1).take (chain.length - 2) else []
    .ok ⟨endEntity, middle, anchor⟩
  | _, _ => .error (.pathBuild "internal: empty verified chain")

/-- Everything that the passes established when a chain is accepted. -/
structure Accepted (verifier : OpensslVerifier X509) (leaf : Certificate X509)
    (presented : List (Certificate X509)) (now : SystemTime) (v : Stage2VerifiedChain X509) :
    Prop where
  endEntity_eq : v.endEntity = leaf
  acceptableLeaf : AcceptableLeaf leaf verifier.preCfg now
  built : BuiltChain leaf presented verifier.intermediates verifier.anchors v.chain v.anchor
  signatures : verifyChainSignatures v.path = .ok ()
  constraints : verifyBasicConstraints v.path = .ok ()
  intermediates : verifyIntermediateConstraints v.path now verifier.preCfg.clockSkew = .ok ()
  revocation : checkRevocation v.path verifier.crlStore verifier.revCfg now = .ok ()
  pinning : verifyPinning v.anchor verifier.pins = .ok ()

theorem accepted_of_verifyAt {verifier : OpensslVerifier X509} {leaf : Certificate X509}
    {presented : List (Certificate X509)} {now : SystemTime} {v : Stage2VerifiedChain X509}
    (h : verifier.verifyAt leaf presented now = .ok v) : verifier.Accepted leaf presented now v := by
  simp only [verifyAt, bind_eq_ok_iff] at h
  obtain ⟨-, -, ⟨⟩, hleaf, chain, hbuild, ⟨⟩, hsig, ⟨⟩, hbc, ⟨⟩, hint, ⟨⟩, hrev, htail⟩ := h
  obtain ⟨middle, anchor, rfl, hbuilt⟩ := buildChain_spec hbuild
  have hlast : (leaf :: middle ++ [anchor]).getLast? = some anchor := List.getLast?_concat
  have hmiddle : (if (leaf :: middle ++ [anchor]).length > 2 then
      ((leaf :: middle ++ [anchor]).drop 1).take ((leaf :: middle ++ [anchor]).length - 2)
      else []) = middle := by
    cases middle <;> simp
  rw [hlast] at htail
  simp only [List.cons_append, List.head?_cons, seq_eq_ok_iff, Except.ok.injEq] at htail
  obtain ⟨hpin, rfl⟩ := htail
  have hpath : (⟨leaf, _, anchor⟩ : Stage2VerifiedChain X509).path = leaf :: middle ++ [anchor] :=
    congrArg (fun m => leaf :: m ++ [anchor]) hmiddle
  exact ⟨rfl, preValidateEndEntity_eq_ok_iff.mp hleaf, hmiddle.symm ▸ hbuilt, hpath ▸ hsig,
    hpath ▸ hbc, hpath ▸ hint, hpath ▸ hrev, hpin⟩

theorem new_eq_ok_iff {cfg : OpensslVerifierConfig X509} {verifier : OpensslVerifier X509} :
    new cfg = .ok verifier ↔
      cfg.anchors ≠ [] ∧ cfg.maxDepth ≠ 0 ∧
        ∃ store, CrlStore.fromPems X509 cfg.crlPems = .ok store ∧
          verifier = ⟨cfg.anchors, cfg.intermediates, store, ⟨cfg.crlStrict⟩,
            ⟨cfg.clockSkew, cfg.signatureAlgWhitelist⟩, cfg.spkiPins, cfg.maxDepth,
            cfg.gostEnginePath⟩ := by
  rw [new, guard_bind_eq_ok_iff, guard_bind_eq_ok_iff, bind_eq_ok_iff]
  simp only [Except.ok.injEq, ne_eq, eq_comm]

end OpensslVerifier

/-- A certification path at the instant `now`: it ends in a verifier-issued anchor, every
certificate is issued and signed by the next one, and those behind the leaf are
authorities in force whose path length admits the certificates below them. -/
structure CertificationPath (anchors offered : List (Certificate X509)) (clockSkew : Duration)
    (now : SystemTime) (path : List (Certificate X509)) : Prop where
  two_le_length : 2 ≤ path.length
  last_anchor : ∃ a ∈ anchors, path.getLast? = some a ∧
    dnEq (issuerName a.inner) (subjectName a.inner) = true
  middle_offered : ∀ (i : ℕ) (h : i + 1 < path.length), 1 ≤ i → path[i] ∈ offered
  issuer_eq_subject : ∀ (i : ℕ) (h : i + 1 < path.length),
    dnEq (issuerName path[i].inner) (subjectName path[i + 1].inner) = true
  aki_eq_ski : ∀ (i : ℕ) (h : i + 1 < path.length), ∀ aki, path[i].aki = some aki →
    path[i + 1].ski = some aki
  signed : ∀ (i : ℕ) (h : i + 1 < path.length), SignedBy path[i] path[i + 1]
  last_selfSigned : ∀ a, path.getLast? = some a → SignedBy a a
  validAt : ∀ (i : ℕ) (h : i < path.length), 1 ≤ i → path[i].ValidAt clockSkew now
  isCa : ∀ (i : ℕ) (h : i < path.length), 1 ≤ i →
    ∃ bc, path[i].basicConstraints = .ok (some bc) ∧ bc.isCa = true ∧
      ∀ allowed ∈ bc.pathLen, i - 1 ≤ allowed
  keyCertSign : ∀ (i : ℕ) (h : i < path.length), 1 ≤ i → path[i].keyUsageKeyCertSign = .ok true

theorem mem_drop_one_of_pos {α : Type} {l : List α} {i : ℕ} (h : i < l.length) (hpos : 1 ≤ i) :
    l[i] ∈ l.drop 1 := by
  obtain ⟨j, rfl⟩ : ∃ j, i = j + 1 := ⟨i - 1, by omega⟩
  exact List.mem_iff_getElem.mpr ⟨j, by simp; omega, by simp⟩

/-- Accepted chains are certification paths over the offered certificates. -/
theorem OpensslVerifier.Accepted.certificationPath {verifier : OpensslVerifier X509}
    {leaf : Certificate X509} {presented : List (Certificate X509)} {now : SystemTime}
    {v : Stage2VerifiedChain X509} (h : verifier.Accepted leaf presented now v) :
    CertificationPath verifier.anchors (presented ++ verifier.intermediates) verifier.preCfg.clockSkew now
      v.path := by
  have hlast : v.path.getLast? = some v.anchor := List.getLast?_concat
  obtain ⟨hlen, hsigned, anchor, hanchor, hself⟩ := verifyChainSignatures_eq_ok_iff.mp h.signatures
  have hconstraints := (verifyBasicConstraints_eq_ok_iff.mp h.constraints).2
  have hintermediates := (verifyIntermediateConstraints_eq_ok_iff.mp h.intermediates).2
  have hissued : v.path.IsChain IssuedBy := by
    rw [Stage2VerifiedChain.path, h.endEntity_eq]
    exact h.built.isChain
  rw [List.isChain_iff_getElem] at hsigned hissued
  refine ⟨hlen, ⟨v.anchor, h.built.anchor_mem, hlast,
    isSelfSigned_issuer_eq_subject h.built.anchor_selfSigned⟩, ?_,
    fun i hi => (hissued i hi).issuer_eq_subject, fun i hi => (hissued i hi).aki_eq_ski, hsigned,
    ?_, fun i hi hpos => (hintermediates _ (mem_drop_one_of_pos hi hpos)).1, hconstraints,
    fun i hi hpos => (hintermediates _ (mem_drop_one_of_pos hi hpos)).2.2⟩
  · intro i hi hpos
    have hi' : i - 1 < v.chain.length := by
      simp only [Stage2VerifiedChain.path, List.length_append, List.length_cons,
        List.length_nil] at hi
      omega
    obtain ⟨j, rfl⟩ : ∃ j, i = j + 1 := ⟨i - 1, by omega⟩
    have hget : v.path[j + 1] = v.chain[j] := by
      simp only [Stage2VerifiedChain.path, List.cons_append, List.getElem_cons_succ]
      exact List.getElem_append_left hi'
    rw [hget, List.mem_append]
    exact h.built.middle_mem _ (List.getElem_mem hi')
  · intro a ha
    rw [hlast] at hanchor ha
    cases hanchor
    cases ha
    exact hself

/-- Soundness of the verifier: an accepted chain is a certification path from the leaf
to a configured anchor over offered certificates, its leaf passes the leaf checks, no
list in force names one of its serial numbers, and its anchor is a pinned one. -/
theorem verifyAt_sound (cfg : OpensslVerifierConfig X509) (verifier : OpensslVerifier X509)
    (hnew : OpensslVerifier.new cfg = .ok verifier) (leaf : Certificate X509)
    (presented : List (Certificate X509)) (now : SystemTime) (v : Stage2VerifiedChain X509)
    (h : verifier.verifyAt leaf presented now = .ok v) :
    v.endEntity = leaf ∧
      CertificationPath cfg.anchors (presented ++ cfg.intermediates) cfg.clockSkew now
        (v.endEntity :: v.chain ++ [v.anchor]) ∧
      AcceptableLeaf leaf ⟨cfg.clockSkew, cfg.signatureAlgWhitelist⟩ now ∧
      (∃ store, CrlStore.fromPems X509 cfg.crlPems = .ok store ∧
        (cfg.crlStrict = true → ∀ crl ∈ store, ¬ crl.ExpiredAt now) ∧
        ∀ crl ∈ store, ¬ crl.ExpiredAt now →
          ∀ cert ∈ v.endEntity :: v.chain ++ [v.anchor], cert.crlSerial ∉ crl.revoked) ∧
      (cfg.spkiPins ≠ [] → ∃ pin ∈ cfg.spkiPins, spkiSha256 v.anchor = .ok pin) := by
  obtain ⟨-, -, store, hstore, rfl⟩ := OpensslVerifier.new_eq_ok_iff.mp hnew
  have hacc := OpensslVerifier.accepted_of_verifyAt h
  obtain ⟨hstrict, hclean⟩ := checkRevocation_eq_ok_iff.mp hacc.revocation
  exact ⟨hacc.endEntity_eq, hacc.certificationPath, hacc.acceptableLeaf,
    ⟨store, hstore, hstrict, hclean⟩, verifyPinning_eq_ok_iff.mp hacc.pinning⟩

namespace RecordX509

/-- A deployment with one anchor, one revocation list and one admitted algorithm. -/
def deployment : OpensslVerifierConfig RecordX509 where
  anchors := [root.certificate]
  intermediates := []
  crlPems := [RecordCrl.ofRoot.pem]
  crlStrict := true
  clockSkew := Duration.fromSecs 60
  signatureAlgWhitelist := ["sha256WithRSAEncryption"]
  spkiPins := []
  maxDepth := 4
  gostEnginePath := none

def deploymentVerifier : OpensslVerifier RecordX509 where
  anchors := [root.certificate]
  intermediates := []
  crlStore := [⟨0, some (500 * 10 ^ 9), ["0f"], derUtf8 "root"⟩]
  revCfg := ⟨true⟩
  preCfg := ⟨Duration.fromSecs 60, ["sha256WithRSAEncryption"]⟩
  pins := []
  maxDepth := 4
  gostEnginePath := none

/-- The chain of the leaf below the intermediate. -/
def chainBelow : Stage2VerifiedChain RecordX509 :=
  ⟨leafBelow.certificate, [intermediate.certificate], root.certificate⟩

end RecordX509

open RecordX509 in
theorem verifyAt_sound_chainBelow :
    OpensslVerifier.new deployment = .ok deploymentVerifier ∧
      deploymentVerifier.verifyAt leafBelow.certificate [intermediate.certificate] 5 =
        .ok chainBelow ∧
      CertificationPath [root.certificate] [intermediate.certificate] (Duration.fromSecs 60) 5
        [leafBelow.certificate, intermediate.certificate, root.certificate] :=
  ⟨by decide +kernel, by decide +kernel,
    (verifyAt_sound deployment deploymentVerifier (by decide +kernel) leafBelow.certificate
      [intermediate.certificate] 5 chainBelow (by decide +kernel)).2.1⟩

/-- The same verifier without a constraint on signature algorithms. -/
def OpensslVerifier.withoutWhitelist (verifier : OpensslVerifier X509) : OpensslVerifier X509 :=
  { verifier with preCfg := { verifier.preCfg with signatureAlgWhitelist := [] } }

theorem preValidateEndEntity_whitelist_iff {cert : Certificate X509} {cfg : PreValidateConfig}
    {now : SystemTime} :
    preValidateEndEntity cert cfg now = .ok () ↔
      (cfg.signatureAlgWhitelist ≠ [] → cert.signatureAlgorithm ∈ cfg.signatureAlgWhitelist) ∧
        preValidateEndEntity cert { cfg with signatureAlgWhitelist := [] } now = .ok () := by
  simp only [preValidateEndEntity_eq_ok_iff]
  constructor
  · intro h
    exact ⟨h.signatureAlgorithm_mem, h.version_eq, h.validAt, by simp, h.digitalSignature,
      h.clientAuth, h.not_ca⟩
  · intro hlisted
    obtain ⟨hmem, h⟩ := hlisted
    exact ⟨h.version_eq, h.validAt, hmem, h.digitalSignature, h.clientAuth, h.not_ca⟩

/-- A whitelist constrains the leaf and nothing else: a chain is accepted under it
exactly when it is accepted without one and the leaf's algorithm is listed. -/
theorem verifyAt_whitelist_iff (verifier : OpensslVerifier X509)
    (hlist : verifier.preCfg.signatureAlgWhitelist ≠ []) (leaf : Certificate X509)
    (presented : List (Certificate X509)) (now : SystemTime) (v : Stage2VerifiedChain X509) :
    verifier.verifyAt leaf presented now = .ok v ↔
      leaf.signatureAlgorithm ∈ verifier.preCfg.signatureAlgWhitelist ∧
        verifier.withoutWhitelist.verifyAt leaf presented now = .ok v := by
  have hpre : preValidateEndEntity leaf verifier.preCfg now = .ok () ↔ _ :=
    preValidateEndEntity_whitelist_iff
  simp only [OpensslVerifier.verifyAt, OpensslVerifier.withoutWhitelist, bind_eq_ok_iff]
  constructor
  · intro hpasses
    obtain ⟨u, hengine, ⟨⟩, hleaf, hrest⟩ := hpasses
    obtain ⟨hmem, hleaf'⟩ := hpre.mp hleaf
    exact ⟨hmem hlist, u, hengine, (), hleaf', hrest⟩
  · intro hpasses
    obtain ⟨hmem, u, hengine, ⟨⟩, hleaf, hrest⟩ := hpasses
    exact ⟨u, hengine, (), hpre.mpr ⟨fun _ => hmem, hleaf⟩, hrest⟩

open RecordX509 in
theorem verifyAt_whitelist_iff_chainBelow :
    deploymentVerifier.preCfg.signatureAlgWhitelist ≠ [] ∧
      (deploymentVerifier.verifyAt leafBelow.certificate [intermediate.certificate] 5 =
          .ok chainBelow ↔
        leafBelow.certificate.signatureAlgorithm ∈
            deploymentVerifier.preCfg.signatureAlgWhitelist ∧
          deploymentVerifier.withoutWhitelist.verifyAt leafBelow.certificate
            [intermediate.certificate] 5 = .ok chainBelow) :=
  ⟨by decide, verifyAt_whitelist_iff deploymentVerifier (by decide) leafBelow.certificate
    [intermediate.certificate] 5 chainBelow⟩

open RecordX509 in
/-- An intermediate whose algorithm is not listed stands in an accepted chain. -/
theorem verifyAt_unlisted_intermediate :
    deploymentVerifier.verifyAt leafBelow.certificate [intermediate.certificate] 5 =
        .ok chainBelow ∧
      intermediate.certificate ∈ chainBelow.chain ∧
      intermediate.certificate.signatureAlgorithm ∉
        deploymentVerifier.preCfg.signatureAlgWhitelist := by
  decide +kernel

end PamCertauth.X509
