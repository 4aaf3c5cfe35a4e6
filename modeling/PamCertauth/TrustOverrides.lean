import PamCertauth.Wiring

/-!
# Trust overrides

An entry of `[[trust_override]]` names hosts and the anchors that stand in for those of
the `trust` section on them. The entries are validated with the rest of the
configuration, and the wiring of the verifier reads none of them.
-/

namespace PamCertauth.Wiring

open X509 Config

structure RawTrustOverride where
  whenHostIdIn : List String
  anchors : List String
  intermediates : List String
  deriving DecidableEq, Repr

structure TrustOverride where
  whenHostIdIn : List String
  anchors : List String
  intermediates : List String
  deriving DecidableEq, Repr

def validateTrustOverride (fs : FileSystem) (raw : RawTrustOverride) :
    Except Error TrustOverride :=
  if raw.whenHostIdIn = [] then
    .error (.configInvalid "trust_override.when_host_id_in must be non-empty")
  else do
    (raw.anchors ++ raw.intermediates).forM (validatePem fs)
    .ok
      { whenHostIdIn := btreeSet raw.whenHostIdIn
        anchors := raw.anchors
        intermediates := raw.intermediates }

def validateTrustOverrides (fs : FileSystem) (raw : List RawTrustOverride) :
    Except Error (List TrustOverride) :=
  raw.mapM (validateTrustOverride fs)

/-- A validated configuration with its overrides. -/
structure OverriddenConfig extends ValidatedConfig where
  trustOverrides : List TrustOverride

theorem mem_btreeSet {x : String} {xs : List String} : x ∈ btreeSet xs ↔ x ∈ xs := by
  simp [btreeSet]

theorem validateTrustOverride_eq_ok_iff {fs : FileSystem} {raw : RawTrustOverride}
    {override : TrustOverride} :
    validateTrustOverride fs raw = .ok override ↔
      raw.whenHostIdIn ≠ [] ∧ (∀ path ∈ raw.anchors ++ raw.intermediates,
        validatePem fs path = .ok ()) ∧
          override = ⟨btreeSet raw.whenHostIdIn, raw.anchors, raw.intermediates⟩ := by
  rw [validateTrustOverride, guard_bind_eq_ok_iff, seq_eq_ok_iff, forM_eq_ok_iff,
    Except.ok.injEq, eq_comm (a := override)]

section

variable {X509 : Type} [CryptoLibrary X509]

/-- The anchor was read from one of the paths. -/
def EndsIn (fs : FileSystem) (paths : List String) (anchor : Certificate X509) : Prop :=
  ∃ path ∈ paths, readCertificate fs path = .ok anchor

/-- On the host an accepted chain ends where the configuration says: in an anchor of every
entry that lists the host and has anchors, and in one of the `trust` section if no entry
lists it. -/
structure EndsAsConfigured (fs : FileSystem) (cfg : OverriddenConfig) (hostId : String)
    (anchor : Certificate X509) : Prop where
  listed : ∀ override ∈ cfg.trustOverrides, hostId ∈ override.whenHostIdIn →
    override.anchors ≠ [] → EndsIn fs override.anchors anchor
  unlisted : (∀ override ∈ cfg.trustOverrides, hostId ∉ override.whenHostIdIn) →
    EndsIn fs cfg.trust.anchors anchor

theorem wireTrust_anchors {fs : FileSystem} {trust : TrustSection}
    {gostEnginePath : Option String} {verifier : OpensslVerifier X509}
    (h : wireTrust fs trust gostEnginePath = .ok verifier) :
    trust.anchors.mapM (readCertificate fs) = .ok verifier.anchors := by
  simp only [wireTrust, bind_eq_ok_iff, mapError_eq_ok_iff] at h
  obtain ⟨anchors, hanchors, intermediates, -, crlPems, -, pins, -, hnew⟩ := h
  obtain ⟨-, -, store, -, rfl⟩ := OpensslVerifier.new_eq_ok_iff.mp hnew
  exact hanchors

theorem exists_wired {σ : Type} {fs : FileSystem} (link : Ipc.DaemonLink σ)
    (cfg : ValidatedConfig) {verifier : OpensslVerifier X509}
    (h : wireTrust fs cfg.trust cfg.gostEnginePath = .ok verifier) :
    ∃ wired : Wired σ X509, wire fs link cfg = .ok wired ∧ wired.trust = verifier := by
  rw [wire, h]
  exact ⟨_, rfl, rfl⟩

/-- Whatever the overrides are, accepted chains end in the anchors of the `trust` section. -/
theorem endsIn_trust_anchors {σ : Type} {fs : FileSystem} {link : Ipc.DaemonLink σ}
    {cfg : ValidatedConfig} {wired : Wired σ X509} (hwire : wire fs link cfg = .ok wired)
    {leaf : Certificate X509} {presented : List (Certificate X509)} {now : SystemTime}
    {v : Stage2VerifiedChain X509} (h : wired.trust.verifyAt leaf presented now = .ok v) :
    EndsIn fs cfg.trust.anchors v.anchor := by
  have hanchor := (OpensslVerifier.accepted_of_verifyAt h).built.anchor_mem
  exact exists_mem_of_mapM_eq_ok (wireTrust_anchors (wire_eq_ok hwire)) hanchor

end

/-- In every world in which the configuration passes validation, the chains that are
accepted on the host end as configured. -/
def OverridesHonoured (raw : RawTrust) (rawOverrides : List RawTrustOverride)
    (hostId : String) : Prop :=
  ∀ (X509 : Type) [CryptoLibrary X509] (fs : FileSystem) (cfg : OverriddenConfig),
    validateTrust fs raw = .ok cfg.trust →
    validateTrustOverrides fs rawOverrides = .ok cfg.trustOverrides →
    ∀ (σ : Type) (link : Ipc.DaemonLink σ) (wired : Wired σ X509),
      wire fs link cfg.toValidatedConfig = .ok wired →
      ∀ (leaf : Certificate X509) (presented : List (Certificate X509)) (now : SystemTime)
        (v : Stage2VerifiedChain X509), wired.trust.verifyAt leaf presented now = .ok v →
        EndsAsConfigured fs cfg hostId v.anchor

section

open RecordX509

/-- The record certificates in a library in which every certificate is signed with
`algorithm`, every key has the digest `pin` and no list revokes anything. -/
def LenientX509 (_algorithm : String) (_pin : SpkiPin) : Type := RecordX509

variable {algorithm : String} {pin : SpkiPin}

instance : CryptoLibrary (LenientX509 algorithm pin) :=
  { (inferInstance : CryptoLibrary RecordX509) with
    signatureAlgorithmObject := fun _ => algorithm
    sha256 := fun _ => pin
    crlFromPem := fun _ => .ok ⟨"root", 0, 0, []⟩
    crlNextUpdate := fun _ => none
    ensureEngineLoaded := fun _ => .ok () }

variable (algorithm pin) in
def lenient (c : RecordX509) : Certificate (LenientX509 algorithm pin) := c.certificate

/-- The root stands at one path and the intermediate at all others. -/
def recordAt (path p : String) : RecordX509 := if p = path then root else intermediate

def rootAt (path : String) : FileSystem where
  read p := .ok (recordAt path p).pem
  isFile _ := true

theorem recordAt_self (path : String) : recordAt path path = root := if_pos rfl

theorem recordAt_of_ne {path p : String} (h : p ≠ path) : recordAt path p = intermediate :=
  if_neg h

theorem eq_of_recordAt_root {path p : String}
    (h : lenient algorithm pin (recordAt path p) = lenient algorithm pin root) : p = path := by
  have hroot : recordAt path p = root := congrArg Certificate.inner h
  by_contra hp
  rw [recordAt_of_ne hp] at hroot
  exact absurd hroot (by decide)

/-- What the record library makes of the two authorities and of a leaf. -/
theorem recordLibrary_facts :
    (∀ c ∈ [root, intermediate],
      String.fromUTF8? ⟨c.pem.toArray⟩ = some ("-----BEGIN CERTIFICATE-----" ++ c.serial) ∧
        containsText "-----BEGIN CERTIFICATE-----" ("-----BEGIN CERTIFICATE-----" ++ c.serial) ∧
        Certificate.fromPem c.pem = .ok c.certificate) ∧
      issues leafUnbound.certificate root.certificate = true ∧
      issues leafUnbound.certificate intermediate.certificate = false ∧
      isSelfSigned root.certificate = true ∧
      (recordVerifier [] false []).verifyAt leafUnbound.certificate [] 5 = .ok chainUnbound := by
  decide +kernel

theorem recordAt_mem (path p : String) : recordAt path p ∈ [root, intermediate] := by
  by_cases hp : p = path
  · rw [recordAt, if_pos hp]
    exact List.mem_cons_self
  · rw [recordAt_of_ne hp]
    exact List.mem_cons_of_mem _ List.mem_cons_self

theorem validatePem_rootAt (path p : String) : validatePem (rootAt path) p = .ok () := by
  obtain ⟨hdecode, hmarker, -⟩ := recordLibrary_facts.1 _ (recordAt_mem path p)
  have hread : (rootAt path).readToString p =
      .ok ("-----BEGIN CERTIFICATE-----" ++ (recordAt path p).serial) := by
    rw [FileSystem.readToString, bind_eq_ok_iff]
    exact ⟨_, rfl, by rw [hdecode]⟩
  simp [validatePem, hread, hmarker]

theorem readCertificate_rootAt (path p : String) :
    readCertificate (rootAt path) p = .ok (lenient algorithm pin (recordAt path p)) := by
  obtain ⟨-, -, hparse⟩ := recordLibrary_facts.1 _ (recordAt_mem path p)
  exact congrArg (Except.mapError WireError.trust) hparse

/-! The two libraries differ in what the checks of a chain do not read. -/

theorem accepted_chainUnbound :
    (recordVerifier [] false []).Accepted leafUnbound.certificate [] 5 chainUnbound :=
  OpensslVerifier.accepted_of_verifyAt recordLibrary_facts.2.2.2.2

theorem validAt_lenient {c : RecordX509} (hc : c.notBefore = 0 ∧ c.notAfter = 1000)
    (clockSkew : Duration) : (lenient algorithm pin c).ValidAt clockSkew 5 := by
  have hnb : (lenient algorithm pin c).notBefore = (0 * 86400 + c.notBefore) * 10 ^ 9 := rfl
  have hna : (lenient algorithm pin c).notAfter = (0 * 86400 + c.notAfter) * 10 ^ 9 := rfl
  have hskew : (0 : ℤ) ≤ (clockSkew : ℤ) := Int.natCast_nonneg clockSkew
  rw [hc.1] at hnb
  rw [hc.2] at hna
  rw [Certificate.ValidAt, hnb, hna]
  exact ⟨Int.add_nonneg (by decide) hskew, Int.le_trans (by decide) (Int.le_add_of_nonneg_right hskew)⟩

theorem acceptableLeaf_lenient {cfg : PreValidateConfig}
    (h : cfg.signatureAlgWhitelist ≠ [] → algorithm ∈ cfg.signatureAlgWhitelist) :
    AcceptableLeaf (lenient algorithm pin leafUnbound) cfg 5 := by
  have hleaf := accepted_chainUnbound.acceptableLeaf
  exact ⟨rfl, validAt_lenient ⟨rfl, rfl⟩ _, h, hleaf.digitalSignature, hleaf.clientAuth,
    hleaf.not_ca⟩

theorem issues_lenient (child parent : RecordX509) :
    issues (lenient algorithm pin child) (lenient algorithm pin parent) =
      issues child.certificate parent.certificate := rfl

theorem findIssuer_lenient {path : String} {paths : List String} (hpath : path ∈ paths) :
    findIssuer (lenient algorithm pin leafUnbound)
      (paths.map fun p => lenient algorithm pin (recordAt path p)) =
        some (lenient algorithm pin root) := by
  have hroot : issues (lenient algorithm pin leafUnbound) (lenient algorithm pin root) = true := by
    rw [issues_lenient]
    exact recordLibrary_facts.2.1
  have hother : issues (lenient algorithm pin leafUnbound) (lenient algorithm pin intermediate) =
      false := by
    rw [issues_lenient]
    exact recordLibrary_facts.2.2.1
  induction paths with
  | nil => cases hpath
  | cons p paths ih =>
    rw [findIssuer, List.map_cons]
    by_cases hp : p = path
    · rw [hp, recordAt_self, List.find?_cons_of_pos hroot]
    · rw [recordAt_of_ne hp, List.find?_cons_of_neg (by rw [hother]; decide)]
      exact ih (List.mem_of_ne_of_mem (Ne.symm hp) hpath)

/-- The verifier that the wiring makes of the section. -/
def lenientVerifier (algorithm : String) (pin : SpkiPin) (path : String) (trust : TrustSection)
    (pins : List SpkiPin) : OpensslVerifier (LenientX509 algorithm pin) where
  anchors := trust.anchors.map fun p => lenient algorithm pin (recordAt path p)
  intermediates := trust.intermediates.map fun p => lenient algorithm pin (recordAt path p)
  crlStore := trust.revocation.crlPaths.map fun _ => ⟨0, none, [], derUtf8 "root"⟩
  revCfg := ⟨crlStrict trust.revocation.mode⟩
  preCfg := ⟨Duration.fromSecs trust.clockSkewSeconds, trust.allowedSignatureAlgorithms⟩
  pins := pins
  maxDepth := trust.maxChainDepth
  gostEnginePath := none

theorem mapM_eq_map {α β ε : Type} {f : α → Except ε β} {g : α → β} (h : ∀ a, f a = .ok (g a))
    (xs : List α) : xs.mapM f = .ok (xs.map g) := by
  rw [mapM_eq_ok_iff, List.forall₂_map_right_iff, List.forall₂_same]
  exact fun a _ => h a

theorem wireTrust_rootAt {path : String} {trust : TrustSection} {pins : List SpkiPin}
    (hpath : path ∈ trust.anchors) (hdepth : 0 < trust.maxChainDepth)
    (hpins : wirePins trust.pinning = .ok pins) :
    wireTrust (rootAt path) trust none = .ok (lenientVerifier algorithm pin path trust pins) := by
  simp only [wireTrust, bind_eq_ok_iff, mapError_eq_ok_iff]
  refine ⟨_, mapM_eq_map (readCertificate_rootAt path) _, _,
    mapM_eq_map (readCertificate_rootAt path) _, _, mapM_eq_map (fun _ => rfl) _, pins, hpins, ?_⟩
  refine OpensslVerifier.new_eq_ok_iff.mpr ⟨?_, Nat.ne_of_gt hdepth, _, ?_, rfl⟩
  · exact List.ne_nil_of_mem (List.mem_map_of_mem hpath)
  · have hcrl : ∀ pem, Crl.fromPem (LenientX509 algorithm pin) pem =
        .ok ⟨0, none, [], derUtf8 "root"⟩ := fun _ => rfl
    rw [CrlStore.fromPems, mapM_eq_map hcrl, List.map_map]
    rfl

theorem isSelfSigned_lenient (c : RecordX509) :
    isSelfSigned (lenient algorithm pin c) = isSelfSigned c.certificate := rfl

theorem buildChain_lenient {path : String} {trust : TrustSection} {pins : List SpkiPin}
    (hpath : path ∈ trust.anchors) (hdepth : 0 < trust.maxChainDepth)
    {verifier : OpensslVerifier (LenientX509 algorithm pin)}
    (hverifier : verifier = lenientVerifier algorithm pin path trust pins) :
    buildChain (lenient algorithm pin leafUnbound) [] verifier.intermediates verifier.anchors
      verifier.maxDepth = .ok [lenient algorithm pin leafUnbound, lenient algorithm pin root] := by
  subst hverifier
  have hself : isSelfSigned (lenient algorithm pin root) = true := by
    rw [isSelfSigned_lenient]
    exact recordLibrary_facts.2.2.2.1
  have hpos : (lenientVerifier algorithm pin path trust pins).maxDepth ≠ 0 := Nat.ne_of_gt hdepth
  rw [buildChain, if_neg hpos, buildChainLoop]
  simp only [List.getLast?_singleton, lenientVerifier, findIssuer_lenient hpath, hself]
  rfl

theorem signedBy_lenient {child parent : RecordX509} :
    SignedBy (lenient algorithm pin child) (lenient algorithm pin parent) ↔
      SignedBy child.certificate parent.certificate := Iff.rfl

theorem verifyChainSignatures_lenient :
    verifyChainSignatures [lenient algorithm pin leafUnbound, lenient algorithm pin root] =
      .ok () := by
  have hrecord := (verifyChainSignatures_eq_ok_iff.mp accepted_chainUnbound.signatures).2
  obtain ⟨hchain, anchor, hanchor, hself⟩ := hrecord
  cases hanchor
  rw [verifyChainSignatures_eq_ok_iff]
  refine ⟨le_rfl, ?_, _, rfl, signedBy_lenient.mpr hself⟩
  exact List.isChain_pair.mpr (signedBy_lenient.mpr (List.isChain_pair.mp hchain))

theorem verifyBasicConstraints_lenient :
    verifyBasicConstraints [lenient algorithm pin leafUnbound, lenient algorithm pin root] =
      .ok () := by
  have hrecord := (verifyBasicConstraints_eq_ok_iff.mp accepted_chainUnbound.constraints).2
  rw [verifyBasicConstraints_eq_ok_iff]
  refine ⟨le_rfl, fun i hi hpos => ?_⟩
  obtain rfl : i = 1 := by
    simp only [List.length_cons, List.length_nil] at hi
    omega
  exact hrecord 1 (by decide) hpos

theorem verifyIntermediateConstraints_lenient (clockSkew : Duration) :
    verifyIntermediateConstraints
      [lenient algorithm pin leafUnbound, lenient algorithm pin root] 5 clockSkew = .ok () := by
  have hrecord := (verifyIntermediateConstraints_eq_ok_iff.mp accepted_chainUnbound.intermediates).2
  rw [verifyIntermediateConstraints_eq_ok_iff]
  refine ⟨le_rfl, fun cert hcert => ?_⟩
  obtain rfl : cert = lenient algorithm pin root := List.mem_singleton.mp hcert
  have hroot := hrecord root.certificate (List.mem_singleton.mpr rfl)
  exact ⟨validAt_lenient ⟨rfl, rfl⟩ clockSkew, hroot.2.1, hroot.2.2⟩

/-- The leaf of the root is accepted with the root as its anchor. -/
theorem verifyAt_lenientVerifier {path : String} {trust : TrustSection} {pins : List SpkiPin}
    (hpath : path ∈ trust.anchors) (hdepth : 0 < trust.maxChainDepth)
    (halgorithm : trust.allowedSignatureAlgorithms ≠ [] →
      algorithm ∈ trust.allowedSignatureAlgorithms)
    (hpin : pins ≠ [] → pin ∈ pins) :
    (lenientVerifier algorithm pin path trust pins).verifyAt (lenient algorithm pin leafUnbound)
      [] 5 = .ok ⟨lenient algorithm pin leafUnbound, [], lenient algorithm pin root⟩ := by
  simp only [OpensslVerifier.verifyAt, bind_eq_ok_iff]
  refine ⟨(), ?_, (), preValidateEndEntity_eq_ok_iff.mpr (acceptableLeaf_lenient halgorithm), _,
    buildChain_lenient hpath hdepth rfl, (), verifyChainSignatures_lenient, (),
    verifyBasicConstraints_lenient, (), verifyIntermediateConstraints_lenient _, (), ?_, ?_⟩
  · rw [ensureLoadedIfAnyGost]
    split <;> rfl
  · rw [checkRevocation_eq_ok_iff]
    have hstore : ∀ crl ∈ (lenientVerifier algorithm pin path trust pins).crlStore,
        crl.nextUpdate = none ∧ crl.revoked = [] := by
      simp [lenientVerifier]
    refine ⟨fun _ crl hcrl => ?_, fun crl hcrl _ cert _ => ?_⟩
    · simp [Crl.ExpiredAt, (hstore crl hcrl).1]
    · simp [(hstore crl hcrl).2]
  · have hpinned : verifyPinning (lenient algorithm pin root)
        (lenientVerifier algorithm pin path trust pins).pins = .ok () :=
      verifyPinning_eq_ok_iff.mpr fun hne => ⟨pin, hpin hne, rfl⟩
    exact seq_eq_ok_iff.mpr ⟨hpinned, rfl⟩

end

theorem validateRevocation_of_isFile {fs fs' : FileSystem} {raw : RawRevocation}
    (hfile : ∀ path, fs'.isFile path = true) (h : validateRevocation fs raw = .ok ()) :
    validateRevocation fs' raw = .ok () := by
  rw [validateRevocation] at h ⊢
  by_cases hmode : raw.mode = .crl
  · rw [if_pos hmode, seq_eq_ok_iff] at h ⊢
    exact ⟨forM_eq_ok_iff.mpr fun path _ => if_pos (hfile path), h.2⟩
  · rw [if_neg hmode] at h ⊢
    exact h

theorem validateTrust_of_readable {fs fs' : FileSystem} {raw : RawTrust} {trust : TrustSection}
    (hpem : ∀ path, validatePem fs' path = .ok ()) (hfile : ∀ path, fs'.isFile path = true)
    (h : validateTrust fs raw = .ok trust) : validateTrust fs' raw = .ok trust := by
  rw [validateTrust, guard_bind_eq_ok_iff, guard_bind_eq_ok_iff, guard_bind_eq_ok_iff,
    seq_eq_ok_iff, seq_eq_ok_iff, seq_eq_ok_iff] at h ⊢
  obtain ⟨hdepth, hcap, hskew, -, hrevocation, hpins, htrust⟩ := h
  exact ⟨hdepth, hcap, hskew, forM_eq_ok_iff.mpr fun path _ => hpem path,
    validateRevocation_of_isFile hfile hrevocation, hpins, htrust⟩

theorem validateTrust_anchors {fs : FileSystem} {raw : RawTrust} {trust : TrustSection}
    (h : validateTrust fs raw = .ok trust) : trust.anchors = raw.anchors := by
  rw [validateTrust, guard_bind_eq_ok_iff, guard_bind_eq_ok_iff, guard_bind_eq_ok_iff,
    seq_eq_ok_iff, seq_eq_ok_iff, seq_eq_ok_iff, Except.ok.injEq] at h
  obtain ⟨-, -, -, -, -, -, rfl⟩ := h
  rfl

theorem validateTrustOverrides_of_readable {fs fs' : FileSystem} {raw : List RawTrustOverride}
    {overrides : List TrustOverride} (hpem : ∀ path, validatePem fs' path = .ok ())
    (h : validateTrustOverrides fs raw = .ok overrides) :
    validateTrustOverrides fs' raw = .ok overrides := by
  rw [validateTrustOverrides, mapM_eq_ok_iff] at h ⊢
  refine h.imp fun entry override hentry => ?_
  rw [validateTrustOverride_eq_ok_iff] at hentry ⊢
  exact ⟨hentry.1, fun path _ => hpem path, hentry.2.2⟩

/-- An entry stays what it was, up to the order of its hosts. -/
theorem exists_override_of_mem {fs : FileSystem} {raw : List RawTrustOverride}
    {overrides : List TrustOverride} (h : validateTrustOverrides fs raw = .ok overrides)
    {entry : RawTrustOverride} (hentry : entry ∈ raw) :
    ∃ override ∈ overrides, override.anchors = entry.anchors ∧
      ∀ hostId, hostId ∈ override.whenHostIdIn ↔ hostId ∈ entry.whenHostIdIn := by
  obtain ⟨override, hmem, hvalid⟩ := exists_ok_of_mapM_eq_ok h hentry
  obtain ⟨-, -, rfl⟩ := validateTrustOverride_eq_ok_iff.mp hvalid
  exact ⟨_, hmem, rfl, fun _ => mem_btreeSet⟩

theorem exists_entry_of_mem {fs : FileSystem} {raw : List RawTrustOverride}
    {overrides : List TrustOverride} (h : validateTrustOverrides fs raw = .ok overrides)
    {override : TrustOverride} (hoverride : override ∈ overrides) :
    ∃ entry ∈ raw, override.anchors = entry.anchors ∧
      ∀ hostId, hostId ∈ override.whenHostIdIn ↔ hostId ∈ entry.whenHostIdIn := by
  obtain ⟨entry, hmem, hvalid⟩ := exists_mem_of_mapM_eq_ok h hoverride
  obtain ⟨-, -, rfl⟩ := validateTrustOverride_eq_ok_iff.mp hvalid
  exact ⟨entry, hmem, rfl, fun _ => mem_btreeSet⟩

/-- A section can be wired so that the certificate at any of its anchor paths, and at no
other path, is the anchor of an accepted chain. -/
theorem exists_accepted_at {fs : FileSystem} {raw : RawTrust} {trust : TrustSection}
    (h : validateTrust fs raw = .ok trust) {path : String} (hpath : path ∈ trust.anchors) :
    ∃ (algorithm : String) (pin : SpkiPin)
      (verifier : OpensslVerifier (LenientX509 algorithm pin)),
      wireTrust (rootAt path) trust none = .ok verifier ∧
      verifier.verifyAt (lenient algorithm pin RecordX509.leafUnbound) [] 5 =
        .ok ⟨lenient algorithm pin RecordX509.leafUnbound, [],
          lenient algorithm pin RecordX509.root⟩ := by
  have hvalid := validateTrust_eq_ok h
  obtain ⟨pins, hpins⟩ := wirePins_of_validTrust hvalid
  refine ⟨trust.allowedSignatureAlgorithms.headD "", pins.headD default, _,
    wireTrust_rootAt hpath hvalid.depth_pos hpins,
    verifyAt_lenientVerifier hpath hvalid.depth_pos ?_ ?_⟩
  · intro hne
    obtain ⟨first, rest, hcons⟩ := List.exists_cons_of_ne_nil hne
    simp [hcons]
  · intro hne
    obtain ⟨first, rest, rfl⟩ := List.exists_cons_of_ne_nil hne
    simp

/-- The overrides are honoured on a host exactly when every anchor of the `trust` section
is also an anchor of each entry that lists the host and has anchors: the verifier is made
from the section alone. -/
theorem overridesHonoured_iff (raw : RawTrust) (rawOverrides : List RawTrustOverride)
    (hostId : String)
    (hvalid : ∃ fs trust overrides, validateTrust fs raw = .ok trust ∧
      validateTrustOverrides fs rawOverrides = .ok overrides) :
    OverridesHonoured raw rawOverrides hostId ↔
      ∀ entry ∈ rawOverrides, hostId ∈ entry.whenHostIdIn → entry.anchors ≠ [] →
        raw.anchors ⊆ entry.anchors := by
  constructor
  · intro hhonoured entry hentry hhost hne path hpath
    obtain ⟨fs, trust, overrides, htrust, hoverrides⟩ := hvalid
    rw [← validateTrust_anchors htrust] at hpath
    obtain ⟨algorithm, pin, verifier, hwire, haccept⟩ := exists_accepted_at htrust hpath
    obtain ⟨override, hmem, hanchors, hhosts⟩ := exists_override_of_mem hoverrides hentry
    obtain ⟨wired, hwired, rfl⟩ := exists_wired refusedLink (recordConfig trust) hwire
    have hends := hhonoured _ (rootAt path) ⟨recordConfig trust, overrides⟩
      (validateTrust_of_readable (validatePem_rootAt path) (fun _ => rfl) htrust)
      (validateTrustOverrides_of_readable (validatePem_rootAt path) hoverrides) _ refusedLink _
      hwired _ _ _ _ haccept
    obtain ⟨p, hp, hread⟩ := hends.listed override hmem ((hhosts hostId).mpr hhost)
      (hanchors ▸ hne)
    rw [readCertificate_rootAt, Except.ok.injEq] at hread
    rw [← eq_of_recordAt_root hread, ← hanchors]
    exact hp
  · intro hsubset X509 _ fs cfg htrust hoverrides σ link wired hwire leaf presented now v haccept
    have hends := endsIn_trust_anchors hwire haccept
    refine ⟨fun override hmem hhost hne => ?_, fun _ => hends⟩
    obtain ⟨entry, hentry, hanchors, hhosts⟩ := exists_entry_of_mem hoverrides hmem
    obtain ⟨path, hpath, hread⟩ := hends
    rw [validateTrust_anchors htrust] at hpath
    refine ⟨path, ?_, hread⟩
    rw [hanchors] at hne ⊢
    exact hsubset entry hentry ((hhosts hostId).mp hhost) hne hpath

/-- The section of the record deployment, without revocation and pins. -/
def plainTrust : TrustSection := recordTrust .none [] ⟨false, []⟩

def siteFs : FileSystem := rootAt "/etc/root.pem"

theorem siteFs_validated :
    validateTrust siteFs (recordRaw .none [] ⟨false, []⟩) = .ok plainTrust ∧
      validateTrustOverrides siteFs [⟨["site-1"], ["/etc/root.pem", "/etc/site.pem"], []⟩] =
        .ok [⟨["site-1"], ["/etc/root.pem", "/etc/site.pem"], []⟩] ∧
      validateTrustOverrides siteFs [⟨["site-1"], ["/etc/site.pem"], []⟩] =
        .ok [⟨["site-1"], ["/etc/site.pem"], []⟩] ∧
      wireTrust siteFs plainTrust none = .ok (recordVerifier [] false []) := by
  decide +kernel

theorem overridesHonoured_sharedAnchor :
    validateTrust siteFs (recordRaw .none [] ⟨false, []⟩) = .ok plainTrust ∧
      OverridesHonoured (recordRaw .none [] ⟨false, []⟩)
        [⟨["site-1"], ["/etc/root.pem", "/etc/site.pem"], []⟩] "site-1" :=
  ⟨siteFs_validated.1,
    (overridesHonoured_iff (recordRaw .none [] ⟨false, []⟩)
      [⟨["site-1"], ["/etc/root.pem", "/etc/site.pem"], []⟩] "site-1"
      ⟨siteFs, plainTrust, [⟨["site-1"], ["/etc/root.pem", "/etc/site.pem"], []⟩],
        siteFs_validated.1, siteFs_validated.2.1⟩).mpr (by decide)⟩

/-- The host has an anchor of its own, and a chain below the anchor of the `trust` section
is accepted on it. -/
theorem override_not_honoured :
    validateTrust siteFs (recordRaw .none [] ⟨false, []⟩) = .ok plainTrust ∧
      validateTrustOverrides siteFs [⟨["site-1"], ["/etc/site.pem"], []⟩] =
        .ok [⟨["site-1"], ["/etc/site.pem"], []⟩] ∧
      wire siteFs refusedLink (recordConfig plainTrust) =
        .ok (recordWired plainTrust (recordVerifier [] false [])) ∧
      (recordVerifier [] false []).verifyAt RecordX509.leafUnbound.certificate [] 5 =
        .ok chainUnbound ∧
      ¬ EndsIn siteFs ["/etc/site.pem"] chainUnbound.anchor := by
  obtain ⟨htrust, -, hoverrides, hwire⟩ := siteFs_validated
  refine ⟨htrust, hoverrides, wire_recordConfig hwire, recordLibrary_facts.2.2.2.2, ?_⟩
  rintro ⟨path, hpath, hread⟩
  obtain rfl := List.mem_singleton.mp hpath
  revert hread
  decide +kernel

end PamCertauth.Wiring
