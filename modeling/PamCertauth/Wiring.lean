import PamCertauth.Configuration
import PamCertauth.TrustVerifier

/-!
# Wiring of the collaborators

From a validated configuration the module builds the trust verifier and the client of
the monitor (`di.rs`): it reads the certificates and the revocation lists, decodes the
pins, and maps the revocation mode to the one switch that the verifier has. The two main
results say what pinning and revocation come to once validation, wiring and verification
are composed.
-/

namespace PamCertauth.Wiring

open X509 Config

inductive WireError where
  | io (detail : String)
  | trust (e : X509.TrustError)
  | pinDecode (entry : String)
  deriving DecidableEq, Repr

/-- The collaborators of one authentication. -/
structure Wired (σ X509 : Type) where
  cfg : ValidatedConfig
  trust : OpensslVerifier X509
  monitor : Ipc.MonitorClient σ

def hexValue (c : Char) : Option UInt8 :=
  if '0' ≤ c ∧ c ≤ '9' then some (c.val - 48).toUInt8
  else if 'a' ≤ c ∧ c ≤ 'f' then some (c.val - 87).toUInt8
  else if 'A' ≤ c ∧ c ≤ 'F' then some (c.val - 55).toUInt8
  else none

/-- `hex::decode`: two digits a byte, the high half first. -/
def hexDecode : List Char → Option Bytes
  | [] => some []
  | [_] => none
  | a :: b :: rest => do
    let hi ← hexValue a
    let lo ← hexValue b
    let bytes ← hexDecode rest
    some ((hi <<< 4 ||| lo) :: bytes)

def decodeSpkiPin (entry : String) : Except WireError SpkiPin :=
  match hexDecode entry.toList with
  | none => .error (.pinDecode entry)
  | some bytes =>
    if h : bytes.length = 32 then .ok ⟨bytes.toArray, h⟩ else .error (.pinDecode entry)

def decodeSpkiPins (entries : List String) : Except WireError (List SpkiPin) :=
  entries.mapM decodeSpkiPin

def crlStrict (mode : RevocationMode) : Bool := mode = .crl ∨ mode = .crlThenOcsp

section

variable {X509 : Type} [CryptoLibrary X509]

def readCertificate (fs : FileSystem) (path : String) : Except WireError (Certificate X509) := do
  let bytes ← (fs.read path).mapError .io
  (Certificate.fromPem bytes).mapError .trust

def readFile (fs : FileSystem) (path : String) : Except WireError Bytes :=
  (fs.read path).mapError .io

/-- The pins that the verifier gets; none while pinning is off. -/
def wirePins (pinning : PinningSection) : Except WireError (List SpkiPin) :=
  if pinning.enabled then decodeSpkiPins pinning.allowedRootSpkiSha256 else .ok []

def wireTrust (fs : FileSystem) (trust : TrustSection) (gostEnginePath : Option String) :
    Except WireError (OpensslVerifier X509) := do
  let anchors ← trust.anchors.mapM (readCertificate fs)
  let intermediates ← trust.intermediates.mapM (readCertificate fs)
  let crlPems ← trust.revocation.crlPaths.mapM (readFile fs)
  let spkiPins ← wirePins trust.pinning
  (OpensslVerifier.new
    { anchors := anchors
      intermediates := intermediates
      crlPems := crlPems
      crlStrict := crlStrict trust.revocation.mode
      clockSkew := Duration.fromSecs trust.clockSkewSeconds
      signatureAlgWhitelist := trust.allowedSignatureAlgorithms
      spkiPins := spkiPins
      maxDepth := trust.maxChainDepth
      gostEnginePath := gostEnginePath }).mapError .trust

def wire {σ : Type} (fs : FileSystem) (link : Ipc.DaemonLink σ) (cfg : ValidatedConfig) :
    Except WireError (Wired σ X509) := do
  let trust ← wireTrust fs cfg.trust cfg.gostEnginePath
  .ok
    { cfg := cfg
      trust := trust
      monitor := Ipc.wiredMonitor link ⟨cfg.monitor.socketPath, cfg.monitor.timeout⟩
        cfg.monitor.failMode }

/-- What the wired verifier is made of. -/
structure WiredFrom (fs : FileSystem) (trust : TrustSection) (verifier : OpensslVerifier X509) :
    Prop where
  pins : wirePins trust.pinning = .ok verifier.pins
  crls : ∃ crlPems, trust.revocation.crlPaths.mapM (readFile fs) = .ok crlPems ∧
    CrlStore.fromPems X509 crlPems = .ok verifier.crlStore
  strict : verifier.revCfg.crlStrict = crlStrict trust.revocation.mode

theorem wireTrust_eq_ok {fs : FileSystem} {trust : TrustSection} {gostEnginePath : Option String}
    {verifier : OpensslVerifier X509} (h : wireTrust fs trust gostEnginePath = .ok verifier) :
    WiredFrom fs trust verifier := by
  simp only [wireTrust, bind_eq_ok_iff, mapError_eq_ok_iff] at h
  obtain ⟨anchors, -, intermediates, -, crlPems, hcrls, pins, hpins, hnew⟩ := h
  obtain ⟨-, -, store, hstore, rfl⟩ := OpensslVerifier.new_eq_ok_iff.mp hnew
  exact ⟨hpins, ⟨crlPems, hcrls, hstore⟩, rfl⟩

theorem wire_eq_ok {σ : Type} {fs : FileSystem} {link : Ipc.DaemonLink σ} {cfg : ValidatedConfig}
    {wired : Wired σ X509} (h : wire fs link cfg = .ok wired) :
    wireTrust fs cfg.trust cfg.gostEnginePath = .ok wired.trust := by
  rw [wire, bind_eq_ok_iff] at h
  obtain ⟨trust, htrust, hwired⟩ := h
  cases hwired
  exact htrust

end

section Deployment

open RecordX509

def recordFs : FileSystem where
  read path :=
    if path = "/etc/root.pem" then .ok root.pem
    else if path = "/etc/root.crl" then .ok RecordCrl.ofRoot.pem
    else .error "No such file or directory"
  isFile path := path = "/etc/root.pem" ∨ path = "/etc/root.crl"

def recordRaw (mode : RevocationMode) (crlPaths : List String) (pinning : PinningSection) :
    RawTrust where
  anchors := ["/etc/root.pem"]
  intermediates := []
  maxChainDepth := 4
  clockSkewSeconds := 60
  allowedSignatureAlgorithms := []
  revocation := ⟨mode, crlPaths, none⟩
  pinning := pinning

def recordTrust (mode : RevocationMode) (crlPaths : List String) (pinning : PinningSection) :
    TrustSection where
  anchors := ["/etc/root.pem"]
  intermediates := []
  revocation := ⟨mode, crlPaths⟩
  allowedSignatureAlgorithms := []
  pinning := pinning
  maxChainDepth := 4
  clockSkewSeconds := 60

def recordConfig (trust : TrustSection) : ValidatedConfig where
  cryptoBackend := .openssl
  mode := .pkcs12
  pkcs11Module := none
  pkcs11TokenLabel := none
  pkcs11ObjectLabel := none
  pkcs11MaxPinAttempts := 3
  pkcs11LockingMode := .os
  pkcs11PinPrompt := none
  pkcs11SlotWait := Duration.fromSecs 10
  pkcs12PathPattern := none
  gostEnginePath := none
  monitor := ⟨"/run/monitord.sock", Duration.fromSecs 2, .strict⟩
  trust := trust
  userMappings := []
  hooks := []

def recordVerifier (crlStore : CrlStore) (strict : Bool) (pins : List SpkiPin) :
    OpensslVerifier RecordX509 where
  anchors := [root.certificate]
  intermediates := []
  crlStore := crlStore
  revCfg := ⟨strict⟩
  preCfg := ⟨Duration.fromSecs 60, []⟩
  pins := pins
  maxDepth := 4
  gostEnginePath := none

/-- A daemon that refuses every connection. -/
def refusedLink : Ipc.DaemonLink Unit where
  connect _ s := (.error "connection refused", s)
  configure _ s := (.ok (), s)
  writeAll _ s := (.ok (), s)
  readLine s := (.ok "", s)
  now s := (0, s)
  serde := ⟨fun _ => .ok [], fun _ => .error "no message"⟩
  uuidFromSessionId _ := 0

def recordWired (trust : TrustSection) (verifier : OpensslVerifier RecordX509) :
    Wired Unit RecordX509 where
  cfg := recordConfig trust
  trust := verifier
  monitor := Ipc.wiredMonitor refusedLink ⟨"/run/monitord.sock", Duration.fromSecs 2⟩ .strict

theorem wire_recordConfig {fs : FileSystem} {trust : TrustSection}
    {verifier : OpensslVerifier RecordX509} (h : wireTrust fs trust none = .ok verifier) :
    wire fs refusedLink (recordConfig trust) = .ok (recordWired trust verifier) := by
  have htrust : wireTrust fs (recordConfig trust).trust (recordConfig trust).gostEnginePath =
      .ok verifier := h
  rw [wire, htrust]
  rfl

end Deployment

section

variable {X509 : Type} [CryptoLibrary X509]

/-- The key of the anchor is the one that some entry of the pin list names. -/
def Pinned (pinning : PinningSection) (anchor : Certificate X509) : Prop :=
  ∃ entry ∈ pinning.allowedRootSpkiSha256, ∃ pin,
    decodeSpkiPin entry = .ok pin ∧ spkiSha256 anchor = .ok pin

/-- While pinning is on, an accepted anchor is pinned exactly when the pin list is not
empty: the verifier cannot tell an empty list from pinning being off. -/
theorem wire_pinned_iff {σ : Type} (fs : FileSystem) (link : Ipc.DaemonLink σ)
    (cfg : ValidatedConfig) (henabled : cfg.trust.pinning.enabled = true) (wired : Wired σ X509)
    (hwire : wire fs link cfg = .ok wired) (leaf : Certificate X509)
    (presented : List (Certificate X509)) (now : SystemTime) (v : Stage2VerifiedChain X509)
    (h : wired.trust.verifyAt leaf presented now = .ok v) :
    Pinned cfg.trust.pinning v.anchor ↔ cfg.trust.pinning.allowedRootSpkiSha256 ≠ [] := by
  have hpins := (wireTrust_eq_ok (wire_eq_ok hwire)).pins
  rw [wirePins, if_pos henabled] at hpins
  have hanchor := verifyPinning_eq_ok_iff.mp (OpensslVerifier.accepted_of_verifyAt h).pinning
  constructor
  · intro hpin
    obtain ⟨entry, hentry, -⟩ := hpin
    exact List.ne_nil_of_mem hentry
  · intro hne
    obtain ⟨entry, hentry⟩ := List.exists_mem_of_ne_nil _ hne
    obtain ⟨pin, hpin, -⟩ := exists_ok_of_mapM_eq_ok hpins hentry
    obtain ⟨pin', hpin', hspki⟩ := hanchor (List.ne_nil_of_mem hpin)
    obtain ⟨entry', hentry', hdecode⟩ := exists_mem_of_mapM_eq_ok hpins hpin'
    exact ⟨entry', hentry', pin', hdecode, hspki⟩

theorem isAsciiHexdigit_utf8Size {c : Char} (h : isAsciiHexdigit c = true) : c.utf8Size = 1 := by
  rw [Char.utf8Size_eq_one_iff]
  simp only [isAsciiHexdigit, Bool.or_eq_true, Bool.and_eq_true, decide_eq_true_eq] at h
  rcases h with (h | h) | h
  · exact UInt32.le_trans h.2 (by decide)
  · exact UInt32.le_trans h.2 (by decide)
  · exact UInt32.le_trans h.2 (by decide)

theorem utf8ByteSize_of_hexdigits {cs : List Char} (h : ∀ c ∈ cs, isAsciiHexdigit c = true) :
    (String.ofList cs).utf8ByteSize = cs.length := by
  induction cs with
  | nil => rfl
  | cons c cs ih =>
    have hc := isAsciiHexdigit_utf8Size (h c List.mem_cons_self)
    have hcs := ih fun c' hc' => h c' (List.mem_cons_of_mem c hc')
    rw [← List.singleton_append, String.ofList_append, String.utf8ByteSize_append, hcs]
    simp [hc, Nat.add_comm]

theorem hexValue_isSome {c : Char} (h : isAsciiHexdigit c = true) : ∃ b, hexValue c = some b := by
  simp only [isAsciiHexdigit, Bool.or_eq_true, Bool.and_eq_true, decide_eq_true_eq] at h
  rw [hexValue]
  split
  · exact ⟨_, rfl⟩
  · split
    · exact ⟨_, rfl⟩
    · rw [if_pos (by tauto)]
      exact ⟨_, rfl⟩

theorem hexDecode_isSome {n : ℕ} {cs : List Char} (hlen : cs.length = 2 * n)
    (h : ∀ c ∈ cs, isAsciiHexdigit c = true) :
    ∃ bytes, hexDecode cs = some bytes ∧ bytes.length = n := by
  -- The digits are consumed in pairs, so the induction is on the number of bytes.
  induction n generalizing cs with
  | zero =>
    rw [List.length_eq_zero_iff.mp hlen]
    exact ⟨[], rfl, rfl⟩
  | succ n ih =>
    match cs, hlen, h with
    | a :: b :: cs, hlen, h =>
      have hcs : cs.length = 2 * n := by
        simp only [List.length_cons] at hlen
        omega
      obtain ⟨hi, hhi⟩ := hexValue_isSome (h a (by simp))
      obtain ⟨lo, hlo⟩ := hexValue_isSome (h b (by simp))
      obtain ⟨bytes, hbytes, hcount⟩ := ih hcs fun c hc => h c (by simp [hc])
      exact ⟨(hi <<< 4 ||| lo) :: bytes, by simp [hexDecode, hhi, hlo, hbytes], by simp [hcount]⟩

/-- The texts that validation admits are decoded. -/
theorem decodeSpkiPin_of_isPinText {entry : String} (h : isPinText entry = true) :
    ∃ pin, decodeSpkiPin entry = .ok pin := by
  simp only [isPinText, Bool.and_eq_true, decide_eq_true_eq, List.all_eq_true] at h
  obtain ⟨hsize, hdigits⟩ := h
  have hlen : entry.toList.length = 2 * 32 := by
    have hcount := utf8ByteSize_of_hexdigits hdigits
    rw [String.ofList_toList] at hcount
    omega
  obtain ⟨bytes, hbytes, hcount⟩ := hexDecode_isSome hlen hdigits
  rw [decodeSpkiPin, hbytes]
  exact ⟨_, dif_pos hcount⟩

/-- The wiring of a validated section never stops at its pins. -/
theorem wirePins_of_validTrust {fs : FileSystem} {trust : TrustSection} (h : ValidTrust fs trust) :
    ∃ pins, wirePins trust.pinning = .ok pins := by
  by_cases henabled : trust.pinning.enabled = true
  · rw [wirePins, if_pos henabled]
    apply exists_mapM_eq_ok
    intro entry hentry
    exact decodeSpkiPin_of_isPinText (h.pins henabled entry hentry)
  · exact ⟨[], if_neg henabled⟩

def zeroPin : String := "0000000000000000000000000000000000000000000000000000000000000000"

/-- The chain of the leaf without a user binding. -/
def chainUnbound : Stage2VerifiedChain RecordX509 :=
  ⟨RecordX509.leafUnbound.certificate, [], RecordX509.root.certificate⟩

theorem wire_pinned_iff_zeroPin :
    validateTrust recordFs (recordRaw .none [] ⟨true, [zeroPin]⟩) =
        .ok (recordTrust .none [] ⟨true, [zeroPin]⟩) ∧
      (Pinned ⟨true, [zeroPin]⟩ chainUnbound.anchor ↔ [zeroPin] ≠ []) :=
  ⟨by decide +kernel,
    wire_pinned_iff recordFs refusedLink (recordConfig (recordTrust .none [] ⟨true, [zeroPin]⟩))
      rfl (recordWired _ (recordVerifier [] false [Vector.replicate 32 0]))
      (wire_recordConfig (by decide +kernel)) RecordX509.leafUnbound.certificate [] 5 chainUnbound
      (by decide +kernel)⟩

/-- Pinning is on, the list is empty, and the anchor is accepted without a pin. -/
theorem wire_empty_pins_accepts :
    validateTrust recordFs (recordRaw .none [] ⟨true, []⟩) = .ok (recordTrust .none [] ⟨true, []⟩) ∧
      wire recordFs refusedLink (recordConfig (recordTrust .none [] ⟨true, []⟩)) =
        .ok (recordWired (recordTrust .none [] ⟨true, []⟩) (recordVerifier [] false [])) ∧
      (recordVerifier [] false []).verifyAt RecordX509.leafUnbound.certificate [] 5 =
        .ok chainUnbound ∧
      ¬ Pinned ⟨true, []⟩ chainUnbound.anchor :=
  ⟨by decide +kernel, wire_recordConfig (by decide +kernel), by decide +kernel,
    fun ⟨_, hentry, _⟩ => List.not_mem_nil hentry⟩

/-- The list that a configured path leads to. -/
def ConfiguredCrl (X509 : Type) [CryptoLibrary X509] (fs : FileSystem) (path : String)
    (crl : Crl) : Prop :=
  ∃ bytes, fs.read path = .ok bytes ∧ Crl.fromPem X509 bytes = .ok crl

/-- A list in force that the issuer of the certificate made and that does not name it. -/
def CrlEvidence (fs : FileSystem) (revocation : RevocationSection) (now : SystemTime)
    (cert : Certificate X509) : Prop :=
  ∃ path ∈ revocation.crlPaths, ∃ crl, ConfiguredCrl X509 fs path crl ∧ ¬ crl.ExpiredAt now ∧
    crl.IssuedFor cert ∧ cert.crlSerial ∉ crl.revoked

theorem WiredFrom.configuredCrl {fs : FileSystem} {trust : TrustSection}
    {verifier : OpensslVerifier X509} (h : WiredFrom fs trust verifier) {path : String}
    (hpath : path ∈ trust.revocation.crlPaths) :
    ∃ crl ∈ verifier.crlStore, ConfiguredCrl X509 fs path crl := by
  obtain ⟨crlPems, hread, hparse⟩ := h.crls
  obtain ⟨bytes, hbytes, hfile⟩ := exists_ok_of_mapM_eq_ok hread hpath
  obtain ⟨crl, hcrl, hpem⟩ := exists_ok_of_mapM_eq_ok hparse hbytes
  exact ⟨crl, hcrl, bytes, mapError_eq_ok_iff.mp hfile, hpem⟩

/-- Without revocation lists the verifier accepts what it accepts with them. -/
theorem verifyAt_without_crls {verifier : OpensslVerifier X509} {revCfg : RevocationConfig}
    {leaf : Certificate X509} {presented : List (Certificate X509)} {now : SystemTime}
    {v : Stage2VerifiedChain X509} (h : verifier.verifyAt leaf presented now = .ok v) :
    { verifier with crlStore := [], revCfg := revCfg }.verifyAt leaf presented now = .ok v := by
  simp only [OpensslVerifier.verifyAt, bind_eq_ok_iff] at h ⊢
  obtain ⟨u, hengine, ⟨⟩, hleaf, chain, hbuild, ⟨⟩, hsig, ⟨⟩, hbc, ⟨⟩, hint, ⟨⟩, -, htail⟩ := h
  exact ⟨u, hengine, (), hleaf, chain, hbuild, (), hsig, (), hbc, (), hint, (), rfl, htail⟩

/-- The configuration with the given mode and no revocation list. -/
def withoutCrls (trust : TrustSection) (mode : RevocationMode) : TrustSection :=
  { trust with revocation := ⟨mode, []⟩ }

theorem wireTrust_withoutCrls {fs : FileSystem} {trust : TrustSection}
    {gostEnginePath : Option String} {verifier : OpensslVerifier X509} (mode : RevocationMode)
    (h : wireTrust fs trust gostEnginePath = .ok verifier) :
    wireTrust fs (withoutCrls trust mode) gostEnginePath =
      .ok { verifier with crlStore := [], revCfg := ⟨crlStrict mode⟩ } := by
  simp only [wireTrust, bind_eq_ok_iff, mapError_eq_ok_iff] at h ⊢
  obtain ⟨anchors, hanchors, intermediates, hint, crlPems, -, pins, hpins, hnew⟩ := h
  obtain ⟨hne, hdepth, store, -, rfl⟩ := OpensslVerifier.new_eq_ok_iff.mp hnew
  exact ⟨anchors, hanchors, intermediates, hint, [], rfl, pins, hpins,
    OpensslVerifier.new_eq_ok_iff.mpr ⟨hne, hdepth, [], rfl, rfl⟩⟩

/-- What the revocation section comes to: every configured list is read, the modes with
lists reject expired ones, and a list in force of the issuer of an accepted certificate
does not name it. Nothing is required where there is no list, in whatever mode. -/
theorem wire_revocation {σ : Type} (fs : FileSystem) (link : Ipc.DaemonLink σ)
    (cfg : ValidatedConfig) (wired : Wired σ X509) (hwire : wire fs link cfg = .ok wired)
    (leaf : Certificate X509) (presented : List (Certificate X509)) (now : SystemTime)
    (v : Stage2VerifiedChain X509) (h : wired.trust.verifyAt leaf presented now = .ok v) :
    (∀ path ∈ cfg.trust.revocation.crlPaths, ∃ crl, ConfiguredCrl X509 fs path crl ∧
      (cfg.trust.revocation.mode = .crl ∨ cfg.trust.revocation.mode = .crlThenOcsp →
        ¬ crl.ExpiredAt now) ∧
      (¬ crl.ExpiredAt now → ∀ cert ∈ v.endEntity :: v.chain, crl.IssuedFor cert →
        cert.crlSerial ∉ crl.revoked)) ∧
    ∀ mode, ∃ verifier : OpensslVerifier X509,
      wireTrust fs (withoutCrls cfg.trust mode) cfg.gostEnginePath = .ok verifier ∧
        verifier.verifyAt leaf presented now = .ok v := by
  have htrust := wire_eq_ok hwire
  have hfrom := wireTrust_eq_ok htrust
  obtain ⟨hstrict, hclean⟩ :=
    checkRevocation_eq_ok_iff.mp (OpensslVerifier.accepted_of_verifyAt h).revocation
  constructor
  · intro path hpath
    obtain ⟨crl, hcrl, hconfigured⟩ := hfrom.configuredCrl hpath
    refine ⟨crl, hconfigured, fun hmode => hstrict ?_ crl hcrl, fun hforce cert hcert _ => ?_⟩
    · rw [hfrom.strict, crlStrict, decide_eq_true_eq]
      exact hmode
    · exact hclean crl hcrl hforce cert (List.mem_append_left _ hcert)
  · intro mode
    exact ⟨_, wireTrust_withoutCrls mode htrust, verifyAt_without_crls h⟩

end

theorem wire_revocation_rootCrl :
    validateTrust recordFs (recordRaw .crl ["/etc/root.crl"] ⟨false, []⟩) =
        .ok (recordTrust .crl ["/etc/root.crl"] ⟨false, []⟩) ∧
      ∃ crl, ConfiguredCrl RecordX509 recordFs "/etc/root.crl" crl ∧ ¬ crl.ExpiredAt 5 := by
  refine ⟨by decide +kernel, ?_⟩
  have h := (wire_revocation recordFs refusedLink
    (recordConfig (recordTrust .crl ["/etc/root.crl"] ⟨false, []⟩))
    (recordWired _ (recordVerifier [⟨0, some (500 * 10 ^ 9), ["0f"], derUtf8 "root"⟩] true []))
    (wire_recordConfig (by decide +kernel)) RecordX509.leafUnbound.certificate [] 5 chainUnbound
    (by decide +kernel)).1 "/etc/root.crl" List.mem_cons_self
  obtain ⟨crl, hcrl, hforce, -⟩ := h
  exact ⟨crl, hcrl, hforce (.inl rfl)⟩

/-- The mode asks for lists, none is configured, and the leaf is accepted without
evidence. -/
theorem wire_crl_without_evidence :
    validateTrust recordFs (recordRaw .crl [] ⟨false, []⟩) = .ok (recordTrust .crl [] ⟨false, []⟩) ∧
      wire recordFs refusedLink (recordConfig (recordTrust .crl [] ⟨false, []⟩)) =
        .ok (recordWired (recordTrust .crl [] ⟨false, []⟩) (recordVerifier [] true [])) ∧
      (recordVerifier [] true []).verifyAt RecordX509.leafUnbound.certificate [] 5 =
        .ok chainUnbound ∧
      ¬ CrlEvidence recordFs (recordTrust .crl [] ⟨false, []⟩).revocation 5
        chainUnbound.endEntity :=
  ⟨by decide +kernel, wire_recordConfig (by decide +kernel), by decide +kernel,
    fun ⟨_, hpath, _⟩ => List.not_mem_nil hpath⟩

end PamCertauth.Wiring
