import PamCertauth.Hooks
import PamCertauth.KeyMaterial
import PamCertauth.MonitorClient
import Mathlib.Data.List.Dedup
import Mathlib.Data.List.Sort

/-!
# Configuration

The sections of the validated configuration that the modelled code reads, and the
validation of the `[trust]` section (`config/validated.rs`). The file system is a
parameter. `validateTrust_eq_ok` says what is known of a section that passes.
-/

namespace PamCertauth.Config

open X509

/-- What a path leads to at some instant. -/
structure FileSystem where
  read : String → Except String Bytes
  isFile : String → Bool

def FileSystem.readToString (fs : FileSystem) (path : String) : Except String String := do
  let bytes ← fs.read path
  match String.fromUTF8? ⟨bytes.toArray⟩ with
  | some text => .ok text
  | none => .error "stream did not contain valid UTF-8"

/-- Errors that reject a trust section. -/
inductive TrustError where
  | anchorMissing (path : String)
  | anchorNotPem (path : String)
  | maxChainDepthZero
  | clockSkewTooLarge
  | crlPathMissing (path : String)
  | ocspResponderInvalid (reason : String)
  | pinningHashInvalid (entry : String)
  deriving DecidableEq, Repr

inductive Error where
  | configInvalid (reason : String)
  | trust (e : TrustError)
  deriving DecidableEq, Repr

inductive RevocationMode where
  | none
  | crl
  | ocsp
  | crlThenOcsp
  deriving DecidableEq, Repr

structure RawRevocation where
  mode : RevocationMode
  crlPaths : List String
  ocspResponderUrl : Option String
  deriving DecidableEq, Repr

structure PinningSection where
  enabled : Bool
  allowedRootSpkiSha256 : List String
  deriving DecidableEq, Repr

/-- The trust section as it is written in the file. -/
structure RawTrust where
  anchors : List String
  intermediates : List String
  maxChainDepth : ℕ
  clockSkewSeconds : ℕ
  allowedSignatureAlgorithms : List String
  revocation : RawRevocation
  pinning : PinningSection
  deriving DecidableEq, Repr

structure RevocationSection where
  mode : RevocationMode
  crlPaths : List String
  deriving DecidableEq, Repr

structure TrustSection where
  anchors : List String
  intermediates : List String
  revocation : RevocationSection
  allowedSignatureAlgorithms : List String
  pinning : PinningSection
  maxChainDepth : ℕ
  clockSkewSeconds : ℕ
  deriving DecidableEq, Repr

inductive Mode where
  | pkcs12
  | pkcs11
  deriving DecidableEq, Repr

inductive CryptoBackend where
  | openssl
  | pkcs11Native
  deriving DecidableEq, Repr

structure MonitorSection where
  socketPath : String
  timeout : Duration
  failMode : Ipc.MonitorFailMode
  deriving DecidableEq, Repr

structure ValidatedConfig where
  cryptoBackend : CryptoBackend
  mode : Mode
  pkcs11Module : Option String
  pkcs11TokenLabel : Option String
  pkcs11ObjectLabel : Option String
  pkcs11MaxPinAttempts : ℕ
  pkcs11LockingMode : Pkcs11.LockingMode
  pkcs11PinPrompt : Option String
  pkcs11SlotWait : Duration
  pkcs12PathPattern : Option String
  gostEnginePath : Option String
  monitor : MonitorSection
  trust : TrustSection
  userMappings : List UserMapping
  hooks : List Hooks.HookConfig
  deriving DecidableEq, Repr

def maxChainDepthHardCap : ℕ := 16

/-- The elements of a list in the order of a `BTreeSet`. -/
def btreeSet (xs : List String) : List String := xs.dedup.mergeSort (· ≤ ·)

def validatePem (fs : FileSystem) (path : String) : Except Error Unit :=
  match fs.readToString path with
  | .error _ => .error (.trust (.anchorMissing path))
  | .ok text =>
    if containsText "-----BEGIN CERTIFICATE-----" text then .ok ()
    else .error (.trust (.anchorNotPem path))

def isHttpUrl (url : String) : Bool :=
  "http://".toList.isPrefixOf url.toList || "https://".toList.isPrefixOf url.toList

-- Only the mode `crl` checks the paths; `crl_then_ocsp` checks the responder alone.
def validateRevocation (fs : FileSystem) (raw : RawRevocation) : Except Error Unit := do
  if raw.mode = .crl then
    raw.crlPaths.forM fun path =>
      if fs.isFile path then .ok () else .error (.trust (.crlPathMissing path))
  if (raw.mode = .ocsp ∨ raw.mode = .crlThenOcsp) ∧ ¬ raw.ocspResponderUrl.any isHttpUrl then
    .error (.trust (.ocspResponderInvalid "missing or non-http URL"))

def isPinText (entry : String) : Bool :=
  entry.utf8ByteSize = 64 && entry.toList.all isAsciiHexdigit

def validatePinning (raw : PinningSection) : Except Error Unit :=
  if raw.enabled then
    raw.allowedRootSpkiSha256.forM fun entry =>
      if isPinText entry then .ok () else .error (.trust (.pinningHashInvalid entry))
  else .ok ()

def validateTrust (fs : FileSystem) (raw : RawTrust) : Except Error TrustSection :=
  if raw.maxChainDepth = 0 then .error (.trust .maxChainDepthZero)
  else if raw.maxChainDepth > maxChainDepthHardCap then
    .error (.configInvalid ("trust.max_chain_depth " ++ toString raw.maxChainDepth ++
      " exceeds hard cap " ++ toString maxChainDepthHardCap))
  else if raw.clockSkewSeconds > 600 then .error (.trust .clockSkewTooLarge)
  else do
    (raw.anchors ++ raw.intermediates).forM (validatePem fs)
    validateRevocation fs raw.revocation
    validatePinning raw.pinning
    .ok
      { anchors := raw.anchors
        intermediates := raw.intermediates
        revocation := ⟨raw.revocation.mode, raw.revocation.crlPaths⟩
        allowedSignatureAlgorithms := btreeSet raw.allowedSignatureAlgorithms
        pinning := raw.pinning
        maxChainDepth := raw.maxChainDepth
        clockSkewSeconds := raw.clockSkewSeconds }

theorem validatePinning_eq_ok_iff {raw : PinningSection} :
    validatePinning raw = .ok () ↔
      (raw.enabled = true → ∀ entry ∈ raw.allowedRootSpkiSha256, isPinText entry = true) := by
  by_cases henabled : raw.enabled = true
  · rw [validatePinning, if_pos henabled, forM_eq_ok_iff]
    simp only [ite_eq_left_iff, reduceCtorEq, imp_false, not_not, henabled, forall_const]
  · simp [validatePinning, henabled]

/-- What the rest of the program may rely on in a validated trust section. -/
structure ValidTrust (fs : FileSystem) (trust : TrustSection) : Prop where
  depth_pos : 0 < trust.maxChainDepth
  depth_le : trust.maxChainDepth ≤ maxChainDepthHardCap
  skew_le : trust.clockSkewSeconds ≤ 600
  pem : ∀ path ∈ trust.anchors ++ trust.intermediates, validatePem fs path = .ok ()
  pins : trust.pinning.enabled = true →
    ∀ entry ∈ trust.pinning.allowedRootSpkiSha256, isPinText entry = true

theorem validateTrust_eq_ok {fs : FileSystem} {raw : RawTrust} {trust : TrustSection}
    (h : validateTrust fs raw = .ok trust) : ValidTrust fs trust := by
  rw [validateTrust, guard_bind_eq_ok_iff, guard_bind_eq_ok_iff, guard_bind_eq_ok_iff] at h
  obtain ⟨hdepth, hcap, hskew, h⟩ := h
  rw [seq_eq_ok_iff, seq_eq_ok_iff, seq_eq_ok_iff, Except.ok.injEq] at h
  obtain ⟨hpem, -, hpins, rfl⟩ := h
  exact ⟨Nat.pos_of_ne_zero hdepth, not_lt.mp hcap, not_lt.mp hskew, forM_eq_ok_iff.mp hpem,
    validatePinning_eq_ok_iff.mp hpins⟩

end PamCertauth.Config
