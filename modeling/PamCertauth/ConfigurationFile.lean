import PamCertauth.CredentialPaths
import PamCertauth.HookValidation
import PamCertauth.HostIdentity
import PamCertauth.LabelText
import PamCertauth.TrustOverrides

/-!
# The configuration file

The file as it is parsed (`config/raw.rs`) and the validation of all its sections
(`config/validated.rs`), which both the module and the daemon run before anything else.
Every section has its own checks, and the first one that fails decides the error.
-/

namespace PamCertauth.Config

open LexicalPaths (isAbsolute)
open X509 RadixNumerals HostIdentity Hooks Mac Wiring Discovery

/-- What to do when the device of a session is pulled. -/
inductive RemovalAction where
  | lock
  | logout
  | hook
  | shutdown
  deriving DecidableEq, Repr

structure RawMonitor where
  socketPath : Option String := none
  timeoutMs : Option ℕ := none
  failMode : Option String := none
  stateFilePath : Option String := none
  onUsbRemoved : Option RemovalAction := none
  usbRemovedGraceSeconds : Option ℕ := none
  suspendGraceSeconds : Option ℕ := none
  onUsbRemovedHookPath : Option String := none
  idleTimeoutSeconds : Option ℕ := none
  maxConcurrentConnections : Option ℕ := none
  deriving DecidableEq, Repr

structure RawUserMapping where
  pamUser : String
  certSubjectCn : Option String := none
  certSanEmail : Option String := none
  certSanUpn : Option String := none
  deriving DecidableEq, Repr

structure RawLogging where
  level : String
  syslogFacility : String
  journaldPriority : Bool := false
  deriving DecidableEq, Repr

structure RawIntegrityLabel where
  level : Int8
  categories : String := ""
  deriving DecidableEq, Repr

structure RawMacPolicy where
  certIntegrity : Option CertIntegrityMode := none
  fallbackMaxIntegrity : Option RawIntegrityLabel := none
  warnOnHomedirLabelMismatch : Option Bool := none
  runtime : Option MacRuntimeMode := none
  deriving DecidableEq, Repr

structure RawFlyDmGreeter where
  updateWallpaper : Option Bool := none
  wallpaperTarget : Option String := none
  wallpaperBackup : Option String := none
  wallpaperFont : Option String := none
  wallpaperFontSize : Option ℕ := none
  wallpaperTextColor : Option String := none
  wallpaperGravity : Option String := none
  wallpaperOffsetX : Option ℤ := none
  wallpaperOffsetY : Option ℤ := none
  templateRu : Option String := none
  templateEn : Option String := none
  deriving DecidableEq, Repr

/-- The file as it is parsed, with the defaults of the parser. -/
structure RawConfig where
  cryptoBackend : CryptoBackend
  mode : Mode
  pkcs11Module : Option String := none
  pkcs11TokenLabel : Option String := none
  pkcs11ObjectLabel : Option String := none
  pkcs11MaxPinAttempts : ℕ := 3
  pkcs11LockingMode : Pkcs11.LockingMode := .os
  pkcs11PinPrompt : Option String := none
  pkcs11SlotWaitSeconds : ℕ := 10
  pkcs12PathPattern : Option String := none
  pkcs12PinPrompt : Option String := none
  gostEnginePath : Option String := none
  usbWaitSeconds : ℕ := 10
  maxUsbPartitions : Option ℕ := none
  onUsbRemoved : RemovalAction := .lock
  usbRemovedGraceSeconds : ℕ := 0
  suspendGraceSeconds : ℕ := 0
  monitorFailMode : Ipc.MonitorFailMode := .strict
  monitor : RawMonitor := {}
  trust : RawTrust
  trustOverride : List RawTrustOverride := []
  hostIdentity : RawHostIdentity
  userMapping : List RawUserMapping := []
  logging : RawLogging
  hooks : List RawHook := []
  mac : RawMacPolicy := {}
  flyDmGreeter : Option RawFlyDmGreeter := none

/-- The `[monitor]` section as the daemon reads it. -/
structure MonitordSection extends MonitorSection where
  stateFilePath : String
  onUsbRemoved : RemovalAction
  usbRemovedGraceSeconds : ℕ
  suspendGraceSeconds : ℕ
  onUsbRemovedHookPath : Option String
  idleTimeoutSeconds : ℕ
  maxConcurrentConnections : ℕ
  deriving DecidableEq, Repr

inductive LogLevel where
  | trace
  | debug
  | info
  | warn
  | error
  deriving DecidableEq, Repr

inductive SyslogFacility where
  | auth
  | authpriv
  | user
  | daemon
  deriving DecidableEq, Repr

structure LoggingSection where
  level : LogLevel
  syslogFacility : SyslogFacility
  journaldPriority : Bool
  deriving DecidableEq, Repr

inductive Gravity where
  | north
  | south
  | east
  | west
  | center
  deriving DecidableEq, Repr

structure FlyDmGreeterSection where
  updateWallpaper : Bool
  wallpaperTarget : String
  wallpaperBackup : String
  wallpaperFont : String
  wallpaperFontSize : ℕ
  wallpaperTextColor : UInt8 × UInt8 × UInt8 × UInt8
  wallpaperGravity : Gravity
  wallpaperOffsetX : ℤ
  wallpaperOffsetY : ℤ
  templateRu : String
  templateEn : String
  deriving DecidableEq, Repr

def FlyDmGreeterSection.default : FlyDmGreeterSection where
  updateWallpaper := false
  wallpaperTarget := "/usr/share/wallpapers/fly-default-light.jpg"
  wallpaperBackup := "/var/lib/pam_certauth/wallpaper.orig.jpg"
  wallpaperFont := "/usr/share/fonts/truetype/dejavu/DejaVuSans-Bold.ttf"
  wallpaperFontSize := 64
  wallpaperTextColor := (0, 0, 0, 255)
  wallpaperGravity := .south
  wallpaperOffsetX := 0
  wallpaperOffsetY := 120
  templateRu := "Банкомат %n  host_id=\x7bhost_id_short\x7d (\x7bsource\x7d)"
  templateEn := "ATM %n  host_id=\x7bhost_id_short\x7d (\x7bsource\x7d)"

/-- The whole validated configuration. -/
structure LoadedConfig extends ValidatedConfig where
  pkcs12PinPrompt : Option String
  usbWait : Duration
  maxUsbPartitions : ℕ
  monitord : MonitordSection
  monitor_eq : monitor = monitord.toMonitorSection
  trustOverrides : List TrustOverride
  hostIdentity : HostIdentitySection
  logging : LoggingSection
  mac : MacPolicy
  flyDmGreeter : FlyDmGreeterSection

/-- What `Error::ConfigInvalid` is raised for. -/
inductive Reason where
  | logLevel (text : String)
  | syslogFacility (text : String)
  | invalidOrDuplicateUser
  | notOneCriterion
  | pkcs11ModuleMissing
  | labelEmpty (field : String)
  | labelTooLong (field : String) (len : ℕ)
  | labelWithNul (field : String)
  | pinAttempts (got : ℕ)
  | slotWait (got : ℕ)
  | promptEmpty
  | promptTooLong (len : ℕ)
  | noPartitions
  | tooLarge (field : String) (high got : ℕ)
  | outside (field : String) (low high got : ℕ)
  | notAbsolute (field path : String)
  | failMode (text : String)
  | hookPathMissing
  | hookPathUnused
  | disabledButRequired
  | integrityNotBuilt
  | runtimeNotBuilt
  | categoriesTooLong (len : ℕ)
  | categoriesNotHex (e : NumeralError)
  | textColor (text : String)
  | gravity (text : String)
  | fontSizeZero
  deriving DecidableEq, Repr

def pkcs11LabelMaxLen : ℕ := 64

def pkcs11PromptMaxLen : ℕ := 128

def macCategoriesHexMaxLen : ℕ := 16

def Reason.text : Reason → String
  | logLevel text => "invalid log level: " ++ text
  | syslogFacility text => "invalid syslog facility: " ++ text
  | invalidOrDuplicateUser => "invalid or duplicate pam_user"
  | notOneCriterion => "user_mapping must set exactly one criterion"
  | pkcs11ModuleMissing => "pkcs11_module is required when mode = \"pkcs11\""
  | labelEmpty field => field ++ " must be non-empty when set"
  | labelTooLong field len =>
    field ++ " must be at most " ++ toString pkcs11LabelMaxLen ++ " bytes (got " ++ toString len ++
      ")"
  | labelWithNul field => field ++ " must not contain NUL bytes"
  | pinAttempts got => "pkcs11_max_pin_attempts must be in 1..=5, got " ++ toString got
  | slotWait got => "pkcs11_slot_wait_seconds must be in 0..=60, got " ++ toString got
  | promptEmpty => "pkcs11_pin_prompt must be non-empty when set"
  | promptTooLong len =>
    "pkcs11_pin_prompt must be at most " ++ toString pkcs11PromptMaxLen ++ " bytes (got " ++
      toString len ++ ")"
  | noPartitions => "max_usb_partitions must be >= 1"
  | tooLarge field high got =>
    field ++ " must be <= " ++ toString high ++ " (got " ++ toString got ++ ")"
  | outside field low high got =>
    field ++ " must be in " ++ toString low ++ "..=" ++ toString high ++ " (got " ++ toString got ++
      ")"
  | notAbsolute field path => field ++ " must be absolute (got " ++ path ++ ")"
  | failMode text =>
    "monitor.fail_mode must be one of \"strict\", \"permissive\", \"degraded\" (got " ++
      debugText text.toList ++ ")"
  | hookPathMissing => "monitor.on_usb_removed = \"hook\" requires monitor.on_usb_removed_hook_path"
  | hookPathUnused =>
    "monitor.on_usb_removed_hook_path is only valid when on_usb_removed = \"hook\""
  | disabledButRequired =>
    "[mac].runtime = \"disabled\" is incompatible with cert_integrity = \"required\" " ++
      "(the stub backend cannot enforce the cert label)"
  | integrityNotBuilt =>
    "[mac].cert_integrity = \"required\" but binary built without `astra-mac` feature"
  | runtimeNotBuilt => "[mac].runtime = \"required\" but binary built without `astra-mac` feature"
  | categoriesTooLong len =>
    "mac.fallback_max_integrity.categories must be at most " ++ toString macCategoriesHexMaxLen ++
      " hex chars (got " ++ toString len ++ ")"
  | categoriesNotHex e =>
    "mac.fallback_max_integrity.categories must be hex: " ++ numeralErrorText e
  | textColor text =>
    "fly_dm_greeter.wallpaper_text_color must be #RRGGBB or #RRGGBBAA (got " ++
      debugText text.toList ++ ")"
  | gravity text =>
    "fly_dm_greeter.wallpaper_gravity must be one of north|south|east|west|center (got " ++
      debugText text.toList ++ ")"
  | fontSizeZero => "fly_dm_greeter.wallpaper_font_size must be > 0"

/-- Errors of the whole validation. -/
inductive LoadError where
  | invalid (reason : Reason)
  | config (e : Error)
  | hookValidation (e : HookValidationError)
  | gostEnginePathRequiresOpenssl
  | gostEnginePathUnreadable (path source : String)
  deriving DecidableEq, Repr

/-- What the validation asks the host for, and the build it is part of. -/
structure LoadHost where
  read : String → Except String Bytes
  /-- Whether a path leads to a regular file. -/
  metadata : String → Except String Bool
  /-- Built with the `astra-mac` feature. -/
  astraMac : Bool

def LoadHost.fs (host : LoadHost) : FileSystem where
  read := host.read
  isFile path := match host.metadata path with
    | .ok isFile => isFile
    | .error _ => false

def toAsciiLowercase (s : String) : String := s.map Char.toLower

def LogLevel.fromStr (s : String) : Except Reason LogLevel :=
  match toAsciiLowercase s with
  | "trace" => .ok .trace
  | "debug" => .ok .debug
  | "info" => .ok .info
  | "warn" | "warning" => .ok .warn
  | "error" => .ok .error
  | _ => .error (.logLevel s)

def SyslogFacility.fromStr (s : String) : Except Reason SyslogFacility :=
  match toAsciiLowercase s with
  | "auth" => .ok .auth
  | "authpriv" => .ok .authpriv
  | "user" => .ok .user
  | "daemon" => .ok .daemon
  | _ => .error (.syslogFacility s)

def validateLogging (raw : RawLogging) : Except Reason LoggingSection := do
  let level ← LogLevel.fromStr raw.level
  let syslogFacility ← SyslogFacility.fromStr raw.syslogFacility
  .ok ⟨level, syslogFacility, raw.journaldPriority⟩

/-- The texts that `^[a-z_][a-z0-9_-]{0,31}$` matches. -/
def isUserName (name : String) : Bool :=
  match name.toList with
  | [] => false
  | c :: cs =>
    (c.isLower || c == '_') && cs.length ≤ 31 &&
      cs.all fun c => c.isLower || c.isDigit || c == '_' || c == '-'

/-- The one criterion that is set. -/
def RawUserMapping.criterion (raw : RawUserMapping) : Option UserMatchCriteria :=
  match raw.certSubjectCn, raw.certSanEmail, raw.certSanUpn with
  | some cn, none, none => some (.subjectCn cn)
  | none, some email, none => some (.sanEmail email)
  | none, none, some upn => some (.sanUpn upn)
  | _, _, _ => none

def collectMappings (seen : List String) :
    List RawUserMapping → Except Reason (List UserMapping)
  | [] => .ok []
  | raw :: rest =>
    if ¬ isUserName raw.pamUser ∨ raw.pamUser ∈ seen then .error .invalidOrDuplicateUser
    else
      match raw.criterion with
      | none => .error .notOneCriterion
      | some criteria => do
        let mappings ← collectMappings (raw.pamUser :: seen) rest
        .ok (⟨raw.pamUser, criteria⟩ :: mappings)

def validateUserMappings (raw : List RawUserMapping) : Except Reason (List UserMapping) :=
  collectMappings [] raw

/-- Refuse if a condition holds. -/
def reject (p : Prop) [Decidable p] (reason : Reason) : Except Reason Unit :=
  if p then .error reason else .ok ()

def validatePkcs11Label (field value : String) : Except Reason Unit := do
  reject (value = "") (.labelEmpty field)
  reject (value.utf8ByteSize > pkcs11LabelMaxLen) (.labelTooLong field value.utf8ByteSize)
  reject ('\x00' ∈ value.toList) (.labelWithNul field)

def validatePkcs11Prompt (prompt : String) : Except Reason Unit := do
  reject (prompt = "") .promptEmpty
  reject (prompt.utf8ByteSize > pkcs11PromptMaxLen) (.promptTooLong prompt.utf8ByteSize)

/-- Run a check on a value that may be absent. -/
def checkSome (value : Option String) (check : String → Except Reason Unit) : Except Reason Unit :=
  match value with
  | none => .ok ()
  | some value => check value

def validatePkcs11Section (raw : RawConfig) : Except Reason Unit := do
  reject (raw.mode = .pkcs11 ∧ raw.pkcs11Module = none) .pkcs11ModuleMissing
  checkSome raw.pkcs11TokenLabel (validatePkcs11Label "pkcs11_token_label")
  checkSome raw.pkcs11ObjectLabel (validatePkcs11Label "pkcs11_object_label")
  reject (¬ (1 ≤ raw.pkcs11MaxPinAttempts ∧ raw.pkcs11MaxPinAttempts ≤ 5))
    (.pinAttempts raw.pkcs11MaxPinAttempts)
  reject (¬ raw.pkcs11SlotWaitSeconds ≤ 60) (.slotWait raw.pkcs11SlotWaitSeconds)
  checkSome raw.pkcs11PinPrompt validatePkcs11Prompt

def validateGostEnginePath (host : LoadHost) (raw : RawConfig) :
    Except LoadError (Option String) :=
  match raw.gostEnginePath with
  | none => .ok none
  | some path =>
    if raw.cryptoBackend ≠ .openssl then .error .gostEnginePathRequiresOpenssl
    else
      match host.metadata path with
      | .error source => .error (.gostEnginePathUnreadable path source)
      | .ok isFile =>
        if isFile then .ok (some path)
        else .error (.gostEnginePathUnreadable path "gost_engine_path is not a regular file")

def maxUsbPartitionsHardCap : ℕ := 64

def validateMaxUsbPartitions (raw : Option ℕ) : Except Reason ℕ := do
  let v := raw.getD 8
  reject (v = 0) .noPartitions
  reject (v > maxUsbPartitionsHardCap) (.tooLarge "max_usb_partitions" maxUsbPartitionsHardCap v)
  .ok v

def monitordTimeoutMsMin : ℕ := 100

def monitordTimeoutMsMax : ℕ := 60000

def monitordIdleTimeoutMin : ℕ := 1

def monitordIdleTimeoutMax : ℕ := 3600

def monitordMaxConnsCap : ℕ := 4096

def monitordGraceMax : ℕ := 600

def rejectOutside (field : String) (low high got : ℕ) : Except Reason Unit :=
  reject (¬ (low ≤ got ∧ got ≤ high)) (.outside field low high got)

def rejectRelative (field path : String) : Except Reason Unit :=
  reject (¬ isAbsolute path.toList) (.notAbsolute field path)

/-- The fail mode of the section; the one outside it counts if there is none. -/
def parseFailMode (legacy : Ipc.MonitorFailMode) :
    Option String → Except Reason Ipc.MonitorFailMode
  | none => .ok legacy
  | some "strict" => .ok .strict
  | some "permissive" | some "degraded" => .ok .permissive
  | some other => .error (.failMode other)

/-- The hook path belongs to the action `hook` and to no other. -/
def validateHookPath (action : RemovalAction) (path : Option String) :
    Except Reason (Option String) :=
  match action, path with
  | .hook, none => .error .hookPathMissing
  | .hook, some path => do
    rejectRelative "monitor.on_usb_removed_hook_path" path
    .ok (some path)
  | _, some _ => .error .hookPathUnused
  | _, none => .ok none

def RawMonitor.effectiveSocketPath (raw : RawMonitor) : String :=
  raw.socketPath.getD "/run/pam_certauth/monitord.sock"

def RawMonitor.effectiveStateFilePath (raw : RawMonitor) : String :=
  raw.stateFilePath.getD "/run/pam_certauth/sessions.json"

-- The removal policy of the section falls back to the fields outside it.
def RawConfig.removalAction (raw : RawConfig) : RemovalAction :=
  raw.monitor.onUsbRemoved.getD raw.onUsbRemoved

def RawConfig.removalGrace (raw : RawConfig) : ℕ :=
  raw.monitor.usbRemovedGraceSeconds.getD raw.usbRemovedGraceSeconds

def RawConfig.suspendGrace (raw : RawConfig) : ℕ :=
  raw.monitor.suspendGraceSeconds.getD raw.suspendGraceSeconds

def validateMonitor (top : RawConfig) : Except Reason MonitordSection := do
  let raw := top.monitor
  rejectRelative "monitor.socket_path" raw.effectiveSocketPath
  rejectRelative "monitor.state_file_path" raw.effectiveStateFilePath
  rejectOutside "monitor.timeout_ms" monitordTimeoutMsMin monitordTimeoutMsMax
    (raw.timeoutMs.getD 2000)
  let failMode ← parseFailMode top.monitorFailMode raw.failMode
  let hookPath ← validateHookPath top.removalAction raw.onUsbRemovedHookPath
  reject (top.removalGrace > monitordGraceMax)
    (.tooLarge "monitor.usb_removed_grace_seconds" monitordGraceMax top.removalGrace)
  reject (top.suspendGrace > monitordGraceMax)
    (.tooLarge "monitor.suspend_grace_seconds" monitordGraceMax top.suspendGrace)
  rejectOutside "monitor.idle_timeout_seconds" monitordIdleTimeoutMin monitordIdleTimeoutMax
    (raw.idleTimeoutSeconds.getD 30)
  rejectOutside "monitor.max_concurrent_connections" 1 monitordMaxConnsCap
    (raw.maxConcurrentConnections.getD 64)
  .ok
    { socketPath := raw.effectiveSocketPath
      timeout := raw.timeoutMs.getD 2000 * 10 ^ 6
      failMode := failMode
      stateFilePath := raw.effectiveStateFilePath
      onUsbRemoved := top.removalAction
      usbRemovedGraceSeconds := top.removalGrace
      suspendGraceSeconds := top.suspendGrace
      onUsbRemovedHookPath := hookPath
      idleTimeoutSeconds := raw.idleTimeoutSeconds.getD 30
      maxConcurrentConnections := raw.maxConcurrentConnections.getD 64 }

/-- The categories of a label, as hexadecimal digits; none for an empty text. -/
def parseCategories (text : String) : Except Reason UInt64 :=
  if text = "" then .ok 0
  else if text.utf8ByteSize > macCategoriesHexMaxLen then
    .error (.categoriesTooLong text.utf8ByteSize)
  else
    match fromStrRadix 16 0 (2 ^ 64 - 1) text.toList with
    | .ok categories => .ok (UInt64.ofNat categories.toNat)
    | .error e => .error (.categoriesNotHex e)

def validateLabel : Option RawIntegrityLabel → Except Reason (Option IntegrityLabel)
  | none => .ok none
  | some raw => do
    let categories ← parseCategories raw.categories
    .ok (some ⟨raw.level, categories⟩)

def validateMac (astraMac : Bool) (raw : RawMacPolicy) : Except Reason MacPolicy := do
  let certIntegrity := raw.certIntegrity.getD .optional
  let runtime := raw.runtime.getD .auto
  reject (runtime = .disabled ∧ certIntegrity = .required) .disabledButRequired
  reject (astraMac = false ∧ certIntegrity = .required) .integrityNotBuilt
  reject (astraMac = false ∧ runtime = .required) .runtimeNotBuilt
  let fallbackMaxIntegrity ← validateLabel raw.fallbackMaxIntegrity
  .ok
    { certIntegrity := certIntegrity
      fallbackMaxIntegrity := fallbackMaxIntegrity
      warnOnHomedirLabelMismatch := raw.warnOnHomedirLabelMismatch.getD true
      runtime := runtime }

/-- `u8::from_str_radix` with radix 16. -/
def parseHexByte (digits : List Char) : Option UInt8 :=
  match fromStrRadix 16 0 255 digits with
  | .ok v => some (UInt8.ofNat v.toNat)
  | .error _ => none

def parseHexColor (s : String) : Option (UInt8 × UInt8 × UInt8 × UInt8) :=
  match s.toList with
  | '#' :: digits =>
    if ¬ digits.all isAsciiHexdigit then none
    else if digits.length = 6 then do
      let r ← parseHexByte (digits.take 2)
      let g ← parseHexByte ((digits.drop 2).take 2)
      let b ← parseHexByte ((digits.drop 4).take 2)
      some (r, g, b, 255)
    else if digits.length = 8 then do
      let r ← parseHexByte (digits.take 2)
      let g ← parseHexByte ((digits.drop 2).take 2)
      let b ← parseHexByte ((digits.drop 4).take 2)
      let a ← parseHexByte ((digits.drop 6).take 2)
      some (r, g, b, a)
    else none
  | _ => none

def parseGravity (s : String) : Option Gravity :=
  match toAsciiLowercase s with
  | "north" => some .north
  | "south" => some .south
  | "east" => some .east
  | "west" => some .west
  | "center" | "centre" => some .center
  | _ => none

/-- A value of the section, or its default if none is set. -/
def parseOr {α : Type} (parse : String → Option α) (reason : String → Reason) (fallback : α) :
    Option String → Except Reason α
  | none => .ok fallback
  | some text =>
    match parse text with
    | none => .error (reason text)
    | some value => .ok value

def absolutePath (field : String) (value : Option String) (fallback : String) :
    Except Reason String :=
  parseOr (fun path => if isAbsolute path.toList then some path else none)
    (.notAbsolute ("fly_dm_greeter." ++ field)) fallback value

def validateFlyDmGreeter : Option RawFlyDmGreeter → Except Reason FlyDmGreeterSection
  | none => .ok .default
  | some raw => do
    let defaults := FlyDmGreeterSection.default
    let wallpaperTarget ←
      absolutePath "wallpaper_target" raw.wallpaperTarget defaults.wallpaperTarget
    let wallpaperBackup ←
      absolutePath "wallpaper_backup" raw.wallpaperBackup defaults.wallpaperBackup
    let wallpaperFont ← absolutePath "wallpaper_font" raw.wallpaperFont defaults.wallpaperFont
    let wallpaperTextColor ←
      parseOr parseHexColor .textColor defaults.wallpaperTextColor raw.wallpaperTextColor
    let wallpaperGravity ←
      parseOr parseGravity .gravity defaults.wallpaperGravity raw.wallpaperGravity
    let wallpaperFontSize := raw.wallpaperFontSize.getD defaults.wallpaperFontSize
    reject (wallpaperFontSize = 0) .fontSizeZero
    .ok
      { updateWallpaper := raw.updateWallpaper.getD defaults.updateWallpaper
        wallpaperTarget := wallpaperTarget
        wallpaperBackup := wallpaperBackup
        wallpaperFont := wallpaperFont
        wallpaperFontSize := wallpaperFontSize
        wallpaperTextColor := wallpaperTextColor
        wallpaperGravity := wallpaperGravity
        wallpaperOffsetX := raw.wallpaperOffsetX.getD defaults.wallpaperOffsetX
        wallpaperOffsetY := raw.wallpaperOffsetY.getD defaults.wallpaperOffsetY
        templateRu := raw.templateRu.getD defaults.templateRu
        templateEn := raw.templateEn.getD defaults.templateEn }

/-- Validate a file. -/
def tryFrom (host : LoadHost) (raw : RawConfig) : Except LoadError LoadedConfig := do
  let trust ← (validateTrust host.fs raw.trust).mapError .config
  let hostIdentity ← (validateHostIdentity raw.hostIdentity).mapError .config
  let userMappings ← (validateUserMappings raw.userMapping).mapError .invalid
  let logging ← (validateLogging raw.logging).mapError .invalid
  let hooks ← (raw.hooks.mapM validateHook).mapError .hookValidation
  let gostEnginePath ← validateGostEnginePath host raw
  (validatePkcs11Section raw).mapError .invalid
  let pkcs12PathPattern ← (validatePkcs12PathPattern raw.pkcs12PathPattern).mapError .config
  let maxUsbPartitions ← (validateMaxUsbPartitions raw.maxUsbPartitions).mapError .invalid
  let monitord ← (validateMonitor raw).mapError .invalid
  let trustOverrides ← (validateTrustOverrides host.fs raw.trustOverride).mapError .config
  let mac ← (validateMac host.astraMac raw.mac).mapError .invalid
  let flyDmGreeter ← (validateFlyDmGreeter raw.flyDmGreeter).mapError .invalid
  .ok
    { cryptoBackend := raw.cryptoBackend
      mode := raw.mode
      pkcs11Module := raw.pkcs11Module
      pkcs11TokenLabel := raw.pkcs11TokenLabel
      pkcs11ObjectLabel := raw.pkcs11ObjectLabel
      pkcs11MaxPinAttempts := raw.pkcs11MaxPinAttempts
      pkcs11LockingMode := raw.pkcs11LockingMode
      pkcs11PinPrompt := raw.pkcs11PinPrompt
      pkcs11SlotWait := Duration.fromSecs raw.pkcs11SlotWaitSeconds
      pkcs12PathPattern := pkcs12PathPattern
      pkcs12PinPrompt := raw.pkcs12PinPrompt
      gostEnginePath := gostEnginePath
      usbWait := Duration.fromSecs raw.usbWaitSeconds
      maxUsbPartitions := maxUsbPartitions
      monitor := monitord.toMonitorSection
      monitord := monitord
      monitor_eq := rfl
      trust := trust
      trustOverrides := trustOverrides
      hostIdentity := hostIdentity
      userMappings := userMappings
      logging := logging
      hooks := hooks
      mac := mac
      flyDmGreeter := flyDmGreeter }

end PamCertauth.Config
