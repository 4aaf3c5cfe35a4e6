import PamCertauth.AuthenticationFlow
import PamCertauth.LabelText

/-!
# The token library

The flow sees a token through an interface. This is what stands behind it in production
(`token/pkcs11/`): the module of the vendor is loaded and called through `cryptoki`, the wait
for a token polls the slots, a session is opened and logged in with the PIN, and its drop logs
out and closes it. The drop of the backend finalises the module. Before each login the
self-check (`self_check.rs`) loads the module, asks for the slots and finalises it again.

With the locking mode `mutex` a lock of the process is held during most calls. It is not held
while the module is loaded or finalised, nor when the session of a refused PIN is closed.

The calls and the lock are logged as they come. The other collaborators of the flow work on the
same environment, and what they are asked is logged beside the calls.
-/

namespace PamCertauth.Flow

open X509 X509.CryptoLibrary Hooks Pkcs11

abbrev SessionHandle := ℕ

structure TokenInfo where
  label : String
  serialNumber : String
  deriving DecidableEq, Repr

inductive LoginError where
  | pinIncorrect
  | pinLocked
  | other (detail : String)
  deriving DecidableEq, Repr

/-- The module of the vendor behind `cryptoki`, and the clock. The clock tells how much time has
passed since it was last asked, and a sleep how much longer than wanted it was. -/
structure Cryptoki (ρ : Type) where
  moduleExists : String → ρ → Bool × ρ
  moduleIsFile : String → ρ → Except String Bool × ρ
  loadModule : String → ρ → Except String Unit × ρ
  cInitialize : ρ → Except String Unit × ρ
  cFinalize : ρ → ρ
  getSlotsWithToken : ρ → Except String (List Slot) × ρ
  getTokenInfo : Slot → ρ → Except String TokenInfo × ρ
  openRwSession : Slot → ρ → Except String SessionHandle × ρ
  login : SessionHandle → String → ρ → Except LoginError Unit × ρ
  logout : SessionHandle → ρ → Except String Unit × ρ
  closeSession : SessionHandle → ρ → ρ
  findObjects : SessionHandle → List Attribute → ρ → Except String (List ObjectHandle) × ρ
  getAttributes : SessionHandle → ObjectHandle → List AttributeType → ρ →
    Except String (List Attribute) × ρ
  sign : SessionHandle → Mechanism → ObjectHandle → Bytes → ρ → Except String Bytes × ρ
  elapsed : ρ → ℕ × ρ
  sleep : Duration → ρ → ℕ × ρ

/-- A call of the module. `Pkcs11::new` opens the library and asks it for its functions. A session
is closed by the drop of its wrapper, or by that of the bare session in `Pkcs11Session::open` when
the login was refused; both are `C_CloseSession`. -/
inductive TokenCall where
  | loadModule (loaded : Bool)
  | cInitialize (accepted : Bool)
  | getSlotList
  | getTokenInfo (slot : Slot)
  | openSession (slot : Slot) (opened : Option SessionHandle)
  | login (h : SessionHandle) (accepted : Bool)
  | closeRefused (h : SessionHandle)
  | findObjects (h : SessionHandle)
  | getAttributes (h : SessionHandle)
  | sign (h : SessionHandle)
  | logout (h : SessionHandle)
  | closeSession (h : SessionHandle)
  | cFinalize
  deriving DecidableEq, Repr

/-- What a login does beside the module. `entry` stands for everything that `pam_sm_authenticate`
does around the self-check and before the flow. -/
inductive OutsideEvent where
  | entry
  | moduleFile
  | clock
  | sleep
  | prompt
  | hook
  | report
  | softwareKey
  | random
  | verify
  | passwd
  | wallClock
  deriving DecidableEq, Repr

inductive TokenEvent where
  | lock
  | unlock
  | call (c : TokenCall)
  | outside (e : OutsideEvent)
  deriving DecidableEq, Repr

section Backend

variable {ρ ε : Type} (ck : Cryptoki ρ) (mode : LockingMode)

abbrev TokenProg (ρ : Type) := Prog ρ TokenEvent Pkcs11Error

/-- The lock is given back when the call has returned, with whatever result. -/
def withGlobalLock {α : Type} (p : Prog ρ TokenEvent ε α) : Prog ρ TokenEvent ε α :=
  match mode with
  | .os => p
  | .mutex => fun s => ⟨(p s).result, (p s).env, .lock :: (p s).calls ++ [.unlock]⟩

def trimEnd (s : String) : String := String.ofList (s.toList.rdropWhile isWhiteSpace)

/-- The drop of the module's context. -/
def dropContext : Prog ρ TokenEvent ε Unit :=
  Prog.call (fun s => ((), ck.cFinalize s)) fun _ => .call .cFinalize

def initContext : TokenProg ρ Unit :=
  withGlobalLock mode
    (Prog.request ck.cInitialize (fun answer => .call (.cInitialize answer.isOk)) .initFailed)

-- The context is dropped when the module could not be initialised.
def load (modulePath : String) : TokenProg ρ Unit := do
  let found ← Prog.call (ck.moduleExists modulePath) fun _ => .outside .moduleFile
  if found then
    Prog.request (ck.loadModule modulePath) (fun answer => .call (.loadModule answer.isOk))
      (.moduleLoadFailed modulePath)
    Prog.onFailure (initContext ck mode) (dropContext ck)
  else Prog.fail (.modulePathMissing modulePath)

def listSlotsWithToken : TokenProg ρ (List Slot) :=
  withGlobalLock mode (Prog.request ck.getSlotsWithToken (fun _ => .call .getSlotList) .cryptoki)

/-- Why the self-check refuses the module. A load that panics is a failed one. -/
inductive Pkcs11ModuleMissing where
  | notSet
  | notFound (modulePath : String)
  | unreadable (modulePath source : String)
  | notRegularFile (modulePath : String)
  | loadFailed (modulePath : String) (e : Pkcs11Error)
  deriving DecidableEq, Repr

-- A slot list without a token or with an error is only worth a warning. The backend is dropped
-- at the end.
def selfCheckPkcs11 : Option String → Prog ρ TokenEvent Pkcs11ModuleMissing Unit
  | none => Prog.fail .notSet
  | some modulePath => do
    let found ← Prog.call (ck.moduleExists modulePath) fun _ => .outside .moduleFile
    if found then
      let isFile ← Prog.request (ck.moduleIsFile modulePath) (fun _ => .outside .moduleFile)
        (.unreadable modulePath)
      if isFile then
        Prog.mapError (.loadFailed modulePath) (load ck mode modulePath)
        let _ ← Prog.attempt (listSlotsWithToken ck mode)
        dropContext ck
      else Prog.fail (.notRegularFile modulePath)
    else Prog.fail (.notFound modulePath)

def tokenInfo (slot : Slot) : TokenProg ρ TokenInfo :=
  withGlobalLock mode
    (Prog.request (ck.getTokenInfo slot) (fun _ => .call (.getTokenInfo slot)) .cryptoki)

/-- The first slot whose token has the label. -/
def slotWithLabel (want : String) : List Slot → TokenProg ρ Slot
  | [] => Prog.fail (.tokenNotFound want)
  | slot :: slots => do
    let info ← tokenInfo ck mode slot
    if trimEnd info.label = want then pure slot else slotWithLabel want slots

def findSlot (tokenLabel : Option String) : TokenProg ρ Slot := do
  let slots ← listSlotsWithToken ck mode
  match slots, tokenLabel with
  | [], _ => Prog.fail .noTokenAvailable
  | slot :: _, none => pure slot
  | slot :: slots, some want => slotWithLabel ck mode want (slot :: slots)

def pollInterval : Duration := 200 * 10 ^ 6

def keepsPolling : Pkcs11Error → Bool
  | .noTokenAvailable | .tokenNotFound _ => true
  | _ => false

/-- The polling loop, so long after its start. -/
def pollForToken (tokenLabel : Option String) (timeout elapsed : ℕ) : TokenProg ρ Slot := do
  match ← Prog.attempt (findSlot ck mode tokenLabel) with
  | .ok slot => pure slot
  | .error e =>
    if keepsPolling e then
      let passed ← Prog.call ck.elapsed fun _ => .outside .clock
      if timeout ≤ elapsed + passed then
        Prog.fail (.tokenWaitTimeout (timeout / 10 ^ 9))
      else
        let late ← Prog.call (ck.sleep pollInterval) fun _ => .outside .sleep
        pollForToken tokenLabel timeout (elapsed + passed + (pollInterval + late))
    else Prog.fail e
  termination_by timeout - elapsed
  decreasing_by
    have hinterval : (0 : ℕ) < pollInterval := by decide
    omega

def waitForTokenWithClock (tokenLabel : Option String) (timeout : Duration) : TokenProg ρ Slot :=
  pollForToken ck mode tokenLabel timeout 0

def readTokenSerial (slot : Slot) : TokenProg ρ String := do
  let info ← tokenInfo ck mode slot
  if trimEnd info.serialNumber = "" then Prog.fail .tokenSerialMissing
  else pure (trimEnd info.serialNumber)

def LoginError.toPkcs11Error : LoginError → Pkcs11Error
  | .pinIncorrect => .pinIncorrect
  | .pinLocked => .pinLocked
  | .other detail => .cryptoki detail

-- A refused login returns while the bare session is a local variable. Its drop closes the
-- session, and no lock is taken for it.
def openPkcs11Session (slot : Slot) (pin : String) : TokenProg ρ SessionHandle := do
  let h ← withGlobalLock mode (Prog.request (ck.openRwSession slot)
    (fun answer => .call (.openSession slot answer.toOption)) .sessionOpenFailed)
  match ← withGlobalLock mode
      (Prog.call (ck.login h pin) fun answer => .call (.login h answer.isOk)) with
  | .ok () => pure h
  | .error e => do
    Prog.call (fun s => ((), ck.closeSession h s)) fun _ => .call (.closeRefused h)
    Prog.fail e.toPkcs11Error

def dropPkcs11Session (h : SessionHandle) : Prog ρ TokenEvent Empty Unit := do
  let _ ← withGlobalLock mode (Prog.call (ck.logout h) fun _ => .call (.logout h))
  withGlobalLock mode
    (Prog.call (fun s => ((), ck.closeSession h s)) fun _ => .call (.closeSession h))

end Backend

/-- The environment, and what has been logged so far. -/
structure TokenWorld (ρ : Type) where
  env : ρ
  trace : List TokenEvent

section World

variable {ρ ε α : Type}

def TokenWorld.perform (p : Prog ρ TokenEvent ε α) (w : TokenWorld ρ) :
    Except ε α × TokenWorld ρ :=
  ((p w.env).result, ⟨(p w.env).env, w.trace ++ (p w.env).calls⟩)

/-- An operation that is none of the token library's, with its entry in the log. -/
def TokenWorld.beside (e : OutsideEvent) (op : ρ → α × ρ) (w : TokenWorld ρ) :
    α × TokenWorld ρ :=
  ((op w.env).1, ⟨(op w.env).2, w.trace ++ [.outside e]⟩)

open TokenWorld

def tokenSession (ck : Cryptoki ρ) (mode : LockingMode) (h : SessionHandle) :
    Pkcs11Session (TokenWorld ρ) where
  findObjects template := perform (withGlobalLock mode
    (Prog.request (ck.findObjects h template) (fun _ => .call (.findObjects h)) id))
  getAttributes object types := perform (withGlobalLock mode
    (Prog.request (ck.getAttributes h object types) (fun _ => .call (.getAttributes h)) id))
  sign mechanism key data := perform (withGlobalLock mode
    (Prog.request (ck.sign h mechanism key data) (fun _ => .call (.sign h)) id))
  close w := (perform (dropPkcs11Session ck mode h) w).2

def tokenBackend (ck : Cryptoki ρ) (mode : LockingMode) : Pkcs11Backend (TokenWorld ρ) where
  waitForToken timeout tokenLabel := perform (waitForTokenWithClock ck mode tokenLabel timeout)
  readTokenSerial slot := perform (readTokenSerial ck mode slot)
  openWithPin slot pin w :=
    let opened := perform (openPkcs11Session ck mode slot pin) w
    (opened.1.map (tokenSession ck mode), opened.2)
  close w := (perform (dropContext ck : Prog ρ TokenEvent Empty Unit) w).2

variable {X509 : Type} [CryptoLibrary X509]

def Platform.withTokens (platform : Platform ρ X509) (ck : Cryptoki ρ) :
    Platform (TokenWorld ρ) X509 where
  fillNonce := beside .random platform.fillNonce
  sign key scheme data := beside .softwareKey (platform.sign key scheme data)
  now := beside .wallClock platform.now
  userFromName name := beside .passwd (platform.userFromName name)
  loadBackend path mode w :=
    let loaded := perform (load ck mode path) w
    (loaded.1.map fun _ => tokenBackend ck mode, loaded.2)

def Deps.withTokens (deps : Deps ρ X509) : Deps (TokenWorld ρ) X509 where
  cfg := deps.cfg
  trustVerify leaf presented := beside .verify (deps.trustVerify leaf presented)
  monitor := ⟨fun info => beside .report (deps.monitor.openSession info)⟩
  hookExecutor hook vars := beside .hook (deps.hookExecutor hook vars)
  hostIdHash := deps.hostIdHash
  hostIdSource := deps.hostIdSource
  userMappings := deps.userMappings
  pamTarget := deps.pamTarget

def PinPrompter.withTokens (promptPin : PinPrompter ρ) : PinPrompter (TokenWorld ρ) :=
  fun text => beside .prompt (promptPin text)

end World

end PamCertauth.Flow
