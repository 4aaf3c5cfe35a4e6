import PamCertauth.HookValidation

/-!
# The processes of the hooks

The executor of `hooks/fork_exec.rs`: it looks the user up, builds the environment and
the arguments, forks, and sets the child up for `execve` (`hooks/child_setup.rs`). The
system calls of the child are logged; each either fails or has its effect on the
credentials of the process.
-/

namespace PamCertauth.Hooks

open X509

structure Passwd where
  name : String
  uid : UInt32
  gid : UInt32
  dir : String
  deriving DecidableEq, Repr

/-- The user database. A list of groups contains the primary one. -/
structure UserDatabase where
  fromName : String → Except String (Option Passwd)
  groupList : String → UInt32 → Except String (List UInt32)
  primary_mem : ∀ {name : String} {gid : UInt32} {groups : List UInt32},
    groupList name gid = .ok groups → gid ∈ groups

structure UserInfo where
  name : String
  uid : UInt32
  gid : UInt32
  groups : List UInt32
  home : String
  deriving DecidableEq, Repr

def hasNul (s : String) : Bool := s.toList.contains '\x00'

def lookupUser (users : UserDatabase) (name : String) : Except HookError UserInfo :=
  if name = "" then .error (.childSetup "empty username")
  else if hasNul name then .error (.childSetup "username contains NUL byte")
  else
    match users.fromName name with
    | .error e => .error (.userResolution name e)
    | .ok none => .error (.userResolution name "No such file or directory (os error 2)")
    | .ok (some user) => do
      let groups ← (users.groupList name user.gid).mapError (.userResolution name)
      .ok ⟨user.name, user.uid, user.gid, groups, user.dir⟩

/-- The database has an account of this name, with these numbers. -/
structure IsAccount (users : UserDatabase) (name : String) (uid gid : UInt32)
    (groups : List UInt32) : Prop where
  entry : ∃ user, users.fromName name = .ok (some user) ∧ user.uid = uid ∧ user.gid = gid
  groups_eq : users.groupList name gid = .ok groups

theorem isAccount_of_lookupUser {users : UserDatabase} {name : String} {info : UserInfo}
    (h : lookupUser users name = .ok info) :
    IsAccount users name info.uid info.gid info.groups := by
  rw [lookupUser, guard_bind_eq_ok_iff, guard_bind_eq_ok_iff] at h
  obtain ⟨-, -, h⟩ := h
  split at h
  · cases h
  · cases h
  · next user huser =>
    rw [bind_eq_ok_iff] at h
    obtain ⟨groups, hgroups, hinfo⟩ := h
    cases hinfo
    exact ⟨⟨user, huser, rfl, rfl⟩, mapError_eq_ok_iff.mp hgroups⟩

theorem IsAccount.groups_ne_nil {users : UserDatabase} {name : String} {uid gid : UInt32}
    {groups : List UInt32} (h : IsAccount users name uid gid groups) : groups ≠ [] :=
  List.ne_nil_of_mem (users.primary_mem h.groups_eq)

def HookStage.display : HookStage → String
  | .preAuth => "pre_auth"
  | .postAuthSuccess => "post_auth_success"
  | .sessionOpen => "session_open"
  | .sessionClose => "session_close"
  | .usbRemoved => "usb_removed"

def HookVars.resolve (vars : HookVars) : PlaceholderVar → Option String
  | .pamUser => vars.pamUser
  | .pamService => vars.pamService
  | .hostId => vars.hostId
  | .hostIdHash => vars.hostIdHash
  | .hostIdSource => vars.hostIdSource
  | .certCn => vars.certCn
  | .certSerial => vars.certSerial
  | .usbSerial => vars.usbSerial
  | .usbVidPid => vars.usbVidPid
  | .sessionId => vars.sessionId

/-- Set a variable in an environment that is ordered by its keys. -/
def envInsert (key value : String) : List (String × String) → List (String × String)
  | [] => [(key, value)]
  | (k, v) :: env =>
    if key < k then (key, value) :: (k, v) :: env
    else if key = k then (key, value) :: env
    else (k, v) :: envInsert key value env

/-- The variables that every hook gets. Those without a value are empty. -/
def fixedEnv (stage : HookStage) (vars : HookVars) (user : Option UserInfo) :
    List (String × String) :=
  let userName := (user.map (·.name)).getD "root"
  let home := (user.map (·.home)).getD "/root"
  [("PATH", "/usr/sbin:/usr/bin:/sbin:/bin"), ("HOME", home), ("USER", userName),
    ("LOGNAME", userName), ("LANG", "C.UTF-8"), ("PAM_CERTAUTH_STAGE", stage.display),
    ("PAM_CERTAUTH_USER", vars.pamUser.getD ""),
    ("PAM_CERTAUTH_SERVICE", vars.pamService.getD ""),
    ("PAM_CERTAUTH_HOST_ID", vars.hostId.getD ""),
    ("PAM_CERTAUTH_HOST_ID_HASH", vars.hostIdHash.getD ""),
    ("PAM_CERTAUTH_HOST_ID_SOURCE", vars.hostIdSource.getD ""),
    ("PAM_CERTAUTH_CERT_CN", vars.certCn.getD ""),
    ("PAM_CERTAUTH_CERT_SERIAL", vars.certSerial.getD ""),
    ("PAM_CERTAUTH_USB_SERIAL", vars.usbSerial.getD ""),
    ("PAM_CERTAUTH_USB_VID_PID", vars.usbVidPid.getD ""),
    ("PAM_CERTAUTH_SESSION_ID", vars.sessionId.getD "")]

def renderTemplate (vars : HookVars) : List TemplatePart → Except HookError String :=
  renderParts .unresolvedVar vars.resolve

def controlReason (b : UInt8) : Option String :=
  if b = 0x0A then some "contains newline (0x0A)"
  else if b = 0x0D then some "contains carriage return (0x0D)"
  else if b = 0 then some "contains NUL byte"
  else if b < 0x20 then some "contains control byte (< 0x20)"
  else none

def forbiddenControlReason (v : String) : Option String := v.toUTF8.toList.findSome? controlReason

def encodeEnvEntry (entry : String × String) : Except HookError String :=
  match forbiddenControlReason entry.2 with
  | some reason => .error (.envValueRejected entry.1 reason)
  | none =>
    let raw := entry.1 ++ "=" ++ entry.2
    if hasNul raw then .error (.childSetup "env value contains NUL byte") else .ok raw

def buildEnvVector (hook : HookConfig) (vars : HookVars) (user : Option UserInfo) :
    Except HookError (List String) := do
  let custom ← hook.env.mapM fun entry => (entry.1, ·) <$> renderTemplate vars entry.2
  let env := (fixedEnv hook.stage vars user ++ custom).foldl (fun env e => envInsert e.1 e.2 env) []
  env.mapM encodeEnvEntry

/-- What the kernel checks of a process. -/
structure Process where
  uid : UInt32
  gid : UInt32
  groups : List UInt32
  noNewPrivs : Bool
  deriving DecidableEq, Repr

inductive Resource where
  | cpu
  | nofile
  | fsize
  | nproc
  deriving DecidableEq, Repr

inductive Syscall where
  | setpgid
  | setsid
  | openDevNull
  | dup2 (target : ℕ)
  | setrlimit (resource : Resource) (limit : ℕ)
  | umask (mask : ℕ)
  | setNoNewPrivs
  | setgroups (groups : List UInt32)
  | setgid (gid : UInt32)
  | setuid (uid : UInt32)
  | execve (argv env : List String)
  deriving DecidableEq, Repr

/-- Which calls succeed, and what the set-id bits of a program file make of the process
that executes it. -/
structure Kernel where
  succeeds : Syscall → Process → Bool
  setIdBits : List String → Process → Process

/-- The process behind a call that succeeds. Set-id bits have no effect on a process that
gave up new privileges. -/
def Kernel.effect (kernel : Kernel) (p : Process) : Syscall → Process
  | .setNoNewPrivs => { p with noNewPrivs := true }
  | .setgroups groups => { p with groups := groups }
  | .setgid gid => { p with gid := gid }
  | .setuid uid => { p with uid := uid }
  | .execve argv _ => if p.noNewPrivs then p else kernel.setIdBits argv p
  | _ => p

/-- The program that a process executes. -/
structure Image where
  argv : List String
  env : List String
  deriving DecidableEq, Repr

abbrev ChildProg := Prog Process Syscall String

def syscall (kernel : Kernel) (call : Syscall) : ChildProg Bool :=
  Prog.call (fun p => if kernel.succeeds call p then (true, kernel.effect p call) else (false, p))
    fun _ => call

/-- Make a call; a failure is written to the error output and ends the child. -/
def orDie (kernel : Kernel) (call : Syscall) (msg : String) : ChildProg Unit := do
  if ← syscall kernel call then pure () else Prog.fail msg

structure RlimitCaps where
  cpuSeconds : ℕ
  maxOpenFiles : ℕ
  maxProcesses : ℕ
  maxFileSizeBytes : ℕ
  deriving DecidableEq, Repr

def defaultCapsForTimeout (timeout : Duration) : RlimitCaps where
  cpuSeconds := max (timeout / 10 ^ 9 * 2) 2
  maxOpenFiles := 256
  maxProcesses := 64
  maxFileSizeBytes := 1024 * 1024

def applyCaps (kernel : Kernel) (caps : RlimitCaps) : ChildProg Unit := do
  let msg := "hook child: setrlimit failed\n"
  orDie kernel (.setrlimit .cpu caps.cpuSeconds) msg
  orDie kernel (.setrlimit .nofile caps.maxOpenFiles) msg
  orDie kernel (.setrlimit .fsize caps.maxFileSizeBytes) msg
  orDie kernel (.setrlimit .nproc caps.maxProcesses) msg

/-- The steps before the child gives up its identity. -/
def restrictChild (kernel : Kernel) (caps : RlimitCaps) : ChildProg Unit := do
  orDie kernel .setpgid "hook child: setpgid failed\n"
  let _ ← syscall kernel .setsid
  orDie kernel .openDevNull "hook child: open(/dev/null) failed\n"
  orDie kernel (.dup2 0) "hook child: dup2(devnull, 0) failed\n"
  orDie kernel (.dup2 1) "hook child: dup2(stdout, 1) failed\n"
  orDie kernel (.dup2 2) "hook child: dup2(stderr, 2) failed\n"
  applyCaps kernel caps
  let _ ← syscall kernel (.umask 0o077)
  orDie kernel .setNoNewPrivs "hook child: prctl(NO_NEW_PRIVS) failed\n"

-- An empty list of groups would leave those of the parent in place.
def setGroups (kernel : Kernel) (groups : List UInt32) : ChildProg Unit :=
  if groups = [] then pure ()
  else orDie kernel (.setgroups groups) "hook child: setgroups failed\n"

def dropPrivileges (kernel : Kernel) : Option UserInfo → ChildProg Unit
  | none => pure ()
  | some user => do
    setGroups kernel user.groups
    orDie kernel (.setgid user.gid) "hook child: setgid failed\n"
    orDie kernel (.setuid user.uid) "hook child: setuid failed\n"

def replaceImage (kernel : Kernel) (argv env : List String) : ChildProg Image :=
  if argv = [] then Prog.fail "hook child: empty argv\n"
  else do
    orDie kernel (.execve argv env) "hook child: execve failed\n"
    pure ⟨argv, env⟩

def childSetup (kernel : Kernel) (argv env : List String) (runAs : Option UserInfo)
    (caps : RlimitCaps) : ChildProg Image := do
  restrictChild kernel caps
  dropPrivileges kernel runAs
  replaceImage kernel argv env

structure ExitStatus where
  code : Option Int32
  signal : Option Int32
  deriving DecidableEq, Repr

def ExitStatus.conventionalCode (status : ExitStatus) : Int32 :=
  match status.code, status.signal with
  | some code, _ => code
  | none, some signal => 128 + signal
  | none, none => -1

structure WaitOutcome where
  status : ExitStatus
  killedByTimeout : Bool
  deriving DecidableEq, Repr

inductive PipeStream where
  | stdout
  | stderr
  deriving DecidableEq, Repr

/-- Everything that the executor asks the operating system for. -/
structure HookOs where
  users : UserDatabase
  pipe : PipeStream → Except String Unit
  fork : Except String Unit
  kernel : Kernel
  spawnReader : PipeStream → Bool
  waitWithTimeout : Duration → Except HookError WaitOutcome
  elapsed : Duration
  lineCount : PipeStream → UInt64

def spawnReader (os : HookOs) (name : String) (stream : PipeStream) : Except HookError Unit :=
  if os.spawnReader stream then .ok ()
  else .error (.childSetup (name ++ " reader thread spawn failed"))

def superviseParent (os : HookOs) (hook : HookConfig) : Except HookError HookOutcome := do
  spawnReader os "pam_certauth.hook.stdout" .stdout
  spawnReader os "pam_certauth.hook.stderr" .stderr
  let outcome ← os.waitWithTimeout hook.timeout
  .ok
    { stage := hook.stage
      command := hook.command
      exitCode := outcome.status.conventionalCode
      killedByTimeout := outcome.killedByTimeout
      duration := os.elapsed
      stdoutLines := os.lineCount .stdout
      stderrLines := os.lineCount .stderr }

def resolveRunAs (users : UserDatabase) (runAs : RunAs) (vars : HookVars) :
    Except HookError (Option UserInfo) :=
  match runAs with
  | .root => .ok none
  | .user =>
    match vars.pamUser with
    | none => .error (.childSetup "run_as=user but vars.pam_user is None")
    | some name => some <$> lookupUser users name

def checkArgv (command : List String) : Except HookError Unit :=
  if command = [] then .error (.commandUnusable "")
  else command.forM fun arg =>
    if hasNul arg then .error (.childSetup "argv contains NUL byte") else .ok ()

/-- What the parent gets ready before it forks: the user and the environment. -/
def prepareChild (os : HookOs) (hook : HookConfig) (vars : HookVars) :
    Except HookError (Option UserInfo × List String) := do
  let user ← resolveRunAs os.users hook.runAs vars
  let env ← buildEnvVector hook vars user
  checkArgv hook.command
  (os.pipe .stdout).mapError .pipe
  (os.pipe .stderr).mapError .pipe
  os.fork.mapError .fork
  .ok (user, env)

/-- The answer of the executor and the run of the child, if there is one. -/
structure Execution where
  result : Except HookError HookOutcome
  child : Option (Run Process Syscall String Image)

def execute (os : HookOs) (parent : Process) (hook : HookConfig) (vars : HookVars) : Execution :=
  match prepareChild os hook vars with
  | .error e => ⟨.error e, none⟩
  | .ok (user, env) =>
    { result := superviseParent os hook
      child := some
        (childSetup os.kernel hook.command env user (defaultCapsForTimeout hook.timeout) parent) }

/-- The command runs, as the process `p`. -/
def Execution.Started (e : Execution) (p : Process) : Prop :=
  ∃ image calls, e.child = some ⟨.ok image, p, calls⟩

theorem Execution.not_started_of_none {e : Execution} (h : e.child = none) (p : Process) :
    ¬ e.Started p := by
  rintro ⟨image, calls, hchild⟩
  rw [h] at hchild
  cases hchild

theorem execute_of_error {os : HookOs} {parent : Process} {hook : HookConfig} {vars : HookVars}
    {e : HookError} (h : prepareChild os hook vars = .error e) :
    execute os parent hook vars = ⟨.error e, none⟩ := by
  rw [execute, h]

theorem prepareChild_eq_ok_iff {os : HookOs} {hook : HookConfig} {vars : HookVars}
    {user : Option UserInfo} {env : List String} :
    prepareChild os hook vars = .ok (user, env) ↔
      resolveRunAs os.users hook.runAs vars = .ok user ∧ buildEnvVector hook vars user = .ok env ∧
        checkArgv hook.command = .ok () ∧ os.pipe .stdout = .ok () ∧ os.pipe .stderr = .ok () ∧
          os.fork = .ok () := by
  simp only [prepareChild, bind_eq_ok_iff, mapError_eq_ok_iff, Except.ok.injEq, Prod.mk.injEq]
  constructor
  · intro hsteps
    obtain ⟨user', huser, env', henv, ⟨⟩, hargv, ⟨⟩, hout, ⟨⟩, herr, ⟨⟩, hfork, rfl, rfl⟩ := hsteps
    exact ⟨huser, henv, hargv, hout, herr, hfork⟩
  · intro hsteps
    obtain ⟨huser, henv, hargv, hout, herr, hfork⟩ := hsteps
    exact ⟨user, huser, env, henv, (), hargv, (), hout, (), herr, (), hfork, rfl, rfl⟩

/-- The child runs under these numbers and cannot gain others. -/
structure Process.RunsAs (p : Process) (user : UserInfo) : Prop where
  uid : p.uid = user.uid
  gid : p.gid = user.gid
  groups : p.groups = user.groups
  noNewPrivs : p.noNewPrivs = true

section

open Prog

variable {kernel : Kernel}

/-- A call that the child survives had its effect. -/
theorem orDie_establishes {call : Syscall} {msg : String} {P Q : Process → Prop}
    (h : ∀ p, P p → Q (kernel.effect p call)) :
    Establishes P (orDie kernel call msg) fun _ => Q := by
  refine Establishes.bind (Q := fun ok p => ok = true → Q p) (Establishes.call fun p hp => ?_)
    fun ok => ?_
  · by_cases hok : kernel.succeeds call p = true
    · simpa [hok] using h p hp
    · simp [hok]
  · cases ok with
    | false => exact Establishes.fail msg
    | true => exact Establishes.pure fun p hp => hp rfl

theorem restrictChild_establishes (caps : RlimitCaps) :
    Establishes (fun _ => True) (restrictChild kernel caps) fun _ p => p.noNewPrivs = true := by
  -- Only the last of the nine steps matters.
  iterate 8 refine Establishes.after fun _ => ?_
  exact orDie_establishes fun _ _ => rfl

theorem dropPrivileges_establishes {user : UserInfo} (h : user.groups ≠ []) :
    Establishes (fun p => p.noNewPrivs = true) (dropPrivileges kernel (some user))
      fun _ p => p.RunsAs user := by
  have hgroups : Establishes (fun p => p.noNewPrivs = true) (setGroups kernel user.groups)
      fun _ p => p.noNewPrivs = true ∧ p.groups = user.groups := by
    rw [setGroups, if_neg h]
    exact orDie_establishes fun p hp => ⟨hp, rfl⟩
  refine hgroups.bind fun _ => ?_
  refine Establishes.bind (Q := fun _ p => p.noNewPrivs = true ∧ p.groups = user.groups ∧
    p.gid = user.gid) (orDie_establishes fun p hp => ⟨hp.1, hp.2, rfl⟩) fun _ => ?_
  exact orDie_establishes fun p hp => ⟨rfl, hp.2.2, hp.2.1, hp.1⟩

theorem replaceImage_establishes {user : UserInfo} {argv env : List String} :
    Establishes (·.RunsAs user) (replaceImage kernel argv env) fun _ p => p.RunsAs user := by
  rw [replaceImage]
  split
  · exact Establishes.fail _
  · refine Establishes.bind (Q := fun _ p => p.RunsAs user) (orDie_establishes fun p hp => ?_)
      fun _ => Establishes.pure fun p hp => hp
    rw [Kernel.effect, if_pos hp.noNewPrivs]
    exact hp

/-- A child that is given a user executes its command as that user. -/
theorem childSetup_establishes {user : UserInfo} (h : user.groups ≠ []) {argv env : List String}
    {caps : RlimitCaps} :
    Establishes (fun _ => True) (childSetup kernel argv env (some user) caps)
      fun _ p => p.RunsAs user := by
  refine (restrictChild_establishes caps).bind fun _ => ?_
  exact (dropPrivileges_establishes h).bind fun _ => replaceImage_establishes

end

/-- The account that a `run_as` names: the PAM user for `user`. -/
def namedAccount (runAs : String) (vars : HookVars) : Option String :=
  if runAs = "user" then vars.pamUser else some runAs

/-- A command that is started runs as the named account, and none is started for a name
that is not that of an account. -/
structure RunsAsNamed (users : UserDatabase) (name : Option String) (e : Execution) : Prop where
  identity : ∀ p, e.Started p → ∃ n ∈ name, IsAccount users n p.uid p.gid p.groups
  unresolved : (¬ ∃ n ∈ name, ∃ uid gid groups, IsAccount users n uid gid groups) →
    (∃ err, e.result = .error err) ∧ ∀ p, ¬ e.Started p

theorem resolveRunAs_user {users : UserDatabase} {vars : HookVars} {user : Option UserInfo}
    (h : resolveRunAs users .user vars = .ok user) :
    ∃ name ∈ vars.pamUser, ∃ info, user = some info ∧
      IsAccount users name info.uid info.gid info.groups := by
  rw [resolveRunAs] at h
  split at h
  · cases h
  · next name hname =>
    rcases hlookup : lookupUser users name with e | info
    · rw [hlookup] at h
      cases h
    · rw [hlookup] at h
      cases h
      exact ⟨name, hname, info, rfl, isAccount_of_lookupUser hlookup⟩

theorem runsAsNamed_of_error {os : HookOs} {parent : Process} {hook : HookConfig}
    {vars : HookVars} {name : Option String} {e : HookError}
    (h : prepareChild os hook vars = .error e) :
    RunsAsNamed os.users name (execute os parent hook vars) := by
  rw [execute_of_error h]
  have hnone := Execution.not_started_of_none (e := ⟨.error e, none⟩) rfl
  exact ⟨fun p hp => absurd hp (hnone p), fun _ => ⟨⟨e, rfl⟩, hnone⟩⟩

theorem runsAsNamed_user (os : HookOs) (parent : Process) {hook : HookConfig}
    (h : hook.runAs = .user) (vars : HookVars) :
    RunsAsNamed os.users vars.pamUser (execute os parent hook vars) := by
  rcases hprepare : prepareChild os hook vars with e | ⟨user, env⟩
  · exact runsAsNamed_of_error hprepare
  · have huser := (prepareChild_eq_ok_iff.mp hprepare).1
    rw [h] at huser
    obtain ⟨name, hname, info, rfl, haccount⟩ := resolveRunAs_user huser
    refine ⟨fun p hstarted => ?_, fun hnone => ?_⟩
    · obtain ⟨image, calls, hchild⟩ := hstarted
      rw [execute, hprepare, Option.some.injEq] at hchild
      have hruns := childSetup_establishes haccount.groups_ne_nil _ _ _ _ trivial hchild
      rw [hruns.uid, hruns.gid, hruns.groups]
      exact ⟨name, hname, haccount⟩
    · exact absurd ⟨name, hname, _, _, _, haccount⟩ hnone

/-- Nobody has an account. -/
def noUsers : UserDatabase where
  fromName _ := .ok none
  groupList _ gid := .ok [gid]
  primary_mem := by
    intro name gid groups h
    cases h
    exact List.mem_singleton_self gid

def grantingOs (users : UserDatabase) : HookOs where
  users := users
  pipe _ := .ok ()
  fork := .ok ()
  kernel := ⟨fun _ _ => true, fun _ p => p⟩
  spawnReader _ := true
  waitWithTimeout _ := .ok ⟨⟨some 0, none⟩, false⟩
  elapsed := 0
  lineCount _ := 0

def rootProcess : Process := ⟨0, 0, [0], false⟩

theorem checkArgv_eq_ok_iff {command : List String} :
    checkArgv command = .ok () ↔ command ≠ [] ∧ ∀ arg ∈ command, hasNul arg = false := by
  rw [checkArgv, guard_bind_eq_ok_iff, forM_eq_ok_iff]
  simp

theorem childSetup_granted (first : String) (args env : List String) (caps : RlimitCaps)
    (users : UserDatabase) :
    ∃ calls, childSetup (grantingOs users).kernel (first :: args) env none caps rootProcess =
      ⟨.ok ⟨first :: args, env⟩, ⟨0, 0, [0], true⟩, calls⟩ := ⟨_, rfl⟩

/-- A hook that is not to run as the PAM user is started under the identity of its parent. -/
theorem started_rootProcess {users : UserDatabase} {hook : HookConfig} {vars : HookVars}
    {env : List String} (hroot : hook.runAs = .root)
    (henv : buildEnvVector hook vars none = .ok env) (hargv : checkArgv hook.command = .ok ()) :
    (execute (grantingOs users) rootProcess hook vars).Started ⟨0, 0, [0], true⟩ := by
  have hprepare : prepareChild (grantingOs users) hook vars = .ok (none, env) :=
    prepareChild_eq_ok_iff.mpr ⟨by rw [hroot]; rfl, henv, hargv, rfl, rfl, rfl⟩
  have hne := (checkArgv_eq_ok_iff.mp hargv).1
  obtain ⟨first, args, hcommand⟩ := List.exists_cons_of_ne_nil hne
  obtain ⟨calls, hchild⟩ := childSetup_granted first args env
    (defaultCapsForTimeout hook.timeout) users
  rw [← hcommand] at hchild
  refine ⟨⟨hook.command, env⟩, calls, ?_⟩
  rw [execute, hprepare]
  exact congrArg some hchild

theorem not_isAccount_noUsers {name : String} {uid gid : UInt32} {groups : List UInt32} :
    ¬ IsAccount noUsers name uid gid groups := by
  rintro ⟨⟨user, huser, -⟩, -⟩
  cases huser

/-- For a `run_as` other than `root` the hook runs as the named account in every world
exactly when the word is `user`, or when the hook cannot be started with these variables
at all: every other name is taken for root. -/
theorem execute_runsAsNamed_iff (raw : RawHook) (name : String) (hname : raw.runAs = some name)
    (hook : HookConfig) (hvalid : validateHook raw = .ok hook) (vars : HookVars) :
    (∀ os parent, RunsAsNamed os.users (namedAccount name vars) (execute os parent hook vars)) ↔
      name = "user" ∨ (∃ e, buildEnvVector hook vars none = .error e) ∨
        ∃ arg ∈ raw.command, hasNul arg = true := by
  have hhook := validateHook_eq_ok hvalid
  have hrunAs : hook.runAs = parseRunAs (some name) := by rw [hhook.runAs_eq, hname]
  by_cases huser : name = "user"
  · have h : hook.runAs = .user := by rw [hrunAs, huser]; rfl
    refine iff_of_true (fun os parent => ?_) (.inl huser)
    rw [namedAccount, if_pos huser]
    exact runsAsNamed_user os parent h vars
  · have h : hook.runAs = .root := by
      rw [hrunAs, parseRunAs, if_neg (fun heq => huser (Option.some.inj heq))]
    constructor
    · intro hall
      rcases henv : buildEnvVector hook vars none with e | env
      · exact .inr (.inl ⟨e, rfl⟩)
      · refine .inr (.inr ?_)
        by_contra hargs
        push Not at hargs
        have hargv : checkArgv hook.command = .ok () := by
          rw [checkArgv_eq_ok_iff, hhook.command_eq]
          exact ⟨hhook.command_eq ▸ hhook.command_ne_nil, by simpa using hargs⟩
        -- Nobody has an account, and the command runs all the same.
        obtain ⟨n, -, haccount⟩ := (hall (grantingOs noUsers) rootProcess).identity _
          (started_rootProcess h henv hargv)
        exact not_isAccount_noUsers haccount
    · intro hcondition os parent
      rcases hprepare : prepareChild os hook vars with e | ⟨user, env⟩
      · exact runsAsNamed_of_error hprepare
      · obtain ⟨hresolve, henv, hargv, -⟩ := prepareChild_eq_ok_iff.mp hprepare
        rw [h] at hresolve
        cases hresolve
        rcases hcondition with hname | ⟨e, he⟩ | ⟨arg, harg, hnul⟩
        · exact absurd hname huser
        · rw [he] at henv
          cases henv
        · rw [hhook.command_eq] at hargv
          rw [(checkArgv_eq_ok_iff.mp hargv).2 arg harg] at hnul
          cases hnul

/-- A hook that writes the login to an audit log, with the given `run_as`. -/
def auditHook (runAs : String) : RawHook where
  stage := .sessionOpen
  command := ["/usr/local/bin/audit-login"]
  runAs := some runAs
  env := [("LOGIN", "$\x7bpam_user\x7d")]

def auditHookConfig (runAs : RunAs) : HookConfig where
  stage := .sessionOpen
  command := ["/usr/local/bin/audit-login"]
  timeout := Duration.fromSecs 10
  onFailure := .warn
  runAs := runAs
  env := [("LOGIN", [.var .pamUser])]

/-- The accounts `audit` and `alice`. -/
def auditUsers : UserDatabase where
  fromName name := .ok (
    if name = "audit" then some ⟨"audit", 993, 993, "/var/lib/audit"⟩
    else if name = "alice" then some ⟨"alice", 1000, 1000, "/home/alice"⟩
    else none)
  groupList _ gid := .ok [gid, 100]
  primary_mem := by
    intro name gid groups h
    cases h
    exact List.mem_cons_self

theorem execute_runsAsNamed_alice :
    validateHook (auditHook "user") = .ok (auditHookConfig .user) ∧
      ∀ os parent, RunsAsNamed os.users (namedAccount "user" { pamUser := some "alice" })
        (execute os parent (auditHookConfig .user) { pamUser := some "alice" }) := by
  have hvalid : validateHook (auditHook "user") = .ok (auditHookConfig .user) := by decide +kernel
  have hiff := execute_runsAsNamed_iff (auditHook "user") "user" rfl (auditHookConfig .user) hvalid
    { pamUser := some "alice" }
  exact ⟨hvalid, hiff.mpr (.inl rfl)⟩

theorem buildEnvVector_audit :
    ∃ env, buildEnvVector (auditHookConfig .root) { pamUser := some "alice" } none = .ok env :=
  exists_ok_of_isOk (by decide +kernel)

/-- The account `audit` exists, and its hook runs as root. -/
theorem execute_audit_as_root :
    validateHook (auditHook "audit") = .ok (auditHookConfig .root) ∧
      IsAccount auditUsers "audit" 993 993 [993, 100] ∧
      (execute (grantingOs auditUsers) rootProcess (auditHookConfig .root)
        { pamUser := some "alice" }).Started ⟨0, 0, [0], true⟩ := by
  refine ⟨by decide +kernel, ⟨⟨_, rfl, rfl, rfl⟩, rfl⟩, ?_⟩
  obtain ⟨env, henv⟩ := buildEnvVector_audit
  exact started_rootProcess rfl henv (by decide +kernel)

end PamCertauth.Hooks
