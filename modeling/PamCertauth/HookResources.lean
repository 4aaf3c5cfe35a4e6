import PamCertauth.HookProcesses

/-!
# What a hook leaves behind in the parent

The executor opens two pipes, forks, lets two threads read from the child and waits for it.
The descriptors are plain numbers from the pipes to the readers, and a reader is shared with its
thread, so that each way out lets go of a different part. Here every call on a descriptor, on a
thread and on the child is logged, and the log is balanced at each way out.
-/

namespace PamCertauth.HookResources

open Hooks X509

inductive PipeEnd where
  | read
  | write
  deriving DecidableEq, Repr

structure Fd where
  stream : PipeStream
  pipeEnd : PipeEnd
  deriving DecidableEq, Repr

inductive WaitErrno where
  | eintr
  | echild
  | other (name : String)
  deriving DecidableEq, Repr

def WaitErrno.name : WaitErrno → String
  | eintr => "EINTR"
  | echild => "ECHILD"
  | other name => name

inductive KillErrno where
  | esrch
  | other (name : String)
  deriving DecidableEq, Repr

inductive GroupSignal where
  | sigterm
  | sigkill
  deriving DecidableEq, Repr

/-- A call of the executor with its answer, or a descriptor that is closed. -/
inductive ResourceCall where
  | pipe (stream : PipeStream) (answer : Except String Unit)
  | close (fd : Fd)
  | fork (answer : Except String Unit)
  | spawnReader (stream : PipeStream) (answer : Bool)
  | joinReader (stream : PipeStream)
  | readerEnded (stream : PipeStream) (answer : Bool)
  | waitpid (answer : Except WaitErrno (Option ExitStatus))
  | killpg (signal : GroupSignal) (answer : Except KillErrno Unit)
  | other
  deriving DecidableEq

/-- The system under the executor. A child that has not ended is polled without a status.
`readerEnded` says whether the thread of a reader is over when the executor leaves it. -/
structure ResourceOs (σ : Type) where
  users : UserDatabase
  pipe : PipeStream → σ → Except String Unit × σ
  close : Fd → σ → σ
  fork : σ → Except String Unit × σ
  spawnReader : PipeStream → σ → Bool × σ
  joinReader : PipeStream → σ → σ
  readerEnded : PipeStream → σ → Bool × σ
  lineCount : PipeStream → σ → UInt64 × σ
  pollChild : σ → Except WaitErrno (Option ExitStatus) × σ
  waitChild : σ → Except WaitErrno ExitStatus × σ
  killpg : GroupSignal → σ → Except KillErrno Unit × σ
  now : σ → ℕ × σ
  sleep : Duration → σ → σ

/-- Why a run has no outcome: an error is returned, the others are not. -/
inductive Stop where
  | error (e : HookError)
  | panicked (message : String)
  | waiting
  deriving DecidableEq, Repr

abbrev ResourceProg (σ : Type) := Prog σ ResourceCall Stop

section

variable {σ : Type} (os : ResourceOs σ)

def letGo (fd : Fd) : ResourceProg σ Unit :=
  Prog.call (fun s => ((), os.close fd s)) fun _ => .close fd

-- The descriptor of a reader goes with its last owner, the executor or the thread.
def leaveReader (stream : PipeStream) : ResourceProg σ Unit := do
  let ended ← Prog.call (os.readerEnded stream) (.readerEnded stream)
  if ended then letGo os ⟨stream, .read⟩ else pure ()

def deadlineAfter (timeout : Duration) : ResourceProg σ ℕ := do
  let now ← Prog.call os.now fun _ => .other
  if instantLimit ≤ now + timeout then
    Prog.fail (.panicked "overflow when adding duration to instant")
  else pure (now + timeout)

def pollInterval : Duration := 50 * 10 ^ 6

/-- Poll the child until it has ended or the deadline has passed. -/
def pollUntil (deadline : ℕ) : ℕ → ResourceProg σ (Option ExitStatus)
  | 0 => Prog.fail .waiting
  | fuel + 1 => do
    let answer ← Prog.call os.pollChild .waitpid
    match answer with
    | .ok none => do
      let now ← Prog.call os.now fun _ => .other
      if deadline ≤ now then pure none
      else do
        Prog.call (fun s => ((), os.sleep pollInterval s)) fun _ => .other
        pollUntil deadline fuel
    | .ok (some status) => pure (some status)
    | .error .eintr => pollUntil deadline fuel
    | .error e => Prog.fail (.error (.wait e.name))

def signalGroup (signal : GroupSignal) : ResourceProg σ Unit := do
  let answer ← Prog.call (os.killpg signal) (.killpg signal)
  match answer with
  | .ok () => pure ()
  | .error .esrch => pure ()
  | .error (.other name) => Prog.fail (.error (.wait name))

def reap : ℕ → ResourceProg σ ExitStatus
  | 0 => Prog.fail .waiting
  | fuel + 1 => do
    let answer ← Prog.call os.waitChild fun answer => .waitpid (answer.map some)
    match answer with
    | .ok status => pure status
    | .error .eintr => reap fuel
    | .error e => Prog.fail (.error (.wait e.name))

def escalate (fuel : ℕ) : ResourceProg σ WaitOutcome := do
  signalGroup os .sigterm
  let termDeadline ← deadlineAfter os (Duration.fromSecs 2)
  let polled ← pollUntil os termDeadline fuel
  match polled with
  | some status => pure ⟨status, true⟩
  | none => do
    signalGroup os .sigkill
    let status ← reap os fuel
    pure ⟨status, true⟩

def waitWithTimeout (timeout : Duration) (fuel : ℕ) : ResourceProg σ WaitOutcome := do
  let deadline ← deadlineAfter os timeout
  let polled ← pollUntil os deadline fuel
  match polled with
  | some status => pure ⟨status, false⟩
  | none => escalate os fuel

def stdoutReader : String := "pam_certauth.hook.stdout"

def stderrReader : String := "pam_certauth.hook.stderr"

def readerFailed (name : String) : Stop :=
  .error (.childSetup (name ++ " reader thread spawn failed"))

/-- The end of a hook whose child was waited for. -/
def collectOutcome (hook : HookConfig) (start : ℕ) (outcome : WaitOutcome) :
    ResourceProg σ HookOutcome := do
  Prog.call (fun s => ((), os.joinReader .stdout s)) fun _ => .joinReader .stdout
  Prog.call (fun s => ((), os.joinReader .stderr s)) fun _ => .joinReader .stderr
  let stdoutLines ← Prog.call (os.lineCount .stdout) fun _ => .other
  let stderrLines ← Prog.call (os.lineCount .stderr) fun _ => .other
  let now ← Prog.call os.now fun _ => .other
  -- The threads are over, and the readers go with the locals of the function.
  letGo os ⟨.stderr, .read⟩
  letGo os ⟨.stdout, .read⟩
  pure
    { stage := hook.stage
      command := hook.command
      exitCode := outcome.status.conventionalCode
      killedByTimeout := outcome.killedByTimeout
      duration := now - start
      stdoutLines := stdoutLines
      stderrLines := stderrLines }

-- Each early return drops the readers that exist. A thread that runs keeps its own.
def superviseParent (hook : HookConfig) (start fuel : ℕ) : ResourceProg σ HookOutcome := do
  letGo os ⟨.stdout, .write⟩
  letGo os ⟨.stderr, .write⟩
  let stdoutSpawned ← Prog.call (os.spawnReader .stdout) (.spawnReader .stdout)
  match stdoutSpawned with
  | false => do
    letGo os ⟨.stderr, .read⟩
    letGo os ⟨.stdout, .read⟩
    Prog.fail (readerFailed stdoutReader)
  | true => do
    let stderrSpawned ← Prog.call (os.spawnReader .stderr) (.spawnReader .stderr)
    match stderrSpawned with
    | false => do
      letGo os ⟨.stderr, .read⟩
      leaveReader os .stdout
      Prog.fail (readerFailed stderrReader)
    | true => do
      let waited ← Prog.attempt (waitWithTimeout os hook.timeout fuel)
      match waited with
      | .ok outcome => collectOutcome os hook start outcome
      | .error .waiting => Prog.fail .waiting
      | .error stop => do
        leaveReader os .stderr
        leaveReader os .stdout
        Prog.fail stop

/-- What is got ready before the first descriptor is opened. -/
def prepareImage (users : UserDatabase) (hook : HookConfig) (vars : HookVars) :
    Except HookError Unit := do
  let user ← resolveRunAs users hook.runAs vars
  let _ ← buildEnvVector hook vars user
  checkArgv hook.command

def execute (hook : HookConfig) (vars : HookVars) (fuel : ℕ) : ResourceProg σ HookOutcome :=
  match prepareImage os.users hook vars with
  | .error e => Prog.fail (.error e)
  | .ok () => do
    let stdoutPipe ← Prog.call (os.pipe .stdout) (.pipe .stdout)
    match stdoutPipe with
    | .error e => Prog.fail (.error (.pipe e))
    | .ok () => do
      let stderrPipe ← Prog.call (os.pipe .stderr) (.pipe .stderr)
      match stderrPipe with
      | .error e => do
        -- The first pipe is not a pair of numbers yet and is dropped.
        letGo os ⟨.stdout, .write⟩
        letGo os ⟨.stdout, .read⟩
        Prog.fail (.error (.pipe e))
      | .ok () => do
        let start ← Prog.call os.now fun _ => .other
        let forked ← Prog.call os.fork .fork
        match forked with
        | .error e => Prog.fail (.error (.fork e))
        | .ok () => superviseParent os hook start fuel

end

namespace ResourceCall

/-- The call finds the child running, or changes nothing. -/
def Idle : ResourceCall → Prop
  | .waitpid (.ok none) => True
  | .waitpid (.error .eintr) => True
  | .killpg _ (.ok ()) => True
  | .killpg _ (.error .esrch) => True
  | .other => True
  | _ => False

/-- The call ends the wait with an error. -/
inductive EndsWait : ResourceCall → Prop where
  | gone : EndsWait (.waitpid (.error .echild))
  | wait (name : String) : EndsWait (.waitpid (.error (.other name)))
  | signal (signal : GroupSignal) (name : String) : EndsWait (.killpg signal (.error (.other name)))

end ResourceCall

/-- The log of a part of the wait, by whether the child is collected at its end. -/
def WaitLog : Bool → List ResourceCall → Prop
  | false, log => ∀ c ∈ log, c.Idle
  | true, log => ∃ front status, log = front ++ [.waitpid (.ok (some status))] ∧
      ∀ c ∈ front, c.Idle

/-- The log of a wait that ends with an error. -/
def FailedLog (log : List ResourceCall) : Prop :=
  ∃ front c, log = front ++ [c] ∧ (∀ c ∈ front, c.Idle) ∧ c.EndsWait

theorem WaitLog.singleton {c : ResourceCall} (h : c.Idle) : WaitLog false [c] :=
  List.forall_mem_singleton.mpr h

theorem WaitLog.append {b : Bool} {log log' : List ResourceCall} (h : WaitLog false log)
    (h' : WaitLog b log') : WaitLog b (log ++ log') := by
  cases b with
  | false => exact List.forall_mem_append.mpr ⟨h, h'⟩
  | true =>
    obtain ⟨front, status, rfl, hfront⟩ := h'
    exact ⟨log ++ front, status, by simp, List.forall_mem_append.mpr ⟨h, hfront⟩⟩

theorem FailedLog.append {log log' : List ResourceCall} (h : WaitLog false log)
    (h' : FailedLog log') : FailedLog (log ++ log') := by
  obtain ⟨front, c, rfl, hfront, hc⟩ := h'
  exact ⟨log ++ front, c, by simp, List.forall_mem_append.mpr ⟨h, hfront⟩, hc⟩

/-- A part of the wait: it idles, until it collects the child or fails. -/
structure Waits {σ α : Type} (collected : α → Bool) (p : ResourceProg σ α) : Prop where
  ok : ∀ s a, (p s).result = .ok a → WaitLog (collected a) (p s).calls
  error : ∀ s e, (p s).result = .error (.error e) → FailedLog (p s).calls

section

variable {σ α β : Type}

theorem Waits.pure {collected : α → Bool} {a : α} (h : collected a = false) :
    Waits collected (Pure.pure a : ResourceProg σ α) where
  ok s b hb := by
    cases hb
    rw [h]
    exact List.forall_mem_nil _
  error s e he := by cases he

theorem Waits.fail {collected : α → Bool} {stop : Stop} (h : ∀ e, stop ≠ .error e) :
    Waits collected (Prog.fail stop : ResourceProg σ α) where
  ok s a ha := by cases ha
  error s e he := absurd (Except.error.inj he) (h e)

/-- A part that has not collected the child is followed by another one, and one that has
collected it by nothing. -/
theorem Waits.bind {collected : α → Bool} {collected' : β → Bool} {p : ResourceProg σ α}
    {f : α → ResourceProg σ β} (hp : Waits collected p)
    (hidle : ∀ a, collected a = false → Waits collected' (f a))
    (hdone : ∀ a, collected a = true → ∃ b, f a = Pure.pure b ∧ collected' b = true) :
    Waits collected' (p >>= f) := by
  constructor
  · intro s b hb
    rcases Prog.bind_cases p f s with ⟨e, s₁, t, hpe, hrun⟩ | ⟨a, s₁, t, hpa, hrun⟩
    · rw [hrun] at hb
      cases hb
    · have hfront := hp.ok s a (by rw [hpa])
      rw [hpa] at hfront
      rw [hrun] at hb ⊢
      cases hcollected : collected a with
      | false =>
        rw [hcollected] at hfront
        exact hfront.append ((hidle a hcollected).ok s₁ b hb)
      | true =>
        obtain ⟨b', hpure, hcollected'⟩ := hdone a hcollected
        rw [hpure] at hb ⊢
        cases hb
        rw [hcollected] at hfront
        simpa [hcollected'] using hfront
  · intro s e he
    rcases Prog.bind_cases p f s with ⟨e', s₁, t, hpe, hrun⟩ | ⟨a, s₁, t, hpa, hrun⟩
    · rw [hrun] at he ⊢
      obtain rfl := Except.error.inj he
      have hfailed := hp.error s e (by rw [hpe])
      rwa [hpe] at hfailed
    · have hfront := hp.ok s a (by rw [hpa])
      rw [hpa] at hfront
      rw [hrun] at he ⊢
      cases hcollected : collected a with
      | false =>
        rw [hcollected] at hfront
        exact FailedLog.append hfront ((hidle a hcollected).error s₁ e he)
      | true =>
        obtain ⟨b', hpure, -⟩ := hdone a hcollected
        rw [hpure] at he
        cases he

/-- A call that finds the child running goes on, one that collects it is the last one, and so
is one that fails. -/
theorem Waits.call_bind {γ : Type} {collected : β → Bool} {op : σ → γ × σ}
    {entry : γ → ResourceCall} {f : γ → ResourceProg σ β}
    (h : ∀ answer, (entry answer).Idle ∧ Waits collected (f answer) ∨
      (∃ status b, entry answer = .waitpid (.ok (some status)) ∧ f answer = Pure.pure b ∧
        collected b = true) ∨
      (entry answer).EndsWait ∧ ∃ stop, f answer = Prog.fail stop) :
    Waits collected (Prog.call op entry >>= f) := by
  constructor
  · intro s b hb
    rw [Prog.call_bind_apply] at hb ⊢
    rcases h (op s).1 with
      ⟨hidle, hrest⟩ | ⟨status, b', hentry, hpure, hcollected⟩ | ⟨-, stop, hfail⟩
    · exact (WaitLog.singleton hidle).append (hrest.ok _ b hb)
    · rw [hpure] at hb ⊢
      cases hb
      rw [hcollected, hentry]
      exact ⟨[], status, rfl, List.forall_mem_nil _⟩
    · rw [hfail] at hb
      cases hb
  · intro s e he
    rw [Prog.call_bind_apply] at he ⊢
    rcases h (op s).1 with ⟨hidle, hrest⟩ | ⟨status, b', -, hpure, -⟩ | ⟨hends, stop, hfail⟩
    · exact FailedLog.append (WaitLog.singleton hidle) (hrest.error _ e he)
    · rw [hpure] at he
      cases he
    · rw [hfail]
      exact ⟨[], _, rfl, List.forall_mem_nil _, hends⟩

variable {os : ResourceOs σ}

theorem deadlineAfter_waits (timeout : Duration) :
    Waits (fun _ => false) (deadlineAfter os timeout) := by
  refine Waits.call_bind fun now => .inl ⟨trivial, ?_⟩
  split
  · exact Waits.fail fun e => by simp
  · exact Waits.pure rfl

theorem pollUntil_waits (deadline fuel : ℕ) :
    Waits Option.isSome (pollUntil os deadline fuel) := by
  induction fuel with
  | zero => exact Waits.fail fun e => by simp
  | succ fuel ih =>
    refine Waits.call_bind fun answer => ?_
    rcases answer with (_ | _ | name) | (_ | status)
    · exact .inl ⟨trivial, ih⟩
    · exact .inr (.inr ⟨.gone, _, rfl⟩)
    · exact .inr (.inr ⟨.wait name, _, rfl⟩)
    · refine .inl ⟨trivial, Waits.call_bind fun now => .inl ⟨trivial, ?_⟩⟩
      split
      · exact Waits.pure rfl
      · exact Waits.call_bind fun _ => .inl ⟨trivial, ih⟩
    · exact .inr (.inl ⟨status, some status, rfl, rfl, rfl⟩)

theorem signalGroup_waits (signal : GroupSignal) :
    Waits (fun _ => false) (signalGroup os signal) := by
  refine Waits.call_bind fun answer => ?_
  rcases answer with (_ | name) | ⟨⟩
  · exact .inl ⟨trivial, Waits.pure rfl⟩
  · exact .inr (.inr ⟨.signal signal name, _, rfl⟩)
  · exact .inl ⟨trivial, Waits.pure rfl⟩

theorem reap_waits (fuel : ℕ) : Waits (fun _ => true) (reap os fuel) := by
  induction fuel with
  | zero => exact Waits.fail fun e => by simp
  | succ fuel ih =>
    refine Waits.call_bind fun answer => ?_
    rcases answer with (_ | _ | name) | status
    · exact .inl ⟨trivial, ih⟩
    · exact .inr (.inr ⟨.gone, _, rfl⟩)
    · exact .inr (.inr ⟨.wait name, _, rfl⟩)
    · exact .inr (.inl ⟨status, status, rfl, rfl, rfl⟩)

theorem escalate_waits (fuel : ℕ) : Waits (fun _ => true) (escalate os fuel) := by
  refine (signalGroup_waits _).bind (fun _ _ => ?_) (by simp)
  refine (deadlineAfter_waits _).bind (fun deadline _ => ?_) (by simp)
  refine (pollUntil_waits deadline fuel).bind ?_ ?_
  · rintro (_ | status) hrunning
    · refine (signalGroup_waits _).bind (fun _ _ => ?_) (by simp)
      exact (reap_waits fuel).bind (by simp) fun status _ => ⟨_, rfl, rfl⟩
    · cases hrunning
  · rintro (_ | status) hcollected
    · cases hcollected
    · exact ⟨_, rfl, rfl⟩

/-- The wait idles until it collects the child or fails. -/
theorem waitWithTimeout_waits (timeout : Duration) (fuel : ℕ) :
    Waits (fun _ => true) (waitWithTimeout os timeout fuel) := by
  refine (deadlineAfter_waits timeout).bind (fun deadline _ => ?_) (by simp)
  refine (pollUntil_waits deadline fuel).bind ?_ ?_
  · rintro (_ | status) hrunning
    · exact escalate_waits fuel
    · cases hrunning
  · rintro (_ | status) hcollected
    · cases hcollected
    · exact ⟨_, rfl, rfl⟩

end

/-- The log of a reader that is left to its thread. -/
def leaveLog (stream : PipeStream) (ended : Bool) : List ResourceCall :=
  .readerEnded stream ended :: if ended then [.close ⟨stream, .read⟩] else []

/-- How the parent gets out behind the fork, with the log from there. -/
inductive SuperviseEnds (hook : HookConfig) :
    Except Stop HookOutcome → List ResourceCall → Prop where
  | noStdoutReader : SuperviseEnds hook (.error (readerFailed stdoutReader))
      [.spawnReader .stdout false, .close ⟨.stderr, .read⟩, .close ⟨.stdout, .read⟩]
  | noStderrReader (ended : Bool) : SuperviseEnds hook (.error (readerFailed stderrReader))
      ([.spawnReader .stdout true, .spawnReader .stderr false, .close ⟨.stderr, .read⟩] ++
        leaveLog .stdout ended)
  | notWaited {e : HookError} {log : List ResourceCall} (failed : FailedLog log)
      (stderrEnded stdoutEnded : Bool) : SuperviseEnds hook (.error (.error e))
      ([.spawnReader .stdout true, .spawnReader .stderr true] ++ log ++
        (leaveLog .stderr stderrEnded ++ leaveLog .stdout stdoutEnded))
  | waited {log : List ResourceCall} (collected : WaitLog true log) (outcome : WaitOutcome)
      (duration : Duration) (stdoutLines stderrLines : UInt64) : SuperviseEnds hook
      (.ok
        { stage := hook.stage
          command := hook.command
          exitCode := outcome.status.conventionalCode
          killedByTimeout := outcome.killedByTimeout
          duration := duration
          stdoutLines := stdoutLines
          stderrLines := stderrLines })
      ([.spawnReader .stdout true, .spawnReader .stderr true] ++ log ++
        [.joinReader .stdout, .joinReader .stderr, .other, .other, .other,
          .close ⟨.stderr, .read⟩, .close ⟨.stdout, .read⟩])
  | unreturned {stop : Stop} (unreturned : ∀ e, stop ≠ .error e) (log : List ResourceCall) :
      SuperviseEnds hook (.error stop) log

/-- The log up to the readers. The parent has let go of the ends that the child writes to. -/
def forkedLog : List ResourceCall :=
  [.pipe .stdout (.ok ()), .pipe .stderr (.ok ()), .other, .fork (.ok ()),
    .close ⟨.stdout, .write⟩, .close ⟨.stderr, .write⟩]

/-- How the parent gets out once the arguments of the child are ready. -/
inductive Ends (hook : HookConfig) : Except Stop HookOutcome → List ResourceCall → Prop where
  | noStdoutPipe (e : String) : Ends hook (.error (.error (.pipe e))) [.pipe .stdout (.error e)]
  | noStderrPipe (e : String) : Ends hook (.error (.error (.pipe e)))
      [.pipe .stdout (.ok ()), .pipe .stderr (.error e), .close ⟨.stdout, .write⟩,
        .close ⟨.stdout, .read⟩]
  | notForked (e : String) : Ends hook (.error (.error (.fork e)))
      [.pipe .stdout (.ok ()), .pipe .stderr (.ok ()), .other, .fork (.error e)]
  | forked {result : Except Stop HookOutcome} {log : List ResourceCall}
      (ends : SuperviseEnds hook result log) : Ends hook result (forkedLog ++ log)

section

variable {σ : Type} (os : ResourceOs σ) (hook : HookConfig) (vars : HookVars) (fuel : ℕ)

theorem leaveReader_bind_apply {α : Type} (stream : PipeStream)
    (f : Unit → ResourceProg σ α) (s : σ) :
    ∃ ended s₁, (leaveReader os stream >>= f) s =
      ⟨(f () s₁).result, (f () s₁).env, leaveLog stream ended ++ (f () s₁).calls⟩ := by
  have hleave : ∃ ended s₁, leaveReader os stream s = ⟨.ok (), s₁, leaveLog stream ended⟩ := by
    rw [leaveReader, Prog.call_bind_apply]
    cases hended : (os.readerEnded stream s).1 with
    | false => exact ⟨false, _, rfl⟩
    | true => exact ⟨true, _, rfl⟩
  obtain ⟨ended, s₁, hleave⟩ := hleave
  exact ⟨ended, s₁, Prog.bind_of_ok hleave⟩

theorem collectOutcome_ends {start : ℕ} {log : List ResourceCall} (collected : WaitLog true log)
    (outcome : WaitOutcome) (s : σ) :
    SuperviseEnds hook (collectOutcome os hook start outcome s).result
      ([.spawnReader .stdout true, .spawnReader .stderr true] ++ log ++
        (collectOutcome os hook start outcome s).calls) :=
  .waited collected outcome _ _ _

theorem leaveReaders_ends {log : List ResourceCall} (s : σ) (stop : Stop)
    (failed : ∀ e, stop = .error e → FailedLog log) : SuperviseEnds hook
      ((leaveReader os .stderr >>= fun _ => leaveReader os .stdout >>= fun _ =>
        (Prog.fail stop : ResourceProg σ HookOutcome)) s).result
      ([.spawnReader .stdout true, .spawnReader .stderr true] ++ log ++
        ((leaveReader os .stderr >>= fun _ => leaveReader os .stdout >>= fun _ =>
          (Prog.fail stop : ResourceProg σ HookOutcome)) s).calls) := by
  obtain ⟨stderrEnded, s₁, hstderr⟩ := leaveReader_bind_apply os .stderr
    (fun _ => leaveReader os .stdout >>= fun _ =>
      (Prog.fail stop : ResourceProg σ HookOutcome)) s
  obtain ⟨stdoutEnded, s₂, hstdout⟩ := leaveReader_bind_apply os .stdout
    (fun _ => (Prog.fail stop : ResourceProg σ HookOutcome)) s₁
  rw [hstderr, hstdout]
  cases stop with
  | error e =>
    have hends : SuperviseEnds hook (.error (.error e)) _ :=
      .notWaited (failed e rfl) stderrEnded stdoutEnded
    simpa using hends
  | panicked message => exact .unreturned (by simp) _
  | waiting => exact .unreturned (by simp) _

theorem superviseParent_ends (start : ℕ) (s : σ) :
    ∃ log, (superviseParent os hook start fuel s).calls =
        .close ⟨.stdout, .write⟩ :: .close ⟨.stderr, .write⟩ :: log ∧
      SuperviseEnds hook (superviseParent os hook start fuel s).result log := by
  rw [superviseParent, letGo, letGo, Prog.call_bind_apply, Prog.call_bind_apply,
    Prog.call_bind_apply]
  refine ⟨_, rfl, ?_⟩
  generalize os.spawnReader .stdout _ = stdoutSpawned
  rcases stdoutSpawned with ⟨_ | _, s₁⟩
  · exact .noStdoutReader
  dsimp only
  rw [Prog.call_bind_apply]
  generalize os.spawnReader .stderr s₁ = stderrSpawned
  rcases stderrSpawned with ⟨_ | _, s₂⟩
  · dsimp only
    rw [letGo, Prog.call_bind_apply]
    obtain ⟨ended, s₃, hleave⟩ := leaveReader_bind_apply os .stdout
      (fun _ => (Prog.fail (readerFailed stderrReader) : ResourceProg σ HookOutcome))
      (os.close ⟨.stderr, .read⟩ s₂)
    rw [hleave]
    have hends : SuperviseEnds hook (.error (readerFailed stderrReader))
      ([.spawnReader .stdout true, .spawnReader .stderr false, .close ⟨.stderr, .read⟩] ++
        leaveLog .stdout ended) := .noStderrReader ended
    simpa using hends
  dsimp only
  rw [Prog.attempt_bind_apply]
  have hwaits : Waits (fun _ => true) (waitWithTimeout os hook.timeout fuel) :=
    waitWithTimeout_waits hook.timeout fuel
  have hok := hwaits.ok s₂
  have herror := hwaits.error s₂
  generalize waitWithTimeout os hook.timeout fuel s₂ = waited at hok herror ⊢
  rcases waited with ⟨stop | outcome, s₃, log⟩
  · rcases stop with e | message | _
    · exact leaveReaders_ends os hook s₃ _ fun e' _ => herror e rfl
    · exact leaveReaders_ends os hook s₃ _ fun e' he' => by cases he'
    · exact .unreturned (by simp) _
  · exact collectOutcome_ends os hook (hok outcome rfl) outcome s₃

/-- Every run of the executor, by how it ends. -/
theorem execute_ends (s : σ) :
    (∃ e, prepareImage os.users hook vars = .error e ∧
      execute os hook vars fuel s = ⟨.error (.error e), s, []⟩) ∨
    prepareImage os.users hook vars = .ok () ∧
      Ends hook (execute os hook vars fuel s).result (execute os hook vars fuel s).calls := by
  rw [execute]
  rcases prepareImage os.users hook vars with e | ⟨⟩
  · exact .inl ⟨e, rfl, rfl⟩
  refine .inr ⟨rfl, ?_⟩
  dsimp only
  rw [Prog.call_bind_apply]
  generalize os.pipe .stdout s = stdoutPipe
  rcases stdoutPipe with ⟨e | ⟨⟩, s₁⟩
  · exact .noStdoutPipe e
  dsimp only
  rw [Prog.call_bind_apply]
  generalize os.pipe .stderr s₁ = stderrPipe
  rcases stderrPipe with ⟨e | ⟨⟩, s₂⟩
  · exact .noStderrPipe e
  dsimp only
  rw [Prog.call_bind_apply, Prog.call_bind_apply]
  generalize os.now s₂ = start
  generalize os.fork start.2 = forked
  rcases forked with ⟨e | ⟨⟩, s₃⟩
  · exact .notForked e
  obtain ⟨log, hcalls, hends⟩ := superviseParent_ends os hook fuel start.1 s₃
  dsimp only
  rw [hcalls]
  exact .forked hends

end

theorem hooks_execute_of_unprepared {users : UserDatabase} {hook : HookConfig} {vars : HookVars}
    {e : HookError} (h : prepareImage users hook vars = .error e) (os : HookOs)
    (husers : os.users = users) (parent : Process) :
    (Hooks.execute os parent hook vars).result = .error e := by
  subst husers
  rw [prepareImage] at h
  rw [Hooks.execute, prepareChild]
  rcases huser : resolveRunAs os.users hook.runAs vars with e' | user
  · rw [huser] at h
    cases h
    rfl
  rw [huser] at h
  rcases henv : buildEnvVector hook vars user with e' | env <;>
    simp_all [Bind.bind, Except.bind]

theorem hooks_execute_of_prepared {users : UserDatabase} {hook : HookConfig} {vars : HookVars}
    (h : prepareImage users hook vars = .ok ()) (os : HookOs) (husers : os.users = users)
    (parent : Process) :
    (Hooks.execute os parent hook vars).result = (do
      (os.pipe .stdout).mapError .pipe
      (os.pipe .stderr).mapError .pipe
      os.fork.mapError .fork
      Hooks.superviseParent os hook) := by
  subst husers
  rw [prepareImage, bind_eq_ok_iff] at h
  obtain ⟨user, huser, henv⟩ := h
  obtain ⟨env, henv, hargv⟩ := bind_eq_ok_iff.mp henv
  rw [Hooks.execute, prepareChild, huser]
  simp only [Bind.bind, Except.bind, henv, hargv]
  rcases os.pipe .stdout with e | ⟨⟩
  · rfl
  rcases os.pipe .stderr with e | ⟨⟩
  · rfl
  rcases os.fork with e | ⟨⟩
  · rfl
  · rfl

/-- The call returns, with an outcome or an error. -/
def Returned (result : Except Stop HookOutcome) : Prop :=
  ∀ stop, result = .error stop → ∃ e, stop = .error e

/-- The process model gives the answer under some system that has the same users. -/
def Answered (users : UserDatabase) (parent : Process) (hook : HookConfig) (vars : HookVars)
    (result : Except Stop HookOutcome) : Prop :=
  ∃ os : HookOs, os.users = users ∧
    result = (Hooks.execute os parent hook vars).result.mapError .error

theorem SuperviseEnds.answered {users : UserDatabase} {parent : Process} {hook : HookConfig}
    {vars : HookVars} {result : Except Stop HookOutcome} {log : List ResourceCall}
    (hprepared : prepareImage users hook vars = .ok ()) (h : SuperviseEnds hook result log)
    (hreturned : Returned result) : Answered users parent hook vars result := by
  cases h with
  | noStdoutReader =>
    refine ⟨{ grantingOs users with spawnReader := fun _ => false }, rfl, ?_⟩
    rw [hooks_execute_of_prepared hprepared _ rfl]
    rfl
  | noStderrReader ended =>
    refine ⟨{ grantingOs users with spawnReader := fun stream => stream = .stdout }, rfl, ?_⟩
    rw [hooks_execute_of_prepared hprepared _ rfl]
    rfl
  | @notWaited e log failed stderrEnded stdoutEnded =>
    refine ⟨{ grantingOs users with waitWithTimeout := fun _ => .error e }, rfl, ?_⟩
    rw [hooks_execute_of_prepared hprepared _ rfl]
    rfl
  | waited collected outcome duration stdoutLines stderrLines =>
    refine ⟨{ grantingOs users with
      waitWithTimeout := fun _ => .ok outcome
      elapsed := duration
      lineCount := fun stream => if stream = .stdout then stdoutLines else stderrLines }, rfl, ?_⟩
    rw [hooks_execute_of_prepared hprepared _ rfl]
    rfl
  | unreturned unreturned =>
    obtain ⟨e, he⟩ := hreturned _ rfl
    exact absurd he (unreturned e)

/-- A run that returns gives an answer that the process model gives too. -/
theorem execute_answered {σ : Type} (os : ResourceOs σ) (parent : Process) (hook : HookConfig)
    (vars : HookVars) (fuel : ℕ) (s : σ)
    (hreturned : Returned (execute os hook vars fuel s).result) :
    Answered os.users parent hook vars (execute os hook vars fuel s).result := by
  rcases execute_ends os hook vars fuel s with ⟨e, hprepare, hrun⟩ | ⟨hprepared, hends⟩
  · refine ⟨grantingOs os.users, rfl, ?_⟩
    rw [hrun, hooks_execute_of_unprepared hprepare _ rfl]
    rfl
  · generalize (execute os hook vars fuel s).result = result at hends hreturned ⊢
    generalize (execute os hook vars fuel s).calls = log at hends
    cases hends with
    | noStdoutPipe e =>
      refine ⟨{ grantingOs os.users with pipe := fun _ => .error e }, rfl, ?_⟩
      rw [hooks_execute_of_prepared hprepared _ rfl]
      rfl
    | noStderrPipe e =>
      refine ⟨{ grantingOs os.users with
        pipe := fun stream => if stream = .stdout then .ok () else .error e }, rfl, ?_⟩
      rw [hooks_execute_of_prepared hprepared _ rfl]
      rfl
    | notForked e =>
      refine ⟨{ grantingOs os.users with fork := .error e }, rfl, ?_⟩
      rw [hooks_execute_of_prepared hprepared _ rfl]
      rfl
    | forked ends => exact ends.answered hprepared hreturned

/-- The child is collected, or the system says that there is none any more. -/
def Reaped (log : List ResourceCall) : Prop :=
  (∃ status, .waitpid (.ok (some status)) ∈ log) ∨ .waitpid (.error .echild) ∈ log

/-- Nothing of the hook is left in the parent. -/
@[mk_iff]
structure Settled (log : List ResourceCall) : Prop where
  closed : ∀ fd : Fd, .pipe fd.stream (.ok ()) ∈ log → log.count (.close fd) = 1
  reaped : .fork (.ok ()) ∈ log → Reaped log

/-- The failures that the executor cleans up after. -/
@[mk_iff]
structure Harmless (log : List ResourceCall) : Prop where
  forked : ∀ e, .fork (.error e) ∉ log
  spawned : ∀ stream, .spawnReader stream false ∉ log
  waited : ∀ name, .waitpid (.error (.other name)) ∉ log
  signalled : ∀ signal name, .killpg signal (.error (.other name)) ∉ log
  readersEnded : .waitpid (.error .echild) ∈ log → ∀ stream, .readerEnded stream false ∉ log

/-- The logs differ in idle calls only. -/
def SameBalance (log log' : List ResourceCall) : Prop :=
  ∀ c : ResourceCall, ¬ c.Idle → log.count c = log'.count c

theorem SameBalance.mem_iff {log log' : List ResourceCall} (h : SameBalance log log')
    {c : ResourceCall} (hc : ¬ c.Idle) : c ∈ log ↔ c ∈ log' := by
  rw [← List.count_pos_iff, h c hc, List.count_pos_iff]

theorem SameBalance.settled_iff {log log' : List ResourceCall} (h : SameBalance log log') :
    Settled log ↔ Settled log' := by
  have hpipe : ∀ stream, .pipe stream (.ok ()) ∈ log ↔ .pipe stream (.ok ()) ∈ log' :=
    fun stream => h.mem_iff id
  have hclose : ∀ fd, log.count (.close fd) = log'.count (.close fd) := fun fd => h _ id
  have hfork : .fork (.ok ()) ∈ log ↔ .fork (.ok ()) ∈ log' := h.mem_iff id
  have hcollected : ∀ status, .waitpid (.ok (some status)) ∈ log ↔
      .waitpid (.ok (some status)) ∈ log' := fun status => h.mem_iff id
  have hgone : .waitpid (.error .echild) ∈ log ↔ .waitpid (.error .echild) ∈ log' := h.mem_iff id
  simp only [HookResources.settled_iff, Reaped, hpipe, hclose, hfork, hcollected, hgone]

theorem SameBalance.harmless_iff {log log' : List ResourceCall} (h : SameBalance log log') :
    Harmless log ↔ Harmless log' := by
  have hfork : ∀ e, .fork (.error e) ∈ log ↔ .fork (.error e) ∈ log' := fun e => h.mem_iff id
  have hspawn : ∀ stream, .spawnReader stream false ∈ log ↔ .spawnReader stream false ∈ log' :=
    fun stream => h.mem_iff id
  have hwait : ∀ name, .waitpid (.error (.other name)) ∈ log ↔
      .waitpid (.error (.other name)) ∈ log' := fun name => h.mem_iff id
  have hkill : ∀ signal name, .killpg signal (.error (.other name)) ∈ log ↔
      .killpg signal (.error (.other name)) ∈ log' := fun signal name => h.mem_iff id
  have hgone : .waitpid (.error .echild) ∈ log ↔ .waitpid (.error .echild) ∈ log' := h.mem_iff id
  have hended : ∀ stream, .readerEnded stream false ∈ log ↔ .readerEnded stream false ∈ log' :=
    fun stream => h.mem_iff id
  simp only [HookResources.harmless_iff, hfork, hspawn, hwait, hkill, hgone, hended]

theorem sameBalance_idle {front : List ResourceCall} (hfront : ∀ c ∈ front, c.Idle)
    (log log' : List ResourceCall) : SameBalance (log ++ (front ++ log')) (log ++ log') := by
  intro c hc
  have hnone : front.count c = 0 := List.count_eq_zero.mpr fun hmem => hc (hfront c hmem)
  simp [hnone]

theorem settled_forked_iff {log : List ResourceCall} :
    Settled (forkedLog ++ log) ↔ (∀ stream, log.count (.close ⟨stream, .read⟩) = 1) ∧
      (∀ stream, log.count (.close ⟨stream, .write⟩) = 0) ∧ Reaped log := by
  have hreaped : Reaped (forkedLog ++ log) ↔ Reaped log := by simp [Reaped, forkedLog]
  have hread : ∀ stream, (forkedLog ++ log).count (.close ⟨stream, .read⟩) =
      log.count (.close ⟨stream, .read⟩) := by
    intro stream
    cases stream <;> simp [forkedLog]
  have hwrite : ∀ stream, (forkedLog ++ log).count (.close ⟨stream, .write⟩) =
      log.count (.close ⟨stream, .write⟩) + 1 := by
    intro stream
    cases stream <;> simp [forkedLog]
  have hopened : ∀ stream, .pipe stream (.ok ()) ∈ forkedLog ++ log := by
    intro stream
    cases stream <;> simp [forkedLog]
  constructor
  · intro h
    refine ⟨fun stream => ?_, fun stream => ?_, hreaped.mp (h.reaped (by simp [forkedLog]))⟩
    · rw [← hread]
      exact h.closed ⟨stream, .read⟩ (hopened stream)
    · have hone := h.closed ⟨stream, .write⟩ (hopened stream)
      rw [hwrite] at hone
      omega
  · rintro ⟨hreads, hwrites, hcollected⟩
    refine ⟨?_, fun _ => hreaped.mpr hcollected⟩
    rintro ⟨stream, _ | _⟩ -
    · rw [hread, hreads]
    · rw [hwrite, hwrites]

theorem harmless_forked_iff {log : List ResourceCall} :
    Harmless (forkedLog ++ log) ↔ Harmless log := by
  simp [harmless_iff, forkedLog]

theorem forall_pipeStream {P : PipeStream → Prop} :
    (∀ stream, P stream) ↔ P .stdout ∧ P .stderr := by
  constructor
  · exact fun h => ⟨h _, h _⟩
  · rintro ⟨hout, herr⟩ (_ | _)
    · exact hout
    · exact herr

/-- Behind the fork the balance is a matter of the readers and the child. -/
theorem SuperviseEnds.settled_iff {hook : HookConfig} {result : Except Stop HookOutcome}
    {log : List ResourceCall} (h : SuperviseEnds hook result log) (hreturned : Returned result) :
    Settled (forkedLog ++ log) ↔ Harmless (forkedLog ++ log) := by
  cases h with
  | noStdoutReader =>
    rw [settled_forked_iff, harmless_forked_iff]
    simp [Reaped, harmless_iff, forall_pipeStream]
  | noStderrReader ended =>
    rw [settled_forked_iff, harmless_forked_iff]
    simp [Reaped, harmless_iff, forall_pipeStream, leaveLog]
  | notWaited failed stderrEnded stdoutEnded =>
    obtain ⟨front, c, rfl, hfront, hc⟩ := failed
    have hsame := sameBalance_idle hfront
      (forkedLog ++ [.spawnReader .stdout true, .spawnReader .stderr true])
      (c :: (leaveLog .stderr stderrEnded ++ leaveLog .stdout stdoutEnded))
    simp only [List.append_assoc, List.singleton_append] at hsame ⊢
    rw [hsame.settled_iff, hsame.harmless_iff, settled_forked_iff, harmless_forked_iff]
    cases hc with
    | gone =>
      cases stderrEnded <;> cases stdoutEnded <;>
        simp [Reaped, harmless_iff, forall_pipeStream, leaveLog]
    | wait name => simp [Reaped, harmless_iff, leaveLog]
    | signal signal name => simp [Reaped, harmless_iff, leaveLog]
  | waited collected outcome duration stdoutLines stderrLines =>
    obtain ⟨front, status, rfl, hfront⟩ := collected
    have hsame := sameBalance_idle hfront
      (forkedLog ++ [.spawnReader .stdout true, .spawnReader .stderr true])
      (.waitpid (.ok (some status)) :: [.joinReader .stdout, .joinReader .stderr, .other, .other,
        .other, .close ⟨.stderr, .read⟩, .close ⟨.stdout, .read⟩])
    simp only [List.append_assoc, List.singleton_append] at hsame ⊢
    rw [hsame.settled_iff, hsame.harmless_iff, settled_forked_iff, harmless_forked_iff]
    simp [Reaped, harmless_iff, forall_pipeStream]
  | unreturned unreturned =>
    obtain ⟨e, he⟩ := hreturned _ rfl
    exact absurd he (unreturned e)

theorem Ends.settled_iff {hook : HookConfig} {result : Except Stop HookOutcome}
    {log : List ResourceCall} (h : Ends hook result log) (hreturned : Returned result) :
    Settled log ↔ Harmless log := by
  cases h with
  | noStdoutPipe e => simp [HookResources.settled_iff, harmless_iff]
  | noStderrPipe e =>
    refine iff_of_true ⟨?_, by simp⟩ (by simp [harmless_iff])
    rintro ⟨_ | _, _ | _⟩ hopened <;> simp at hopened ⊢
  | notForked e =>
    refine iff_of_false (fun h => ?_) fun h => h.forked e (by simp)
    have hclosed := h.closed ⟨.stdout, .read⟩ (by simp)
    simp at hclosed
  | forked ends => exact ends.settled_iff hreturned

/-- When the executor has returned, nothing is left of the hook in the parent exactly when the
failures on the way were ones that it cleans up after. -/
theorem hook_resources_settled_iff {σ : Type} (os : ResourceOs σ) (hook : HookConfig)
    (vars : HookVars) (fuel : ℕ) (s : σ)
    (hreturned : Returned (execute os hook vars fuel s).result) :
    Settled (execute os hook vars fuel s).calls ↔ Harmless (execute os hook vars fuel s).calls := by
  rcases execute_ends os hook vars fuel s with ⟨e, -, hrun⟩ | ⟨-, hends⟩
  · rw [hrun]
    simp [settled_iff, harmless_iff]
  · exact hends.settled_iff hreturned

/-- A system that grants everything, with a child that ends at once. -/
def grantingResources : ResourceOs Unit where
  users := noUsers
  pipe _ s := (.ok (), s)
  close _ s := s
  fork s := (.ok (), s)
  spawnReader _ s := (true, s)
  joinReader _ s := s
  readerEnded _ s := (true, s)
  lineCount _ s := (0, s)
  pollChild s := (.ok (some ⟨some 0, none⟩), s)
  waitChild s := (.ok ⟨some 0, none⟩, s)
  killpg _ s := (.ok (), s)
  now s := (0, s)
  sleep _ s := s

theorem prepareImage_audit :
    prepareImage noUsers (auditHookConfig .root) { pamUser := some "alice" } = .ok () := by
  obtain ⟨env, henv⟩ := buildEnvVector_audit
  have hargv : checkArgv (auditHookConfig .root).command = .ok () := by decide +kernel
  exact bind_eq_ok_iff.mpr ⟨none, rfl, bind_eq_ok_iff.mpr ⟨env, henv, hargv⟩⟩

theorem hook_resources_settled_audit :
    Returned (execute grantingResources (auditHookConfig .root) { pamUser := some "alice" } 1
      ()).result ∧
    Settled (execute grantingResources (auditHookConfig .root) { pamUser := some "alice" } 1
      ()).calls := by
  have hrun : ∃ outcome, execute grantingResources (auditHookConfig .root)
      { pamUser := some "alice" } 1 () = ⟨.ok outcome, (), forkedLog ++
        [.spawnReader .stdout true, .spawnReader .stderr true, .other,
          .waitpid (.ok (some ⟨some 0, none⟩)), .joinReader .stdout, .joinReader .stderr, .other,
          .other, .other, .close ⟨.stderr, .read⟩, .close ⟨.stdout, .read⟩]⟩ := by
    rw [execute, show grantingResources.users = noUsers from rfl, prepareImage_audit]
    exact ⟨_, rfl⟩
  obtain ⟨outcome, hrun⟩ := hrun
  have hreturned : Returned (execute grantingResources (auditHookConfig .root)
      { pamUser := some "alice" } 1 ()).result := by
    rw [hrun]
    intro stop hstop
    cases hstop
  refine ⟨hreturned, (hook_resources_settled_iff _ _ _ _ _ hreturned).mpr ?_⟩
  rw [hrun, harmless_forked_iff]
  simp [harmless_iff]

def unforkingResources : ResourceOs Unit :=
  { grantingResources with fork := fun s => (.error "EAGAIN", s) }

def threadlessResources : ResourceOs Unit :=
  { grantingResources with spawnReader := fun _ s => (false, s) }

/-- A fork that is refused leaves both pipes open, and a thread that is refused leaves the child. -/
theorem hook_resources_left_behind :
    ((execute unforkingResources (auditHookConfig .root) { pamUser := some "alice" } 1 ()).result =
        .error (.error (.fork "EAGAIN")) ∧
      (∀ stream, .pipe stream (.ok ()) ∈ (execute unforkingResources (auditHookConfig .root)
        { pamUser := some "alice" } 1 ()).calls) ∧
      ∀ fd, .close fd ∉ (execute unforkingResources (auditHookConfig .root)
        { pamUser := some "alice" } 1 ()).calls) ∧
    (execute threadlessResources (auditHookConfig .root) { pamUser := some "alice" } 1 ()).result =
        .error (readerFailed stdoutReader) ∧
      .fork (.ok ()) ∈ (execute threadlessResources (auditHookConfig .root)
        { pamUser := some "alice" } 1 ()).calls ∧
      ∀ answer, .waitpid answer ∉ (execute threadlessResources (auditHookConfig .root)
        { pamUser := some "alice" } 1 ()).calls := by
  have hunforked : execute unforkingResources (auditHookConfig .root)
      { pamUser := some "alice" } 1 () = ⟨.error (.error (.fork "EAGAIN")), (),
        [.pipe .stdout (.ok ()), .pipe .stderr (.ok ()), .other, .fork (.error "EAGAIN")]⟩ := by
    rw [execute, show unforkingResources.users = noUsers from rfl, prepareImage_audit]
    rfl
  have hthreadless : execute threadlessResources (auditHookConfig .root)
      { pamUser := some "alice" } 1 () = ⟨.error (readerFailed stdoutReader), (), forkedLog ++
        [.spawnReader .stdout false, .close ⟨.stderr, .read⟩, .close ⟨.stdout, .read⟩]⟩ := by
    rw [execute, show threadlessResources.users = noUsers from rfl, prepareImage_audit]
    rfl
  rw [hunforked, hthreadless]
  refine ⟨⟨rfl, ?_, by simp⟩, rfl, by simp [forkedLog], by simp [forkedLog]⟩
  simp [forall_pipeStream]

end PamCertauth.HookResources
