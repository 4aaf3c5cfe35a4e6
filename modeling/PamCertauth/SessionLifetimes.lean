import PamCertauth.SessionClosing
import PamCertauth.SessionEntries
import PamCertauth.SessionReporting

/-!
# The life of a session at the daemon

The authentication reports a session to the daemon, and the daemon forgets it when it is
told that the session was closed. The entry for the end of a session runs hooks and
nothing else: `closeSession_never_reported`. A login and a logout against a daemon, byte
by byte, leave the session in the registry.
-/

namespace PamCertauth.Session

open X509 Ipc Mac Hooks

/-- The event belongs to a conversation with the daemon. -/
def SessionEvent.isOfMonitor : SessionEvent → Bool
  | .wire _ | .closeSession _ _ _ | .updateSessionTarget _ _ _ => true
  | _ => false

section Close

variable {σ : Type} (host : SessionHost σ)

/-- The host asks PAM and runs hooks without changing whether `I` holds. -/
structure Undisturbed (I : σ → Prop) : Prop where
  loadValidatedConfig : ∀ s, I s → I (host.loadValidatedConfig s).2
  getAuthContext : ∀ s, I s → I (host.getAuthContext s).2
  pamGetUserString : ∀ s, I s → I (host.pamGetUserString s).2
  hookExecutor : ∀ hook vars s, I s → I (host.hookExecutor hook vars s).2

/-- The entry has told the daemon that the session was closed, and the daemon has forgotten
it when the entry returns. -/
def ReportsClose (registered : Uuid → σ → Prop) (ctx : AuthContext) (s : σ) : Prop :=
  (∃ closedAt answer, .wire (.write (.sessionClose (host.link.uuidFromSessionId ctx.sessionId)
    closedAt) answer) ∈ (pamSmCloseSession host s).calls) ∧
  ¬ registered (host.link.uuidFromSessionId ctx.sessionId) (pamSmCloseSession host s).env

theorem closeSession_logsOnly (cfg : SessionConfig) (ctx : AuthContext) :
    Prog.LogsOnly (fun event => event.isOfMonitor = false) (closeSession host cfg ctx) := by
  apply Prog.LogsOnly.bind
  · refine Prog.LogsOnly.bind (Prog.LogsOnly.call fun _ => rfl) fun answer => ?_
    split <;> exact Prog.LogsOnly.pure _
  · intro pamUser
    refine Prog.LogsOnly.bind ?_ fun _ => Prog.LogsOnly.pure _
    apply Prog.LogsOnly.attempt
    apply runHooksForStage_logsOnly
    intro hook _ outcome
    rfl

theorem pamSmCloseSession_logsOnly :
    Prog.LogsOnly (fun event => event.isOfMonitor = false) (pamSmCloseSession host) := by
  refine Prog.LogsOnly.bind (Prog.LogsOnly.call fun _ => rfl) fun loaded => ?_
  split
  · exact Prog.LogsOnly.pure _
  · refine Prog.LogsOnly.bind (Prog.LogsOnly.call fun _ => rfl) fun found => ?_
    split
    · exact Prog.LogsOnly.pure _
    · exact closeSession_logsOnly host _ _

variable {host} {I : σ → Prop}

theorem closeSession_preserves (h : Undisturbed host I) (cfg : SessionConfig) (ctx : AuthContext) :
    Prog.Preserves I (closeSession host cfg ctx) := by
  apply Prog.Preserves.bind
  · refine Prog.Preserves.bind (Prog.Preserves.call h.pamGetUserString) fun answer => ?_
    split <;> exact Prog.Preserves.pure _
  · intro pamUser
    refine Prog.Preserves.bind ?_ fun _ => Prog.Preserves.pure _
    apply Prog.Preserves.attempt
    exact runHooksForStage_preserves fun hook => h.hookExecutor hook _

theorem pamSmCloseSession_preserves (h : Undisturbed host I) :
    Prog.Preserves I (pamSmCloseSession host) := by
  refine Prog.Preserves.bind (Prog.Preserves.call h.loadValidatedConfig) fun loaded => ?_
  split
  · exact Prog.Preserves.pure _
  · refine Prog.Preserves.bind (Prog.Preserves.call h.getAuthContext) fun found => ?_
    split
    · exact Prog.Preserves.pure _
    · exact closeSession_preserves h _ _

end Close

/-- Whatever the configuration, the context and the hooks are, the entry does not report the
end of a session. A session that hooks leave alone is still registered when it returns. -/
theorem closeSession_never_reported {σ : Type} (host : SessionHost σ)
    (registered : Uuid → σ → Prop) (ctx : AuthContext) (s : σ) :
    ¬ ReportsClose host registered ctx s ∧
      (Undisturbed host (registered (host.link.uuidFromSessionId ctx.sessionId)) →
        registered (host.link.uuidFromSessionId ctx.sessionId) s →
        registered (host.link.uuidFromSessionId ctx.sessionId) (pamSmCloseSession host s).env) := by
  constructor
  · rintro ⟨⟨closedAt, answer, hwrite⟩, -⟩
    cases pamSmCloseSession_logsOnly host s _ hwrite
  · intro hundisturbed hregistered
    exact pamSmCloseSession_preserves hundisturbed s hregistered

section Sample

open PamCertauth.Flow Monitord

/-- What the server passes to the state manager for a message behind the greeting. -/
def requestOf : ClientMessage → Option IpcRequest
  | .hello _ _ => none
  | .ping => some .ping
  | .sessionOpen p =>
    some (.sessionOpen ⟨p.sessionId, p.pamUser, p.pamService, p.target, p.usbSerial, p.hostIdHash,
      p.openedAt, p.certCn, p.certSerial, p.engineerSki, p.engineerCertSha256, p.uid⟩)
  | .getActiveSessionByUid uid => some (.getActiveSessionByUid uid)
  | .sessionClose sessionId _ => some (.sessionClose sessionId)
  | .updateSessionTarget sessionId newTarget => some (.updateSessionTarget sessionId newTarget)

/-- A running daemon, and the lines that its client has not read yet. -/
structure DaemonEnv where
  manager : Manager
  inbox : List String

def replyLine : Emission → Option String
  | .reply .ack => some "ack"
  | .reply _ => some "other"
  | .dispatch _ _ => none

def DaemonEnv.receive (env : DaemonEnv) (msg : ClientMessage) : DaemonEnv :=
  match requestOf msg with
  | none => { env with inbox := env.inbox ++ ["hello"] }
  | some request =>
    let manager := process .testDefaults env.manager
      ⟨.event (.ipc request), fun _ => true, ⟨0, true⟩, 0⟩
    let emitted := manager.log.drop env.manager.log.length
    ⟨manager, env.inbox ++ emitted.filterMap replyLine⟩

/-- The session that the login of `alice` reports. -/
def aliceOpening : SessionOpenPayload where
  sessionId := 7
  pamUser := "alice"
  pamService := "login"
  target := .tty "/dev/tty1"
  usbSerial := some "USB-1"
  hostIdHash := "cafe0123"
  openedAt := 0
  certCn := "engineer"
  certSerial := "0a"
  engineerSki := ""
  engineerCertSha256 := "0000000000000000000000000000000000000000000000000000000000000000"
  uid := 0

/-- The messages of the sample, each encoded by its place in the list. -/
def codebook : List ClientMessage :=
  [.hello protocolVersion (some agent), .sessionOpen aliceOpening, .sessionClose 7 0]

def codebookSerde : Serde where
  toVec msg := if msg ∈ codebook then .ok [(codebook.idxOf msg).toUInt8] else .error "unknown"
  fromStr line :=
    if line = "ack" then .ok .ack
    else if line = "hello" then .ok (.helloAck "0.3.19" protocolVersion)
    else .error "unknown"

/-- A link over which every message of the sample reaches the daemon. -/
def daemonLink : DaemonLink DaemonEnv where
  connect _ env := (.ok (), { env with inbox := [] })
  configure _ env := (.ok (), env)
  writeAll bytes env :=
    match (codebook.drop ((bytes.headD 0).toNat)).head? with
    | some msg => (.ok (), env.receive msg)
    | none => (.error "unknown", env)
  readLine env :=
    match env.inbox with
    | [] => (.ok "", env)
    | line :: rest => (.ok line, { env with inbox := rest })
  now env := (0, env)
  serde := codebookSerde
  uuidFromSessionId _ := 7

def daemonDeps : Deps DaemonEnv RecordX509 where
  cfg := (sampleConfig .default []).toValidatedConfig
  trustVerify leaf presented env :=
    ((Wiring.recordVerifier [] false []).verifyAt leaf presented 5, env)
  monitor := wiredMonitor daemonLink ⟨"/run/monitord.sock", X509.Duration.fromSecs 2⟩ .strict
  hookExecutor _ _ env := (.error (.fork "no hooks here"), env)
  hostIdHash := "cafe0123"
  hostIdSource := .machineId
  userMappings := [⟨"alice", .subjectCn "engineer"⟩]
  pamTarget := .tty "/dev/tty1"

def daemonPlatform : Platform DaemonEnv RecordX509 where
  fillNonce env := (.ok (Vector.replicate 32 7), env)
  sign key _ data env := (.ok (utf8Bytes key ++ data), env)
  now env := (5, env)
  userFromName _ env := (.ok none, env)
  loadBackend path _ env := (.error (.modulePathMissing path), env)

def daemonIo : FlowIo DaemonEnv where
  waitForUsb env := (.ok [recordDevice], env)
  mount _ env := (.ok ⟨"/run/usb", 1⟩, env)
  unmount _ env := env
  discover _ pattern _ env := (.ok ⟨pattern, utf8Bytes "0A", none⟩, env)
  showInfo _ env := env

/-- The host on which the session ends. -/
def daemonHost (ctx : AuthContext) : SessionHost DaemonEnv where
  loadValidatedConfig env := (.ok (sampleConfig .default []), env)
  getAuthContext env := (some ctx, env)
  pamGetUserString env := (.ok "alice", env)
  pamGetEnvString _ env := (.ok none, env)
  astraMac := false
  parsec := stubBackend DaemonEnv
  link := daemonLink
  hookExecutor _ _ env := (.error (.fork "no hooks here"), env)

def daemonLogin : Run DaemonEnv (Call RecordX509) (Halt FlowError) FlowOutcome :=
  authenticate daemonDeps daemonPlatform daemonIo (fun _ env => (.ok "1234", env)) aliceLogin
    ⟨spawnStateManager .new [] 0, []⟩

def isRegistered (sessionId : Uuid) (env : DaemonEnv) : Bool :=
  (env.manager.registry.byId.lookup sessionId).isSome

/-- The opening is acknowledged, the daemon can be reached and would remove the session, and the
logout returns with the session in the registry. -/
theorem logout_leaves_session :
    ∃ outcome, daemonLogin.result = .ok outcome ∧
      isRegistered 7 daemonLogin.env = true ∧
      isRegistered 7 (connectPerCallCloseSession daemonLink ⟨"/run/monitord.sock", 0⟩
        aliceLogin.sessionId "logout" daemonLogin.env).env = false ∧
      (pamSmCloseSession (daemonHost outcome.authCtx) daemonLogin.env).result = .ok () ∧
      ¬ ReportsClose (daemonHost outcome.authCtx) (fun id env => isRegistered id env = true)
        outcome.authCtx daemonLogin.env ∧
      isRegistered 7 (pamSmCloseSession (daemonHost outcome.authCtx) daemonLogin.env).env =
        true := by
  have hadmitted : daemonLogin.result.isOk = true := by decide +kernel
  have hopened : isRegistered 7 daemonLogin.env = true := by decide +kernel
  rcases hresult : daemonLogin.result with e | outcome
  · rw [hresult] at hadmitted
    cases hadmitted
  have hundisturbed : Undisturbed (daemonHost outcome.authCtx)
      (fun env => isRegistered 7 env = true) :=
    ⟨fun _ h => h, fun _ h => h, fun _ h => h, fun _ _ _ h => h⟩
  have hremains := pamSmCloseSession_preserves hundisturbed daemonLogin.env hopened
  refine ⟨outcome, rfl, hopened, by decide +kernel, rfl, ?_, hremains⟩
  rintro ⟨⟨closedAt, answer, hwrite⟩, -⟩
  cases pamSmCloseSession_logsOnly _ daemonLogin.env _ hwrite

end Sample

end PamCertauth.Session
