import PamCertauth.Protocol
import PamCertauth.TracedPrograms

/-!
# The client of the monitor daemon

Every request of the PAM module opens a connection of its own, shakes hands, sends one
frame and waits for one reply (`ipc/client.rs`). A wrapper decides which failures reach
the caller (`ipc/failmode.rs`). What the wrapper lets through is `openSession_admitted_iff`;
that an `Ok` of the inner client is an acknowledgement by the daemon is
`connectPerCall_openSession_eq_ok`.
-/

namespace PamCertauth.Ipc

open X509

inductive IpcError where
  | wire (e : WireError)
  | io (detail : String)
  | unavailable
  | protocolMismatch (server : UInt32)
  | deviceGone
  | unauthorized
  | unexpectedReply (reply : ServerMessage)
  | server (code : UInt32) (message : String)
  deriving DecidableEq, Repr

/-- What the PAM flow reports about the session that it authenticated. -/
structure OpenSessionInfo where
  sessionId : String
  pamUser : String
  pamService : String
  hostIdHash : String
  target : SessionTarget
  usbSerial : Option String
  certCn : String
  certSerial : String
  engineerSki : String
  engineerCertSha256 : String
  uid : UInt32
  deriving DecidableEq, Repr

/-- The way to the daemon. Every operation may fail, and a line is empty at the end
of the stream. -/
structure DaemonLink (σ : Type) where
  connect : String → σ → Except String Unit × σ
  configure : Duration → σ → Except String Unit × σ
  writeAll : Bytes → σ → Except String Unit × σ
  readLine : σ → Except String String × σ
  now : σ → SystemTime × σ
  serde : Serde
  uuidFromSessionId : String → Uuid

/-- What passes over the connection. -/
inductive WireEvent where
  | connect (answer : Except String Unit)
  | configure (answer : Except String Unit)
  | write (msg : ClientMessage) (answer : Except String Unit)
  | readLine (answer : Except String String)
  | clock (now : SystemTime)
  deriving DecidableEq

abbrev Exchange (σ : Type) := Prog σ WireEvent IpcError

/-- Where the daemon listens, and how long an operation may take. -/
structure MonitorClientFactory where
  path : String
  timeout : Duration
  deriving DecidableEq, Repr

section Client

variable {σ : Type} (link : DaemonLink σ)

def agent : String := "libpam_certauth/0.3.19"

def mapServerError (code : UInt32) (message : String) : IpcError :=
  if code = ErrorCodes.deviceGone then .deviceGone
  else if code = ErrorCodes.protocolMismatch then .protocolMismatch 0
  else if code = ErrorCodes.unauthorized then .unauthorized
  else .server code message

def send (msg : ClientMessage) : Exchange σ Unit := do
  let bytes ← Prog.ofExcept ((encodeMessage link.serde msg).mapError .wire)
  Prog.request (link.writeAll bytes) (.write msg) .io

def recv : Exchange σ ServerMessage := do
  let line ← Prog.request link.readLine .readLine .io
  if line = "" then Prog.fail .unavailable
  else Prog.ofExcept ((decodeLine link.serde line).mapError .wire)

/-- The verdict on the reply to the greeting. -/
def helloReply : ServerMessage → Except IpcError Unit
  | .helloAck _ version =>
    if version = protocolVersion then .ok () else .error (.protocolMismatch version)
  | .error code message => .error (mapServerError code message)
  | other => .error (.unexpectedReply other)

def connect (factory : MonitorClientFactory) : Exchange σ Unit := do
  Prog.request (link.connect factory.path) .connect fun _ => .unavailable
  Prog.request (link.configure factory.timeout) .configure .io
  send link (.hello protocolVersion (some agent))
  let reply ← recv link
  Prog.ofExcept (helloReply reply)

/-- The verdict on the reply to a request that is acknowledged. -/
def ackReply : ServerMessage → Except IpcError Unit
  | .ack => .ok ()
  | .error code message => .error (mapServerError code message)
  | other => .error (.unexpectedReply other)

def sendSessionOpen (payload : SessionOpenPayload) : Exchange σ Unit := do
  send link (.sessionOpen payload)
  let reply ← recv link
  Prog.ofExcept (ackReply reply)

def sendSessionClose (sessionId : Uuid) (closedAt : SystemTime) : Exchange σ Unit := do
  send link (.sessionClose sessionId closedAt)
  let reply ← recv link
  Prog.ofExcept (ackReply reply)

/-- The verdict on the reply to a new target. Older daemons acknowledge it. -/
def targetReply : ServerMessage → Except IpcError Unit
  | .sessionTargetUpdated _ | .ack => .ok ()
  | .error code message => .error (mapServerError code message)
  | other => .error (.unexpectedReply other)

def sendUpdateSessionTarget (sessionId : Uuid) (newTarget : SessionTarget) :
    Exchange σ Unit := do
  send link (.updateSessionTarget sessionId newTarget)
  let reply ← recv link
  Prog.ofExcept (targetReply reply)

def OpenSessionInfo.payload (info : OpenSessionInfo) (sessionUuid : Uuid) (openedAt : SystemTime) :
    SessionOpenPayload where
  sessionId := sessionUuid
  pamUser := info.pamUser
  pamService := info.pamService
  target := info.target
  usbSerial := info.usbSerial
  hostIdHash := info.hostIdHash
  openedAt := openedAt
  certCn := info.certCn
  certSerial := info.certSerial
  engineerSki := info.engineerSki
  engineerCertSha256 := info.engineerCertSha256
  uid := info.uid

/-- Open a connection and report the session on it. -/
def connectPerCallOpenSession (factory : MonitorClientFactory) (info : OpenSessionInfo) :
    Exchange σ Unit := do
  connect link factory
  let openedAt ← Prog.call link.now .clock
  sendSessionOpen link (info.payload (link.uuidFromSessionId info.sessionId) openedAt)

/-- Open a connection and report the end of the session on it. The reason stays here. -/
def connectPerCallCloseSession (factory : MonitorClientFactory) (sessionId _reason : String) :
    Exchange σ Unit := do
  connect link factory
  let closedAt ← Prog.call link.now .clock
  sendSessionClose link (link.uuidFromSessionId sessionId) closedAt

end Client

inductive MonitorFailMode where
  | strict
  | permissive
  deriving DecidableEq, Repr

/-- The errors that pass the wrapper in every mode. -/
def IpcError.isFatal : IpcError → Bool
  | deviceGone | unauthorized => true
  | _ => false

def failModeApply (mode : MonitorFailMode) : Except IpcError Unit → Except IpcError Unit
  | .ok () => .ok ()
  | .error e =>
    if e.isFatal then .error e
    else
      match mode with
      | .strict => .error e
      | .permissive => .ok ()

/-- The client that the PAM flow sees. -/
structure MonitorClient (σ : Type) where
  openSession : OpenSessionInfo → σ → Except IpcError Unit × σ

/-- A connection for each call, behind the wrapper for the configured mode. -/
def wiredMonitor {σ : Type} (link : DaemonLink σ) (factory : MonitorClientFactory)
    (mode : MonitorFailMode) : MonitorClient σ where
  openSession info s :=
    let r := connectPerCallOpenSession link factory info s
    (failModeApply mode r.result, r.env)

/-- The client that the session entries see, with what passes over its connections. -/
structure SessionMonitor (σ : Type) where
  closeSession : String → String → Exchange σ Unit

def wiredSessionMonitor {σ : Type} (link : DaemonLink σ) (factory : MonitorClientFactory)
    (mode : MonitorFailMode) : SessionMonitor σ where
  closeSession sessionId reason s :=
    let r := connectPerCallCloseSession link factory sessionId reason s
    ⟨failModeApply mode r.result, r.env, r.calls⟩

section Acknowledged

variable {σ : Type} {link : DaemonLink σ}

theorem ackReply_eq_ok_iff {reply : ServerMessage} : ackReply reply = .ok () ↔ reply = .ack := by
  cases reply <;> simp [ackReply]

theorem recv_eq_ok {s s' : σ} {reply : ServerMessage} {log : List WireEvent}
    (h : recv link s = ⟨.ok reply, s', log⟩) :
    ∃ line, log = [.readLine (.ok line)] ∧ decodeLine link.serde line = .ok reply := by
  obtain ⟨line, s₁, t₁, t₂, hread, hrest, rfl⟩ := Prog.bind_eq_ok_iff.mp h
  obtain ⟨-, rfl⟩ := Prog.request_eq_ok_iff.mp hread
  by_cases hline : line = ""
  · rw [if_pos hline] at hrest
    cases hrest
  · rw [if_neg hline, Prog.ofExcept_apply] at hrest
    have hdecode := mapError_eq_ok_iff.mp (congrArg Run.result hrest)
    have hsilent : t₂ = [] := (congrArg Run.calls hrest).symm
    exact ⟨line, by rw [hsilent, List.append_nil], hdecode⟩

theorem send_eq_ok {msg : ClientMessage} {s s' : σ} {log : List WireEvent}
    (h : send link msg s = ⟨.ok (), s', log⟩) : log = [.write msg (.ok ())] := by
  obtain ⟨bytes, s₁, t₁, t₂, hencode, hwrite, rfl⟩ := Prog.bind_eq_ok_iff.mp h
  have hsilent : t₁ = [] := (congrArg Run.calls hencode).symm
  obtain ⟨-, rfl⟩ := Prog.request_eq_ok_iff.mp hwrite
  rw [hsilent, List.nil_append]

theorem sendSessionOpen_eq_ok {payload : SessionOpenPayload} {s s' : σ} {log : List WireEvent}
    (h : sendSessionOpen link payload s = ⟨.ok (), s', log⟩) :
    ∃ line, log = [.write (.sessionOpen payload) (.ok ()), .readLine (.ok line)] ∧
      decodeLine link.serde line = .ok .ack := by
  obtain ⟨⟨⟩, s₁, t₁, t₂, hsend, hreply, rfl⟩ := Prog.bind_eq_ok_iff.mp h
  obtain ⟨reply, s₂, t₃, t₄, hrecv, hverdict, rfl⟩ := Prog.bind_eq_ok_iff.mp hreply
  have hack : reply = .ack := ackReply_eq_ok_iff.mp (congrArg Run.result hverdict)
  have hsilent : t₄ = [] := (congrArg Run.calls hverdict).symm
  obtain ⟨line, hline, hdecode⟩ := recv_eq_ok hrecv
  refine ⟨line, ?_, hack ▸ hdecode⟩
  rw [send_eq_ok hsend, hline, hsilent]
  rfl

/-- The last thing on the connection is the report of this session, answered with
an acknowledgement. -/
def Acknowledged (link : DaemonLink σ) (info : OpenSessionInfo) (log : List WireEvent) : Prop :=
  ∃ before openedAt line,
    log = before ++
      [.write (.sessionOpen (info.payload (link.uuidFromSessionId info.sessionId) openedAt))
          (.ok ()), .readLine (.ok line)] ∧
    decodeLine link.serde line = .ok .ack

theorem connectPerCall_openSession_eq_ok {factory : MonitorClientFactory} {info : OpenSessionInfo}
    {s s' : σ} {log : List WireEvent}
    (h : connectPerCallOpenSession link factory info s = ⟨.ok (), s', log⟩) :
    Acknowledged link info log := by
  obtain ⟨⟨⟩, s₁, t₁, t₂, -, hrest, rfl⟩ := Prog.bind_eq_ok_iff.mp h
  obtain ⟨openedAt, s₂, t₃, t₄, -, hopen, rfl⟩ := Prog.bind_eq_ok_iff.mp hrest
  obtain ⟨line, hline, hdecode⟩ := sendSessionOpen_eq_ok hopen
  exact ⟨t₁ ++ t₃, openedAt, line, by rw [hline, List.append_assoc], hdecode⟩

/-- The wrapper answers `Ok` to acknowledged reports, and in the permissive mode to
every failure but the two that it treats as fatal. -/
theorem openSession_admitted_iff {factory : MonitorClientFactory} {mode : MonitorFailMode}
    {info : OpenSessionInfo} {s : σ} :
    ((wiredMonitor link factory mode).openSession info s).1 = .ok () ↔
      (connectPerCallOpenSession link factory info s).result = .ok () ∨
        mode = .permissive ∧
          ∃ e, (connectPerCallOpenSession link factory info s).result = .error e ∧
            e ≠ .deviceGone ∧ e ≠ .unauthorized := by
  simp only [wiredMonitor]
  rcases (connectPerCallOpenSession link factory info s).result with e | ⟨⟩
  · cases mode <;> cases e <;> simp [failModeApply, IpcError.isFatal]
  · simp [failModeApply]

end Acknowledged

end PamCertauth.Ipc
