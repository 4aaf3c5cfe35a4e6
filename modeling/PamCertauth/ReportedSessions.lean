import PamCertauth.PipedConnections
import PamCertauth.SessionClosing

/-!
# Sessions that the daemon knows

The client, the connection, the daemon behind it and the state manager behind the daemon are
put together here. In the strict mode the wrapper of the client (`ipc/failmode.rs`) answers
`Ok` to the report of a session exactly if the manager has entered the session into its
registry, as it was reported, while the device of the session was present, and its reply has
come back in time: the connection waits five seconds for the manager (`await_reply`), and the
client has a timeout of its own. Without the reply the session is registered all the same.

Other connections, devices and signals keep the manager busy meanwhile. Whatever it has handled
before the request is part of the turn in which the request comes.
-/

namespace PamCertauth.Monitord

open X509 Ipc

/-- How long a connection waits for the manager. -/
def replyTimeout : ℕ := fromSecs 5

/-- What the manager handles before a request is put into its queue and while it waits there,
and what the request needs while it is handled. -/
structure Turn where
  earlier : List Step
  before : List Step
  isSerialPresent : String → Bool
  persistence : Persistence

/-- The manager, and the turns of the requests that are still to come. -/
structure Office where
  manager : Manager
  turns : ℕ → Turn

namespace Office

variable (cfg : StateConfig)

/-- The manager when the next request is put into its queue. -/
def atSend (office : Office) : Manager :=
  (office.turns 0).earlier.foldl (advance cfg) office.manager

/-- The manager when it takes the request off its queue. -/
def atRequest (office : Office) : Manager :=
  (office.turns 0).before.foldl (advance cfg) (office.atSend cfg)

def requestStep (office : Office) (request : IpcRequest) : Step :=
  ⟨.event (.ipc request), (office.turns 0).isSerialPresent, (office.turns 0).persistence, 0⟩

/-- The manager when it has replied. -/
def replied (office : Office) (request : IpcRequest) : Manager :=
  process cfg (office.atRequest cfg) (office.requestStep request)

/-- The last thing that the manager emits for a request is its reply. -/
def lastReply (m : Manager) : RequestAnswer :=
  match m.log.getLast? with
  | some (.reply message) => .reply message
  | _ => .noReply

/-- The time between the request and its reply. -/
def waited (office : Office) (request : IpcRequest) : ℕ :=
  (office.replied cfg request).now - (office.atSend cfg).now

/-- The manager handles the request also when nobody waits for its reply any more. -/
def request (request : IpcRequest) (office : Office) : RequestAnswer × Office :=
  let later : ℕ → Turn := fun n => office.turns (n + 1)
  if (office.atSend cfg).running then
    if (office.atRequest cfg).running then
      (if office.waited cfg request ≤ replyTimeout then lastReply (office.replied cfg request)
        else .noReply, ⟨office.replied cfg request, later⟩)
    -- The manager has stopped, and the sender of the reply was dropped with its queue.
    else (.noReply, ⟨office.atRequest cfg, later⟩)
  else (.gone, ⟨office.atSend cfg, later⟩)

end Office

/-- A daemon with this manager. -/
def managerEnv (cfg : StateConfig) (client : MessageCodec ClientMessage)
    (server : MessageCodec ServerMessage) (idleTimeout : Duration) : ConnectionEnv Office where
  client := client
  server := server
  request := Office.request cfg
  writeAll _ office := (.ok (), office)
  idleTimeout := idleTimeout

namespace Office

variable {cfg : StateConfig} {office : Office}

theorem lastReply_send (m : Manager) (message : ServerMessage) :
    lastReply (m.send message) = .reply message := by
  simp [lastReply, Manager.send]

/-- The manager is running, and the device of the session is present. -/
def Admits (cfg : StateConfig) (office : Office) (session : ActiveSession) : Prop :=
  (office.atRequest cfg).running = true ∧
    ∀ serial, session.usbSerial = some serial → (office.turns 0).isSerialPresent serial = true

/-- The session is entered and written before it is acknowledged. -/
theorem replied_of_admits {session : ActiveSession} (h : office.Admits cfg session) :
    office.replied cfg (.sessionOpen session) =
      (persistAsync (office.turns 0).persistence
        { office.atRequest cfg with
          registry := (office.atRequest cfg).registry.add session }).send .ack := by
  obtain ⟨hrunning, hpresent⟩ := h
  rw [replied, process, if_pos hrunning]
  simp only [requestStep, handleIpc]
  cases hserial : session.usbSerial with
  | none => rfl
  | some serial => simp only [hpresent serial hserial, if_true]

/-- A manager that has stopped does not run again. -/
theorem running_of_foldl {steps : List Step} {m : Manager}
    (h : (steps.foldl (advance cfg) m).running = true) : m.running = true := by
  induction steps generalizing m with
  | nil => exact h
  | cons step steps ih =>
    have hnext : (advance cfg m step).running = true := ih h
    rw [advance, Manager.pass_running, process_running] at hnext
    exact hnext.1

/-- The manager replies to the session before the connection stops waiting. -/
def RepliesInTime (cfg : StateConfig) (office : Office) (session : ActiveSession) : Prop :=
  office.waited cfg (.sessionOpen session) ≤ replyTimeout

theorem request_of_admits {session : ActiveSession} (h : office.Admits cfg session) :
    request cfg (.sessionOpen session) office =
      (if office.waited cfg (.sessionOpen session) ≤ replyTimeout then .reply .ack else .noReply,
        ⟨office.replied cfg (.sessionOpen session), fun n => office.turns (n + 1)⟩) := by
  have hreply : lastReply (office.replied cfg (.sessionOpen session)) = .reply .ack := by
    rw [replied_of_admits h, lastReply_send]
  rw [request, if_pos (running_of_foldl h.1), if_pos h.1, hreply]

/-- Only an admitted session is acknowledged, and only in time. -/
theorem admits_of_ack {session : ActiveSession} {office' : Office}
    (h : request cfg (.sessionOpen session) office = (.reply .ack, office')) :
    office.Admits cfg session ∧ office.RepliesInTime cfg session := by
  by_cases hsend : (office.atSend cfg).running = true
  · by_cases hrunning : (office.atRequest cfg).running = true
    · rw [request, if_pos hsend, if_pos hrunning] at h
      by_cases hwaited : office.waited cfg (.sessionOpen session) ≤ replyTimeout
      · refine ⟨⟨hrunning, fun serial hserial => ?_⟩, hwaited⟩
        by_contra habsent
        rw [if_pos hwaited, replied, process, if_pos hrunning] at h
        simp only [requestStep, handleIpc, hserial, habsent, if_false, Bool.false_eq_true,
          lastReply_send] at h
        cases h
      · rw [if_neg hwaited] at h
        cases h
    · rw [request, if_pos hsend, if_neg hrunning] at h
      cases h
  · rw [request, if_neg hsend] at h
    cases h

end Office

section Strict

variable {cfg : StateConfig} {client : MessageCodec ClientMessage}
  {server : MessageCodec ServerMessage} {idleTimeout : Duration} {office : Office}
  {info : OpenSessionInfo} {now : SystemTime} {uuid : String → Uuid}

/-- The session as the daemon gets to know it. -/
def reported (info : OpenSessionInfo) (id : Uuid) (now : SystemTime) : ActiveSession :=
  .ofPayload { info.payload id now with openedAt := truncateTime now }

theorem askManager_eq_ack {σ : Type} {env : ConnectionEnv σ} {request : IpcRequest} {s s' : σ}
    (h : askManager env request internalError s = (.ack, s')) :
    env.request request s = (.reply .ack, s') := by
  rw [askManager] at h
  rcases hrequest : env.request request s with ⟨_ | message | _, s₁⟩ <;> rw [hrequest] at h <;> cases h
  rfl

/-- The reply to the report is an acknowledgement exactly if the manager admits the session in
time, and an admitted session is entered also when nobody waits for the reply. -/
theorem reply_eq_ack_iff (c : Conversation (managerEnv cfg client server idleTimeout) office
    (.sessionOpen (info.payload (uuid info.sessionId) now))) :
    (c.reply = .ack ↔ office.Admits cfg (reported info (uuid info.sessionId) now) ∧
      office.RepliesInTime cfg (reported info (uuid info.sessionId) now)) ∧
      (office.Admits cfg (reported info (uuid info.sessionId) now) → c.dispatched.manager =
        office.replied cfg (.sessionOpen (reported info (uuid info.sessionId) now))) := by
  have hgreeted : office = c.greeted := congrArg Prod.snd c.write_ack
  have hdispatch := c.dispatch_eq
  rw [← hgreeted] at hdispatch
  have hask : askManager (managerEnv cfg client server idleTimeout)
      (.sessionOpen (reported info (uuid info.sessionId) now)) internalError office =
        (c.reply, c.dispatched) := hdispatch
  refine ⟨⟨fun hack => ?_, fun ⟨hadmits, hin_time⟩ => ?_⟩, fun hadmits => ?_⟩
  · rw [hack] at hask
    exact Office.admits_of_ack (askManager_eq_ack hask)
  · have hwaited : office.waited cfg
        (.sessionOpen (reported info (uuid info.sessionId) now)) ≤ replyTimeout := hin_time
    have hrequest := Office.request_of_admits hadmits
    rw [if_pos hwaited] at hrequest
    simp only [askManager, managerEnv, hrequest] at hask
    exact (congrArg Prod.fst hask).symm
  · have hrequest := Office.request_of_admits hadmits
    split_ifs at hrequest <;> simp only [askManager, managerEnv, hrequest] at hask <;>
      exact (congrArg (fun answer => answer.2.manager) hask).symm

/-- The session is in the registry, and in the file if that could be written. -/
structure Registered (office : Office) (session : ActiveSession) (m : Manager) : Prop where
  registry : m.registry.byId.lookup session.sessionId = some session
  stored : (office.turns 0).persistence.succeeds = true → session ∈ m.stored
  running : m.running = true

theorem registered_of_admits {session : ActiveSession} (h : office.Admits cfg session) :
    Registered office session (office.replied cfg (.sessionOpen session)) := by
  have hlookup : ((office.atRequest cfg).registry.add session).byId.lookup session.sessionId =
      some session := by rw [SessionRegistry.lookup_add, if_pos rfl]
  rw [Office.replied_of_admits h]
  refine ⟨?_, fun hsucceeds => ?_, ?_⟩
  · simp only [Manager.send, persistAsync_registry]
    exact hlookup
  · simp only [Manager.send, persistAsync, hsucceeds, if_true]
    exact SessionRegistry.mem_snapshot.mpr hlookup
  · simp only [Manager.send, persistAsync_running]
    exact h.1

variable (uuid) in
/-- In the strict mode a report is `Ok` exactly if it is delivered both ways in time and the
manager has admitted the session in time. An admitted session is registered as it was reported,
also when the client does not learn of it. -/
theorem strict_openSession_ok_iff (c : Conversation (managerEnv cfg client server idleTimeout) office
    (.sessionOpen (info.payload (uuid info.sessionId) now))) (d : Delivery)
    (factory : MonitorClientFactory) :
    (((wiredMonitor (pipeLink (managerEnv cfg client server idleTimeout) office now uuid d)
        factory .strict).openSession info ⟨[], [], 0⟩).1 = .ok () ↔
      c.Delivered d ∧ office.Admits cfg (reported info (uuid info.sessionId) now) ∧
        office.RepliesInTime cfg (reported info (uuid info.sessionId) now)) ∧
    (office.Admits cfg (reported info (uuid info.sessionId) now) →
      Registered office (reported info (uuid info.sessionId) now) c.dispatched.manager) := by
  obtain ⟨hack, hmanager⟩ := reply_eq_ack_iff c
  constructor
  · rw [openSession_admitted_iff, or_iff_left (by simp), (openSession_outcome c d factory).ok_iff,
      ackReply_eq_ok_iff, hack]
  · intro hadmits
    rw [hmanager hadmits]
    exact registered_of_admits hadmits

end Strict

/-- A manager that gets a request at once, with a device that is present. -/
def idleOffice : Office := ⟨spawnStateManager .new [] 0, fun _ => ⟨[], [], fun _ => true, ⟨0, true⟩⟩⟩

theorem idleOffice_admits (session : ActiveSession) : idleOffice.Admits .testDefaults session :=
  ⟨rfl, fun _ _ => rfl⟩

def aliceReport : Conversation (managerEnv .testDefaults ackEnv.client ackEnv.server 0) idleOffice
    (.sessionOpen (aliceInfo.payload 7 0)) :=
  { aliceConversation with
    greeted := idleOffice
    dispatched := (dispatch (managerEnv .testDefaults ackEnv.client ackEnv.server 0)
      (ClientMessage.sessionOpen (aliceInfo.payload 7 0)).truncated idleOffice).2
    answered := (dispatch (managerEnv .testDefaults ackEnv.client ackEnv.server 0)
      (ClientMessage.sessionOpen (aliceInfo.payload 7 0)).truncated idleOffice).2
    write_ack := rfl
    dispatch_eq := rfl
    write_answer := rfl }

theorem strict_openSession_alice :
    ((wiredMonitor (pipeLink (managerEnv .testDefaults ackEnv.client ackEnv.server 0) idleOffice 0
        (fun _ => 7) (byteByByte fun _ => .inTime)) ⟨"/run/monitord.sock", 0⟩ .strict).openSession
          aliceInfo ⟨[], [], 0⟩).1 = .ok () ∧
      Registered idleOffice (reported aliceInfo 7 0) aliceReport.dispatched.manager := by
  have halice := strict_openSession_ok_iff (fun _ => 7) aliceReport (byteByByte fun _ => .inTime)
    ⟨"/run/monitord.sock", 0⟩
  refine ⟨halice.1.mpr ⟨⟨⟨?_, rfl⟩, ?_, rfl, rfl⟩, idleOffice_admits _, ?_⟩,
    halice.2 (idleOffice_admits _)⟩
  · exact flatten_byteByByte _ _ _
  · exact flatten_byteByByte _ _ _
  · exact Nat.zero_le _

end PamCertauth.Monitord
