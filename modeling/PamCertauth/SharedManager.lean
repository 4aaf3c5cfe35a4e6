import PamCertauth.ReportedSessions
import PamCertauth.SerialServers

/-!
# Connections that share the manager

Any number of connections are served at the same time (`server.rs`), and all of them ask one
state manager, which also gets the events of the devices and of logind (`state.rs`). The replies
that the peers see are those of a single run of the manager, in which the requests come in the
order in which the connections have sent them.

A connection is known by what it reads, how its writes end and how its requests are answered.
What it asks next follows from the answers so far, so that it can be put beside the others.
-/

namespace PamCertauth.Monitord

open X509 Ipc LineFraming SerialServers

/-- The request that a message becomes. A second greeting is answered by the connection. -/
def ipcRequest : ClientMessage → Option IpcRequest
  | .hello _ _ => none
  | .ping => some .ping
  | .sessionOpen payload => some (.sessionOpen (.ofPayload payload))
  | .getActiveSessionByUid uid => some (.getActiveSessionByUid uid)
  | .sessionClose sessionId _ => some (.sessionClose sessionId)
  | .updateSessionTarget sessionId newTarget => some (.updateSessionTarget sessionId newTarget)

namespace IpcRequest

/-- The reply when the manager does not take the request. -/
def goneReply : IpcRequest → ServerMessage
  | .ping => .error ErrorCodes.internal "state manager gone"
  | _ => internalError

/-- What a connection makes of the answer to a request. -/
def replyTo (request : IpcRequest) : RequestAnswer → ServerMessage
  | .gone => request.goneReply
  | .reply message => message
  | .noReply => internalError

end IpcRequest

section

variable {σ : Type} (env : ConnectionEnv σ)

theorem askManager_eq (request : IpcRequest) (s : σ) :
    askManager env request request.goneReply s =
      (request.replyTo (env.request request s).1, (env.request request s).2) := by
  rw [askManager]
  rcases env.request request s with ⟨_ | message | _, s₁⟩ <;> rfl

theorem dispatch_of_request {msg : ClientMessage} {request : IpcRequest}
    (h : ipcRequest msg = some request) (s : σ) :
    dispatch env msg s =
      (request.replyTo (env.request request s).1, (env.request request s).2) := by
  rw [← askManager_eq]
  cases msg <;> cases h <;> rfl

theorem dispatch_of_none {msg : ClientMessage} (h : ipcRequest msg = none) (s : σ) :
    (dispatch env msg s).2 = s := by
  cases msg <;> cases h
  rfl

/-- The programs that only dispatch messages and write replies. -/
inductive Composed : {ε α : Type} → Prog σ ConnCall ε α → Prop where
  | ofExcept {ε α : Type} (x : Except ε α) : Composed (Prog.ofExcept x : Prog σ ConnCall ε α)
  | dispatch {ε : Type} (msg : ClientMessage) :
      Composed (Prog.call (dispatch env msg) (.dispatch msg) : Prog σ ConnCall ε ServerMessage)
  | write {ε : Type} (bytes : Bytes) (msg : ServerMessage) :
      Composed (Prog.call (env.writeAll bytes) (.write msg) :
        Prog σ ConnCall ε (Except String Unit))
  | attempt {ε ε' α : Type} {p : Prog σ ConnCall ε α} (part : Composed p) :
      Composed (Prog.attempt p : Prog σ ConnCall ε' (Except ε α))
  | bind {ε α β : Type} {p : Prog σ ConnCall ε α} {f : α → Prog σ ConnCall ε β}
      (first : Composed p) (rest : ∀ a, Composed (f a)) : Composed (p >>= f)

namespace Composed

variable {env}

theorem pure {ε α : Type} (a : α) : Composed env (Pure.pure a : Prog σ ConnCall ε α) :=
  ofExcept (.ok a)

theorem fail {ε α : Type} (e : ε) : Composed env (Prog.fail e : Prog σ ConnCall ε α) :=
  ofExcept (.error e)

theorem writeMessage (msg : ServerMessage) : Composed env (writeMessage env msg) :=
  bind (ofExcept _) fun bytes => write bytes msg

theorem refuse (code : UInt32) (message : String) : Composed env (refuse env code message) :=
  bind (writeMessage _) fun _ => pure ()

theorem serveFrame (frame : Bytes) {next : ConnProg σ Unit} (hnext : Composed env next) :
    Composed env (serveFrame env frame next) := by
  rw [Monitord.serveFrame]
  split
  · exact refuse _ _
  · exact refuse _ _
  · exact bind (dispatch _) fun reply => bind (writeMessage reply) fun answer =>
      bind (ofExcept _) fun _ => hnext

theorem serveFrames (reader : Buffered ReadFailure UInt8) :
    Composed env (serveFrames env reader) := by
  rw [Monitord.serveFrames]
  split
  · exact refuse _ _
  · exact fail _
  · exact pure ()
  · exact refuse _ _
  · exact serveFrame _ (serveFrames _)
termination_by reader.content.length
decreasing_by exact readFrame_content_lt ‹_›

theorem performHandshake (source : List (Except ReadFailure Bytes)) :
    Composed env (performHandshake env source) := by
  rw [Monitord.performHandshake]
  split
  · exact fail _
  · exact fail _
  · split
    · exact fail _
    · split
      · exact fail _
      · split
        · exact fail _
        · exact fail _
        · split
          · exact bind (attempt (writeMessage _)) fun _ => fail _
          · exact bind (writeMessage _) fun _ => bind (ofExcept _) fun _ => pure _
        · exact bind (attempt (writeMessage _)) fun _ => fail _

theorem serveConnectionWith (source : List (Except ReadFailure Bytes)) :
    Composed env (serveConnectionWith env source) :=
  bind (performHandshake source) fun _ => serveFrames _

end Composed

end
/-- The answers that are still to come, what was asked, and the number of writes. -/
structure Tape where
  answers : List RequestAnswer
  asked : List IpcRequest
  written : ℕ

/-- What the connections of one listener have in common. -/
structure Listener where
  client : MessageCodec ClientMessage
  server : MessageCodec ServerMessage
  idleTimeout : Duration

/-- What is read from a peer, and how the writes to it end. -/
structure Peer where
  source : List (Except ReadFailure Bytes)
  writes : ℕ → Except String Unit

def tapeEnv (l : Listener) (writes : ℕ → Except String Unit) : ConnectionEnv Tape where
  client := l.client
  server := l.server
  request request t :=
    (t.answers.head?.getD .noReply,
      { t with answers := t.answers.tail, asked := t.asked ++ [request] })
  writeAll _ t := (writes t.written, { t with written := t.written + 1 })
  idleTimeout := l.idleTimeout

/-- The connection as far as these answers lead it, and beyond them as if none came. -/
def Peer.run (l : Listener) (peer : Peer) (answers : List RequestAnswer) :
    Run Tape ConnCall ServerError Unit :=
  serveConnectionWith (tapeEnv l peer.writes) peer.source ⟨answers, [], 0⟩

def ConnCall.exchange? : ConnCall → Option (IpcRequest × ServerMessage)
  | .dispatch msg reply => (ipcRequest msg).map fun request => (request, reply)
  | .write _ _ => none

/-- The requests of a connection and its replies to them. -/
def dialogue (log : List ConnCall) : List (IpcRequest × ServerMessage) :=
  log.filterMap ConnCall.exchange?

/-- The log tells what was asked, and each reply comes from its answer. -/
structure Spoken (t : Tape) (log : List ConnCall) (t' : Tape) : Prop where
  asked : t'.asked = t.asked ++ (dialogue log).map Prod.fst
  answers : t'.answers = t.answers.drop (dialogue log).length
  replies : ∀ (k : ℕ) (request : IpcRequest) (reply : ServerMessage),
    (dialogue log)[k]? = some (request, reply) →
      reply = request.replyTo (t.answers[k]?.getD .noReply)

namespace Spoken

theorem silent {t t' : Tape} {log : List ConnCall} (hlog : dialogue log = [])
    (hasked : t'.asked = t.asked) (hanswers : t'.answers = t.answers) : Spoken t log t' := by
  refine ⟨?_, ?_, fun k request reply h => ?_⟩
  · simp [hlog, hasked]
  · simp [hlog, hanswers]
  · simp [hlog] at h

theorem trans {t t₁ t₂ : Tape} {log₁ log₂ : List ConnCall} (h₁ : Spoken t log₁ t₁)
    (h₂ : Spoken t₁ log₂ t₂) : Spoken t (log₁ ++ log₂) t₂ := by
  have hdialogue : dialogue (log₁ ++ log₂) = dialogue log₁ ++ dialogue log₂ :=
    List.filterMap_append
  refine ⟨?_, ?_, fun k request reply h => ?_⟩
  · simp [hdialogue, h₂.asked, h₁.asked]
  · rw [h₂.answers, h₁.answers, List.drop_drop, hdialogue, List.length_append]
  · rw [hdialogue] at h
    by_cases hk : k < (dialogue log₁).length
    · rw [List.getElem?_append_left hk] at h
      exact h₁.replies k request reply h
    · have hle : (dialogue log₁).length ≤ k := not_lt.mp hk
      rw [List.getElem?_append_right hle] at h
      have hreply := h₂.replies _ request reply h
      rw [h₁.answers, List.getElem?_drop, Nat.add_sub_cancel' hle] at hreply
      exact hreply

end Spoken

section

variable {l : Listener} {writes : ℕ → Except String Unit}

theorem dialogue_dispatch {msg : ClientMessage} {request : IpcRequest}
    (h : ipcRequest msg = some request) (reply : ServerMessage) :
    dialogue [.dispatch msg reply] = [(request, reply)] := by
  simp [dialogue, ConnCall.exchange?, h]

theorem spoken_dispatch (msg : ClientMessage) (t : Tape) :
    Spoken t [.dispatch msg (dispatch (tapeEnv l writes) msg t).1]
      (dispatch (tapeEnv l writes) msg t).2 := by
  cases hrequest : ipcRequest msg with
  | none =>
    rw [dispatch_of_none _ hrequest]
    exact .silent (by simp [dialogue, ConnCall.exchange?, hrequest]) rfl rfl
  | some request =>
    rw [dispatch_of_request _ hrequest]
    refine ⟨?_, ?_, fun k request' reply h => ?_⟩
    · rw [dialogue_dispatch hrequest]
      rfl
    · rw [dialogue_dispatch hrequest]
      exact List.drop_one.symm
    · rw [dialogue_dispatch hrequest] at h
      cases k with
      | zero =>
        cases h
        rw [← List.head?_eq_getElem?]
        rfl
      | succ k => cases h

theorem relates_spoken {ε α : Type} {p : Prog Tape ConnCall ε α}
    (h : Composed (tapeEnv l writes) p) : Prog.Relates Spoken p := by
  induction h with
  | ofExcept x => exact .ofExcept (fun t => .silent rfl rfl rfl) x
  | dispatch msg => exact spoken_dispatch msg
  | write bytes msg => exact fun t => .silent rfl rfl rfl
  | attempt _ ih => exact ih.attempt
  | bind _ _ ih ihf => exact .bind (fun _ _ _ _ _ => .trans) ih ihf

theorem Peer.spoken_run (peer : Peer) (answers : List RequestAnswer) :
    Spoken ⟨answers, [], 0⟩ (peer.run l answers).calls (peer.run l answers).env :=
  relates_spoken (.serveConnectionWith peer.source) ⟨answers, [], 0⟩

/-- The second tape has more answers, and `n` is the number of requests with the answers that are
left to the first. -/
structure Ahead (n : ℕ) (t t' : Tape) : Prop where
  asked : t.asked = t'.asked
  written : t.written = t'.written
  answers : t.answers <+: t'.answers
  length : t.asked.length + t.answers.length = n

/-- The first tape has run out of answers, one request later than both have common answers. -/
def Apart (n : ℕ) (t t' : Tape) : Prop :=
  ∃ common : List IpcRequest, common.length = n + 1 ∧ common <+: t.asked ∧ common <+: t'.asked

variable {n : ℕ} {t t' : Tape}

theorem Apart.grow {t₁ t₁' : Tape} (h : Apart n t t') (hleft : t.asked <+: t₁.asked)
    (hright : t'.asked <+: t₁'.asked) : Apart n t₁ t₁' := by
  obtain ⟨common, hlength, hcommon, hcommon'⟩ := h
  exact ⟨common, hlength, hcommon.trans hleft, hcommon'.trans hright⟩

theorem asked_dispatch (msg : ClientMessage) (t : Tape) :
    t.asked <+: (dispatch (tapeEnv l writes) msg t).2.asked := by
  rw [(spoken_dispatch msg t).asked]
  exact List.prefix_append _ _

theorem ahead_dispatch (msg : ClientMessage) (h : Ahead n t t') :
    (dispatch (tapeEnv l writes) msg t).1 = (dispatch (tapeEnv l writes) msg t').1 ∧
        Ahead n (dispatch (tapeEnv l writes) msg t).2 (dispatch (tapeEnv l writes) msg t').2 ∨
      Apart n (dispatch (tapeEnv l writes) msg t).2 (dispatch (tapeEnv l writes) msg t').2 := by
  obtain ⟨hasked, hwritten, hanswers, hlength⟩ := h
  cases hrequest : ipcRequest msg with
  | none =>
    refine .inl ⟨?_, ?_⟩
    · cases msg <;> cases hrequest
      rfl
    · rw [dispatch_of_none _ hrequest, dispatch_of_none _ hrequest]
      exact ⟨hasked, hwritten, hanswers, hlength⟩
  | some request =>
    rw [dispatch_of_request _ hrequest, dispatch_of_request _ hrequest]
    obtain ⟨more, hmore⟩ := hanswers
    cases hleft : t.answers with
    | nil =>
      refine .inr ⟨t.asked ++ [request], ?_, List.prefix_rfl, ?_⟩
      · simpa [hleft] using hlength
      · rw [hasked]
        exact List.prefix_rfl
    | cons answer answers =>
      rw [hleft] at hmore hlength
      refine .inl ⟨?_, ?_, ?_, ?_, ?_⟩
      · simp [tapeEnv, hleft, ← hmore]
      · simp [tapeEnv, hasked]
      · exact hwritten
      · simp [tapeEnv, hleft, ← hmore]
      · simp only [tapeEnv, hleft, List.length_append, List.length_cons, List.length_nil,
          List.tail_cons] at hlength ⊢
        omega

theorem tracks_ahead {ε α : Type} {p : Prog Tape ConnCall ε α}
    (h : Composed (tapeEnv l writes) p) : Prog.Tracks (Ahead n) (Apart n) p := by
  induction h with
  | ofExcept x => exact .ofExcept x
  | dispatch msg =>
    exact .call (fun t t' => ahead_dispatch msg)
      (fun t t' hapart => hapart.grow (asked_dispatch msg t) List.prefix_rfl)
      fun t t' hapart => hapart.grow List.prefix_rfl (asked_dispatch msg t')
  | write bytes msg =>
    refine .call (fun t t' hahead => .inl ⟨?_, ?_⟩) (fun _ _ => id) fun _ _ => id
    · exact congrArg writes hahead.written
    · exact ⟨hahead.asked, congrArg (· + 1) hahead.written, hahead.answers, hahead.length⟩
  | attempt _ ih => exact ih.attempt
  | bind _ _ ih ihf => exact .bind ih ihf

/-- The next request is there as soon as the answers before it are. -/
theorem Peer.asked_of_take {peer : Peer} {answers : List RequestAnswer} {k : ℕ}
    {request : IpcRequest} (hk : k ≤ answers.length)
    (h : (peer.run l (answers.take k)).env.asked[k]? = some request) :
    (peer.run l answers).env.asked[k]? = some request := by
  have hahead : Ahead k (⟨answers.take k, [], 0⟩ : Tape) ⟨answers, [], 0⟩ :=
    ⟨rfl, rfl, List.take_prefix k answers, by simp [hk]⟩
  have htracks := tracks_ahead (n := k)
    (.serveConnectionWith peer.source : Composed (tapeEnv l peer.writes) _)
  rcases htracks.alike _ _ hahead with ⟨-, hahead⟩ | ⟨common, hlength, hleft, hright⟩
  · rw [← h]
    exact congrArg (·[k]?) hahead.asked.symm
  · have hlt : k < common.length := by omega
    obtain ⟨more, hmore⟩ := hleft
    obtain ⟨more', hmore'⟩ := hright
    rw [Peer.run, ← hmore, List.getElem?_append_left hlt] at h
    rw [Peer.run, ← hmore', List.getElem?_append_left hlt]
    exact h

end

/-- The manager, which takes events off its queue until it is stopped. -/
def managerServer (cfg : StateConfig) : Server Manager Step Event RequestAnswer where
  next := advance cfg
  reply m step := Office.lastReply (process cfg m step)
  Takes step e := step.input = .event e
  Halts step := step.input = .stop
  refused := .gone
  lost := .noReply

/-- A connection asks the request that follows its answers. -/
def AsksNext {ι : Type} (l : Listener) (peers : ι → Peer) (i : ι) (answers : List RequestAnswer)
    (e : Event) : Prop :=
  ∃ request, e = .ipc request ∧ ((peers i).run l answers).env.asked[answers.length]? = some request

/-- The manager and its connections. -/
abbrev Daemon (ι : Type) : Type := State ι Manager Step Event RequestAnswer

variable {ι : Type} [DecidableEq ι]

/-- The daemon gets from the first state to the second. -/
abbrev Daemon.Reaches (cfg : StateConfig) (l : Listener) (peers : ι → Peer) :
    Daemon ι → Daemon ι → Prop :=
  SerialServers.Reaches (managerServer cfg) (AsksNext l peers)

/-- The manager when it has handled these events. -/
def managerAfter (cfg : StateConfig) (m₀ : Manager) (handled : List (Item ι Event × Step)) :
    Manager :=
  (handled.map Prod.snd).foldl (advance cfg) m₀

/-- The connection has got the reply to its request with this number. -/
structure Exchanged (l : Listener) (peers : ι → Peer) (s : Daemon ι) (i : ι) (k : ℕ)
    (request : IpcRequest) (reply : ServerMessage) : Prop where
  answered : k < (s.clients i).answers.length
  exchange : (dialogue ((peers i).run l (s.clients i).answers).calls)[k]? = some (request, reply)

/-- The manager has handled the request and this is its reply. -/
def Served (cfg : StateConfig) (m₀ : Manager) (handled : List (Item ι Event × Step)) (i : ι) (k : ℕ)
    (request : IpcRequest) (reply : ServerMessage) : Prop :=
  ∃ front step back, handled = front ++ (⟨some (i, k), .ipc request⟩, step) :: back ∧
    step.input = .event (.ipc request) ∧
      Office.lastReply (process cfg (managerAfter cfg m₀ front) step) = .reply reply

/-- There is one run of the manager that explains what all connections have seen. -/
structure Linearized (cfg : StateConfig) (l : Listener) (peers : ι → Peer) (m₀ : Manager)
    (s : Daemon ι) : Prop where
  /-- Events are handled in the order in which they were sent, and none is left out. -/
  inOrder : s.handled.map Prod.fst <+: s.sent
  complete : s.running = true → s.sent = s.handled.map Prod.fst ++ s.queue
  /-- The manager has handled them, one after the other. -/
  sequential : s.running = true → s.server = managerAfter cfg m₀ s.handled
  /-- What a connection has sent are its own requests, each once and in their order. -/
  increasing : ∀ i, (s.sent.filterMap (numberOf i)).Pairwise (· < ·)
  own : ∀ i k e, ⟨some (i, k), e⟩ ∈ s.sent →
    ∃ request reply, e = .ipc request ∧
      (dialogue ((peers i).run l (s.clients i).answers).calls)[k]? = some (request, reply)
  /-- A reply says that the manager is gone or late, or is the manager's. -/
  replies : ∀ i k request reply, Exchanged l peers s i k request reply →
    reply = request.goneReply ∧ s.running = false ∨ reply = internalError ∨
      Served cfg m₀ s.handled i k request reply

section

variable {cfg : StateConfig} {l : Listener} {peers : ι → Peer} {m₀ : Manager} {s : Daemon ι}

omit [DecidableEq ι] in
theorem after_eq_managerAfter (handled : List (Item ι Event × Step)) :
    after (managerServer cfg) m₀ handled = managerAfter cfg m₀ handled := by
  rw [after, managerAfter, List.foldl_map]
  rfl

/-- A request that was sent stands in the log of its connection. -/
theorem dialogue_of_sent (h : Sound (managerServer cfg) (AsksNext l peers) m₀ s) {i : ι} {k : ℕ}
    {e : Event} (hmem : ⟨some (i, k), e⟩ ∈ s.sent) :
    ∃ request reply, e = .ipc request ∧
      (dialogue ((peers i).run l (s.clients i).answers).calls)[k]? = some (request, reply) := by
  obtain ⟨hk, request, rfl, hasked⟩ := (h.clients i).asks k e hmem
  have hle : k ≤ (s.clients i).answers.length :=
    Nat.le_of_lt_succ (hk.trans_le (s.clients i).asked_le)
  rw [List.length_take_of_le hle] at hasked
  have hfull := Peer.asked_of_take hle hasked
  rw [((peers i).spoken_run (s.clients i).answers).asked, List.nil_append, List.getElem?_map]
    at hfull
  obtain ⟨⟨request', reply⟩, hexchange, rfl⟩ := Option.map_eq_some_iff.mp hfull
  exact ⟨request', reply, rfl, hexchange⟩

/-- The manager runs while it handles events. -/
theorem managerAfter_running (hm₀ : m₀.running = true)
    (h : Sound (managerServer cfg) (AsksNext l peers) m₀ s) {front : List (Item ι Event × Step)}
    (hfront : front <+: s.handled) : (managerAfter cfg m₀ front).running = true := by
  induction front using List.reverseRecOn with
  | nil => exact hm₀
  | append_singleton front g ih =>
    have hinput : g.2.input = .event g.1.request :=
      h.takes g (hfront.subset (List.mem_append_right _ (List.mem_singleton_self g)))
    have hrunning := ih ((List.prefix_append front [g]).trans hfront)
    have hlast : managerAfter cfg m₀ (front ++ [g]) =
        advance cfg (managerAfter cfg m₀ front) g.2 := by
      simp [managerAfter]
    rw [hlast, advance, Manager.pass_running, process_running]
    exact ⟨hrunning, by simp [hinput]⟩

variable (cfg) in
/-- A running manager replies to every request. -/
theorem lastReply_process {m : Manager} {step : Step} {request : IpcRequest}
    (hrunning : m.running = true) (hinput : step.input = .event (.ipc request)) :
    ∃ message, Office.lastReply (process cfg m step) = .reply message := by
  rw [process, if_pos hrunning, hinput]
  rcases handleIpc_cases step.isSerialPresent step.persistence m request with
    ⟨message, heq⟩ | ⟨registry, message, -, heq⟩
  · exact ⟨message, by simp only [heq, Office.lastReply_send]⟩
  · exact ⟨message, by simp only [heq, Office.lastReply_send]⟩

/-- The reply to an answered request. -/
theorem Exchanged.served {i : ι} {k : ℕ} {request : IpcRequest} {reply : ServerMessage}
    (hreplied : Exchanged l peers s i k request reply) (hm₀ : m₀.running = true)
    (h : Sound (managerServer cfg) (AsksNext l peers) m₀ s) :
    reply = request.goneReply ∧ s.running = false ∨ reply = internalError ∨
      Served cfg m₀ s.handled i k request reply := by
  obtain ⟨answer, hanswer⟩ : ∃ answer, (s.clients i).answers[k]? = some answer :=
    ⟨_, List.getElem?_eq_getElem hreplied.answered⟩
  have hreply := ((peers i).spoken_run (s.clients i).answers).replies k request reply
    hreplied.exchange
  rw [hanswer, Option.getD_some] at hreply
  rcases (h.clients i).answered k _ hanswer with
    ⟨hgone, hhalted⟩ | hlost | ⟨front, e, step, back, hhandled, htakes, hb⟩
  · rw [hgone] at hreply
    exact .inl ⟨hreply, hhalted⟩
  · rw [hlost] at hreply
    exact .inr (.inl hreply)
  · have hmem : (⟨some (i, k), e⟩, step) ∈ s.handled := by
      rw [hhandled]
      exact List.mem_append_right _ (List.mem_cons_self ..)
    obtain ⟨request', reply', rfl, hexchange⟩ := dialogue_of_sent h (h.mem_sent hmem)
    rw [hreplied.exchange] at hexchange
    cases hexchange
    have hfront : front <+: s.handled := ⟨_, hhandled.symm⟩
    obtain ⟨message, hmessage⟩ :=
      lastReply_process cfg (managerAfter_running hm₀ h hfront) htakes
    have hb' : answer = .reply message := by
      rw [hb, after_eq_managerAfter, ← hmessage]
      rfl
    rw [hb'] at hreply
    rw [hreply]
    exact .inr (.inr ⟨front, step, back, hhandled, htakes, hmessage⟩)

end

/-- In every order of the steps of the manager and of all connections, one run of the manager
explains every reply, and it never puts a request before one that was handled earlier. -/
theorem connections_linearized {cfg : StateConfig} {l : Listener} {peers : ι → Peer} {m₀ : Manager}
    {s s' : Daemon ι} (hm₀ : m₀.running = true) (h : Daemon.Reaches cfg l peers (.start m₀) s)
    (hlater : Daemon.Reaches cfg l peers s s') :
    Linearized cfg l peers m₀ s' ∧ s.sent <+: s'.sent ∧ s.handled <+: s'.handled := by
  have hsound := sound_of_reaches (Relation.ReflTransGen.trans h hlater)
  refine ⟨⟨hsound.handled_inOrder, fun hrun => (hsound.running hrun).1, fun hrun => ?_,
    fun i => (hsound.clients i).increasing, fun i k e hmem => dialogue_of_sent hsound hmem,
    fun i k request reply hreplied => hreplied.served hm₀ hsound⟩, prefix_of_reaches hlater⟩
  rw [(hsound.running hrun).2, after_eq_managerAfter]

section Sample

/-- Three connections: one opens a session, one closes it, and one changes its target. -/
inductive Caller where
  | opener
  | closer
  | updater
  deriving DecidableEq, Repr

namespace Caller

def message : Caller → ClientMessage
  | opener => .sessionOpen (aliceInfo.payload 7 0)
  | closer => .sessionClose 7 0
  | updater => .updateSessionTarget 7 (.logindSession "c3")

def request : Caller → IpcRequest
  | opener => .sessionOpen (.ofPayload (aliceInfo.payload 7 0))
  | closer => .sessionClose 7
  | updater => .updateSessionTarget 7 (.logindSession "c3")

def text : Caller → String
  | opener => "\x7b\"type\":\"session_open\"\x7d"
  | closer => "\x7b\"type\":\"session_close\"\x7d"
  | updater => "\x7b\"type\":\"update_session_target\"\x7d"

def bytes (c : Caller) : Bytes := utf8 (c.text ++ "\n")

def peer (c : Caller) : Peer := ⟨[.ok helloBytes, .ok c.bytes], fun _ => .ok ()⟩

theorem ipcRequest_message (c : Caller) : ipcRequest c.message = some c.request := by
  cases c <;> rfl

theorem isLine_bytes (c : Caller) : IsLine 0x0A c.bytes := by
  refine ⟨utf8 c.text, ?_, ?_⟩ <;> cases c <;> decide +kernel

end Caller

/-- A daemon that knows the greeting and the three messages, and can write every reply. -/
def callerListener : Listener where
  client := tableCodec
    [(.hello 2 (some "pam"), "\x7b\"type\":\"hello\",\"protocol_version\":2,\"agent\":\"pam\"\x7d"),
      (Caller.opener.message, Caller.opener.text), (Caller.closer.message, Caller.closer.text),
      (Caller.updater.message, Caller.updater.text)]
  server := ⟨fun _ => .ok (utf8 "\x7b\x7d"), fun _ => .error "unknown text"⟩
  idleTimeout := 0

theorem callerListener_hello :
    decodeFrame (timedCodec callerListener.client) helloBytes =
      .ok (.hello protocolVersion (some "pam")) := by
  decide +kernel

theorem callerListener_isFrameOf (c : Caller) :
    IsFrameOf callerListener.client c.bytes c.message := by
  refine ⟨c.isLine_bytes, ?_, ?_⟩ <;> cases c <;> decide +kernel

theorem callerListener_server (msg : ServerMessage) :
    ∃ bytes, encodeMessageOf callerListener.server msg = .ok bytes :=
  ⟨utf8 "\x7b\x7d\n", (by decide +kernel :
    encodeMessageOf callerListener.server .ack = .ok (utf8 "\x7b\x7d\n"))⟩

namespace Caller

variable (c : Caller)

theorem dispatches (t : Tape) :
    DispatchesAll (tapeEnv callerListener c.peer.writes) c.peer.source t [c.message] := by
  obtain ⟨ack, hack⟩ := callerListener_server helloAck
  have hchunks : [] ∉ [helloBytes, c.bytes] := by
    simp [isLine_helloBytes.ne_nil.symm, c.isLine_bytes.ne_nil.symm]
  have hsent : [helloBytes, c.bytes].flatten = helloBytes ++ [c.bytes].flatten := by simp
  have hlog : Prog.LogsOnly (ConnCall.Undisturbed callerListener.server)
      (serveConnectionWith (tapeEnv callerListener c.peer.writes)
        ([helloBytes, c.bytes].map .ok ++ [])) :=
    serveConnectionWith_undisturbed (fun _ _ => rfl) (fun _ _ => callerListener_server _) _
  have hiff := dispatchesAll_iff (tapeEnv callerListener c.peer.writes) isLine_helloBytes
    callerListener_hello (.cons (callerListener_isFrameOf c) .nil) hack hchunks hsent rfl (hlog t)
  have hahead := overshoot_of_le helloBytes [] [c.bytes]
  rw [List.append_nil] at hahead
  exact hiff.mpr (.inl hahead)

theorem requests_eq (answers : List RequestAnswer) :
    (dialogue (c.peer.run callerListener answers).calls).map Prod.fst = [c.request] := by
  obtain ⟨log, hcalls, hdispatched⟩ := c.dispatches ⟨answers, [], 0⟩
  rw [Peer.run, hcalls]
  have hrequests : (dialogue log).map Prod.fst = (dispatched log).filterMap ipcRequest := by
    rw [dialogue, dispatched, List.map_filterMap, List.filterMap_filterMap]
    congr 1
    funext call
    rcases call with ⟨msg, reply⟩ | _
    · simp [ConnCall.exchange?, ConnCall.dispatched?, Function.comp_def]
    · rfl
  have hgreeting : dialogue (.write helloAck (.ok ()) :: log) = dialogue log := rfl
  rw [hgreeting, hrequests, hdispatched, List.filterMap_cons_some c.ipcRequest_message]
  rfl

theorem exchange_eq (answers : List RequestAnswer) :
    (dialogue (c.peer.run callerListener answers).calls)[0]? =
      some (c.request, c.request.replyTo (answers[0]?.getD .noReply)) := by
  have hdialogue := c.requests_eq answers
  rcases hlog : dialogue (c.peer.run callerListener answers).calls with
    _ | ⟨⟨request, reply⟩, rest⟩
  · rw [hlog] at hdialogue
    cases hdialogue
  · rw [hlog] at hdialogue
    have hreply := (c.peer.spoken_run answers).replies 0 request reply (by rw [hlog]; rfl)
    cases (List.cons.inj hdialogue).1
    rw [hreply]
    rfl

theorem asksNext : AsksNext callerListener peer c [] (.ipc c.request) := by
  refine ⟨c.request, rfl, ?_⟩
  rw [(c.peer.spoken_run []).asked, c.requests_eq]
  rfl

def item : Item Caller Event := ⟨some (c, 0), .ipc c.request⟩

/-- The request as the manager handles it, at once and with every device present. -/
def step : Step := ⟨.event (.ipc c.request), fun _ => true, ⟨0, true⟩, 0⟩

end Caller

/-- A state of the daemon in which the manager runs and these requests wait. -/
structure Daemon.IsAt (s : Daemon Caller) (m : Manager) (waiting : List Caller)
    (clients : Caller → Client RequestAnswer) : Prop where
  server : s.server = m
  running : s.running = true
  queue : s.queue = waiting.map Caller.item
  clients : s.clients = clients

namespace Daemon.IsAt

variable {s : Daemon Caller} {m : Manager} {waiting : List Caller}
  {clients : Caller → Client RequestAnswer} {c : Caller}

abbrev Goes (s s' : Daemon Caller) : Prop :=
  SerialServers.Step (managerServer .testDefaults) (AsksNext callerListener Caller.peer) s s'

theorem asks (h : s.IsAt m waiting clients) (hfree : clients c = ⟨[], .free⟩) :
    ∃ s', Goes s s' ∧ s'.IsAt m (waiting ++ [c]) (Function.update clients c ⟨[], .waiting⟩) := by
  have hclient : s.clients c = ⟨[], .free⟩ := by rw [h.clients, hfree]
  have hslot : (s.clients c).slot = .free := by rw [hclient]
  have hasks : AsksNext callerListener Caller.peer c (s.clients c).answers (.ipc c.request) := by
    rw [hclient]
    exact c.asksNext
  refine ⟨_, .ask h.running hslot hasks, h.server, h.running, ?_, ?_⟩
  · simp [State.setClient, State.put, h.queue, hclient, Caller.item]
  · simp [State.setClient, State.put, h.clients, hfree, Client.ask]

theorem handles {message : ServerMessage} (h : s.IsAt m (c :: waiting) clients)
    (hwaiting : clients c = ⟨[], .waiting⟩)
    (hreply : Office.lastReply (process .testDefaults m c.step) = .reply message) :
    ∃ s', Goes s s' ∧ s'.IsAt (advance .testDefaults m c.step) waiting
      (Function.update clients c ⟨[], .filled (.reply message)⟩) := by
  have hqueue : s.queue = c.item :: waiting.map Caller.item := h.queue
  have htakes : (managerServer .testDefaults).Takes c.step c.item.request := rfl
  have hanswer : (managerServer .testDefaults).reply s.server c.step = .reply message := by
    rw [h.server]
    exact hreply
  refine ⟨_, .handle h.running hqueue htakes, ?_, h.running, rfl, ?_⟩
  · exact congrArg (fun m => advance .testDefaults m c.step) h.server
  · funext j
    simp only [hanswer, h.clients]
    by_cases hj : j = c
    · subst hj
      simp [hwaiting, Client.deliver, Caller.item]
    · rw [Function.update_of_ne hj]
      refine Client.deliver_of_ne ?_
      simp [Caller.item, Ne.symm hj]

theorem receives {answer : RequestAnswer} (h : s.IsAt m waiting clients)
    (hfilled : clients c = ⟨[], .filled answer⟩) :
    ∃ s', Goes s s' ∧ s'.IsAt m waiting (Function.update clients c ⟨[answer], .free⟩) := by
  have hslot : (s.clients c).slot = .filled answer := by rw [h.clients, hfilled]
  refine ⟨_, .receive hslot, h.server, h.running, h.queue, ?_⟩
  simp [State.setClient, h.clients, hfilled, Client.take]

theorem exchanged {message : ServerMessage} (h : s.IsAt m waiting clients)
    (hfree : clients c = ⟨[.reply message], .free⟩) :
    Exchanged callerListener Caller.peer s c 0 c.request message := by
  have hanswers : (s.clients c).answers = [.reply message] := by rw [h.clients, hfree]
  refine ⟨?_, ?_⟩
  · rw [hanswers]
    exact Nat.one_pos
  · rw [hanswers]
    exact c.exchange_eq [.reply message]

end Daemon.IsAt

def idleManager : Manager := spawnStateManager .new [] 0

theorem opener_reply :
    Office.lastReply (process .testDefaults idleManager Caller.opener.step) = .reply .ack :=
  Office.lastReply_send _ _

theorem closer_reply : Office.lastReply (process .testDefaults
    (advance .testDefaults idleManager Caller.opener.step) Caller.closer.step) = .reply .ack :=
  Office.lastReply_send _ _

/-- The manager when the session was opened and closed. -/
def closedManager : Manager :=
  advance .testDefaults (advance .testDefaults idleManager Caller.opener.step) Caller.closer.step

/-- Both connections have asked before the manager handles the first request, and the second gets
its reply first. -/
theorem opened_and_closed : ∃ s : Daemon Caller,
    Daemon.Reaches .testDefaults callerListener Caller.peer (.start idleManager) s ∧
      ∃ clients, s.IsAt closedManager [] clients ∧ clients .opener = ⟨[.reply .ack], .free⟩ ∧
        clients .closer = ⟨[.reply .ack], .free⟩ ∧ clients .updater = ⟨[], .free⟩ := by
  have hstart : Daemon.IsAt (.start idleManager) idleManager [] fun _ => ⟨[], .free⟩ :=
    ⟨rfl, rfl, rfl, rfl⟩
  obtain ⟨s₁, hgoes₁, h₁⟩ := hstart.asks (c := .opener) rfl
  obtain ⟨s₂, hgoes₂, h₂⟩ := h₁.asks (c := .closer) rfl
  obtain ⟨s₃, hgoes₃, h₃⟩ := h₂.handles (c := .opener) rfl opener_reply
  obtain ⟨s₄, hgoes₄, h₄⟩ := h₃.handles (c := .closer) rfl closer_reply
  obtain ⟨s₅, hgoes₅, h₅⟩ := h₄.receives (c := .closer) rfl
  obtain ⟨s₆, hgoes₆, h₆⟩ := h₅.receives (c := .opener) rfl
  refine ⟨s₆, ?_, _, h₆, rfl, rfl, rfl⟩
  exact .tail (.tail (.tail (.tail (.tail (.single hgoes₁) hgoes₂) hgoes₃) hgoes₄) hgoes₅) hgoes₆

theorem connections_linearized_closing : ∃ s : Daemon Caller,
    Exchanged callerListener Caller.peer s .opener 0 Caller.opener.request .ack ∧
      Exchanged callerListener Caller.peer s .closer 0 Caller.closer.request .ack ∧
      Linearized .testDefaults callerListener Caller.peer idleManager s := by
  obtain ⟨s, hreached, clients, hat, hopener, hcloser, -⟩ := opened_and_closed
  exact ⟨s, hat.exchanged hopener, hat.exchanged hcloser,
    (connections_linearized rfl hreached .refl).1⟩

end Sample

end PamCertauth.Monitord
