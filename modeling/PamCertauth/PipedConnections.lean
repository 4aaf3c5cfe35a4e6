import PamCertauth.StreamedConnections

/-!
# The client and the daemon on one connection

The client of the PAM module (`ipc/client.rs`) and the daemon (`server.rs`) are put at the
two ends of one connection. What the client has written reaches the daemon in reads of any
size, in part or as a whole, in time or when the client has already given up; what the daemon
has written comes to the client before its read timeout, or too late.

The handshake of the daemon loses what it reads ahead. It cannot lose anything of this
client, which sends its request only after the greeting has been answered: a request that
arrives is dispatched once and as it was sent, and the client judges the daemon's reply to it
if the reply comes in time. A client whose call has failed does not know whether its request
has been dispatched.
-/

namespace PamCertauth.Monitord

open X509 Ipc LineFraming

/-- What the client has written, the reads of the daemon so far, and how many bytes of the
daemon's answers the client has read. -/
structure Pipe where
  sent : Bytes
  reads : List Bytes
  received : ℕ
  deriving DecidableEq, Repr

/-- What becomes of a read of the client. The line of the daemon comes before the read timeout,
it does not, or the daemon has closed the connection. -/
inductive Coming where
  | inTime
  | late
  | hungUp
  deriving DecidableEq, Repr

/-- How a connection delivers. While the client waits for a line, the daemon reads a beginning
of the bytes that are on the way, in reads that are not empty. -/
structure Delivery where
  arrive : List Bytes → Bytes → List Bytes
  coming : List Bytes → Coming
  some_of : ∀ reads bytes, (arrive reads bytes).flatten <+: bytes
  data : ∀ reads bytes, [] ∉ arrive reads bytes

/-- The reads of the daemon when it has read what arrives of the bytes on the way. -/
def Pipe.arriving (d : Delivery) (p : Pipe) : List Bytes :=
  p.reads ++ d.arrive p.reads (p.sent.drop p.reads.flatten.length)

/-- What the daemon may still read when the client has written its last byte. -/
structure Pipe.MayRead (p : Pipe) (late : List Bytes) : Prop where
  some_of : (p.reads ++ late).flatten <+: p.sent
  data : [] ∉ late

section

variable {σ : Type} (env : ConnectionEnv σ)

/-- What the daemon has done when these reads have come and no other has. -/
def answered (s : σ) (reads : List Bytes) : List ConnCall :=
  (serveConnectionWith env (reads.map .ok ++ [.error (.io "no data")]) s).calls

def ConnCall.bytes (server : MessageCodec ServerMessage) : ConnCall → Bytes
  | .write msg (.ok ()) => (encodeMessageOf server msg).toOption.getD []
  | _ => []

def written (s : σ) (reads : List Bytes) : Bytes :=
  (answered env s reads).flatMap (ConnCall.bytes env.server)

/-- The client's end. The daemon reads what arrives before the client's read ends. A line that
does not come in time is a failed read, and a closed connection an empty one. -/
def pipeLink (s : σ) (now : SystemTime) (uuidFromSessionId : String → Uuid) (d : Delivery) :
    DaemonLink Pipe where
  connect _ p := (.ok (), p)
  configure _ p := (.ok (), p)
  writeAll bytes p := (.ok (), { p with sent := p.sent ++ bytes })
  readLine p :=
    let reads := p.arriving d
    match d.coming reads with
    | .hungUp => (.ok "", { p with reads := reads })
    | .late => (.error "timed out", { p with reads := reads })
    | .inTime =>
      match cut 0x0A ((written env s reads).drop p.received) with
      | none => (.error "timed out", { p with reads := reads })
      | some (line, _) =>
        match String.fromUTF8? ⟨line.toArray⟩ with
        | none => (.error "stream did not contain valid UTF-8", { p with reads := reads })
        | some text => (.ok text, ⟨p.sent, reads, p.received + line.length⟩)
  now p := (now, p)
  serde := ⟨(timedCodec env.client).toVec, env.server.fromStr⟩
  uuidFromSessionId := uuidFromSessionId

end

section Daemon

variable {σ : Type} {env : ConnectionEnv σ} {s s₁ s₂ s₃ : σ} {hello ack : Bytes}
  {agent : Option String}

theorem serveFrames_of_io {reader : Buffered ReadFailure UInt8} {detail : String}
    {st : Reading ReadFailure UInt8} (h : readFrameBounded reader = (.error (.io detail), st)) :
    serveFrames env reader = Prog.fail (.io detail) := by
  rw [serveFrames]
  split <;> rename_i hread <;> rw [h] at hread <;> cases hread
  rfl

/-- Reads without a whole line that end in a failure. -/
theorem serveFrames_of_partial {chunks : List Bytes} {detail : String} (hchunks : [] ∉ chunks)
    (hpart : 0x0A ∉ chunks.flatten) (hfits : chunks.flatten.length ≤ maxFrameBytes) :
    serveFrames env ⟨[], chunks.map .ok ++ [.error (.io detail)]⟩ = Prog.fail (.io detail) := by
  let reader : Buffered ReadFailure UInt8 := ⟨[], chunks.map .ok ++ [.error (.io detail)]⟩
  have hcontent : reader.content = chunks.flatten := by
    simp only [reader, Buffered.content, arrivals_append hchunks, List.nil_append, arrivals,
      List.append_nil]
  have hending : ending reader.source = .error (.io detail) := ending_append hchunks _
  rw [← hcontent] at hpart hfits
  obtain ⟨reader', hread, -, -⟩ := readFrame_of_end hpart hfits
  rw [hending] at hread
  exact serveFrames_of_io hread

/-- A greeting is answered, and the loop goes on with the reads behind it. -/
theorem serveConnectionWith_of_hello {source : List (Except ReadFailure Bytes)}
    {reader : Buffered ReadFailure UInt8}
    (hread : Buffered.readUntil 0x0A [] source = .ok (hello, reader)) (hne : hello ≠ [])
    (hdecode : decodeFrame (timedCodec env.client) hello = .ok (.hello protocolVersion agent))
    (hack : encodeMessageOf env.server helloAck = .ok ack)
    (hwrite : env.writeAll ack s = (.ok (), s₁)) :
    (serveConnectionWith env source s).calls =
      .write helloAck (.ok ()) :: (serveFrames env ⟨[], reader.source⟩ s₁).calls := by
  have hshake : performHandshake env source s =
      ⟨.ok reader.source, s₁, [.write helloAck (.ok ())]⟩ := by
    rw [performHandshake_of_hello hread hne hdecode, Prog.bind_of_ok (writeMessage_of_ok hack s),
      hwrite]
    rfl
  rw [serveConnectionWith, Prog.bind_of_ok hshake]
  rfl

/-- A frame that is dispatched and answered, whatever comes behind it. The loop goes on if the
answer can be written. -/
theorem serveFrames_of_request {request answer : Bytes} {msg : ClientMessage}
    {reply : ServerMessage} {wrote : Except String Unit} {chunks : List Bytes}
    (later : List (Except ReadFailure Bytes))
    (hchunks : [] ∉ chunks) (hsent : chunks.flatten = request) (hframe : IsFrameOf env.client request msg)
    (hdispatch : dispatch env msg s₁ = (reply, s₂))
    (hreply : encodeMessageOf env.server reply = .ok answer)
    (hwrite : env.writeAll answer s₂ = (wrote, s₃)) :
    ∃ (reader : Buffered ReadFailure UInt8) (rest : List ConnCall),
      reader.content = arrivals later ∧ ending reader.source = ending later ∧
      (rest = [] ∨ rest = (serveFrames env reader s₃).calls) ∧
      (serveFrames env ⟨[], chunks.map .ok ++ later⟩ s₁).calls =
        .dispatch msg reply :: .write reply wrote :: rest := by
  have hcontent : (⟨[], chunks.map .ok ++ later⟩ : Buffered ReadFailure UInt8).content =
      request ++ arrivals later := by
    rw [Buffered.content, arrivals_append hchunks, List.nil_append, hsent]
  obtain ⟨reader, hread, hrest, hending⟩ := readFrame_of_line hframe.1 hcontent hframe.2.fits
  rw [serveFrames_of_frame hread, serveFrame_of_ok hframe.2.decodes, Prog.call_bind_apply, hdispatch,
    Prog.bind_of_ok (writeMessage_of_ok hreply s₂), hwrite]
  cases wrote with
  | error e =>
    exact ⟨reader, [], hrest, hending.trans (ending_append hchunks later), .inl rfl, rfl⟩
  | ok u =>
    exact ⟨reader, _, hrest, hending.trans (ending_append hchunks later), .inr rfl, rfl⟩

end Daemon

/-- A message that the two ends can exchange: what is encoded at one end is within the bound of
the other, and the daemon can answer the greeting. The write of its answer to the message may
fail, as it does when the client has gone. -/
structure Conversation {σ : Type} (env : ConnectionEnv σ) (s : σ) (msg : ClientMessage) where
  hello : Bytes
  ack : Bytes
  request : Bytes
  reply : ServerMessage
  answer : Bytes
  wrote : Except String Unit
  /-- The daemon's surroundings after the greeting, the dispatch and the answer. -/
  (greeted dispatched answered : σ)
  client : env.client.Faithful
  server : env.server.Faithful
  encode_hello : encodeMessageOf (timedCodec env.client) (.hello protocolVersion (some agent)) =
    .ok hello
  hello_fits : hello.length ≤ maxFrameBytes
  encode_ack : encodeMessageOf env.server helloAck = .ok ack
  ack_fits : ack.length ≤ maxFrameBytes
  write_ack : env.writeAll ack s = (.ok (), greeted)
  encode_request : encodeMessageOf (timedCodec env.client) msg = .ok request
  request_fits : request.length ≤ maxFrameBytes
  dispatch_eq : dispatch env msg.truncated greeted = (reply, dispatched)
  encode_reply : encodeMessageOf env.server reply = .ok answer
  answer_fits : answer.length ≤ maxFrameBytes
  write_answer : env.writeAll answer dispatched = (wrote, answered)

namespace Conversation

variable {σ : Type} {env : ConnectionEnv σ} {s : σ} {msg : ClientMessage}
  (c : Conversation env s msg)

theorem isLine_hello : IsLine 0x0A c.hello := isLine_of_encodeMessageOf c.encode_hello

theorem decode_hello :
    decodeFrame (timedCodec env.client) c.hello = .ok (.hello protocolVersion (some agent)) := by
  have hreads := (daemonReads_iff c.client c.encode_hello).mpr c.hello_fits
  obtain ⟨-, -, hdecode⟩ := hreads Unit ⟨c.hello, []⟩ [] rfl
  exact hdecode

theorem isFrameOf_request : IsFrameOf env.client c.request msg.truncated := by
  have hreads := (daemonReads_iff c.client c.encode_request).mpr c.request_fits
  obtain ⟨-, -, hdecode⟩ := hreads Unit ⟨c.request, []⟩ [] rfl
  exact ⟨isLine_of_encodeMessageOf c.encode_request, c.request_fits, hdecode⟩

/-- Part of the greeting is not answered. -/
theorem answered_of_part {reads : List Bytes} (hreads : [] ∉ reads)
    (hpart : reads.flatten <+: c.hello) (hne : reads.flatten ≠ c.hello) :
    Monitord.answered env s reads = [] := by
  obtain ⟨rest, hrest⟩ := hpart
  have hopen : 0x0A ∉ [] ++ reads.flatten := by
    refine c.isLine_hello.notMem_of_append hrest ?_
    rintro rfl
    exact hne (by rw [← hrest, List.append_nil])
  rw [Monitord.answered, serveConnectionWith]
  have hshake : performHandshake env (reads.map .ok ++ [.error (.io "no data")]) =
      Prog.fail (.io "no data") := by
    rw [performHandshake, Buffered.readUntil_of_notMem _ hreads hopen]
  rw [hshake]
  rfl

/-- The greeting is answered, and the loop starts with the reads behind it. -/
theorem calls_of_hello {reads : List Bytes} (more : List Bytes) (hreads : [] ∉ reads)
    (hhello : reads.flatten = c.hello) (later : List (Except ReadFailure Bytes)) :
    (serveConnectionWith env ((reads ++ more).map .ok ++ later) s).calls =
      .write helloAck (.ok ()) ::
        (serveFrames env ⟨[], more.map .ok ++ later⟩ c.greeted).calls := by
  rw [List.map_append, List.append_assoc]
  exact serveConnectionWith_of_hello
    (Buffered.readUntil_of_flatten c.isLine_hello hreads hhello (more.map .ok ++ later))
    c.isLine_hello.ne_nil c.decode_hello c.encode_ack c.write_ack

/-- With part of the request the daemon waits for the rest. -/
theorem answered_of_hello {reads more : List Bytes} (hreads : [] ∉ reads) (hmore : [] ∉ more)
    (hhello : reads.flatten = c.hello) (hpart : more.flatten <+: c.request)
    (hne : more.flatten ≠ c.request) :
    Monitord.answered env s (reads ++ more) = [.write helloAck (.ok ())] := by
  obtain ⟨rest, hrest⟩ := hpart
  have hopen : 0x0A ∉ more.flatten := by
    refine c.isFrameOf_request.1.notMem_of_append hrest ?_
    rintro rfl
    exact hne (by rw [← hrest, List.append_nil])
  have hfits : more.flatten.length ≤ maxFrameBytes := by
    refine le_trans ?_ c.request_fits
    rw [← hrest, List.length_append]
    exact Nat.le_add_right _ _
  rw [Monitord.answered, c.calls_of_hello more hreads hhello,
    serveFrames_of_partial hmore hopen hfits]
  rfl

/-- The request is dispatched and answered, whatever the daemon reads behind it. -/
theorem calls_of_request {reads more : List Bytes} (hreads : [] ∉ reads) (hmore : [] ∉ more)
    (hhello : reads.flatten = c.hello) (hrequest : more.flatten = c.request)
    (later : List (Except ReadFailure Bytes)) :
    ∃ (reader : Buffered ReadFailure UInt8) (rest : List ConnCall),
      reader.content = arrivals later ∧ ending reader.source = ending later ∧
      (rest = [] ∨ rest = (serveFrames env reader c.answered).calls) ∧
      (serveConnectionWith env ((reads ++ more).map .ok ++ later) s).calls =
        [.write helloAck (.ok ()), .dispatch msg.truncated c.reply, .write c.reply c.wrote] ++
          rest := by
  obtain ⟨reader, rest, hcontent, hending, hrest, hcalls⟩ := serveFrames_of_request later hmore
    hrequest c.isFrameOf_request c.dispatch_eq c.encode_reply c.write_answer
  refine ⟨reader, rest, hcontent, hending, hrest, ?_⟩
  rw [c.calls_of_hello more hreads hhello, hcalls]
  rfl

theorem answered_of_request {reads more : List Bytes} (hreads : [] ∉ reads) (hmore : [] ∉ more)
    (hhello : reads.flatten = c.hello) (hrequest : more.flatten = c.request) :
    Monitord.answered env s (reads ++ more) =
      [.write helloAck (.ok ()), .dispatch msg.truncated c.reply, .write c.reply c.wrote] := by
  obtain ⟨reader, rest, hcontent, hending, hrest, hcalls⟩ :=
    c.calls_of_request hreads hmore hhello hrequest [.error (.io "no data")]
  have hnil : reader.content = [] := hcontent
  have hopen : 0x0A ∉ reader.content := by simp [hnil]
  have hfits : reader.content.length ≤ maxFrameBytes := by simp [hnil]
  obtain ⟨reader', hread, -, -⟩ := readFrame_of_end hopen hfits
  rw [hending] at hread
  have hnothing : rest = [] := by
    rcases hrest with hrest | hrest
    · exact hrest
    · rw [hrest, serveFrames_of_io hread]
      rfl
  rw [Monitord.answered, hcalls, hnothing, List.append_nil]

/-- Behind a greeting that has arrived as a whole the daemon reads what arrives of the request,
and dispatches it once when it is whole. -/
theorem dispatched_of_hello {reads more : List Bytes} (hreads : [] ∉ reads) (hmore : [] ∉ more)
    (hhello : reads.flatten = c.hello)
    (hpart : (reads ++ more).flatten <+: c.hello ++ c.request) :
    Monitord.dispatched (Monitord.answered env s (reads ++ more)) =
      if (reads ++ more).flatten = c.hello ++ c.request then [msg.truncated] else [] := by
  have hflatten : (reads ++ more).flatten = c.hello ++ more.flatten := by
    rw [List.flatten_append, hhello]
  rw [hflatten, List.prefix_append_right_inj] at hpart
  split_ifs with hall
  · rw [hflatten, List.append_cancel_left_eq] at hall
    rw [c.answered_of_request hreads hmore hhello hall]
    rfl
  · rw [hflatten, List.append_cancel_left_eq] at hall
    rw [c.answered_of_hello hreads hmore hhello hpart hall]
    rfl

/-- The greeting alone leads to no dispatch, in whatever part it arrives. -/
theorem dispatched_of_part {reads : List Bytes} (hreads : [] ∉ reads)
    (hpart : reads.flatten <+: c.hello) :
    Monitord.dispatched (Monitord.answered env s reads) = [] := by
  by_cases hhello : reads.flatten = c.hello
  · have hrequest : ([] : List Bytes).flatten ≠ c.request := c.isFrameOf_request.1.ne_nil.symm
    have hanswered := c.answered_of_hello hreads List.not_mem_nil hhello List.nil_prefix hrequest
    rw [List.append_nil] at hanswered
    rw [hanswered]
    rfl
  · rw [c.answered_of_part hreads hpart hhello]
    rfl

end Conversation

section Client

variable {σ : Type} {env : ConnectionEnv σ} {s : σ} {msg : ClientMessage} {d : Delivery}

theorem bytes_write {server : MessageCodec ServerMessage} {reply : ServerMessage} {bytes : Bytes}
    (h : encodeMessageOf server reply = .ok bytes) :
    ConnCall.bytes server (.write reply (.ok ())) = bytes := by
  simp [ConnCall.bytes, h, Except.toOption]

section

variable (now : SystemTime) (uuid : String → Uuid)

/-- A line that the daemon has written and that comes in time is received as the message that
it is. -/
theorem recv_of_line (p : Pipe) {line rest : Bytes} {reply : ServerMessage}
    (hserver : env.server.Faithful) (hencode : encodeMessageOf env.server reply = .ok line)
    (hfits : line.length ≤ maxFrameBytes) (hcoming : d.coming (p.arriving d) = .inTime)
    (hwritten : (written env s (p.arriving d)).drop p.received = line ++ rest) :
    (recv (pipeLink env s now uuid d) p).Yields (.ok reply)
      ⟨p.sent, p.arriving d, p.received + line.length⟩ := by
  obtain ⟨text, rfl, htext⟩ := exists_object_of_encodeMessageOf hserver hencode
  have hline := isLine_of_encodeMessageOf hencode
  have hread : (pipeLink env s now uuid d).readLine p = (.ok (text ++ "\x7d" ++ "\n"),
      ⟨p.sent, p.arriving d, p.received + (utf8 (text ++ "\x7d" ++ "\n")).length⟩) := by
    simp only [pipeLink, hcoming, hwritten, hline.cut_eq rest, fromUTF8_utf8]
  have hne : text ++ "\x7d" ++ "\n" ≠ "" := by
    intro hempty
    have hlen := congrArg String.length hempty
    simp at hlen
  have hdecode : decodeLine (pipeLink env s now uuid d).serde (text ++ "\x7d" ++ "\n") =
      .ok reply := decodeLineOf_object htext hfits
  refine Prog.yields_bind (Prog.yields_request hread) ?_
  rw [if_neg hne, hdecode]
  exact ⟨rfl, rfl⟩

/-- Nothing new from the daemon, or nothing in time. -/
theorem recv_of_silence (p : Pipe) (hsilence : d.coming (p.arriving d) = .inTime →
      (written env s (p.arriving d)).drop p.received = []) :
    ∃ e, (recv (pipeLink env s now uuid d) p).Yields (.error e)
      { p with reads := p.arriving d } := by
  cases hcoming : d.coming (p.arriving d) with
  | inTime =>
    have hread : (pipeLink env s now uuid d).readLine p =
        (.error "timed out", { p with reads := p.arriving d }) := by
      simp only [pipeLink, hcoming, hsilence hcoming, cut]
    exact ⟨_, Prog.yields_bind_error (Prog.yields_request hread)⟩
  | late =>
    have hread : (pipeLink env s now uuid d).readLine p =
        (.error "timed out", { p with reads := p.arriving d }) := by
      simp only [pipeLink, hcoming]
    exact ⟨_, Prog.yields_bind_error (Prog.yields_request hread)⟩
  | hungUp =>
    have hread : (pipeLink env s now uuid d).readLine p =
        (.ok "", { p with reads := p.arriving d }) := by
      simp only [pipeLink, hcoming]
    refine ⟨.unavailable, Prog.yields_bind (Prog.yields_request hread) ?_⟩
    rw [if_pos rfl]
    exact ⟨rfl, rfl⟩

theorem send_of_encode {bytes : Bytes}
    (h : encodeMessageOf (timedCodec env.client) msg = .ok bytes) (p : Pipe) :
    (send (pipeLink env s now uuid d) msg p).Yields (.ok ())
      { p with sent := p.sent ++ bytes } := by
  have hencode : encodeMessage (pipeLink env s now uuid d).serde msg = .ok bytes := h
  rw [send, hencode]
  exact ⟨rfl, rfl⟩

end

/-- What the client does behind the handshake: one frame, and the verdict on its reply. -/
def ask (link : DaemonLink σ) (msg : ClientMessage) (verdict : ServerMessage → Except IpcError Unit) :
    Exchange σ Unit := do
  send link msg
  let reply ← recv link
  Prog.ofExcept (verdict reply)

/-- A call of the client: a connection, the time, and one frame. -/
def converse (link : DaemonLink σ) (factory : MonitorClientFactory)
    (msg : SystemTime → ClientMessage) (verdict : ServerMessage → Except IpcError Unit) :
    Exchange σ Unit := do
  connect link factory
  let now ← Prog.call link.now .clock
  ask link (msg now) verdict

theorem converse_openSession (link : DaemonLink σ) (factory : MonitorClientFactory)
    (info : OpenSessionInfo) : connectPerCallOpenSession link factory info =
      converse link factory
        (fun now => .sessionOpen (info.payload (link.uuidFromSessionId info.sessionId) now))
        ackReply := rfl

theorem converse_closeSession (link : DaemonLink σ) (factory : MonitorClientFactory)
    (sessionId reason : String) : connectPerCallCloseSession link factory sessionId reason =
      converse link factory (fun now => .sessionClose (link.uuidFromSessionId sessionId) now)
        ackReply := rfl

end Client

namespace Conversation

variable {σ : Type} {env : ConnectionEnv σ} {s : σ} {msg : ClientMessage}
  (c : Conversation env s msg) {d : Delivery}

theorem written_of_part {reads : List Bytes} (hreads : [] ∉ reads)
    (hpart : reads.flatten <+: c.hello) (hne : reads.flatten ≠ c.hello) :
    written env s reads = [] := by
  rw [written, c.answered_of_part hreads hpart hne]
  rfl

theorem written_of_hello {reads more : List Bytes} (hreads : [] ∉ reads) (hmore : [] ∉ more)
    (hhello : reads.flatten = c.hello) (hpart : more.flatten <+: c.request)
    (hne : more.flatten ≠ c.request) : written env s (reads ++ more) = c.ack := by
  rw [written, c.answered_of_hello hreads hmore hhello hpart hne, List.flatMap_singleton,
    bytes_write c.encode_ack]

theorem written_of_request {reads more : List Bytes} (hreads : [] ∉ reads) (hmore : [] ∉ more)
    (hhello : reads.flatten = c.hello) (hrequest : more.flatten = c.request) :
    written env s (reads ++ more) = c.ack ++ ConnCall.bytes env.server (.write c.reply c.wrote) := by
  rw [written, c.answered_of_request hreads hmore hhello hrequest]
  simp only [List.flatMap_cons, List.flatMap_nil, bytes_write c.encode_ack, List.append_nil]
  rfl

theorem written_of_greeting {reads : List Bytes} (hreads : [] ∉ reads)
    (hhello : reads.flatten = c.hello) : written env s reads = c.ack := by
  have hrequest : ([] : List Bytes).flatten ≠ c.request := c.isFrameOf_request.1.ne_nil.symm
  have hwritten := c.written_of_hello hreads (List.not_mem_nil) hhello List.nil_prefix hrequest
  rwa [List.append_nil] at hwritten

/-- The client has greeted: the daemon has read the greeting and nothing else, so that the
whole request is still on its way. -/
theorem arriving_request {reads : List Bytes} (hhello : reads.flatten = c.hello) (n : ℕ) :
    Pipe.arriving d ⟨c.hello ++ c.request, reads, n⟩ = reads ++ d.arrive reads c.request := by
  rw [Pipe.arriving]
  simp only [hhello, List.drop_left]

/-- The greeting arrives, and the client learns of it in time. -/
structure Greeted (d : Delivery) : Prop where
  arrives : (d.arrive [] c.hello).flatten = c.hello
  in_time : d.coming (d.arrive [] c.hello) = .inTime

/-- The request arrives behind these reads, and the daemon's answer comes in time. -/
structure Answered (d : Delivery) (reads : List Bytes) : Prop where
  arrives : (d.arrive reads c.request).flatten = c.request
  written : c.wrote = .ok ()
  in_time : d.coming (reads ++ d.arrive reads c.request) = .inTime

/-- The connection delivers everything, both ways and in time. -/
structure Delivered (d : Delivery) : Prop where
  greeted : c.Greeted d
  answered : c.Answered d (d.arrive [] c.hello)

section

variable (now : SystemTime) (uuid : String → Uuid)

/-- The client greets, and the daemon's answer to the greeting decides. -/
theorem connect_over_pipe {factory : MonitorClientFactory} {x : Except IpcError Unit} {p : Pipe}
    (h : ((recv (pipeLink env s now uuid d) >>= fun reply => Prog.ofExcept (helloReply reply))
      ⟨c.hello, [], 0⟩).Yields x p) :
    (connect (pipeLink env s now uuid d) factory ⟨[], [], 0⟩).Yields x p := by
  have hdone : (pipeLink env s now uuid d).connect factory.path ⟨[], [], 0⟩ =
      (.ok (), ⟨[], [], 0⟩) := rfl
  have hset : (pipeLink env s now uuid d).configure factory.timeout ⟨[], [], 0⟩ =
      (.ok (), ⟨[], [], 0⟩) := rfl
  refine Prog.yields_bind (Prog.yields_request hdone) ?_
  refine Prog.yields_bind (Prog.yields_request hset) ?_
  exact Prog.yields_bind (send_of_encode now uuid c.encode_hello ⟨[], [], 0⟩) h

/-- The handshake of the client succeeds when the whole greeting has arrived and its answer
comes in time. -/
theorem connect_of_greeted (factory : MonitorClientFactory) (h : c.Greeted d) :
    (connect (pipeLink env s now uuid d) factory ⟨[], [], 0⟩).Yields (.ok ())
      ⟨c.hello, d.arrive [] c.hello, c.ack.length⟩ := by
  have hwritten : (written env s (Pipe.arriving d ⟨c.hello, [], 0⟩)).drop 0 = c.ack ++ [] := by
    rw [List.append_nil]
    exact c.written_of_greeting (d.data [] c.hello) h.arrives
  have hrecv : (recv (pipeLink env s now uuid d) ⟨c.hello, [], 0⟩).Yields (.ok helloAck)
      ⟨c.hello, d.arrive [] c.hello, 0 + c.ack.length⟩ :=
    recv_of_line now uuid ⟨c.hello, [], 0⟩ c.server c.encode_ack c.ack_fits h.in_time hwritten
  rw [Nat.zero_add] at hrecv
  refine c.connect_over_pipe now uuid (Prog.yields_bind hrecv ⟨?_, rfl⟩)
  simp [helloReply, helloAck]

/-- Otherwise it fails, and the client has sent nothing but its greeting. -/
theorem connect_of_not_greeted (factory : MonitorClientFactory) (h : ¬ c.Greeted d) :
    ∃ e, (connect (pipeLink env s now uuid d) factory ⟨[], [], 0⟩).Yields (.error e)
      ⟨c.hello, d.arrive [] c.hello, 0⟩ := by
  have hsilence : d.coming (Pipe.arriving d ⟨c.hello, [], 0⟩) = .inTime →
      (written env s (Pipe.arriving d ⟨c.hello, [], 0⟩)).drop 0 = [] := by
    intro hcoming
    exact c.written_of_part (d.data [] c.hello) (d.some_of [] c.hello) fun harrives =>
      h ⟨harrives, hcoming⟩
  obtain ⟨e, hrecv⟩ := recv_of_silence now uuid ⟨c.hello, [], 0⟩ hsilence
  exact ⟨e, c.connect_over_pipe now uuid (Prog.yields_bind_error hrecv)⟩

/-- A request that arrives is judged by its reply, if the reply comes in time. -/
theorem ask_of_answered {reads : List Bytes} (hreads : [] ∉ reads) (hhello : reads.flatten = c.hello)
    (verdict : ServerMessage → Except IpcError Unit) (h : c.Answered d reads) :
    (ask (pipeLink env s now uuid d) msg verdict ⟨c.hello, reads, c.ack.length⟩).Yields
      (verdict c.reply)
      ⟨c.hello ++ c.request, reads ++ d.arrive reads c.request, c.ack.length + c.answer.length⟩ := by
  have hwritten : (written env s (Pipe.arriving d
      ⟨c.hello ++ c.request, reads, c.ack.length⟩)).drop c.ack.length = c.answer ++ [] := by
    rw [c.arriving_request hhello, c.written_of_request hreads (d.data _ _) hhello h.arrives,
      h.written, bytes_write c.encode_reply, List.drop_left, List.append_nil]
  have hcoming : d.coming (Pipe.arriving d ⟨c.hello ++ c.request, reads, c.ack.length⟩) = .inTime := by
    rw [c.arriving_request hhello]
    exact h.in_time
  have hrecv := recv_of_line now uuid ⟨c.hello ++ c.request, reads, c.ack.length⟩ c.server
    c.encode_reply c.answer_fits hcoming hwritten
  rw [c.arriving_request hhello] at hrecv
  exact Prog.yields_bind (send_of_encode now uuid c.encode_request _) (Prog.yields_bind hrecv ⟨rfl, rfl⟩)

/-- Otherwise the call fails, with the whole request on its way. -/
theorem ask_of_not_answered {reads : List Bytes} (hreads : [] ∉ reads)
    (hhello : reads.flatten = c.hello) (verdict : ServerMessage → Except IpcError Unit)
    (h : ¬ c.Answered d reads) :
    ∃ e, (ask (pipeLink env s now uuid d) msg verdict ⟨c.hello, reads, c.ack.length⟩).Yields
      (.error e) ⟨c.hello ++ c.request, reads ++ d.arrive reads c.request, c.ack.length⟩ := by
  have hsilence : d.coming (Pipe.arriving d ⟨c.hello ++ c.request, reads, c.ack.length⟩) = .inTime →
      (written env s (Pipe.arriving d
        ⟨c.hello ++ c.request, reads, c.ack.length⟩)).drop c.ack.length = [] := by
    intro hcoming
    rw [c.arriving_request hhello] at hcoming ⊢
    by_cases hrequest : (d.arrive reads c.request).flatten = c.request
    · -- The request is there, so that the daemon's answer could not be written.
      have hunwritten : ConnCall.bytes env.server (.write c.reply c.wrote) = [] := by
        cases hwrote : c.wrote with
        | error e => rfl
        | ok u => exact absurd ⟨hrequest, hwrote, hcoming⟩ h
      rw [c.written_of_request hreads (d.data _ _) hhello hrequest, hunwritten, List.append_nil,
        List.drop_length]
    · rw [c.written_of_hello hreads (d.data _ _) hhello (d.some_of _ _) hrequest, List.drop_length]
  obtain ⟨e, hrecv⟩ := recv_of_silence now uuid ⟨c.hello ++ c.request, reads, c.ack.length⟩ hsilence
  rw [c.arriving_request hhello] at hrecv
  exact ⟨e, Prog.yields_bind (send_of_encode now uuid c.encode_request _)
    (Prog.yields_bind_error hrecv)⟩

theorem converse_yields {factory : MonitorClientFactory} {msgAt : SystemTime → ClientMessage}
    {verdict : ServerMessage → Except IpcError Unit} {x : Except IpcError Unit} {p p₁ p₂ : Pipe}
    (hconnect : (connect (pipeLink env s now uuid d) factory p).Yields (.ok ()) p₁)
    (hask : (ask (pipeLink env s now uuid d) (msgAt now) verdict p₁).Yields x p₂) :
    (converse (pipeLink env s now uuid d) factory msgAt verdict p).Yields x p₂ := by
  have hclock : ((Prog.call (pipeLink env s now uuid d).now .clock :
      Exchange Pipe SystemTime) p₁).Yields (.ok now) p₁ := ⟨rfl, rfl⟩
  exact Prog.yields_bind hconnect (Prog.yields_bind hclock hask)

end

/-- What the client makes of the connection, and what the daemon does on it, whenever it reads
what is left of the client's bytes. -/
inductive Outcome (d : Delivery) (verdict : ServerMessage → Except IpcError Unit) :
    Run Pipe WireEvent IpcError Unit → Prop where
  /-- The daemon has dispatched the message once, and its reply decides. -/
  | completed {r : Run Pipe WireEvent IpcError Unit} (delivered : c.Delivered d)
      (result : r.result = verdict c.reply)
      (served : ∀ later, ∃ rest,
        (serveConnectionWith env (r.env.reads.map .ok ++ later) s).calls =
          [.write helloAck (.ok ()), .dispatch msg.truncated c.reply, .write c.reply (.ok ())] ++ rest)
      (once : Monitord.dispatched (Monitord.answered env s r.env.reads) = [msg.truncated]) :
      Outcome d verdict r
  /-- The client has sent its request and fails. The daemon dispatches the message once if all
  of it arrives, be it after the failure, and not at all otherwise. -/
  | unanswered {r : Run Pipe WireEvent IpcError Unit} (greeted : c.Greeted d)
      (undelivered : ¬ c.Delivered d) (failed : ∃ e, r.result = .error e)
      (sent : r.env.sent = c.hello ++ c.request)
      (once : ∀ late, r.env.MayRead late →
        Monitord.dispatched (Monitord.answered env s (r.env.reads ++ late)) =
          if (r.env.reads ++ late).flatten = c.hello ++ c.request then [msg.truncated] else []) :
      Outcome d verdict r
  /-- The client fails before it sends its request, and nothing is dispatched. -/
  | unsent {r : Run Pipe WireEvent IpcError Unit} (ungreeted : ¬ c.Greeted d)
      (failed : ∃ e, r.result = .error e) (sent : r.env.sent = c.hello)
      (nothing : ∀ late, r.env.MayRead late →
        Monitord.dispatched (Monitord.answered env s (r.env.reads ++ late)) = []) :
      Outcome d verdict r

/-- No read of the daemon is empty, be it early or late. -/
theorem not_mem_reads {reads late : List Bytes} (hreads : [] ∉ reads) (hlate : [] ∉ late) :
    [] ∉ reads ++ late := by
  rw [List.mem_append]
  exact not_or.mpr ⟨hreads, hlate⟩

/-- A call of the client over the pipe has one of the three outcomes. -/
theorem converse_outcome (now : SystemTime) (uuid : String → Uuid)
    {msgAt : SystemTime → ClientMessage} (hmsg : msgAt now = msg) (d : Delivery)
    (factory : MonitorClientFactory) (verdict : ServerMessage → Except IpcError Unit) :
    c.Outcome d verdict
      (converse (pipeLink env s now uuid d) factory msgAt verdict ⟨[], [], 0⟩) := by
  subst hmsg
  have hdata := d.data [] c.hello
  by_cases hgreeted : c.Greeted d
  · have hconnect := c.connect_of_greeted now uuid factory hgreeted
    have hhello := hgreeted.arrives
    have hmore := d.data (d.arrive [] c.hello) c.request
    by_cases hanswered : c.Answered d (d.arrive [] c.hello)
    · have hyields := converse_yields now uuid hconnect
        (c.ask_of_answered now uuid hdata hhello verdict hanswered)
      refine .completed ⟨hgreeted, hanswered⟩ hyields.result (fun later => ?_) ?_
      · obtain ⟨-, rest, -, -, -, hcalls⟩ :=
          c.calls_of_request hdata hmore hhello hanswered.arrives later
        rw [hanswered.written] at hcalls
        rw [hyields.env]
        exact ⟨rest, hcalls⟩
      · rw [hyields.env, c.answered_of_request hdata hmore hhello hanswered.arrives]
        rfl
    · obtain ⟨e, hask⟩ := c.ask_of_not_answered now uuid hdata hhello verdict hanswered
      have hyields := converse_yields now uuid hconnect hask
      refine .unanswered hgreeted (fun h => hanswered h.answered) ⟨e, hyields.result⟩ ?_
        fun late hlate => ?_
      · rw [hyields.env]
      · rw [hyields.env] at hlate ⊢
        have hsome := hlate.some_of
        simp only [List.append_assoc] at hsome ⊢
        exact c.dispatched_of_hello hdata (not_mem_reads hmore hlate.data) hhello hsome
  · obtain ⟨e, hconnect⟩ := c.connect_of_not_greeted now uuid factory hgreeted
    have hyields : (converse (pipeLink env s now uuid d) factory msgAt verdict
        ⟨[], [], 0⟩).Yields (.error e) ⟨c.hello, d.arrive [] c.hello, 0⟩ :=
      Prog.yields_bind_error hconnect
    refine .unsent hgreeted ⟨e, hyields.result⟩ ?_ fun late hlate => ?_
    · rw [hyields.env]
    · rw [hyields.env] at hlate ⊢
      exact c.dispatched_of_part (not_mem_reads hdata hlate.data) hlate.some_of

/-- The client's verdict on the reply is its result exactly if everything is delivered; any
other call fails. -/
theorem Outcome.ok_iff {verdict : ServerMessage → Except IpcError Unit}
    {r : Run Pipe WireEvent IpcError Unit} (h : c.Outcome d verdict r) :
    r.result = .ok () ↔ c.Delivered d ∧ verdict c.reply = .ok () := by
  have hfails (hundelivered : ¬ c.Delivered d) (hfailed : ∃ e, r.result = .error e) :
      r.result = .ok () ↔ c.Delivered d ∧ verdict c.reply = .ok () := by
    obtain ⟨e, he⟩ := hfailed
    rw [he]
    exact iff_of_false (by simp) fun hok => hundelivered hok.1
  cases h with
  | completed delivered result _ _ => rw [result, and_iff_right delivered]
  | unanswered _ undelivered failed _ _ => exact hfails undelivered failed
  | unsent ungreeted failed _ _ => exact hfails (fun h => ungreeted h.greeted) failed

end Conversation

section Calls

variable {σ : Type} {env : ConnectionEnv σ} {s : σ}

theorem openSession_outcome {info : OpenSessionInfo} {now : SystemTime} {uuid : String → Uuid}
    (c : Conversation env s (.sessionOpen (info.payload (uuid info.sessionId) now)))
    (d : Delivery) (factory : MonitorClientFactory) :
    c.Outcome d ackReply
      (connectPerCallOpenSession (pipeLink env s now uuid d) factory info ⟨[], [], 0⟩) := by
  rw [converse_openSession]
  exact c.converse_outcome now uuid rfl d factory ackReply

/-- However the connection cuts and delays what the two ends write, the report of a session and
the report of its end are dispatched once and as they were sent, or not at all, and the client
learns the daemon's reply or fails. -/
theorem calls_dispatched_once_or_failed (d : Delivery) (now : SystemTime)
    (uuid : String → Uuid) (factory : MonitorClientFactory) :
    (∀ (info : OpenSessionInfo)
      (c : Conversation env s (.sessionOpen (info.payload (uuid info.sessionId) now))),
      c.Outcome d ackReply
        (connectPerCallOpenSession (pipeLink env s now uuid d) factory info ⟨[], [], 0⟩)) ∧
    ∀ (sessionId reason : String)
      (c : Conversation env s (.sessionClose (uuid sessionId) now)),
      c.Outcome d ackReply
        (connectPerCallCloseSession (pipeLink env s now uuid d) factory sessionId reason
          ⟨[], [], 0⟩) := by
  constructor
  · exact fun info c => openSession_outcome c d factory
  · intro sessionId reason c
    rw [converse_closeSession]
    exact c.converse_outcome now uuid rfl d factory ackReply

end Calls

/-- A table is a faithful codec when its texts are those of objects and name their messages. -/
theorem tableCodec_faithful {M : Type} [DecidableEq M] {table : List (M × String)}
    (hobjects : ∀ entry ∈ table, ∃ text, entry.2 = text ++ "\x7d")
    (hreads : ∀ entry ∈ table, (tableCodec table).fromStr entry.2 = .ok entry.1) :
    (tableCodec table).Faithful := by
  refine ⟨fun {m bytes} h => ?_⟩
  cases hfind : table.find? (·.1 = m) with
  | none =>
    simp only [tableCodec, hfind] at h
    cases h
  | some entry =>
    simp only [tableCodec, hfind] at h
    cases h
    have hentry : entry ∈ table := List.mem_of_find?_eq_some hfind
    have hm : entry.1 = m := by simpa using List.find?_some hfind
    obtain ⟨text, htext⟩ := hobjects entry hentry
    refine ⟨text, by rw [htext], ?_⟩
    rw [← htext, hreads entry hentry, hm]

def aliceInfo : OpenSessionInfo where
  sessionId := "7"
  pamUser := "alice"
  pamService := "login"
  hostIdHash := ""
  target := .logindSession "c2"
  usbSerial := some "A1"
  certCn := "alice"
  certSerial := "01"
  engineerSki := ""
  engineerCertSha256 := ""
  uid := 1000

def aliceTable : List (ClientMessage × String) :=
  [(.hello protocolVersion (some agent), "\x7b\"type\":\"hello\"\x7d"),
    (.sessionOpen (aliceInfo.payload 7 0), "\x7b\"type\":\"session_open\"\x7d")]

def ackTable : List (ServerMessage × String) :=
  [(helloAck, "\x7b\"type\":\"hello_ack\"\x7d"), (.ack, "\x7b\"type\":\"ack\"\x7d")]

/-- A daemon that acknowledges every request. -/
def ackEnv : ConnectionEnv Unit where
  client := tableCodec aliceTable
  server := tableCodec ackTable
  request _ s := (.reply .ack, s)
  writeAll _ s := (.ok (), s)
  idleTimeout := 0

theorem ackEnv_client : ackEnv.client.Faithful := by
  refine tableCodec_faithful (fun entry hentry => ?_) (by decide +kernel)
  rcases List.mem_pair.mp hentry with rfl | rfl
  · exact ⟨"\x7b\"type\":\"hello\"", by decide +kernel⟩
  · exact ⟨"\x7b\"type\":\"session_open\"", by decide +kernel⟩

theorem ackEnv_server : ackEnv.server.Faithful := by
  refine tableCodec_faithful (fun entry hentry => ?_) (by decide +kernel)
  rcases List.mem_pair.mp hentry with rfl | rfl
  · exact ⟨"\x7b\"type\":\"hello_ack\"", by decide +kernel⟩
  · exact ⟨"\x7b\"type\":\"ack\"", by decide +kernel⟩

theorem ackEnv_encodes :
    encodeMessageOf (timedCodec ackEnv.client) (.hello protocolVersion (some agent)) =
        .ok (utf8 "\x7b\"type\":\"hello\"\x7d\n") ∧
      encodeMessageOf ackEnv.server helloAck = .ok (utf8 "\x7b\"type\":\"hello_ack\"\x7d\n") ∧
      encodeMessageOf (timedCodec ackEnv.client) (.sessionOpen (aliceInfo.payload 7 0)) =
        .ok (utf8 "\x7b\"type\":\"session_open\"\x7d\n") ∧
      encodeMessageOf ackEnv.server .ack = .ok (utf8 "\x7b\"type\":\"ack\"\x7d\n") := by
  decide +kernel

theorem ackEnv_fits :
    (utf8 "\x7b\"type\":\"hello\"\x7d\n").length ≤ maxFrameBytes ∧
      (utf8 "\x7b\"type\":\"hello_ack\"\x7d\n").length ≤ maxFrameBytes ∧
      (utf8 "\x7b\"type\":\"session_open\"\x7d\n").length ≤ maxFrameBytes ∧
      (utf8 "\x7b\"type\":\"ack\"\x7d\n").length ≤ maxFrameBytes := by
  decide +kernel

def aliceConversation : Conversation ackEnv () (.sessionOpen (aliceInfo.payload 7 0)) where
  hello := utf8 "\x7b\"type\":\"hello\"\x7d\n"
  ack := utf8 "\x7b\"type\":\"hello_ack\"\x7d\n"
  request := utf8 "\x7b\"type\":\"session_open\"\x7d\n"
  reply := .ack
  answer := utf8 "\x7b\"type\":\"ack\"\x7d\n"
  wrote := .ok ()
  greeted := ()
  dispatched := ()
  answered := ()
  client := ackEnv_client
  server := ackEnv_server
  encode_hello := ackEnv_encodes.1
  hello_fits := ackEnv_fits.1
  encode_ack := ackEnv_encodes.2.1
  ack_fits := ackEnv_fits.2.1
  write_ack := rfl
  encode_request := ackEnv_encodes.2.2.1
  request_fits := ackEnv_fits.2.2.1
  dispatch_eq := rfl
  encode_reply := ackEnv_encodes.2.2.2
  answer_fits := ackEnv_fits.2.2.2
  write_answer := rfl

/-- Every byte arrives in a read of its own. -/
def byteByByte (coming : List Bytes → Coming) : Delivery where
  arrive _ bytes := bytes.map ([·])
  coming := coming
  some_of _ bytes := ⟨[], by rw [List.append_nil, ← List.flatMap_def, List.flatMap_singleton']⟩
  data _ bytes := by simp

theorem flatten_byteByByte (coming : List Bytes → Coming) (reads : List Bytes) (bytes : Bytes) :
    ((byteByByte coming).arrive reads bytes).flatten = bytes := by
  rw [byteByByte, ← List.flatMap_def, List.flatMap_singleton']

/-- Only the answer to the greeting comes in time. -/
def slowAnswer : Delivery :=
  byteByByte fun reads => if reads.length ≤ aliceConversation.hello.length then .inTime else .late

theorem slowAnswer_greeted : aliceConversation.Greeted slowAnswer where
  arrives := flatten_byteByByte _ [] _
  in_time := by simp [slowAnswer, byteByByte]

theorem slowAnswer_not_delivered : ¬ aliceConversation.Delivered slowAnswer := by
  intro h
  have hrequest : aliceConversation.request ≠ [] := aliceConversation.isFrameOf_request.1.ne_nil
  have hin_time := h.answered.in_time
  simp [slowAnswer, byteByByte, hrequest] at hin_time

/-- The report of alice's session over this connection. -/
def aliceCall (d : Delivery) : Run Pipe WireEvent IpcError Unit :=
  connectPerCallOpenSession (pipeLink ackEnv () 0 (fun _ => 7) d) ⟨"/run/monitord.sock", 0⟩ aliceInfo
    ⟨[], [], 0⟩

/-- A report that is answered in time, and one that fails because its answer comes too late and
that is dispatched all the same. -/
theorem alice_dispatched_once_or_failed :
    (aliceCall (byteByByte fun _ => .inTime)).result = .ok () ∧
      (∃ e, (aliceCall slowAnswer).result = .error e) ∧
      ∀ late, (aliceCall slowAnswer).env.MayRead late →
        ((aliceCall slowAnswer).env.reads ++ late).flatten =
            aliceConversation.hello ++ aliceConversation.request →
          dispatched (answered ackEnv () ((aliceCall slowAnswer).env.reads ++ late)) =
            [.sessionOpen (aliceInfo.payload 7 0)] := by
  have hin_time := (calls_dispatched_once_or_failed (byteByByte fun _ => .inTime) 0 (fun _ => 7)
    ⟨"/run/monitord.sock", 0⟩).1 aliceInfo aliceConversation
  have hslow := (calls_dispatched_once_or_failed slowAnswer 0 (fun _ => 7)
    ⟨"/run/monitord.sock", 0⟩).1 aliceInfo aliceConversation
  refine ⟨hin_time.ok_iff.mpr ⟨⟨⟨?_, rfl⟩, ?_, rfl, rfl⟩, rfl⟩, ?_⟩
  · exact flatten_byteByByte _ _ _
  · exact flatten_byteByByte _ _ _
  · cases hslow with
    | completed delivered _ _ _ => exact absurd delivered slowAnswer_not_delivered
    | unanswered _ _ failed _ once =>
      refine ⟨failed, fun late hlate hall => ?_⟩
      exact (once late hlate).trans (if_pos hall)
    | unsent ungreeted _ _ _ => exact absurd slowAnswer_greeted ungreeted

end PamCertauth.Monitord
