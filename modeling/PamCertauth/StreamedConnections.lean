import PamCertauth.ConnectionServing

/-!
# What a connection makes of its stream

The daemon is meant to see the stream of its peer as a sequence of lines, however the
stream was cut into reads. The loop does. The handshake reads with a reader of its own,
and what that one has read beyond the greeting is lost.
-/

namespace PamCertauth.Monitord

open X509 Ipc LineFraming

/-- The reply can be encoded, and the write succeeded. -/
def ConnCall.Undisturbed (server : MessageCodec ServerMessage) : ConnCall → Prop
  | .dispatch _ reply => ∃ bytes, encodeMessageOf server reply = .ok bytes
  | .write _ answer => answer = .ok ()

def ConnCall.dispatched? : ConnCall → Option ClientMessage
  | .dispatch msg _ => some msg
  | .write _ _ => none

/-- The messages that were dispatched, in their order. -/
def dispatched (log : List ConnCall) : List ClientMessage := log.filterMap ConnCall.dispatched?

/-- A message is dispatched and its reply is written. -/
def exchange (p : ClientMessage × ServerMessage) : List ConnCall :=
  [.dispatch p.1 p.2, .write p.2 (.ok ())]

/-- The frame is a line that the daemon takes for the message. -/
def IsFrameOf (json : MessageCodec ClientMessage) (frame : Bytes) (msg : ClientMessage) : Prop :=
  IsLine 0x0A frame ∧ Accepts json frame msg

/-- Nothing of the stream is left, or a segment that is not a message. -/
inductive Stops (client : MessageCodec ClientMessage) : List Bytes → List ConnCall → Prop where
  | atEnd : Stops client [] []
  | atSegment {seg : Bytes} {segs : List Bytes} {tail : List ConnCall}
      (rejected : ∀ msg, ¬ Accepts client seg msg) (refusal : Refusal tail) :
      Stops client (seg :: segs) tail

@[simp] theorem dispatched_nil : dispatched [] = [] := rfl

@[simp] theorem dispatched_dispatch (msg : ClientMessage) (reply : ServerMessage)
    (log : List ConnCall) : dispatched (.dispatch msg reply :: log) = msg :: dispatched log := rfl

@[simp] theorem dispatched_write (msg : ServerMessage) (answer : Except String Unit)
    (log : List ConnCall) : dispatched (.write msg answer :: log) = dispatched log := rfl

theorem dispatched_refusal {log : List ConnCall} (h : Refusal log) : dispatched log = [] := by
  cases h <;> rfl

namespace Serves

variable {client : MessageCodec ClientMessage} {server : MessageCodec ServerMessage} {Ended : Prop}
  {segs : List Bytes} {log : List ConnCall}

theorem not_undisturbed_of_unencodable {msg : ClientMessage} {reply : ServerMessage}
    {e : WireError} (h : encodeMessageOf server reply = .error e) :
    ¬ ∀ c ∈ [ConnCall.dispatch msg reply], c.Undisturbed server := by
  intro hlog
  obtain ⟨bytes, hbytes⟩ := List.forall_mem_singleton.mp hlog
  rw [h] at hbytes
  cases hbytes

theorem not_undisturbed_of_unwritten {msg : ClientMessage} {reply : ServerMessage} {e : String} :
    ¬ ∀ c ∈ [ConnCall.dispatch msg reply, .write reply (.error e)], c.Undisturbed server := by
  intro hlog
  have hwrite := hlog (.write reply (.error e)) (by simp)
  cases hwrite

/-- An undisturbed run answers the accepted segments one after the other. -/
theorem exchanges (h : Serves client server Ended segs log) (hended : Ended)
    (hlog : ∀ c ∈ log, c.Undisturbed server) :
    ∃ taken left served tail, segs = taken ++ left ∧
      List.Forall₂ (fun seg p => Accepts client seg p.1) taken served ∧
      log = served.flatMap exchange ++ tail ∧ Stops client left tail := by
  induction h with
  | done => exact ⟨[], [], [], [], rfl, .nil, rfl, .atEnd⟩
  | failed hfailed => exact absurd hended hfailed
  | @refused seg segs log hrejected hrefusal =>
    exact ⟨[], seg :: segs, [], log, rfl, .nil, rfl, .atSegment hrejected hrefusal⟩
  | unencodable _ hencode => exact absurd hlog (not_undisturbed_of_unencodable hencode)
  | unwritten => exact absurd hlog not_undisturbed_of_unwritten
  | @answered seg segs msg reply log haccepted _ ih =>
    have hrest := (List.forall_mem_cons.mp (List.forall_mem_cons.mp hlog).2).2
    obtain ⟨taken, left, served, tail, rfl, htaken, rfl, hstops⟩ := ih hrest
    exact ⟨seg :: taken, left, (msg, reply) :: served, tail, rfl, .cons haccepted htaken, rfl,
      hstops⟩

/-- Lines that are all accepted are all dispatched, however the stream ends. -/
theorem dispatched_eq (h : Serves client server Ended segs log)
    (hlog : ∀ c ∈ log, c.Undisturbed server) {msgs : List ClientMessage}
    (hsegs : List.Forall₂ (IsFrameOf client) segs msgs) :
    dispatched log = msgs := by
  induction h generalizing msgs with
  | done =>
    cases hsegs
    rfl
  | failed _ hunterminated hrefusal =>
    cases hsegs with
    | nil => exact dispatched_refusal hrefusal
    | cons hseg _ => exact absurd hseg.1 (hunterminated _ (by simp))
  | refused hrejected =>
    cases hsegs with
    | cons hseg _ => exact absurd hseg.2 (hrejected _)
  | unencodable _ hencode => exact absurd hlog (not_undisturbed_of_unencodable hencode)
  | unwritten => exact absurd hlog not_undisturbed_of_unwritten
  | @answered seg segs msg reply log haccepted _ ih =>
    have hrest := (List.forall_mem_cons.mp (List.forall_mem_cons.mp hlog).2).2
    cases hsegs with
    | @cons _ msg' _ msgs hseg htail =>
      have hmsg : msg' = msg :=
        Except.ok.inj (hseg.2.decodes.symm.trans haccepted.decodes)
      simp [hmsg, ih hrest htail]

/-- No segment is dispatched twice. -/
theorem length_dispatched_le (h : Serves client server Ended segs log) :
    (dispatched log).length ≤ segs.length := by
  induction h with
  | done => rfl
  | failed _ _ hrefusal => simp [dispatched_refusal hrefusal]
  | refused _ hrefusal => simp [dispatched_refusal hrefusal]
  | unencodable => simp
  | unwritten => simp
  | answered _ _ ih => simpa using ih

/-- What is dispatched first is the first segment. -/
theorem accepts_head {seg : Bytes} {msg : ClientMessage} {msgs : List ClientMessage}
    (h : Serves client server Ended (seg :: segs) log) (hlog : dispatched log = msg :: msgs) :
    Accepts client seg msg := by
  cases h with
  | failed _ _ hrefusal =>
    rw [dispatched_refusal hrefusal] at hlog
    cases hlog
  | refused _ hrefusal =>
    rw [dispatched_refusal hrefusal] at hlog
    cases hlog
  | unencodable haccepted =>
    cases hlog
    exact haccepted
  | unwritten _ haccepted =>
    cases hlog
    exact haccepted
  | answered haccepted =>
    cases hlog
    exact haccepted

end Serves

section

variable {σ : Type} {env : ConnectionEnv σ}

section

variable {P : ConnCall → Prop}

theorem writeMessage_logsOnly (hwrite : ∀ msg bytes s, P (.write msg (env.writeAll bytes s).1))
    (msg : ServerMessage) : Prog.LogsOnly P (writeMessage env msg) :=
  .bind (.ofExcept _) fun bytes => .call_answer fun s => hwrite msg bytes s

theorem refuse_logsOnly (hwrite : ∀ msg bytes s, P (.write msg (env.writeAll bytes s).1))
    (code : UInt32) (message : String) : Prog.LogsOnly P (refuse env code message) :=
  .bind (writeMessage_logsOnly hwrite _) fun _ => .pure _

theorem serveFrame_logsOnly (hwrite : ∀ msg bytes s, P (.write msg (env.writeAll bytes s).1))
    (hdispatch : ∀ msg s, P (.dispatch msg (dispatch env msg s).1)) {next : ConnProg σ Unit}
    (hnext : Prog.LogsOnly P next) (frame : Bytes) :
    Prog.LogsOnly P (serveFrame env frame next) := by
  rw [serveFrame]
  split
  · exact refuse_logsOnly hwrite _ _
  · exact refuse_logsOnly hwrite _ _
  · next msg _ =>
    refine .bind (.call_answer fun s => hdispatch msg s) fun reply => ?_
    exact .bind (writeMessage_logsOnly hwrite reply) fun _ => .bind (.ofExcept _) fun _ => hnext

theorem serveFrames_logsOnly (hwrite : ∀ msg bytes s, P (.write msg (env.writeAll bytes s).1))
    (hdispatch : ∀ msg s, P (.dispatch msg (dispatch env msg s).1))
    (reader : Buffered ReadFailure UInt8) : Prog.LogsOnly P (serveFrames env reader) := by
  rw [serveFrames]
  split
  · exact refuse_logsOnly hwrite _ _
  · exact .fail _
  · exact .pure _
  · exact refuse_logsOnly hwrite _ _
  · next st _ =>
    exact serveFrame_logsOnly hwrite hdispatch
      (serveFrames_logsOnly hwrite hdispatch st.reader) st.frame
termination_by reader.content.length
decreasing_by exact readFrame_content_lt (by assumption)

theorem performHandshake_logsOnly
    (hwrite : ∀ msg bytes s, P (.write msg (env.writeAll bytes s).1))
    (source : List (Except ReadFailure Bytes)) : Prog.LogsOnly P (performHandshake env source) := by
  have hanswer := writeMessage_logsOnly hwrite
  rw [performHandshake]
  split
  · exact .fail _
  · exact .fail _
  · split
    · exact .fail _
    · split
      · exact .fail _
      · split
        · exact .fail _
        · exact .fail _
        · split
          · exact .bind (.attempt (hanswer _)) fun _ => .fail _
          · exact .bind (hanswer _) fun _ => .bind (.ofExcept _) fun _ => .pure _
        · exact .bind (.attempt (hanswer _)) fun _ => .fail _

end

/-- When every write succeeds and every reply can be encoded, no run is disturbed. -/
theorem serveConnectionWith_undisturbed (hwrite : ∀ bytes s, (env.writeAll bytes s).1 = .ok ())
    (hreply : ∀ msg s, ∃ bytes, encodeMessageOf env.server (dispatch env msg s).1 = .ok bytes)
    (source : List (Except ReadFailure Bytes)) :
    Prog.LogsOnly (ConnCall.Undisturbed env.server) (serveConnectionWith env source) := by
  have hwrite' : ∀ msg bytes s,
      ConnCall.Undisturbed env.server (.write msg (env.writeAll bytes s).1) :=
    fun _ bytes s => hwrite bytes s
  exact .bind (performHandshake_logsOnly hwrite' source) fun later =>
    serveFrames_logsOnly hwrite' hreply ⟨[], later⟩

/-- Behind a handshake that has read nothing ahead, the daemon dispatches the messages of the
longest run of acceptable segments and writes one reply for each; it says at most one thing
about the segment that ends the run. The frame stays within its bound. -/
theorem serveConnectionWith_segments {source later : List (Except ReadFailure Bytes)}
    {hello stream : Bytes} {s s₁ : σ} {greeting : List ConnCall}
    (hsent : arrivals source = hello ++ stream) (hending : ending source = .ok ())
    (hread : Buffered.readUntil 0x0A [] source = .ok (hello, ⟨[], later⟩))
    (hshake : performHandshake env source s = ⟨.ok later, s₁, greeting⟩)
    (hlog : ∀ c ∈ (serveConnectionWith env source s).calls, c.Undisturbed env.server) :
    (∃ taken left served tail, segments 0x0A stream = taken ++ left ∧
      List.Forall₂ (fun seg p => Accepts env.client seg p.1) taken served ∧
      (serveConnectionWith env source s).calls = greeting ++ served.flatMap exchange ++ tail ∧
      Stops env.client left tail) ∧
    ∀ (reader : Buffered ReadFailure UInt8) (st : Reading ReadFailure UInt8),
      Reading.Reaches 0x0A maxFrameBytes ⟨[], reader⟩ st → st.frame.length ≤ maxFrameBytes := by
  refine ⟨?_, fun reader st hreaches => hreaches.length_le (Nat.zero_le _)⟩
  obtain ⟨hcontent, hending'⟩ := Buffered.readUntil_eq_ok hread
  have hstream : (⟨[], later⟩ : Buffered ReadFailure UInt8).content = stream := by
    rw [List.nil_append, hsent] at hcontent
    exact (List.append_cancel_left hcontent).symm
  have hcalls : (serveConnectionWith env source s).calls =
      greeting ++ (serveFrames env ⟨[], later⟩ s₁).calls := by
    rw [serveConnectionWith, Prog.bind_of_ok hshake]
  rw [hcalls] at hlog ⊢
  have hserves := serveFrames_serves env ⟨[], later⟩ s₁
  rw [hstream] at hserves
  obtain ⟨taken, left, served, tail, hsegs, htaken, htail, hstops⟩ :=
    hserves.exchanges (hending'.trans hending) (List.forall_mem_append.mp hlog).2
  exact ⟨taken, left, served, tail, hsegs, htaken, by rw [htail, List.append_assoc], hstops⟩

def helloAck : ServerMessage := .helloAck serverVersion protocolVersion

theorem performHandshake_of_hello {source : List (Except ReadFailure Bytes)} {hello : Bytes}
    {reader : Buffered ReadFailure UInt8} {agent : Option String}
    (hread : Buffered.readUntil 0x0A [] source = .ok (hello, reader)) (hne : hello ≠ [])
    (hdecode : decodeFrame (timedCodec env.client) hello = .ok (.hello protocolVersion agent)) :
    performHandshake env source =
      (do
        let answer ← writeMessage env helloAck
        Prog.ofExcept (answer.mapError .io)
        pure reader.source) := by
  rw [decodeFrame] at hdecode
  cases hbuf : String.fromUTF8? ⟨hello.toArray⟩ with
  | none =>
    rw [hbuf] at hdecode
    cases hdecode
  | some buf =>
    have hempty : buf ≠ "" := by
      rintro rfl
      exact hne (utf8_of_fromUTF8 hbuf).symm
    rw [hbuf] at hdecode
    have hline := mapError_eq_ok_iff.mp hdecode
    simp only [performHandshake, hread, hbuf, if_neg hempty, hline, ne_eq, not_true_eq_false,
      if_false]
    rfl

variable (env) in
/-- The calls behind a greeting: it is answered, and the loop serves what the reads behind
those of the greeting bring. -/
theorem serveConnectionWith_calls {hello rest : Bytes} {agent : Option String}
    {chunks : List Bytes} {closing : List (Except ReadFailure Bytes)} {s : σ} {ack : Bytes}
    (hhello : IsLine 0x0A hello)
    (hdecode : decodeFrame (timedCodec env.client) hello = .ok (.hello protocolVersion agent))
    (hack : encodeMessageOf env.server helloAck = .ok ack)
    (hchunks : [] ∉ chunks) (hsent : chunks.flatten = hello ++ rest)
    (hlog : ∀ c ∈ (serveConnectionWith env (chunks.map .ok ++ closing) s).calls,
      c.Undisturbed env.server) :
    ∃ (later : List Bytes) (s₁ : σ), [] ∉ later ∧
      rest = overshoot hello.length chunks ++ later.flatten ∧
      (serveConnectionWith env (chunks.map .ok ++ closing) s).calls =
        .write helloAck (.ok ()) :: (serveFrames env ⟨[], later.map .ok ++ closing⟩ s₁).calls := by
  have hbuffered : [] ++ chunks.flatten = hello ++ rest := hsent
  obtain ⟨later, hread, hlater, hrest⟩ :=
    Buffered.readUntil_of_line hhello hchunks hbuffered closing
  have hovershoot := overshoot_append hhello.ne_nil [] chunks
  rw [List.nil_append] at hovershoot
  rw [hovershoot] at hread hrest
  rcases hwrite : env.writeAll ack s with ⟨e | u, s₁⟩
  · have hshake : performHandshake env (chunks.map .ok ++ closing) s =
        ⟨.error (.io e), s₁, [.write helloAck (.error e)]⟩ := by
      rw [performHandshake_of_hello hread hhello.ne_nil hdecode,
        Prog.bind_of_ok (writeMessage_of_ok hack s), hwrite]
      rfl
    rw [serveConnectionWith, Prog.bind_of_error hshake] at hlog
    cases List.forall_mem_singleton.mp hlog
  · have hshake : performHandshake env (chunks.map .ok ++ closing) s =
        ⟨.ok (later.map .ok ++ closing), s₁, [.write helloAck (.ok ())]⟩ := by
      rw [performHandshake_of_hello hread hhello.ne_nil hdecode,
        Prog.bind_of_ok (writeMessage_of_ok hack s), hwrite]
      rfl
    refine ⟨later, s₁, hlater, hrest, ?_⟩
    rw [serveConnectionWith, Prog.bind_of_ok hshake]
    rfl

/-- The greeting is answered, and the messages behind it are dispatched once each and in
their order. -/
def DispatchesAll (env : ConnectionEnv σ) (source : List (Except ReadFailure Bytes)) (s : σ)
    (msgs : List ClientMessage) : Prop :=
  ∃ log, (serveConnectionWith env source s).calls = .write helloAck (.ok ()) :: log ∧
    dispatched log = msgs

/-- What the handshake has read ahead does no harm: nothing, or a beginning of the first
frame without which it is the same message. -/
def HarmlessReadAhead (json : MessageCodec ClientMessage) (ahead : Bytes) (frames : List Bytes) :
    Prop :=
  ahead = [] ∨ ∃ frame rest tail, frames = frame :: rest ∧ frame = ahead ++ tail ∧ tail ≠ [] ∧
    decodeFrame (timedCodec json) tail = decodeFrame (timedCodec json) frame

/-- A frame that starts with the bytes read ahead goes on with the end of its line. -/
theorem isLine_of_append {frame ahead tail : Bytes} (h : IsLine 0x0A frame)
    (hframe : frame = ahead ++ tail) (hne : tail ≠ []) : IsLine 0x0A tail := by
  have hsplit : ahead ++ tail = frame ++ [] := by rw [List.append_nil, hframe]
  rcases h.split hsplit with ⟨extra, -, hextra⟩ | ⟨-, tail', htail', -, htail⟩
  · exact absurd (List.append_eq_nil_iff.mp hextra.symm).2 hne
  · rw [htail, List.append_nil]
    exact htail'

theorem segments_frames {json : MessageCodec ClientMessage} {frames : List Bytes}
    {msgs : List ClientMessage} (h : List.Forall₂ (IsFrameOf json) frames msgs) :
    segments 0x0A frames.flatten = frames := by
  induction h with
  | nil => rfl
  | cons hframe _ ih => rw [List.flatten_cons, hframe.1.segments_eq, ih]

section

variable {server : MessageCodec ServerMessage} {client : MessageCodec ClientMessage} {Ended : Prop}
  {frames : List Bytes} {msgs : List ClientMessage} {ahead later : Bytes} {log : List ConnCall}

theorem harmlessReadAhead_of_dispatched (hframes : List.Forall₂ (IsFrameOf client) frames msgs)
    (hsent : frames.flatten = ahead ++ later)
    (hserves : Serves client server Ended (segments 0x0A later) log)
    (hdispatched : dispatched log = msgs) : HarmlessReadAhead client ahead frames := by
  cases hframes with
  | nil => exact .inl (List.append_eq_nil_iff.mp hsent.symm).1
  | @cons frame msg rest msgs hframe hrest =>
    rcases hframe.1.split hsent.symm with ⟨extra, -, hextra⟩ | ⟨-, tail, htail, hahead, hlater⟩
    · -- A whole frame is gone, and the stream has too few segments left.
      have hfew : (segments 0x0A later).length ≤ rest.length := by
        have hle := length_segments_le 0x0A extra later
        rwa [← hextra, segments_frames hrest] at hle
      have hle := hserves.length_dispatched_le
      rw [hdispatched, List.length_cons, ← hrest.length_eq] at hle
      omega
    · rw [hlater, htail.segments_eq, segments_frames hrest] at hserves
      have haccepts := hserves.accepts_head hdispatched
      refine .inr ⟨frame, rest, tail, rfl, hahead, htail.ne_nil, ?_⟩
      rw [haccepts.decodes, hframe.2.decodes]

theorem dispatched_of_harmlessReadAhead
    (hframes : List.Forall₂ (IsFrameOf client) frames msgs)
    (hsent : frames.flatten = ahead ++ later)
    (hserves : Serves client server Ended (segments 0x0A later) log)
    (hlog : ∀ c ∈ log, c.Undisturbed server)
    (hharmless : HarmlessReadAhead client ahead frames) : dispatched log = msgs := by
  rcases hharmless with rfl | ⟨frame, rest, tail, rfl, hframe, hne, hdecode⟩
  · rw [List.nil_append] at hsent
    rw [← hsent, segments_frames hframes] at hserves
    exact hserves.dispatched_eq hlog hframes
  · cases hframes with
    | @cons _ msg _ msgs hhead hrest =>
      have htail : IsFrameOf client tail msg := by
        refine ⟨isLine_of_append hhead.1 hframe hne, ?_, hdecode.trans hhead.2.decodes⟩
        have hfits := hhead.2.fits
        rw [hframe, List.length_append] at hfits
        omega
      have hlater : later = tail ++ rest.flatten := by
        rw [List.flatten_cons, hframe, List.append_assoc] at hsent
        exact (List.append_cancel_left hsent).symm
      have hframes' : List.Forall₂ (IsFrameOf client) (tail :: rest) (msg :: msgs) :=
        .cons htail hrest
      rw [hlater, ← List.flatten_cons, segments_frames hframes'] at hserves
      exact hserves.dispatched_eq hlog hframes'

end

variable (env) in
/-- The frames behind the greeting are all dispatched exactly when the handshake has read
none of them ahead, up to a beginning that does not matter. -/
theorem dispatchesAll_iff {hello ack : Bytes} {agent : Option String} {frames chunks : List Bytes}
    {msgs : List ClientMessage} {closing : List (Except ReadFailure Bytes)} {s : σ}
    (hhello : IsLine 0x0A hello)
    (hdecode : decodeFrame (timedCodec env.client) hello = .ok (.hello protocolVersion agent))
    (hframes : List.Forall₂ (IsFrameOf env.client) frames msgs)
    (hack : encodeMessageOf env.server helloAck = .ok ack)
    (hchunks : [] ∉ chunks) (hsent : chunks.flatten = hello ++ frames.flatten)
    (hclosing : arrivals closing = [])
    (hlog : ∀ c ∈ (serveConnectionWith env (chunks.map .ok ++ closing) s).calls,
      c.Undisturbed env.server) :
    DispatchesAll env (chunks.map .ok ++ closing) s msgs ↔
      HarmlessReadAhead env.client (overshoot hello.length chunks) frames := by
  obtain ⟨later, s₁, hlater, hrest, hcalls⟩ :=
    serveConnectionWith_calls env hhello hdecode hack hchunks hsent hlog
  have hserves := serveFrames_serves env ⟨[], later.map .ok ++ closing⟩ s₁
  have hcontent : (⟨[], later.map .ok ++ closing⟩ : Buffered ReadFailure UInt8).content =
      later.flatten := by
    rw [Buffered.content, arrivals_append hlater, hclosing, List.append_nil, List.nil_append]
  rw [hcontent] at hserves
  rw [hcalls] at hlog
  constructor
  · rintro ⟨log, hlog', hdispatched⟩
    rw [hcalls, List.cons.injEq] at hlog'
    rw [← hlog'.2] at hdispatched
    exact harmlessReadAhead_of_dispatched hframes hrest hserves hdispatched
  · intro hharmless
    exact ⟨_, hcalls, dispatched_of_harmlessReadAhead hframes hrest hserves
      (List.forall_mem_cons.mp hlog).2 hharmless⟩

end

/-- A codec of a few messages and their texts. -/
def tableCodec {M : Type} [DecidableEq M] (table : List (M × String)) : MessageCodec M where
  toVec m :=
    match table.find? (·.1 = m) with
    | some entry => .ok (utf8 entry.2)
    | none => .error "unknown message"
  fromStr text :=
    match table.find? (·.2 = text) with
    | some entry => .ok entry.1
    | none => .error "unknown text"

/-- A daemon that knows the greeting and the ping. -/
def pingEnv : ConnectionEnv Unit where
  client := tableCodec
    [(.hello 2 (some "pam"), "\x7b\"type\":\"hello\",\"protocol_version\":2,\"agent\":\"pam\"\x7d"),
      (.ping, "\x7b\"type\":\"ping\"\x7d")]
  server := tableCodec
    [(helloAck,
        "\x7b\"type\":\"hello_ack\",\"server_version\":\"0.3.19\",\"protocol_version\":2\x7d"),
      (.pong, "\x7b\"type\":\"pong\"\x7d"),
      (.error ErrorCodes.badRequest "Hello already processed",
        "\x7b\"type\":\"error\",\"code\":1100,\"message\":\"Hello already processed\"\x7d")]
  request _ s := (.reply .pong, s)
  writeAll _ s := (.ok (), s)
  idleTimeout := 0

def helloBytes : Bytes :=
  utf8 "\x7b\"type\":\"hello\",\"protocol_version\":2,\"agent\":\"pam\"\x7d\n"

/-- What the two codecs make of the messages. -/
theorem pingEnv_codecs :
    encodeMessageOf (timedCodec pingEnv.client) (.hello 2 (some "pam")) = .ok helloBytes ∧
      decodeFrame (timedCodec pingEnv.client) helloBytes =
        .ok (.hello protocolVersion (some "pam")) ∧
      encodeMessageOf (timedCodec pingEnv.client) .ping = .ok pingBytes ∧
      pingBytes.length ≤ maxFrameBytes ∧
      decodeFrame (timedCodec pingEnv.client) pingBytes = .ok .ping ∧
      (encodeMessageOf pingEnv.server helloAck).isOk = true ∧
      (encodeMessageOf pingEnv.server .pong).isOk = true ∧
      (encodeMessageOf pingEnv.server
        (.error ErrorCodes.badRequest "Hello already processed")).isOk = true := by
  decide +kernel

theorem isLine_helloBytes : IsLine 0x0A helloBytes :=
  isLine_of_encodeMessageOf pingEnv_codecs.1

theorem decode_helloBytes : decodeFrame (timedCodec pingEnv.client) helloBytes =
    .ok (.hello protocolVersion (some "pam")) :=
  pingEnv_codecs.2.1

theorem isFrameOf_pingBytes : IsFrameOf pingEnv.client pingBytes .ping := by
  obtain ⟨-, -, hencode, hfits, hdecode, -⟩ := pingEnv_codecs
  exact ⟨isLine_of_encodeMessageOf hencode, hfits, hdecode⟩

theorem pingEnv_helloAck : ∃ bytes, encodeMessageOf pingEnv.server helloAck = .ok bytes :=
  exists_ok_of_isOk pingEnv_codecs.2.2.2.2.2.1

theorem pingEnv_reply (msg : ClientMessage) (s : Unit) :
    ∃ bytes, encodeMessageOf pingEnv.server (dispatch pingEnv msg s).1 = .ok bytes := by
  obtain ⟨-, -, -, -, -, -, hpong, hgreeted⟩ := pingEnv_codecs
  cases msg with
  | hello _ _ => exact exists_ok_of_isOk hgreeted
  | _ => exact exists_ok_of_isOk hpong

theorem pingEnv_undisturbed (source : List (Except ReadFailure Bytes)) :
    ∀ c ∈ (serveConnectionWith pingEnv source ()).calls, c.Undisturbed pingEnv.server :=
  serveConnectionWith_undisturbed (fun _ _ => rfl) pingEnv_reply source ()

/-- The ping comes in a read of its own. -/
theorem dispatchesAll_ping : DispatchesAll pingEnv [.ok helloBytes, .ok pingBytes] () [.ping] := by
  obtain ⟨ack, hack⟩ := pingEnv_helloAck
  have hchunks : [] ∉ [helloBytes, pingBytes] := by
    simp [isLine_helloBytes.ne_nil.symm, isFrameOf_pingBytes.1.ne_nil.symm]
  have hsent : [helloBytes, pingBytes].flatten = helloBytes ++ [pingBytes].flatten := by simp
  have hlog := pingEnv_undisturbed ([helloBytes, pingBytes].map .ok ++ [])
  have hiff := dispatchesAll_iff pingEnv isLine_helloBytes decode_helloBytes
    (.cons isFrameOf_pingBytes .nil) hack hchunks hsent rfl hlog
  have hahead := overshoot_of_le helloBytes [] [pingBytes]
  rw [List.append_nil] at hahead
  exact hiff.mpr (.inl hahead)

theorem serveFrames_at_end {σ : Type} (env : ConnectionEnv σ) :
    serveFrames env ⟨[], []⟩ = pure () :=
  serveFrames_of_eof (Reading.run_of_done rfl)

/-- One read brings the greeting and the ping, and the ping is lost. -/
theorem ping_lost :
    (serveConnectionWith pingEnv [.ok (helloBytes ++ pingBytes)] ()).calls =
        [.write helloAck (.ok ())] ∧
      ¬ DispatchesAll pingEnv [.ok (helloBytes ++ pingBytes)] () [.ping] := by
  obtain ⟨ack, hack⟩ := pingEnv_helloAck
  have hchunks : [] ∉ [helloBytes ++ pingBytes] := by
    simp [isLine_helloBytes.ne_nil]
  have hsent : [helloBytes ++ pingBytes].flatten = helloBytes ++ pingBytes := by simp
  have hlog := pingEnv_undisturbed ([helloBytes ++ pingBytes].map .ok ++ [])
  obtain ⟨later, s₁, hlater, hrest, hcalls⟩ :=
    serveConnectionWith_calls pingEnv isLine_helloBytes decode_helloBytes hack hchunks hsent hlog
  rw [overshoot_of_le, List.self_eq_append_right] at hrest
  have hnone : later = [] := by
    cases later with
    | nil => rfl
    | cons chunk later =>
      rw [List.flatten_cons, List.append_eq_nil_iff] at hrest
      exact absurd (by simp [hrest.1]) hlater
  have hgreeted : (serveConnectionWith pingEnv [.ok (helloBytes ++ pingBytes)] ()).calls =
      [.write helloAck (.ok ())] := by
    rw [hnone] at hcalls
    exact hcalls.trans (by rw [List.map_nil, List.nil_append, serveFrames_at_end]; rfl)
  refine ⟨hgreeted, ?_⟩
  rintro ⟨log, hlog, hdispatched⟩
  rw [hgreeted] at hlog
  cases hlog
  cases hdispatched

/-- The ping is answered, and the segment behind it is not a message. -/
theorem serveConnectionWith_segments_ping :
    ∃ (taken left : List Bytes) (served : List (ClientMessage × ServerMessage))
      (tail : List ConnCall), segments 0x0A (pingBytes ++ [0x21]) = taken ++ left ∧
      List.Forall₂ (fun seg p => Accepts pingEnv.client seg p.1) taken served ∧
      (serveConnectionWith pingEnv [.ok helloBytes, .ok (pingBytes ++ [0x21])] ()).calls =
        [.write helloAck (.ok ())] ++ served.flatMap exchange ++ tail ∧
      Stops pingEnv.client left tail := by
  obtain ⟨ack, hack⟩ := pingEnv_helloAck
  have hread : Buffered.readUntil 0x0A [] [.ok helloBytes, .ok (pingBytes ++ [0x21])] =
      .ok (helloBytes, (⟨[], [.ok (pingBytes ++ [0x21])]⟩ : Buffered ReadFailure UInt8)) := by
    decide +kernel
  have hshake : performHandshake pingEnv [.ok helloBytes, .ok (pingBytes ++ [0x21])] () =
      ⟨.ok [.ok (pingBytes ++ [0x21])], (), [.write helloAck (.ok ())]⟩ := by
    rw [performHandshake_of_hello hread isLine_helloBytes.ne_nil decode_helloBytes,
      Prog.bind_of_ok (writeMessage_of_ok hack ())]
    rfl
  exact (serveConnectionWith_segments (by decide +kernel) (by decide +kernel) hread hshake
    (pingEnv_undisturbed _)).1

end PamCertauth.Monitord
