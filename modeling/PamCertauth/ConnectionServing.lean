import PamCertauth.WireRoundTrips
import PamCertauth.StateManager

/-!
# Serving a connection

What the daemon does on one connection (`server.rs`): it reads the greeting with a reader
of its own, answers it, and then reads, dispatches and answers one frame after another
until the peer is done or breaks the protocol. The reads of the stream are given, each
with its data or its failure, so that every way of cutting the stream can be told apart.
-/

namespace PamCertauth.Monitord

open X509 Ipc LineFraming

inductive ServerError where
  | handshakeTimeout
  | io (detail : String)
  | decode (detail : String)
  | encode (e : WireError)
  | helloExpected
  | versionMismatch (server client : UInt32)
  deriving DecidableEq, Repr

/-- A read that brings no data: it fails, or the time for it is over. -/
inductive ReadFailure where
  | io (detail : String)
  | timedOut
  deriving DecidableEq, Repr

/-- What becomes of a request to the state manager. -/
inductive RequestAnswer where
  | gone
  | reply (message : ServerMessage)
  | noReply
  deriving DecidableEq, Repr

/-- What a connection needs from its surroundings. -/
structure ConnectionEnv (σ : Type) where
  client : MessageCodec ClientMessage
  server : MessageCodec ServerMessage
  request : IpcRequest → σ → RequestAnswer × σ
  writeAll : Bytes → σ → Except String Unit × σ
  idleTimeout : Duration

inductive ConnCall where
  | dispatch (msg : ClientMessage) (reply : ServerMessage)
  | write (msg : ServerMessage) (answer : Except String Unit)
  deriving DecidableEq

def WireError.toText : WireError → String
  | .frameTooLarge bytes => "frame too large: " ++ toString bytes ++ " bytes"
  | .encode detail => "encode failed: " ++ detail
  | .decode detail => "decode failed: " ++ detail
  | .embeddedNewline => "embedded newline"

def internalError : ServerMessage := .error ErrorCodes.internal "monitord internal error"

def ActiveSession.ofPayload (payload : SessionOpenPayload) : ActiveSession where
  sessionId := payload.sessionId
  pamUser := payload.pamUser
  pamService := payload.pamService
  target := payload.target
  usbSerial := payload.usbSerial
  hostIdHash := payload.hostIdHash
  openedAt := payload.openedAt
  certCn := payload.certCn
  certSerial := payload.certSerial
  engineerSki := payload.engineerSki
  engineerCertSha256 := payload.engineerCertSha256
  uid := payload.uid

section

variable {σ : Type} (env : ConnectionEnv σ)

abbrev ConnProg (σ : Type) := Prog σ ConnCall ServerError

/-- Ask the state manager. `gone` is the reply when it does not take the request. -/
def askManager (request : IpcRequest) (gone : ServerMessage) (s : σ) : ServerMessage × σ :=
  match env.request request s with
  | (.gone, s) => (gone, s)
  | (.reply message, s) => (message, s)
  | (.noReply, s) => (internalError, s)

def dispatch : ClientMessage → σ → ServerMessage × σ
  | .hello _ _ => fun s => (.error ErrorCodes.badRequest "Hello already processed", s)
  | .ping => askManager env .ping (.error ErrorCodes.internal "state manager gone")
  | .sessionOpen payload => askManager env (.sessionOpen (.ofPayload payload)) internalError
  | .getActiveSessionByUid uid => askManager env (.getActiveSessionByUid uid) internalError
  | .sessionClose sessionId _ => askManager env (.sessionClose sessionId) internalError
  | .updateSessionTarget sessionId newTarget =>
    askManager env (.updateSessionTarget sessionId newTarget) internalError

def writeMessage (msg : ServerMessage) : ConnProg σ (Except String Unit) := do
  let bytes ← Prog.ofExcept ((encodeMessageOf env.server msg).mapError .encode)
  Prog.call (env.writeAll bytes) (.write msg)

/-- Tell the peer what is wrong and stop. -/
def refuse (code : UInt32) (message : String) : ConnProg σ Unit := do
  let _ ← writeMessage env (.error code message)

/-- Decode a frame, dispatch it, write the reply and go on. -/
def serveFrame (frame : Bytes) (next : ConnProg σ Unit) : ConnProg σ Unit :=
  match decodeFrame (timedCodec env.client) frame with
  | .error .notUtf8 => refuse env ErrorCodes.badRequest "frame is not valid UTF-8"
  | .error (.wire e) => refuse env ErrorCodes.badRequest (WireError.toText e)
  | .ok msg => do
    let reply ← Prog.call (dispatch env msg) (.dispatch msg)
    let answer ← writeMessage env reply
    Prog.ofExcept (answer.mapError .io)
    next

/-- Serve one frame after the other. -/
def serveFrames (reader : Buffered ReadFailure UInt8) : ConnProg σ Unit :=
  match _h : readFrameBounded reader with
  | (.error .timedOut, _) =>
    refuse env ErrorCodes.protocolViolation
      ("idle timeout after " ++ toString (env.idleTimeout / 10 ^ 9) ++ "s")
  | (.error (.io detail), _) => Prog.fail (.io detail)
  | (.ok .eof, _) => pure ()
  | (.ok .oversize, _) =>
    refuse env ErrorCodes.protocolViolation
      ("frame exceeds " ++ toString maxFrameBytes ++ " bytes")
  | (.ok .frame, st) => serveFrame env st.frame (serveFrames st.reader)
termination_by reader.content.length
decreasing_by exact readFrame_content_lt _h

/-- The greeting and its answer. What is left are the reads behind those of the greeting:
the reader is dropped with everything that it has read ahead. -/
def performHandshake (source : List (Except ReadFailure Bytes)) :
    ConnProg σ (List (Except ReadFailure Bytes)) :=
  match Buffered.readUntil 0x0A [] source with
  | .error .timedOut => Prog.fail .handshakeTimeout
  | .error (.io detail) => Prog.fail (.io detail)
  | .ok (line, reader) =>
    match String.fromUTF8? ⟨line.toArray⟩ with
    | none => Prog.fail (.io "stream did not contain valid UTF-8")
    | some buf =>
      if buf = "" then Prog.fail .helloExpected
      else
        match decodeLineOf (timedCodec env.client) buf with
        | .error (.decode detail) => Prog.fail (.decode detail)
        | .error e => Prog.fail (.encode e)
        | .ok (.hello version _) =>
          if version ≠ protocolVersion then do
            let _ ← Prog.attempt (writeMessage env (.error ErrorCodes.protocolMismatch
              ("server v" ++ toString protocolVersion ++ " != client v" ++ toString version)))
            Prog.fail (.versionMismatch protocolVersion version)
          else do
            let answer ← writeMessage env (.helloAck serverVersion protocolVersion)
            Prog.ofExcept (answer.mapError .io)
            pure reader.source
        | .ok _ => do
          let _ ← Prog.attempt (writeMessage env
            (.error ErrorCodes.badRequest "expected Hello as first frame"))
          Prog.fail .helloExpected

def serveConnectionWith (source : List (Except ReadFailure Bytes)) : ConnProg σ Unit := do
  let source ← performHandshake env source
  serveFrames env ⟨[], source⟩

end

/-- Nothing, or one message about what is wrong. -/
inductive Refusal : List ConnCall → Prop where
  | silent : Refusal []
  | told (code : UInt32) (message : String) (answer : Except String Unit) :
      Refusal [.write (.error code message) answer]

/-- The daemon takes the segment of the stream for the message. -/
structure Accepts (json : MessageCodec ClientMessage) (segment : Bytes) (msg : ClientMessage) :
    Prop where
  fits : segment.length ≤ maxFrameBytes
  decodes : decodeFrame (timedCodec json) segment = .ok msg

/-- The ways the loop can serve the segments of a stream, and the calls it makes. `Ended`
says that the stream ends without a failure. -/
inductive Serves (client : MessageCodec ClientMessage) (server : MessageCodec ServerMessage)
    (Ended : Prop) : List Bytes → List ConnCall → Prop where
  | done (ended : Ended) : Serves client server Ended [] []
  | failed {segs : List Bytes} {log : List ConnCall} (failed : ¬ Ended)
      (unterminated : ∀ seg ∈ segs, ¬ IsLine 0x0A seg) (refusal : Refusal log) :
      Serves client server Ended segs log
  | refused {seg : Bytes} {segs : List Bytes} {log : List ConnCall}
      (rejected : ∀ msg, ¬ Accepts client seg msg) (refusal : Refusal log) :
      Serves client server Ended (seg :: segs) log
  | unencodable {seg : Bytes} {segs : List Bytes} {msg : ClientMessage} {reply : ServerMessage}
      {e : WireError} (accepted : Accepts client seg msg)
      (encode : encodeMessageOf server reply = .error e) :
      Serves client server Ended (seg :: segs) [.dispatch msg reply]
  | unwritten {seg : Bytes} {segs : List Bytes} {msg : ClientMessage} {reply : ServerMessage}
      (e : String) (accepted : Accepts client seg msg) :
      Serves client server Ended (seg :: segs) [.dispatch msg reply, .write reply (.error e)]
  | answered {seg : Bytes} {segs : List Bytes} {msg : ClientMessage} {reply : ServerMessage}
      {log : List ConnCall} (accepted : Accepts client seg msg)
      (rest : Serves client server Ended segs log) :
      Serves client server Ended (seg :: segs)
        (.dispatch msg reply :: .write reply (.ok ()) :: log)

section

variable {σ : Type} {env : ConnectionEnv σ}

theorem writeMessage_of_error {msg : ServerMessage} {e : WireError}
    (h : encodeMessageOf env.server msg = .error e) (s : σ) :
    writeMessage env msg s = ⟨.error (.encode e), s, []⟩ := by
  rw [writeMessage, h]
  rfl

theorem writeMessage_of_ok {msg : ServerMessage} {bytes : Bytes}
    (h : encodeMessageOf env.server msg = .ok bytes) (s : σ) :
    writeMessage env msg s =
      ⟨.ok (env.writeAll bytes s).1, (env.writeAll bytes s).2,
        [.write msg (env.writeAll bytes s).1]⟩ := by
  rw [writeMessage, h]
  rfl

theorem refuse_refusal (code : UInt32) (message : String) (s : σ) :
    Refusal (refuse env code message s).calls := by
  cases hencode : encodeMessageOf env.server (.error code message) with
  | error e =>
    rw [refuse, Prog.bind_of_error (writeMessage_of_error hencode s)]
    exact .silent
  | ok bytes =>
    rw [refuse, Prog.bind_of_ok (writeMessage_of_ok hencode s)]
    exact .told code message _

/-- What follows a frame does not matter when the frame is not accepted. -/
theorem serveFrame_refusal {frame : Bytes} {e : FrameError}
    (h : decodeFrame (timedCodec env.client) frame = .error e) (next : ConnProg σ Unit) (s : σ) :
    Refusal (serveFrame env frame next s).calls := by
  cases e with
  | notUtf8 =>
    rw [serveFrame, h]
    exact refuse_refusal _ _ s
  | wire e =>
    rw [serveFrame, h]
    exact refuse_refusal _ _ s

theorem serveFrame_of_ok {frame : Bytes} {msg : ClientMessage}
    (h : decodeFrame (timedCodec env.client) frame = .ok msg) (next : ConnProg σ Unit) :
    serveFrame env frame next =
      (do
        let reply ← Prog.call (dispatch env msg) (.dispatch msg)
        let answer ← writeMessage env reply
        Prog.ofExcept (answer.mapError .io)
        next) := by
  rw [serveFrame, h]

theorem serveFrame_serves {frame : Bytes} {segs : List Bytes} {next : ConnProg σ Unit}
    {Ended : Prop} (hfit : frame.length ≤ maxFrameBytes)
    (hnext : ∀ s, Serves env.client env.server Ended segs (next s).calls) (s : σ) :
    Serves env.client env.server Ended (frame :: segs) (serveFrame env frame next s).calls := by
  cases hdecode : decodeFrame (timedCodec env.client) frame with
  | error e =>
    refine .refused (fun msg haccepts => ?_) (serveFrame_refusal hdecode next s)
    rw [haccepts.decodes] at hdecode
    cases hdecode
  | ok msg =>
    have haccepts : Accepts env.client frame msg := ⟨hfit, hdecode⟩
    rcases hdispatch : dispatch env msg s with ⟨reply, s₁⟩
    rw [serveFrame_of_ok hdecode, Prog.call_bind_apply, hdispatch]
    cases hencode : encodeMessageOf env.server reply with
    | error e =>
      rw [Prog.bind_of_error (writeMessage_of_error hencode s₁)]
      exact .unencodable haccepts hencode
    | ok bytes =>
      rcases hwrite : env.writeAll bytes s₁ with ⟨e | u, s₂⟩
      · rw [Prog.bind_of_ok (writeMessage_of_ok hencode s₁), hwrite]
        exact .unwritten e haccepts
      · rw [Prog.bind_of_ok (writeMessage_of_ok hencode s₁), hwrite]
        exact .answered haccepts (hnext s₂)

theorem serveFrames_of_frame {reader : Buffered ReadFailure UInt8}
    {st : Reading ReadFailure UInt8} (h : readFrameBounded reader = (.ok .frame, st)) :
    serveFrames env reader = serveFrame env st.frame (serveFrames env st.reader) := by
  rw [serveFrames]
  split <;> rename_i hread <;> rw [h] at hread <;> cases hread
  rfl

theorem serveFrames_of_eof {reader : Buffered ReadFailure UInt8}
    {st : Reading ReadFailure UInt8} (h : readFrameBounded reader = (.ok .eof, st)) :
    serveFrames env reader = pure () := by
  rw [serveFrames]
  split <;> rename_i hread <;> rw [h] at hread <;> cases hread

/-- Any other read ends the loop. -/
theorem serveFrames_refusal {reader : Buffered ReadFailure UInt8}
    {outcome : Except ReadFailure Outcome} {st : Reading ReadFailure UInt8}
    (h : readFrameBounded reader = (outcome, st)) (hframe : outcome ≠ .ok .frame) (s : σ) :
    Refusal (serveFrames env reader s).calls := by
  generalize hstop : serveFrames env reader = stop
  rw [serveFrames] at hstop
  split at hstop <;> rename_i hread <;> rw [h] at hread <;> cases hread <;> subst hstop
  · exact refuse_refusal _ _ s
  · exact .silent
  · exact .silent
  · exact refuse_refusal _ _ s
  · exact absurd rfl hframe

variable (env) in
/-- The loop serves the segments of the stream, whatever the reads are. -/
theorem serveFrames_serves (reader : Buffered ReadFailure UInt8) (s : σ) :
    Serves env.client env.server (ending reader.source = .ok ()) (segments 0x0A reader.content)
      (serveFrames env reader s).calls := by
  rcases readFrame_cases 0x0A maxFrameBytes reader with
    ⟨seg, segs, reader', hsegs, hfit, hread, hrest, hending⟩ |
    ⟨seg, segs, st, hsegs, hlong, hread⟩ | ⟨st, hsegs, hending, hread⟩ |
    ⟨e, st, hmem, hending, hread⟩
  · rw [serveFrames_of_frame hread, hsegs]
    refine serveFrame_serves hfit (fun s₁ => ?_) s
    have hserves := serveFrames_serves reader' s₁
    rw [hrest, hending] at hserves
    exact hserves
  · rw [hsegs]
    refine .refused (fun msg haccepts => ?_) (serveFrames_refusal hread (by simp) s)
    exact absurd haccepts.fits (not_le.mpr hlong)
  · rw [hsegs, serveFrames_of_eof hread]
    exact .done hending
  · refine .failed (by simp [hending]) (fun seg hseg hline => ?_)
      (serveFrames_refusal hread (by simp) s)
    obtain ⟨body, -, rfl⟩ := hline
    have hnewline :=
      List.mem_flatten_of_mem hseg (List.mem_append_right body (List.mem_singleton_self 0x0A))
    rw [flatten_segments] at hnewline
    exact hmem hnewline
termination_by reader.content.length
decreasing_by exact readFrame_content_lt hread

end

end PamCertauth.Monitord
