import PamCertauth.MonitorClient
import PamCertauth.LineFraming

/-!
# Messages over the wire

Both ends of the connection encode messages as lines (`encode_message`), and both decode
what they read (`decode_line`). The daemon reads bounded frames, the client whole lines.
The JSON codecs are parameters that are assumed to be faithful; the times of the messages
pass through `system_time_serde.rs` on their way.
-/

namespace PamCertauth.Ipc

open X509 LineFraming

def utf8 (s : String) : Bytes := s.toByteArray.data.toList

theorem fromUTF8_utf8 (s : String) : String.fromUTF8? ⟨(utf8 s).toArray⟩ = some s := by
  simp only [utf8, Array.toArray_toList]
  exact dif_pos s.isValidUTF8

theorem utf8_of_fromUTF8 {bytes : Bytes} {s : String}
    (h : String.fromUTF8? ⟨bytes.toArray⟩ = some s) : utf8 s = bytes := by
  rw [String.fromUTF8?] at h
  split at h
  · cases h
    simp [utf8, String.fromUTF8]
  · cases h

theorem utf8_append (s t : String) : utf8 (s ++ t) = utf8 s ++ utf8 t := by
  simp [utf8, String.toByteArray_append]

/-- The JSON codec of the messages of one direction. -/
structure MessageCodec (M : Type) where
  toVec : M → Except String Bytes
  fromStr : String → Except String M

/-- The codec reads back what it writes, which is the text of an object. -/
structure MessageCodec.Faithful {M : Type} (json : MessageCodec M) : Prop where
  reads_back : ∀ {m : M} {bytes : Bytes}, json.toVec m = .ok bytes →
    ∃ text, bytes = utf8 (text ++ "\x7d") ∧ json.fromStr (text ++ "\x7d") = .ok m

section

variable {M : Type}

def encodeMessageOf (json : MessageCodec M) (msg : M) : Except WireError Bytes := do
  let bytes ← (json.toVec msg).mapError .encode
  if 0x0A ∈ bytes then .error .embeddedNewline
  else if bytes.length > maxFrameBytes then .error (.frameTooLarge bytes.length)
  else .ok (bytes ++ [0x0A])

def decodeLineOf (json : MessageCodec M) (line : String) : Except WireError M :=
  if line.utf8ByteSize > maxFrameBytes then .error (.frameTooLarge line.utf8ByteSize)
  else
    let trimmed := String.ofList (line.toList.rdropWhile fun c => c = '\n' ∨ c = '\r')
    (json.fromStr trimmed).mapError .decode

theorem encodeMessageOf_eq_ok_iff {json : MessageCodec M} {msg : M} {bytes : Bytes} :
    encodeMessageOf json msg = .ok bytes ↔
      ∃ body, json.toVec msg = .ok body ∧ 0x0A ∉ body ∧ body.length ≤ maxFrameBytes ∧
        bytes = body ++ [0x0A] := by
  rw [encodeMessageOf, bind_eq_ok_iff]
  simp only [mapError_eq_ok_iff, guard_bind_eq_ok_iff, not_lt, Except.ok.injEq, eq_comm (a := bytes)]

theorem isLine_of_encodeMessageOf {json : MessageCodec M} {msg : M} {bytes : Bytes}
    (h : encodeMessageOf json msg = .ok bytes) : IsLine 0x0A bytes := by
  obtain ⟨body, -, hbody, -, rfl⟩ := encodeMessageOf_eq_ok_iff.mp h
  exact ⟨body, hbody, rfl⟩

end

/-- Replace the times of a message. -/
def ClientMessage.mapTimes (f : SystemTime → Except String SystemTime) :
    ClientMessage → Except String ClientMessage
  | .sessionOpen payload => do
    let openedAt ← f payload.openedAt
    .ok (.sessionOpen { payload with openedAt := openedAt })
  | .sessionClose sessionId closedAt => do
    let closedAt ← f closedAt
    .ok (.sessionClose sessionId closedAt)
  | msg => .ok msg

/-- The codec of the client's messages. On the wire their times are counts of seconds. -/
def timedCodec (json : MessageCodec ClientMessage) : MessageCodec ClientMessage where
  toVec msg := do
    let msg ← msg.mapTimes SystemTimeSerde.serialize
    json.toVec msg
  fromStr text := do
    let msg ← json.fromStr text
    msg.mapTimes SystemTimeSerde.deserialize

def truncateTime (t : SystemTime) : SystemTime := t / 10 ^ 9 * 10 ^ 9

/-- The message with its times cut to whole seconds. -/
def ClientMessage.truncated : ClientMessage → ClientMessage
  | .sessionOpen payload =>
    .sessionOpen { payload with openedAt := truncateTime payload.openedAt }
  | .sessionClose sessionId closedAt => .sessionClose sessionId (truncateTime closedAt)
  | msg => msg

theorem deserialize_of_serialize {t : SystemTime} {secs : ℤ}
    (h : SystemTimeSerde.serialize t = .ok secs) :
    SystemTimeSerde.deserialize secs = .ok (truncateTime t) := by
  unfold SystemTimeSerde.serialize at h
  split_ifs at h with hepoch hbound
  cases h
  have hsecs : ¬ t / 1000000000 < 0 :=
    Int.not_lt.mpr (Int.ediv_nonneg (Int.not_lt.mp hepoch) (by decide))
  rw [SystemTimeSerde.deserialize, if_neg hsecs]
  rfl

theorem mapTimes_deserialize {msg msg' : ClientMessage}
    (h : msg.mapTimes SystemTimeSerde.serialize = .ok msg') :
    msg'.mapTimes SystemTimeSerde.deserialize = .ok msg.truncated := by
  cases msg with
  | sessionOpen payload =>
    rw [ClientMessage.mapTimes, bind_eq_ok_iff] at h
    obtain ⟨secs, hsecs, hmsg⟩ := h
    cases hmsg
    rw [ClientMessage.mapTimes, deserialize_of_serialize hsecs]
    rfl
  | sessionClose sessionId closedAt =>
    rw [ClientMessage.mapTimes, bind_eq_ok_iff] at h
    obtain ⟨secs, hsecs, hmsg⟩ := h
    cases hmsg
    rw [ClientMessage.mapTimes, deserialize_of_serialize hsecs]
    rfl
  | hello version agent =>
    cases h
    rfl
  | getActiveSessionByUid uid =>
    cases h
    rfl
  | updateSessionTarget sessionId newTarget =>
    cases h
    rfl
  | ping =>
    cases h
    rfl

inductive FrameError where
  | notUtf8
  | wire (e : WireError)
  deriving DecidableEq, Repr

/-- Decode the bytes of a frame as the daemon does. -/
def decodeFrame {M : Type} (json : MessageCodec M) (frame : Bytes) : Except FrameError M :=
  match String.fromUTF8? ⟨frame.toArray⟩ with
  | none => .error .notUtf8
  | some line => (decodeLineOf json line).mapError .wire

theorem trim_object (text : String) :
    String.ofList ((text ++ "\x7d" ++ "\n").toList.rdropWhile fun c => c = '\n' ∨ c = '\r') =
      text ++ "\x7d" := by
  have hend : (text ++ "\x7d" ++ "\n").toList = text.toList ++ ['\x7d'] ++ ['\n'] := by
    simp [String.toList_append]
  rw [hend, List.rdropWhile_concat_pos _ _ _ (by decide), List.rdropWhile_concat_neg _ _ _ (by decide)]
  apply String.toList_injective
  simp

/-- A line of a faithful codec that is not too long is decoded. -/
theorem decodeLineOf_object {M : Type} {json : MessageCodec M} {text : String} {m : M}
    (h : json.fromStr (text ++ "\x7d") = .ok m)
    (hlen : (text ++ "\x7d" ++ "\n").utf8ByteSize ≤ maxFrameBytes) :
    decodeLineOf json (text ++ "\x7d" ++ "\n") = .ok m := by
  rw [decodeLineOf, if_neg (not_lt.mpr hlen), trim_object]
  exact congrArg (Except.mapError WireError.decode) h

theorem decodeLineOf_too_long {M : Type} (json : MessageCodec M) {line : String}
    (h : maxFrameBytes < line.utf8ByteSize) :
    decodeLineOf json line = .error (.frameTooLarge line.utf8ByteSize) := by
  rw [decodeLineOf, if_pos h]

/-- What an encoded message is: the line of an object that the codec reads back. -/
theorem exists_object_of_encodeMessageOf {M : Type} {json : MessageCodec M}
    (hjson : json.Faithful) {m : M} {bytes : Bytes} (h : encodeMessageOf json m = .ok bytes) :
    ∃ text, bytes = utf8 (text ++ "\x7d" ++ "\n") ∧ json.fromStr (text ++ "\x7d") = .ok m := by
  obtain ⟨body, hbody, -, -, rfl⟩ := encodeMessageOf_eq_ok_iff.mp h
  obtain ⟨text, rfl, htext⟩ := hjson.reads_back hbody
  refine ⟨text, ?_, htext⟩
  rw [utf8_append _ "\n"]
  rfl

/-- The times of a client message come back in whole seconds. -/
theorem exists_object_of_timedCodec {json : MessageCodec ClientMessage} (hjson : json.Faithful)
    {m : ClientMessage} {bytes : Bytes} (h : encodeMessageOf (timedCodec json) m = .ok bytes) :
    ∃ text, bytes = utf8 (text ++ "\x7d" ++ "\n") ∧
      (timedCodec json).fromStr (text ++ "\x7d") = .ok m.truncated := by
  obtain ⟨body, hbody, -, -, rfl⟩ := encodeMessageOf_eq_ok_iff.mp h
  simp only [timedCodec, bind_eq_ok_iff] at hbody
  obtain ⟨m', htimes, hvec⟩ := hbody
  obtain ⟨text, rfl, htext⟩ := hjson.reads_back hvec
  refine ⟨text, ?_, ?_⟩
  · rw [utf8_append _ "\n"]
    rfl
  · simp only [timedCodec, bind_eq_ok_iff]
    exact ⟨m', htext, mapTimes_deserialize htimes⟩

/-- The bounded read of the daemon. -/
def readFrameBounded {ε : Type} (reader : Buffered ε UInt8) : Except ε Outcome × Reading ε UInt8 :=
  readFrame 0x0A maxFrameBytes reader

/-- A line of the stream as a text. -/
def readLine (stream : Bytes) : Except String String × Bytes :=
  let (line, rest) := (cut 0x0A stream).getD (stream, [])
  match String.fromUTF8? ⟨line.toArray⟩ with
  | some text => (.ok text, rest)
  | none => (.error "stream did not contain valid UTF-8", rest)

/-- A connection to a daemon that sends a stream. -/
def streamLink (client : MessageCodec ClientMessage) (server : MessageCodec ServerMessage) :
    DaemonLink Bytes where
  connect _ s := (.ok (), s)
  configure _ s := (.ok (), s)
  writeAll _ s := (.ok (), s)
  readLine := readLine
  now s := (0, s)
  serde := ⟨(timedCodec client).toVec, server.fromStr⟩
  uuidFromSessionId _ := 0

/-- The client sends and receives with the encoder and the decoder of both ends. -/
theorem streamLink_codec (client : MessageCodec ClientMessage) (server : MessageCodec ServerMessage) :
    encodeMessage (streamLink client server).serde = encodeMessageOf (timedCodec client) ∧
      decodeLine (streamLink client server).serde = decodeLineOf server :=
  ⟨rfl, rfl⟩

/-- The daemon gets the message from every stream that goes on behind its bytes. -/
def DaemonReads (json : MessageCodec ClientMessage) (bytes : Bytes) (m : ClientMessage) : Prop :=
  ∀ (ε : Type) (reader : Buffered ε UInt8) (rest : Bytes), reader.content = bytes ++ rest →
    ∃ reader', readFrameBounded reader = (.ok .frame, ⟨bytes, reader'⟩) ∧
      decodeFrame (timedCodec json) bytes = .ok m

/-- The client gets the message from every stream that goes on behind its bytes. -/
def ClientReceives (client : MessageCodec ClientMessage) (server : MessageCodec ServerMessage)
    (bytes : Bytes) (m : ServerMessage) : Prop :=
  ∀ rest : Bytes, (recv (streamLink client server) (bytes ++ rest)).result = .ok m

theorem readFrameBounded_oversize {bytes : Bytes} (hline : IsLine 0x0A bytes)
    (hlong : maxFrameBytes < bytes.length) :
    ∃ st, readFrameBounded (⟨bytes, []⟩ : Buffered Unit UInt8) = (.ok .oversize, st) := by
  have hcontent : (⟨bytes, []⟩ : Buffered Unit UInt8).content = bytes ++ [] := rfl
  have hsegments : segments 0x0A (⟨bytes, []⟩ : Buffered Unit UInt8).content = [bytes] := by
    rw [hcontent, hline.segments_eq]
    rfl
  exact readFrame_oversize hsegments hlong

theorem daemonReads_iff {json : MessageCodec ClientMessage} (hjson : json.Faithful)
    {m : ClientMessage} {bytes : Bytes} (h : encodeMessageOf (timedCodec json) m = .ok bytes) :
    DaemonReads json bytes m.truncated ↔ bytes.length ≤ maxFrameBytes := by
  have hline := isLine_of_encodeMessageOf h
  constructor
  · intro hreads
    by_contra hlong
    obtain ⟨st, hoversize⟩ := readFrameBounded_oversize hline (not_le.mp hlong)
    obtain ⟨reader', hframe, -⟩ := hreads Unit ⟨bytes, []⟩ [] rfl
    rw [hoversize] at hframe
    cases hframe
  · intro hfit ε reader rest hcontent
    obtain ⟨reader', hread, -⟩ := readFrame_of_line hline hcontent hfit
    obtain ⟨text, rfl, htext⟩ := exists_object_of_timedCodec hjson h
    refine ⟨reader', hread, ?_⟩
    rw [decodeFrame, fromUTF8_utf8]
    exact congrArg (Except.mapError FrameError.wire) (decodeLineOf_object htext hfit)

theorem clientReceives_iff {client : MessageCodec ClientMessage} {server : MessageCodec ServerMessage}
    (hserver : server.Faithful) {m : ServerMessage} {bytes : Bytes}
    (h : encodeMessageOf server m = .ok bytes) :
    ClientReceives client server bytes m ↔ bytes.length ≤ maxFrameBytes := by
  have hline := isLine_of_encodeMessageOf h
  obtain ⟨text, rfl, htext⟩ := exists_object_of_encodeMessageOf hserver h
  have hread : ∀ rest, readLine (utf8 (text ++ "\x7d" ++ "\n") ++ rest) =
      (.ok (text ++ "\x7d" ++ "\n"), rest) := by
    intro rest
    simp only [readLine, hline.cut_eq rest, Option.getD_some, fromUTF8_utf8]
  have hne : text ++ "\x7d" ++ "\n" ≠ "" := by
    intro hempty
    have hlen := congrArg String.length hempty
    simp at hlen
  have hrecv : ∀ rest, (recv (streamLink client server)
      (utf8 (text ++ "\x7d" ++ "\n") ++ rest)).result =
        (decodeLineOf server (text ++ "\x7d" ++ "\n")).mapError .wire := by
    intro rest
    have hlink : (streamLink client server).readLine (utf8 (text ++ "\x7d" ++ "\n") ++ rest) =
        (.ok (text ++ "\x7d" ++ "\n"), rest) := hread rest
    rw [recv, Prog.bind_of_ok (Prog.request_of_ok hlink), if_neg hne,
      (streamLink_codec client server).2]
    rfl
  constructor
  · intro hreceives
    by_contra hlong
    have hresult := hreceives []
    rw [hrecv, decodeLineOf_too_long server (not_le.mp hlong)] at hresult
    cases hresult
  · intro hfit rest
    rw [hrecv, decodeLineOf_object htext hfit]
    rfl

/-- A message that was encoded is read back at the other end exactly when the line that
carries it, with its line end, is within the bound: the encoder counts the message alone,
both readers count the line. -/
theorem wire_round_trip_iff (client : MessageCodec ClientMessage) (server : MessageCodec ServerMessage)
    (hclient : client.Faithful) (hserver : server.Faithful) :
    (∀ m bytes, encodeMessageOf (timedCodec client) m = .ok bytes →
      (DaemonReads client bytes m.truncated ↔ bytes.length ≤ maxFrameBytes)) ∧
    ∀ m bytes, encodeMessageOf server m = .ok bytes →
      (ClientReceives client server bytes m ↔ bytes.length ≤ maxFrameBytes) :=
  ⟨fun _ _ h => daemonReads_iff hclient h, fun _ _ h => clientReceives_iff hserver h⟩

/-- A codec that knows one message. -/
def singleCodec {M : Type} [DecidableEq M] (m : M) (text : String) : MessageCodec M where
  toVec m' := if m' = m then .ok (utf8 (text ++ "\x7d")) else .error "unknown message"
  fromStr text' := if text' = text ++ "\x7d" then .ok m else .error "unknown text"

theorem singleCodec_faithful {M : Type} [DecidableEq M] (m : M) (text : String) :
    (singleCodec m text).Faithful := by
  refine ⟨fun {m' bytes} h => ⟨text, ?_⟩⟩
  by_cases hm : m' = m
  · have hbytes : (singleCodec m text).toVec m' = .ok (utf8 (text ++ "\x7d")) := if_pos hm
    rw [hbytes] at h
    cases h
    rw [hm]
    exact ⟨rfl, if_pos rfl⟩
  · have hunknown : (singleCodec m text).toVec m' = .error "unknown message" := if_neg hm
    rw [hunknown] at h
    cases h

def pingCodec : MessageCodec ClientMessage := singleCodec .ping "\x7b\"type\":\"ping\""

def pongCodec : MessageCodec ServerMessage := singleCodec .pong "\x7b\"type\":\"pong\""

def pingBytes : Bytes := utf8 "\x7b\"type\":\"ping\"\x7d\n"

def pongBytes : Bytes := utf8 "\x7b\"type\":\"pong\"\x7d\n"

theorem wire_round_trip_ping :
    encodeMessageOf (timedCodec pingCodec) .ping = .ok pingBytes ∧
      DaemonReads pingCodec pingBytes .ping ∧
      encodeMessageOf pongCodec .pong = .ok pongBytes ∧
      ClientReceives pingCodec pongCodec pongBytes .pong := by
  have hround := wire_round_trip_iff pingCodec pongCodec (singleCodec_faithful _ _)
    (singleCodec_faithful _ _)
  have hping : encodeMessageOf (timedCodec pingCodec) .ping = .ok pingBytes := by decide +kernel
  have hpong : encodeMessageOf pongCodec .pong = .ok pongBytes := by decide +kernel
  exact ⟨hping, (hround.1 _ _ hping).mpr (by decide +kernel), hpong,
    (hround.2 _ _ hpong).mpr (by decide +kernel)⟩

/-- A greeting with an agent of `n` letters. -/
def longHello (n : ℕ) : ClientMessage := .hello 2 (some (String.ofList (List.replicate n 'a')))

def helloStart : String := "\x7b\"type\":\"hello\",\"protocol_version\":2,\"agent\":\""

def helloCodec (n : ℕ) : MessageCodec ClientMessage :=
  singleCodec (longHello n) (helloStart ++ String.ofList (List.replicate n 'a') ++ "\"")

theorem utf8_replicate (n : ℕ) :
    utf8 (String.ofList (List.replicate n 'a')) = List.replicate n 97 := by
  induction n with
  | zero => rfl
  | succ n ih =>
    have hcons : String.ofList (List.replicate (n + 1) 'a') =
        "a" ++ String.ofList (List.replicate n 'a') := by
      apply String.toList_injective
      simp [List.replicate_succ]
    rw [hcons, utf8_append, ih]
    rfl

def helloBody (n : ℕ) : Bytes := utf8 helloStart ++ List.replicate n 97 ++ [0x22, 0x7D]

theorem length_helloBody (n : ℕ) : (helloBody n).length = n + 48 := by
  have hstart : (utf8 helloStart).length = 46 := by decide +kernel
  simp only [helloBody, List.length_append, List.length_replicate, hstart, List.length_cons,
    List.length_nil]
  omega

theorem encode_longHello {n : ℕ} (h : n ≤ 65488) :
    encodeMessageOf (timedCodec (helloCodec n)) (longHello n) = .ok (helloBody n ++ [0x0A]) := by
  have hstart : 0x0A ∉ utf8 helloStart := by decide +kernel
  have hbody : utf8 (helloStart ++ String.ofList (List.replicate n 'a') ++ "\"" ++ "\x7d") =
      helloBody n := by
    rw [utf8_append, utf8_append, utf8_append, utf8_replicate, List.append_assoc]
    rfl
  refine encodeMessageOf_eq_ok_iff.mpr ⟨helloBody n, ?_, ?_, ?_, rfl⟩
  · rw [← hbody]
    exact if_pos rfl
  · simp [helloBody, hstart]
  · rw [length_helloBody, maxFrameBytes]
    omega

/-- A greeting that is encoded with the largest body is too long for the daemon. -/
theorem longHello_refused :
    encodeMessageOf (timedCodec (helloCodec 65488)) (longHello 65488) =
        .ok (helloBody 65488 ++ [0x0A]) ∧
      (∃ st, readFrameBounded (⟨helloBody 65488 ++ [0x0A], []⟩ : Buffered Unit UInt8) =
        (.ok .oversize, st)) ∧
      ¬ DaemonReads (helloCodec 65488) (helloBody 65488 ++ [0x0A]) (longHello 65488) := by
  have hencode := encode_longHello (n := 65488) le_rfl
  have hlong : maxFrameBytes < (helloBody 65488 ++ [0x0A]).length := by
    rw [List.length_append, length_helloBody, maxFrameBytes, List.length_singleton]
    omega
  refine ⟨hencode, readFrameBounded_oversize (isLine_of_encodeMessageOf hencode) hlong, ?_⟩
  intro hreads
  exact absurd ((daemonReads_iff (singleCodec_faithful _ _) hencode).mp hreads) (not_le.mpr hlong)

end PamCertauth.Ipc
