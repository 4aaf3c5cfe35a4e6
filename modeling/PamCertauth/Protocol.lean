import PamCertauth.Certificates
import Mathlib.Data.List.DropRight

/-!
# Messages between the PAM module and the daemon

The frames of the protocol crate (`pam_certauth_proto`) and their encoding as lines.
The JSON codec is a parameter; what the crate adds is the bound on the frame, the
line end, and the check that a frame is one line.
-/

namespace PamCertauth.Ipc

open X509

/-- Identifiers of sessions. Only their identity matters. -/
abbrev Uuid := ℕ

namespace SystemTimeSerde

/-- A time as whole seconds since the epoch, on the wire and in the file of the registry. -/
def serialize (t : SystemTime) : Except String ℤ :=
  if t < 0 then .error "time before epoch: second time provided was later than self"
  else if t / 1000000000 < 9223372036854775808 then .ok (t / 1000000000)
  else .error "seconds overflow i64"

def deserialize (secs : ℤ) : Except String SystemTime :=
  if secs < 0 then .error "negative unix seconds" else .ok (secs * 1000000000)

/-- The times that are decoded from the wire and from the file. -/
def WholeSeconds (t : SystemTime) : Prop :=
  ∃ secs : ℤ, 0 ≤ secs ∧ secs < 9223372036854775808 ∧ t = secs * 1000000000

theorem serialize_of_wholeSeconds {t : SystemTime} (h : WholeSeconds t) :
    ∃ secs, serialize t = .ok secs ∧ deserialize secs = .ok t := by
  obtain ⟨secs, hnonneg, hbound, rfl⟩ := h
  have hdiv : secs * 1000000000 / 1000000000 = secs := Int.mul_ediv_cancel secs (by decide)
  have hepoch : ¬ secs * 1000000000 < 0 := by omega
  refine ⟨secs, ?_, ?_⟩
  · rw [serialize, hdiv, if_neg hepoch, if_pos hbound]
  · have hsecs : ¬ secs < 0 := by omega
    rw [deserialize, if_neg hsecs]

end SystemTimeSerde

inductive SessionTarget where
  | tty (path : String)
  | display (name : String)
  | logindSession (id : String)
  | unknown
  deriving DecidableEq, Repr

def SessionTarget.logindId : SessionTarget → Option String
  | logindSession id => some id
  | _ => none

/-- What the PAM module tells about a session that it opened. -/
structure SessionOpenPayload where
  sessionId : Uuid
  pamUser : String
  pamService : String
  target : SessionTarget
  usbSerial : Option String
  hostIdHash : String
  openedAt : SystemTime
  certCn : String
  certSerial : String
  engineerSki : String
  engineerCertSha256 : String
  uid : UInt32
  deriving DecidableEq, Repr

inductive ClientMessage where
  | hello (protocolVersion : UInt32) (agent : Option String)
  | sessionOpen (payload : SessionOpenPayload)
  | getActiveSessionByUid (uid : UInt32)
  | sessionClose (sessionId : Uuid) (closedAt : SystemTime)
  | updateSessionTarget (sessionId : Uuid) (newTarget : SessionTarget)
  | ping
  deriving DecidableEq, Repr

inductive ServerMessage where
  | helloAck (serverVersion : String) (protocolVersion : UInt32)
  | ack
  | sessionTargetUpdated (sessionId : String)
  | pong
  | activeSession (sessionId certCn engineerSki engineerCertSha256 hostIdHash : String)
  | error (code : UInt32) (message : String)
  deriving DecidableEq, Repr

namespace ErrorCodes

def protocolMismatch : UInt32 := 1000
def deviceGone : UInt32 := 1001
def unauthorized : UInt32 := 1003
def badRequest : UInt32 := 1100
def protocolViolation : UInt32 := 1101
def noActiveSession : UInt32 := 1200
def internal : UInt32 := 1500

end ErrorCodes

def protocolVersion : UInt32 := 2

inductive WireError where
  | frameTooLarge (bytes : ℕ)
  | encode (detail : String)
  | decode (detail : String)
  | embeddedNewline
  deriving DecidableEq, Repr

def maxFrameBytes : ℕ := 64 * 1024

/-- The JSON codec of the messages. -/
structure Serde where
  toVec : ClientMessage → Except String Bytes
  fromStr : String → Except String ServerMessage

def encodeMessage (serde : Serde) (msg : ClientMessage) : Except WireError Bytes := do
  let bytes ← (serde.toVec msg).mapError .encode
  if 0x0A ∈ bytes then .error .embeddedNewline
  else if bytes.length > maxFrameBytes then .error (.frameTooLarge bytes.length)
  else .ok (bytes ++ [0x0A])

def decodeLine (serde : Serde) (line : String) : Except WireError ServerMessage :=
  if line.utf8ByteSize > maxFrameBytes then .error (.frameTooLarge line.utf8ByteSize)
  else
    let trimmed := String.ofList (line.toList.rdropWhile fun c => c = '\n' ∨ c = '\r')
    (serde.fromStr trimmed).mapError .decode

end PamCertauth.Ipc
