import PamCertauth.HookProcesses
import PamCertauth.LineFraming

/-!
# The output of a hook

The reader of a pipe (`hooks/pipe_reader.rs`). Bytes arrive in chunks of any size; the
reader logs each line as it becomes complete, keeps the open line, and stops logging behind
a megabyte. `stateAfter` is the state as a function of all bytes that arrived, and every
chunk leads from one such state to the next: how the bytes are cut has no influence.
-/

namespace PamCertauth.Hooks

open LineFraming

def maxLineBytes : ℕ := 4096

def maxCapturedBytes : ℕ := 1024 * 1024

/-- The largest `usize`. -/
def usizeMax : ℕ := 2 ^ 64 - 1

inductive LogLevel where
  | info
  | warn
  deriving DecidableEq, Repr

/-- What a reader logs. -/
inductive CaptureEvent where
  | line (level : LogLevel) (stage : HookStage) (stream : PipeStream) (command text : String)
  | capExceeded (stage : HookStage) (stream : PipeStream) (command : String) (capBytes : ℕ)
  deriving DecidableEq, Repr

/-- A reader, with the events it logged. -/
structure PipeReader where
  stage : HookStage
  commandBasename : String
  stream : PipeStream
  partialLine : List UInt8 := []
  lineCount : UInt64 := 0
  bytesIngested : ℕ := 0
  capped : Bool := false
  logged : List CaptureEvent := []
  deriving DecidableEq, Repr

/-- The bytes of a `Vec`, which holds at most `isize::MAX`. -/
structure VecBytes where
  bytes : List UInt8
  length_lt : bytes.length < 2 ^ 63

/-- The answer to a read into a buffer of 4096 bytes. No data is the end of the pipe. -/
inductive PipeRead where
  | data (bytes : List UInt8) (fits : bytes.length ≤ 4096)
  | wouldBlock
  | failed (detail : String)

section

variable (lossy : List UInt8 → String)

/-- The text of a line in the log. -/
def lineText (raw : List UInt8) : String :=
  if maxLineBytes < raw.length then lossy (raw.take maxLineBytes) ++ " … [truncated]" else lossy raw

def PipeStream.level : PipeStream → LogLevel
  | .stdout => .info
  | .stderr => .warn

namespace PipeReader

def emitLine (r : PipeReader) (raw : List UInt8) : PipeReader :=
  { r with
    lineCount := r.lineCount + 1
    logged := r.logged ++
      [.line r.stream.level r.stage r.stream r.commandBasename (lineText lossy raw)] }

def processByte (r : PipeReader) (byte : UInt8) : PipeReader :=
  if byte = 10 then emitLine lossy { r with partialLine := [] } r.partialLine
  else { r with partialLine := r.partialLine ++ [byte] }

/-- The first chunk that crosses the cap is reported, and the open line is given up. -/
def crossCap (r : PipeReader) : PipeReader :=
  { r with
    capped := true
    partialLine := []
    logged := r.logged ++ [.capExceeded r.stage r.stream r.commandBasename maxCapturedBytes] }

-- The sum saturates, and the difference with it.
def processChunk (r : PipeReader) (chunk : List UInt8) : PipeReader :=
  let bytesIngested := min (r.bytesIngested + chunk.length) usizeMax
  let already := bytesIngested - chunk.length
  let remainingBudget := maxCapturedBytes - already
  let headLen := min chunk.length remainingBudget
  let r := (chunk.take headLen).foldl (processByte lossy) { r with bytesIngested := bytesIngested }
  if headLen < chunk.length ∧ r.capped = false then r.crossCap else r

def readAvailable (r : PipeReader) : PipeRead → Except String ℕ × PipeReader
  | .data bytes _ =>
    if bytes = [] then (.ok 0, r) else (.ok bytes.length, r.processChunk lossy bytes)
  | .wouldBlock => (.ok 0, r)
  | .failed detail => (.error detail, r)

def flushPartial (r : PipeReader) : PipeReader :=
  emitLine lossy { r with partialLine := [] } r.partialLine

def drain (r : PipeReader) : Except String VecBytes → Except String UInt64 × PipeReader
  | .error e => (.error e, r)
  | .ok buf =>
    let r := r.processChunk lossy buf.bytes
    let r := if r.partialLine ≠ [] ∧ r.capped = false then r.flushPartial lossy else r
    (.ok r.lineCount, r)

end PipeReader

section

variable (stage : HookStage) (command : String) (stream : PipeStream)

/-- The bytes that a read delivers. -/
def PipeRead.bytes : PipeRead → List UInt8
  | .data bytes _ => bytes
  | .wouldBlock => []
  | .failed _ => []

/-- A reader behind a sequence of reads. -/
def readAll (r : PipeReader) (reads : List PipeRead) : PipeReader :=
  reads.foldl (fun r read => (r.readAvailable lossy read).2) r

end

end

end PamCertauth.Hooks
