import PamCertauth.SessionRegistry
import PamCertauth.FallibleComputations

/-!
# The file of the registry

The sessions are kept as JSON in one file (`registry/store.rs`), which is replaced by a
rename. The JSON codec and the contents of files are parameters. Times are stored in whole
seconds since the epoch, as on the wire.
-/

namespace PamCertauth.Monitord

open Ipc X509

/-- A session as it is written, with its opening time in seconds. -/
structure StoredSession where
  sessionId : Uuid
  pamUser : String
  pamService : String
  target : SessionTarget
  usbSerial : Option String
  hostIdHash : String
  openedAt : ℤ
  certCn : String
  certSerial : String
  engineerSki : String
  engineerCertSha256 : String
  uid : UInt32
  deriving DecidableEq, Repr

namespace StoredSession

def ofSession (s : ActiveSession) : Except String StoredSession := do
  let openedAt ← SystemTimeSerde.serialize s.openedAt
  .ok ⟨s.sessionId, s.pamUser, s.pamService, s.target, s.usbSerial, s.hostIdHash, openedAt, s.certCn,
    s.certSerial, s.engineerSki, s.engineerCertSha256, s.uid⟩

def toSession (row : StoredSession) : Except String ActiveSession := do
  let openedAt ← SystemTimeSerde.deserialize row.openedAt
  .ok ⟨row.sessionId, row.pamUser, row.pamService, row.target, row.usbSerial, row.hostIdHash, openedAt,
    row.certCn, row.certSerial, row.engineerSki, row.engineerCertSha256, row.uid⟩

theorem toSession_ofSession {s : ActiveSession} (h : SystemTimeSerde.WholeSeconds s.openedAt) :
    ∃ row, ofSession s = .ok row ∧ toSession row = .ok s := by
  obtain ⟨secs, hserialize, hdeserialize⟩ := SystemTimeSerde.serialize_of_wholeSeconds h
  refine ⟨⟨s.sessionId, s.pamUser, s.pamService, s.target, s.usbSerial, s.hostIdHash, secs, s.certCn,
    s.certSerial, s.engineerSki, s.engineerCertSha256, s.uid⟩, ?_, ?_⟩
  · rw [ofSession, hserialize]
    rfl
  · rw [toSession, hdeserialize]
    rfl

theorem mapM_toSession_ofSession {sessions : List ActiveSession}
    (h : ∀ s ∈ sessions, SystemTimeSerde.WholeSeconds s.openedAt) :
    ∃ rows, sessions.mapM ofSession = .ok rows ∧ rows.mapM toSession = .ok sessions := by
  induction sessions with
  | nil => exact ⟨[], rfl, rfl⟩
  | cons s sessions ih =>
    obtain ⟨row, hrow, hs⟩ := toSession_ofSession (h s List.mem_cons_self)
    obtain ⟨rows, hrows, hsessions⟩ := ih fun t ht => h t (List.mem_cons_of_mem s ht)
    refine ⟨row :: rows, ?_, ?_⟩
    · rw [List.mapM_cons, hrow, hrows]
      rfl
    · rw [List.mapM_cons, hs, hsessions]
      rfl

end StoredSession

/-- `serde_json` on lists of rows. -/
structure JsonCodec (Contents : Type) where
  toVecPretty : List StoredSession → Except String Contents
  fromSlice : Contents → Except String (List StoredSession)

def JsonCodec.RoundTrips {Contents : Type} (codec : JsonCodec Contents) : Prop :=
  ∀ rows, ∃ contents, codec.toVecPretty rows = .ok contents ∧ codec.fromSlice contents = .ok rows

inductive ReadError where
  | notFound
  | other (detail : String)
  deriving DecidableEq, Repr

/-- The calls by which the file is replaced. -/
inductive StoreCall where
  | parent
  | createDirAll
  | createTemp
  | writeAll
  | syncFile
  | rename
  | openDir
  | syncDir
  deriving DecidableEq, Repr

namespace RegistryStore

variable {Contents : Type} (codec : JsonCodec Contents)

/-- A missing file and a corrupt one are empty registries. -/
def load : Except ReadError Contents → Except String (List ActiveSession)
  | .ok contents =>
    match codec.fromSlice contents >>= List.mapM StoredSession.toSession with
    | .ok sessions => .ok sessions
    | .error _ => .ok []
  | .error .notFound => .ok []
  | .error (.other detail) => .error detail

/-- The contents that the rename puts in place, if it is reached. -/
def writeSessionsAtomic (call : StoreCall → Except String Unit) (snapshot : List ActiveSession) :
    Except String Contents := do
  call .parent
  call .createDirAll
  let rows ← snapshot.mapM StoredSession.ofSession
  let contents ← codec.toVecPretty rows
  call .createTemp
  call .writeAll
  call .syncFile
  call .rename
  .ok contents

/-- The outcome, and the file behind it. The directory is synced after the rename. -/
def persist (call : StoreCall → Except String Unit) (snapshot : List ActiveSession)
    (file : Except ReadError Contents) : Except String Unit × Except ReadError Contents :=
  match writeSessionsAtomic codec call snapshot with
  | .error e => (.error e, file)
  | .ok contents =>
    ((do
      call .openDir
      call .syncDir), .ok contents)

variable {codec}

/-- What has been persisted is loaded again. -/
theorem load_persist (hcodec : codec.RoundTrips) {call : StoreCall → Except String Unit}
    (hcall : ∀ c, call c = .ok ()) {snapshot : List ActiveSession}
    (hwhole : ∀ s ∈ snapshot, SystemTimeSerde.WholeSeconds s.openedAt)
    (file : Except ReadError Contents) :
    (persist codec call snapshot file).1 = .ok () ∧
      load codec (persist codec call snapshot file).2 = .ok snapshot := by
  obtain ⟨rows, hrows, hsessions⟩ := StoredSession.mapM_toSession_ofSession hwhole
  obtain ⟨contents, hwrite, hread⟩ := hcodec rows
  have hatomic : writeSessionsAtomic codec call snapshot = .ok contents := by
    have hcalls : writeSessionsAtomic codec call snapshot =
        (codec.toVecPretty rows >>= fun contents => .ok contents) := by
      simp only [writeSessionsAtomic, hcall, hrows]
      rfl
    rw [hcalls, hwrite]
    rfl
  have hpersist : persist codec call snapshot file = (.ok (), .ok contents) := by
    simp only [persist, hatomic, hcall]
    rfl
  have hload : codec.fromSlice contents >>= List.mapM StoredSession.toSession = .ok snapshot := by
    rw [hread]
    exact hsessions
  rw [hpersist]
  exact ⟨rfl, by rw [load, hload]⟩

end RegistryStore

end PamCertauth.Monitord
