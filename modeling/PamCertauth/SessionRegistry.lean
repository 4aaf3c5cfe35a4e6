import PamCertauth.Protocol
import Mathlib.Data.List.AList

/-!
# The sessions known to the daemon

The registry of `monitord` (`registry.rs`): the sessions by their identifier, and for each
known uid the session that was opened last. Every entry stands under its own identifier.
The daemon iterates over the sessions in an order that is not specified; here it is the
order of the association list.
-/

namespace PamCertauth.Monitord

open Ipc X509

structure ActiveSession where
  sessionId : Uuid
  pamUser : String
  pamService : String
  target : SessionTarget
  usbSerial : Option String
  hostIdHash : String
  openedAt : SystemTime
  certCn : String
  certSerial : String
  engineerSki : String
  engineerCertSha256 : String
  uid : UInt32
  deriving DecidableEq, Repr

inductive UpdateTargetError where
  | notFound
  deriving DecidableEq, Repr

def UpdateTargetError.message : UpdateTargetError → String
  | notFound => "no active session for the supplied id"

abbrev Sessions := AList fun _ : Uuid => ActiveSession

def Sessions.Keyed (byId : Sessions) : Prop :=
  ∀ id s, byId.lookup id = some s → s.sessionId = id

theorem Sessions.Keyed.insert {byId : Sessions} (h : byId.Keyed) {id : Uuid} {s : ActiveSession}
    (hs : s.sessionId = id) : Sessions.Keyed (AList.insert id s byId) := by
  intro id' t ht
  by_cases hid : id' = id
  · subst hid
    rw [AList.lookup_insert, Option.some.injEq] at ht
    rw [← ht, hs]
  · rw [AList.lookup_insert_ne hid] at ht
    exact h id' t ht

theorem Sessions.Keyed.erase {byId : Sessions} (h : byId.Keyed) (id : Uuid) :
    Sessions.Keyed (AList.erase id byId) := by
  intro id' t ht
  have hne : id' ≠ id := by
    rintro rfl
    simp at ht
  rw [AList.lookup_erase_ne hne] at ht
  exact h id' t ht

structure SessionRegistry where
  byId : Sessions
  byUid : AList fun _ : UInt32 => Uuid
  keyed : byId.Keyed

namespace SessionRegistry

variable (r : SessionRegistry)

def new : SessionRegistry where
  byId := ∅
  byUid := ∅
  keyed _ _ h := by simp at h

/-- The uid that would be left behind when the session is opened again under another one. -/
def staleUid (s : ActiveSession) : Option UInt32 :=
  (r.byId.lookup s.sessionId).bind fun existing =>
    if existing.uid ≠ 0 ∧ existing.uid ≠ s.uid ∧
        r.byUid.lookup existing.uid = some s.sessionId then
      some existing.uid
    else none

/-- The reverse index has no entry for the uid zero, which stands for an unknown one. -/
def insertSession (s : ActiveSession) : SessionRegistry where
  byUid := if s.uid ≠ 0 then r.byUid.insert s.uid s.sessionId else r.byUid
  byId := r.byId.insert s.sessionId s
  keyed := r.keyed.insert rfl

def fromSnapshot (sessions : List ActiveSession) : SessionRegistry :=
  sessions.foldl insertSession new

def add (s : ActiveSession) : SessionRegistry :=
  match r.staleUid s with
  | some uid => { r with byUid := r.byUid.erase uid }.insertSession s
  | none => r.insertSession s

def remove (id : Uuid) : Option ActiveSession × SessionRegistry :=
  match r.byId.lookup id with
  | none => (none, r)
  | some removed =>
    (some removed,
      { byId := r.byId.erase id
        byUid :=
          if removed.uid ≠ 0 ∧ r.byUid.lookup removed.uid = some id then
            r.byUid.erase removed.uid
          else r.byUid
        keyed := r.keyed.erase id })

def updateTarget (id : Uuid) (newTarget : SessionTarget) :
    Except UpdateTargetError SessionRegistry :=
  match h : r.byId.lookup id with
  | none => .error .notFound
  | some entry =>
    .ok { r with
      byId := r.byId.insert id { entry with target := newTarget }
      keyed := r.keyed.insert (r.keyed id entry h) }

def findByUid (uid : UInt32) : Option ActiveSession :=
  if uid = 0 then none
  else (r.byUid.lookup uid).bind fun id => r.byId.lookup id

def snapshot : List ActiveSession := r.byId.entries.map (·.2)

def findBySerial (serial : String) : List ActiveSession :=
  r.snapshot.filter fun s => s.usbSerial = some serial

variable {r} {id id' : Uuid} {s : ActiveSession}

theorem mem_snapshot : s ∈ r.snapshot ↔ r.byId.lookup s.sessionId = some s := by
  rw [snapshot]
  rw [List.mem_map]
  constructor
  · intro hentry
    obtain ⟨⟨id, t⟩, hmem, rfl⟩ := hentry
    have hlookup : r.byId.lookup id = some t := AList.mem_lookup_iff.mpr hmem
    rw [r.keyed id t hlookup]
    exact hlookup
  · intro h
    exact ⟨⟨s.sessionId, s⟩, AList.mem_lookup_iff.mp h, rfl⟩

theorem map_sessionId_snapshot : r.snapshot.map ActiveSession.sessionId = r.byId.keys := by
  unfold snapshot AList.keys List.keys
  rw [List.map_map]
  apply List.map_congr_left
  rintro ⟨id, t⟩ hmem
  exact r.keyed id t (AList.mem_lookup_iff.mpr hmem)

theorem sessionId_mem (h : s ∈ r.snapshot) : s.sessionId ∈ r.byId := by
  rw [AList.mem_keys, ← map_sessionId_snapshot]
  exact List.mem_map_of_mem h

theorem nodup_snapshot (r : SessionRegistry) : r.snapshot.Nodup := by
  have hids : (r.snapshot.map ActiveSession.sessionId).Nodup := by
    rw [map_sessionId_snapshot]
    exact r.byId.keys_nodup
  exact hids.of_map _

theorem nodup_findBySerial (r : SessionRegistry) (serial : String) :
    (r.findBySerial serial).Nodup :=
  (nodup_snapshot r).filter _

theorem mem_findBySerial {serial : String} :
    s ∈ r.findBySerial serial ↔ s ∈ r.snapshot ∧ s.usbSerial = some serial := by
  simp [findBySerial]

theorem lookup_add : (r.add s).byId.lookup id =
    if id = s.sessionId then some s else r.byId.lookup id := by
  have hinsert : (r.add s).byId = AList.insert s.sessionId s r.byId := by
    rw [add]
    split <;> rfl
  rw [hinsert]
  by_cases hid : id = s.sessionId
  · rw [if_pos hid, hid, AList.lookup_insert]
  · rw [if_neg hid, AList.lookup_insert_ne hid]

theorem lookup_remove : (r.remove id).2.byId.lookup id' =
    if id' = id then none else r.byId.lookup id' := by
  by_cases hid : id' = id
  · subst hid
    rw [if_pos rfl, remove]
    split
    · assumption
    · rw [AList.lookup_erase]
  · rw [if_neg hid, remove]
    split
    · rfl
    · rw [AList.lookup_erase_ne hid]

theorem lookup_updateTarget {newTarget : SessionTarget} {r' : SessionRegistry}
    (h : r.updateTarget id newTarget = .ok r') :
    ∃ entry, r.byId.lookup id = some entry ∧ ∀ id', r'.byId.lookup id' =
      if id' = id then some { entry with target := newTarget } else r.byId.lookup id' := by
  rw [updateTarget] at h
  split at h
  · cases h
  · next entry hentry =>
    cases h
    refine ⟨entry, hentry, fun id' => ?_⟩
    by_cases hid : id' = id
    · rw [if_pos hid, hid, AList.lookup_insert]
    · rw [if_neg hid, AList.lookup_insert_ne hid]

theorem mem_add : id ∈ (r.add s).byId ↔ id = s.sessionId ∨ id ∈ r.byId := by
  rw [add]
  split <;> simp [insertSession]

theorem mem_remove : id' ∈ (r.remove id).2.byId ↔ id' ≠ id ∧ id' ∈ r.byId := by
  rw [remove]
  split
  · next hnone =>
    rw [AList.lookup_eq_none] at hnone
    constructor
    · intro h
      exact ⟨fun heq => hnone (heq ▸ h), h⟩
    · exact And.right
  · simp

theorem mem_updateTarget {newTarget : SessionTarget} {r' : SessionRegistry}
    (h : r.updateTarget id newTarget = .ok r') : id' ∈ r'.byId ↔ id' ∈ r.byId := by
  unfold updateTarget at h
  split at h
  · cases h
  · next entry hentry =>
    cases h
    have hmem : id ∈ r.byId := by
      rw [← AList.lookup_isSome, hentry]
      rfl
    simp only [AList.mem_insert]
    exact or_iff_right_of_imp (by rintro rfl; exact hmem)

end SessionRegistry

end PamCertauth.Monitord
