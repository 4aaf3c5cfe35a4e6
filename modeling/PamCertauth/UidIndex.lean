import PamCertauth.SessionClosing

/-!
# The index of sessions by uid

The reverse index names one session for each uid, the one that was added last. What it names
is always registered under that uid. When the session that it names goes away, the entry is
dropped and not passed on to another session of the uid, so a lookup by uid finds a session
of every uid in use exactly as long as this never happens while another session of the uid
is registered.
-/

namespace PamCertauth.Monitord

open Ipc

inductive RegistryOp where
  | add (s : ActiveSession)
  | remove (id : Uuid)
  | updateTarget (id : Uuid) (newTarget : SessionTarget)
  deriving DecidableEq, Repr

namespace SessionRegistry

variable (r : SessionRegistry)

/-- The registry after the call. A failed update leaves it alone. -/
def apply : RegistryOp → SessionRegistry
  | .add s => r.add s
  | .remove id => (r.remove id).2
  | .updateTarget id newTarget =>
    match r.updateTarget id newTarget with
    | .ok r' => r'
    | .error _ => r

def applyAll (ops : List RegistryOp) : SessionRegistry := ops.foldl apply r

/-- A lookup by uid finds a session of every uid that is in use. -/
def UidsFound : Prop :=
  ∀ uid, uid ≠ 0 → (∃ s ∈ r.snapshot, s.uid = uid) → ∃ s, r.findByUid uid = some s ∧ s.uid = uid

/-- The index names the session for its uid, and another session of that uid is registered. -/
def Orphans (id : Uuid) (uid : UInt32) : Prop :=
  uid ≠ 0 ∧ r.byUid.lookup uid = some id ∧ ∃ s ∈ r.snapshot, s.sessionId ≠ id ∧ s.uid = uid

/-- The call does not take the session that the index names away from another one. -/
def KeepsIndex : RegistryOp → Prop
  | .add s => ∀ existing, r.byId.lookup s.sessionId = some existing → existing.uid ≠ s.uid →
      ¬ r.Orphans s.sessionId existing.uid
  | .remove id => ∀ removed, r.byId.lookup id = some removed → ¬ r.Orphans id removed.uid
  | .updateTarget _ _ => True

/-- Every entry of the index names a session of its uid. -/
def IndexSound : Prop :=
  ∀ uid id, r.byUid.lookup uid = some id →
    uid ≠ 0 ∧ ∃ s, r.byId.lookup id = some s ∧ s.uid = uid

/-- Every uid in use has an entry. -/
def Covers : Prop :=
  ∀ id s, r.byId.lookup id = some s → s.uid ≠ 0 → (r.byUid.lookup s.uid).isSome = true

variable {r} {s : ActiveSession} {id : Uuid} {uid : UInt32}

theorem uidsFound_iff (h : r.IndexSound) : r.UidsFound ↔ r.Covers := by
  constructor
  · intro hfound id s hs hne
    have hmem : s ∈ r.snapshot := by
      rw [mem_snapshot, r.keyed id s hs]
      exact hs
    obtain ⟨t, ht, -⟩ := hfound s.uid hne ⟨s, hmem, rfl⟩
    rw [findByUid, if_neg hne] at ht
    cases hlookup : r.byUid.lookup s.uid with
    | none =>
      rw [hlookup] at ht
      cases ht
    | some id => rfl
  · intro hcovers uid hne hused
    obtain ⟨s, hs, rfl⟩ := hused
    obtain ⟨id, hid⟩ := Option.isSome_iff_exists.mp (hcovers _ s (mem_snapshot.mp hs) hne)
    obtain ⟨-, t, ht, huid⟩ := h s.uid id hid
    refine ⟨t, ?_, huid⟩
    rw [findByUid, if_neg hne, hid]
    exact ht

theorem lookup_byUid_insertSession : (r.insertSession s).byUid.lookup uid =
    if s.uid ≠ 0 ∧ uid = s.uid then some s.sessionId else r.byUid.lookup uid := by
  by_cases hzero : s.uid = 0
  · simp [insertSession, hzero]
  · by_cases huid : uid = s.uid
    · subst huid
      simp [insertSession, hzero]
    · simp [insertSession, huid, hzero, AList.lookup_insert_ne]

theorem staleUid_eq_some_iff : r.staleUid s = some uid ↔
    ∃ existing, r.byId.lookup s.sessionId = some existing ∧ existing.uid = uid ∧ uid ≠ 0 ∧
      uid ≠ s.uid ∧ r.byUid.lookup uid = some s.sessionId := by
  rw [staleUid, Option.bind_eq_some_iff]
  constructor
  · intro hstale
    obtain ⟨existing, hexisting, hif⟩ := hstale
    split at hif
    · next hconditions =>
      cases hif
      exact ⟨existing, hexisting, rfl, hconditions⟩
    · cases hif
  · intro hstale
    obtain ⟨existing, hexisting, rfl, hconditions⟩ := hstale
    exact ⟨existing, hexisting, if_pos hconditions⟩

theorem lookup_byUid_add : (r.add s).byUid.lookup uid =
    if s.uid ≠ 0 ∧ uid = s.uid then some s.sessionId
    else if r.staleUid s = some uid then none
    else r.byUid.lookup uid := by
  rw [add]
  split
  · next stale hstale =>
    rw [lookup_byUid_insertSession, hstale]
    congr 1
    by_cases huid : uid = stale
    · rw [if_pos (by rw [huid]), huid, AList.lookup_erase]
    · rw [if_neg (by simpa using Ne.symm huid), AList.lookup_erase_ne huid]
  · next hstale =>
    have hnot : r.staleUid s ≠ some uid := by simp [hstale]
    rw [lookup_byUid_insertSession, if_neg hnot]

theorem lookup_byUid_remove {removed : ActiveSession} (h : r.byId.lookup id = some removed) :
    (r.remove id).2.byUid.lookup uid =
      if removed.uid ≠ 0 ∧ r.byUid.lookup removed.uid = some id ∧ uid = removed.uid then none
      else r.byUid.lookup uid := by
  rw [remove]
  split
  · next hnone =>
    rw [h] at hnone
    cases hnone
  · next removed' hremoved =>
    obtain rfl : removed = removed' := Option.some.inj (h.symm.trans hremoved)
    dsimp only
    by_cases hindexed : removed.uid ≠ 0 ∧ r.byUid.lookup removed.uid = some id
    · rw [if_pos hindexed]
      by_cases huid : uid = removed.uid
      · rw [if_pos ⟨hindexed.1, hindexed.2, huid⟩, huid, AList.lookup_erase]
      · rw [if_neg fun hall => huid hall.2.2, AList.lookup_erase_ne huid]
    · rw [if_neg hindexed, if_neg fun hall => hindexed ⟨hall.1, hall.2.1⟩]

theorem remove_of_lookup_eq_none (h : r.byId.lookup id = none) : (r.remove id).2 = r := by
  rw [remove]
  split
  · rfl
  · next hsome =>
    rw [h] at hsome
    cases hsome

/-- An update of the target changes neither the index nor the uid of a session. -/
theorem apply_updateTarget_frame (r : SessionRegistry) (id : Uuid) (newTarget : SessionTarget) :
    (r.apply (.updateTarget id newTarget)).byUid = r.byUid ∧
      ∀ id' : Uuid, ((r.apply (.updateTarget id newTarget)).byId.lookup id').map ActiveSession.uid =
        (r.byId.lookup id').map ActiveSession.uid := by
  rw [apply]
  split
  · next r' hupdate =>
    have hbyUid : r'.byUid = r.byUid := by
      rw [updateTarget] at hupdate
      split at hupdate
      · cases hupdate
      · cases hupdate
        rfl
    refine ⟨hbyUid, fun id' => ?_⟩
    obtain ⟨entry, hentry, hlookup⟩ := lookup_updateTarget hupdate
    rw [hlookup]
    by_cases hid : id' = id
    · rw [if_pos hid, hid, hentry]
      rfl
    · rw [if_neg hid]
  · exact ⟨rfl, fun _ => rfl⟩

namespace IndexSound

theorem add (h : r.IndexSound) (s : ActiveSession) : (r.add s).IndexSound := by
  intro uid id hlookup
  rw [lookup_byUid_add] at hlookup
  split at hlookup
  · next hnew =>
    cases hlookup
    refine ⟨by rw [hnew.2]; exact hnew.1, s, ?_, hnew.2.symm⟩
    rw [lookup_add, if_pos rfl]
  · next hother =>
    split at hlookup
    · cases hlookup
    · next hfresh =>
      obtain ⟨hne, t, ht, huid⟩ := h uid id hlookup
      refine ⟨hne, t, ?_, huid⟩
      have hid : id ≠ s.sessionId := by
        -- Otherwise the entry would be a stale one.
        rintro rfl
        have hmoved : uid ≠ s.uid := fun heq => hother ⟨heq ▸ hne, heq⟩
        exact hfresh (staleUid_eq_some_iff.mpr ⟨t, ht, huid, hne, hmoved, hlookup⟩)
      rw [lookup_add, if_neg hid]
      exact ht

theorem remove (h : r.IndexSound) (id : Uuid) : (r.remove id).2.IndexSound := by
  cases hremoved : r.byId.lookup id with
  | none =>
    rw [remove_of_lookup_eq_none hremoved]
    exact h
  | some removed =>
    intro uid id' hlookup
    rw [lookup_byUid_remove hremoved] at hlookup
    split at hlookup
    · cases hlookup
    · next hkept =>
      obtain ⟨hne, t, ht, huid⟩ := h uid id' hlookup
      refine ⟨hne, t, ?_, huid⟩
      have hid : id' ≠ id := by
        rintro rfl
        obtain rfl : removed = t := Option.some.inj (hremoved.symm.trans ht)
        exact hkept ⟨huid ▸ hne, huid ▸ hlookup, huid.symm⟩
      rw [lookup_remove, if_neg hid]
      exact ht

theorem apply (h : r.IndexSound) (op : RegistryOp) : (r.apply op).IndexSound := by
  cases op with
  | add s => exact h.add s
  | remove id => exact h.remove id
  | updateTarget id newTarget =>
    obtain ⟨hbyUid, hbyId⟩ := apply_updateTarget_frame r id newTarget
    intro uid id' hlookup
    rw [hbyUid] at hlookup
    obtain ⟨hne, t, ht, huid⟩ := h uid id' hlookup
    have hsame := hbyId id'
    rw [ht] at hsame
    obtain ⟨t', ht', huid'⟩ := Option.map_eq_some_iff.mp hsame
    exact ⟨hne, t', ht', huid'.trans huid⟩

end IndexSound

namespace Covers

theorem add_iff (h : r.Covers) : (r.add s).Covers ↔ r.KeepsIndex (.add s) := by
  constructor
  · intro hcovers existing hexisting hmoved horphans
    obtain ⟨hne, hindexed, t, ht, hid, huid⟩ := horphans
    have hstale : r.staleUid s = some t.uid :=
      staleUid_eq_some_iff.mpr
        ⟨existing, hexisting, huid.symm, huid ▸ hne, huid ▸ hmoved, huid ▸ hindexed⟩
    have hkept : (r.add s).byId.lookup t.sessionId = some t := by
      rw [lookup_add, if_neg hid]
      exact mem_snapshot.mp ht
    have hsome := hcovers _ t hkept (huid ▸ hne)
    rw [lookup_byUid_add, if_neg fun hnew => hmoved (huid ▸ hnew.2), if_pos hstale] at hsome
    cases hsome
  · intro hkeeps id t ht hne
    rw [lookup_add] at ht
    rw [lookup_byUid_add]
    by_cases hnew : s.uid ≠ 0 ∧ t.uid = s.uid
    · rw [if_pos hnew]
      rfl
    · rw [if_neg hnew]
      have hid : id ≠ s.sessionId := by
        rintro rfl
        rw [if_pos rfl, Option.some.injEq] at ht
        exact hnew ⟨ht ▸ hne, by rw [ht]⟩
      rw [if_neg hid] at ht
      have hfresh : r.staleUid s ≠ some t.uid := by
        intro hstale
        obtain ⟨existing, hexisting, huid, -, hmoved, hindexed⟩ := staleUid_eq_some_iff.mp hstale
        refine hkeeps existing hexisting (huid ▸ hmoved) ?_
        rw [huid]
        have hsession := r.keyed id t ht
        exact ⟨hne, hindexed, t, mem_snapshot.mpr (hsession ▸ ht), hsession ▸ hid, rfl⟩
      rw [if_neg hfresh]
      exact h id t ht hne

theorem remove_iff (h : r.Covers) : (r.remove id).2.Covers ↔ r.KeepsIndex (.remove id) := by
  cases hremoved : r.byId.lookup id with
  | none =>
    rw [remove_of_lookup_eq_none hremoved, KeepsIndex, hremoved]
    exact iff_of_true h nofun
  | some removed =>
    constructor
    · intro hcovers removed' hremoved' horphans
      obtain rfl : removed = removed' := Option.some.inj (hremoved.symm.trans hremoved')
      obtain ⟨hne, hindexed, t, ht, hid, huid⟩ := horphans
      have hkept : (r.remove id).2.byId.lookup t.sessionId = some t := by
        rw [lookup_remove, if_neg hid]
        exact mem_snapshot.mp ht
      have hsome := hcovers _ t hkept (huid ▸ hne)
      rw [lookup_byUid_remove hremoved, if_pos ⟨hne, hindexed, huid⟩] at hsome
      cases hsome
    · intro hkeeps id' t ht hne
      rw [lookup_remove] at ht
      by_cases hid : id' = id
      · rw [if_pos hid] at ht
        cases ht
      · rw [if_neg hid] at ht
        have hsession := r.keyed id' t ht
        have hkept : ¬ (removed.uid ≠ 0 ∧ r.byUid.lookup removed.uid = some id ∧
            t.uid = removed.uid) := by
          intro hdropped
          obtain ⟨hzero, hindexed, huid⟩ := hdropped
          exact hkeeps removed hremoved
            ⟨hzero, hindexed, t, mem_snapshot.mpr (hsession ▸ ht), hsession ▸ hid, huid⟩
        rw [lookup_byUid_remove hremoved, if_neg hkept]
        exact h id' t ht hne

theorem updateTarget (h : r.Covers) (newTarget : SessionTarget) :
    (r.apply (.updateTarget id newTarget)).Covers := by
  obtain ⟨hbyUid, hbyId⟩ := apply_updateTarget_frame r id newTarget
  intro id' t ht hne
  have hsame := hbyId id'
  rw [ht] at hsame
  obtain ⟨t', ht', huid⟩ := Option.map_eq_some_iff.mp hsame.symm
  rw [hbyUid, ← huid]
  exact h id' t' ht' (huid ▸ hne)

/-- An entry is missing after a call exactly if the call dropped it. -/
theorem apply_iff (h : r.Covers) (op : RegistryOp) : (r.apply op).Covers ↔ r.KeepsIndex op := by
  cases op with
  | add s => exact h.add_iff
  | remove id => exact h.remove_iff
  | updateTarget id newTarget => exact iff_of_true (h.updateTarget newTarget) trivial

end Covers

theorem add_of_lookup_eq_none (h : r.byId.lookup s.sessionId = none) :
    r.add s = r.insertSession s := by
  have hstale : r.staleUid s = none := by rw [staleUid, h, Option.bind_none]
  rw [add, hstale]

/-- Sessions with distinct identifiers, none of which is registered, keep the index complete. -/
theorem foldl_insertSession_index {sessions : List ActiveSession} (hsound : r.IndexSound)
    (hcovers : r.Covers) (hnew : ∀ s ∈ sessions, r.byId.lookup s.sessionId = none)
    (hdistinct : (sessions.map ActiveSession.sessionId).Nodup) :
    (sessions.foldl insertSession r).IndexSound ∧ (sessions.foldl insertSession r).Covers := by
  induction sessions generalizing r with
  | nil => exact ⟨hsound, hcovers⟩
  | cons s sessions ih =>
    rw [List.map_cons, List.nodup_cons] at hdistinct
    have hs := hnew s List.mem_cons_self
    have hkeeps : r.KeepsIndex (.add s) := by
      intro existing hexisting
      rw [hs] at hexisting
      cases hexisting
    rw [List.foldl_cons, ← add_of_lookup_eq_none hs]
    refine ih (hsound.add s) (hcovers.add_iff.mpr hkeeps) (fun t ht => ?_) hdistinct.2
    have hne : t.sessionId ≠ s.sessionId := by
      intro heq
      exact hdistinct.1 (heq ▸ List.mem_map_of_mem ht)
    rw [lookup_add, if_neg hne]
    exact hnew t (List.mem_cons_of_mem s ht)

theorem fromSnapshot_index {sessions : List ActiveSession}
    (h : (sessions.map ActiveSession.sessionId).Nodup) :
    (fromSnapshot sessions).IndexSound ∧ (fromSnapshot sessions).Covers := by
  apply foldl_insertSession_index _ _ _ h
  · intro uid id hlookup
    simp [new] at hlookup
  · intro id s hlookup
    simp [new] at hlookup
  · simp [new]

theorem applyAll_append (before ops : List RegistryOp) :
    r.applyAll (before ++ ops) = (r.applyAll before).applyAll ops :=
  List.foldl_append

theorem IndexSound.applyAll (h : r.IndexSound) (ops : List RegistryOp) :
    (r.applyAll ops).IndexSound := by
  induction ops generalizing r with
  | nil => exact h
  | cons op ops ih => exact ih (h.apply op)

/-- A lookup finds nothing but registered sessions of the uid. -/
theorem IndexSound.findByUid (h : r.IndexSound) (hfound : r.findByUid uid = some s) :
    s.uid = uid ∧ r.byId.lookup s.sessionId = some s := by
  rw [SessionRegistry.findByUid] at hfound
  split at hfound
  · cases hfound
  · obtain ⟨id, hid, hs⟩ := Option.bind_eq_some_iff.mp hfound
    obtain ⟨-, t, ht, huid⟩ := h uid id hid
    obtain rfl : t = s := Option.some.inj (ht.symm.trans hs)
    rw [r.keyed id t ht]
    exact ⟨huid, ht⟩

/-- A registry that the daemon can start with. -/
inductive Initial : SessionRegistry → Prop where
  | empty : Initial new
  | loaded {sessions : List ActiveSession}
      (distinct : (sessions.map ActiveSession.sessionId).Nodup) : Initial (fromSnapshot sessions)

theorem Initial.indexSound (h : r.Initial) : r.IndexSound := by
  cases h with
  | empty =>
    have hnone : (([] : List ActiveSession).map ActiveSession.sessionId).Nodup := List.nodup_nil
    exact (fromSnapshot_index hnone).1
  | loaded hdistinct => exact (fromSnapshot_index hdistinct).1

/-- Every uid in use has an entry throughout if no call drops the entry of one. -/
theorem Covers.applyAll_iff (h : r.Covers) (ops : List RegistryOp) :
    (∀ before, before <+: ops → (r.applyAll before).Covers) ↔
      ∀ before op, before ++ [op] <+: ops → (r.applyAll before).KeepsIndex op := by
  constructor
  · intro hcovers before op hprefix
    have hbefore := hcovers before ((List.prefix_append before [op]).trans hprefix)
    have hafter := hcovers (before ++ [op]) hprefix
    rw [applyAll_append] at hafter
    exact (hbefore.apply_iff op).mp hafter
  · intro hkeeps before
    induction before using List.reverseRecOn with
    | nil =>
      intro _
      exact h
    | append_singleton before op ih =>
      intro hprefix
      have hbefore := ih ((List.prefix_append before [op]).trans hprefix)
      rw [applyAll_append]
      exact (hbefore.apply_iff op).mpr (hkeeps before op hprefix)

end SessionRegistry

/-- Through any calls every entry of the index names a registered session of its uid, which is
not zero. What a lookup by uid finds is therefore a session of that uid that was not removed. -/
theorem uidIndex_consistent (start : SessionRegistry) (hstart : start.Initial)
    (ops : List RegistryOp) :
    (∀ uid id, (start.applyAll ops).byUid.lookup uid = some id →
      uid ≠ 0 ∧ ∃ s, (start.applyAll ops).byId.lookup id = some s ∧ s.uid = uid) ∧
    (∀ uid s, (start.applyAll ops).findByUid uid = some s →
      s.uid = uid ∧ (start.applyAll ops).byId.lookup s.sessionId = some s) ∧
    (start.applyAll ops).findByUid 0 = none := by
  have hsound := hstart.indexSound.applyAll ops
  exact ⟨hsound, fun uid s hfound => hsound.findByUid hfound, if_pos rfl⟩

def secondSession : ActiveSession := { aliceSession with sessionId := 8 }

/-- The first of two sessions of a user is opened again without a uid. -/
theorem uidIndex_consistent_reopened :
    ((SessionRegistry.fromSnapshot [aliceSession, secondSession]).applyAll
        [.add { aliceSession with uid := 0 }]).findByUid 1000 = some secondSession ∧
      secondSession.uid = 1000 ∧
      ((SessionRegistry.fromSnapshot [aliceSession, secondSession]).applyAll
        [.add { aliceSession with uid := 0 }]).byId.lookup 8 = some secondSession := by
  have hfound : ((SessionRegistry.fromSnapshot [aliceSession, secondSession]).applyAll
      [.add { aliceSession with uid := 0 }]).findByUid 1000 = some secondSession := by
    decide +kernel
  have hconsistent := uidIndex_consistent (.fromSnapshot [aliceSession, secondSession])
    (.loaded (by decide)) [.add { aliceSession with uid := 0 }]
  exact ⟨hfound, hconsistent.2.1 _ _ hfound⟩

/-- From any sessions with distinct identifiers and through any calls, a lookup by uid finds
a session of every uid in use, in every state, exactly if no call takes the session that the
index names away from another session of its uid. -/
theorem findByUid_complete_iff (sessions : List ActiveSession)
    (hdistinct : (sessions.map ActiveSession.sessionId).Nodup) (ops : List RegistryOp) :
    (∀ before, before <+: ops → ((SessionRegistry.fromSnapshot sessions).applyAll before).UidsFound) ↔
      ∀ before op, before ++ [op] <+: ops →
        ((SessionRegistry.fromSnapshot sessions).applyAll before).KeepsIndex op := by
  obtain ⟨hsound, hcovers⟩ := SessionRegistry.fromSnapshot_index hdistinct
  rw [← hcovers.applyAll_iff ops]
  have hfound := fun before => SessionRegistry.uidsFound_iff (hsound.applyAll before)
  simp only [hfound]

/-- Closing the session that was opened first does not hide the second. -/
theorem findByUid_complete_firstClosed :
    ((SessionRegistry.fromSnapshot [aliceSession, secondSession]).applyAll
      [.remove 7]).UidsFound := by
  refine (findByUid_complete_iff [aliceSession, secondSession] (by decide) [.remove 7]).mpr
    (fun before op hprefix => ?_) [.remove 7] (List.prefix_refl _)
  obtain ⟨rest, hrest⟩ := hprefix
  cases before with
  | nil =>
    obtain rfl : op = .remove 7 := (List.cons.inj hrest).1
    intro removed hremoved horphans
    obtain rfl : aliceSession = removed := by
      have hlookup : (SessionRegistry.fromSnapshot [aliceSession, secondSession]).byId.lookup 7 =
          some aliceSession := by decide +kernel
      exact Option.some.inj (hlookup.symm.trans hremoved)
    -- The index names the session that was added last.
    have hindexed : (SessionRegistry.fromSnapshot [aliceSession, secondSession]).byUid.lookup
        aliceSession.uid = some 8 := by decide +kernel
    have hother := horphans.2.1.symm.trans hindexed
    cases hother
  | cons first before => simp at hrest

/-- The user opens two sessions, closes the second one and asks for the first. -/
def closeSecond (i : ℕ) : Step where
  input := match i with
    | 0 => .event (.ipc (.sessionOpen aliceSession))
    | 1 => .event (.ipc (.sessionOpen secondSession))
    | 2 => .event (.ipc (.sessionClose 8))
    | _ => .event (.ipc (.getActiveSessionByUid 1000))
  isSerialPresent := fun _ => true
  persistence := ⟨0, true⟩
  wait := 0

/-- The first session is still registered, and the daemon denies that there is one. -/
theorem closeSecond_hides_first :
    ¬ ((SessionRegistry.fromSnapshot [aliceSession, secondSession]).applyAll
        [.remove 8]).UidsFound ∧
      aliceSession ∈ (runFrom .testDefaults graceStart closeSecond 4).registry.snapshot ∧
      (runFrom .testDefaults graceStart closeSecond 4).log =
        [.reply .ack, .reply .ack, .reply .ack,
          .reply (.error ErrorCodes.noActiveSession "no active session for uid 1000")] := by
  refine ⟨fun hfound => ?_, by decide +kernel, by decide +kernel⟩
  obtain ⟨s, hs, -⟩ := hfound 1000 (by decide) ⟨aliceSession, by decide +kernel, rfl⟩
  have hnone : ((SessionRegistry.fromSnapshot [aliceSession, secondSession]).applyAll
      [.remove 8]).findByUid 1000 = none := by decide +kernel
  rw [hnone] at hs
  cases hs

end PamCertauth.Monitord
