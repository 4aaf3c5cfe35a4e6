import PamCertauth.DurableFiles
import PamCertauth.RegistryDurability
import PamCertauth.SessionClosing

/-!
# The registry file and the loss of power

`RegistryStore::persist` writes a temporary file, syncs it, renames it onto the registry file
and syncs the directory. The daemon writes one snapshot after another; some attempts fail on
the way, and the power may go at any point. A file that cannot be read is taken for an
empty registry, so it matters what can be left: it is always a whole snapshot, and none that
is older than the last one whose `persist` was `Ok`.
-/

namespace PamCertauth.Monitord

open Ipc DurableFiles

/-- A snapshot to be written: the answers of the calls, and the name of the temporary file. -/
structure StoreAttempt (P : Type) where
  call : StoreCall → Except String Unit
  snapshot : List ActiveSession
  tmp : P

namespace StoreAttempt

variable {P Contents : Type} (codec : JsonCodec Contents) (path : P) (a : StoreAttempt P)

/-- What comes before the temporary file. -/
def prepared : Except String Contents := do
  a.call .parent
  a.call .createDirAll
  let rows ← a.snapshot.mapM StoredSession.ofSession
  codec.toVecPretty rows

/-- The operations that are carried out. A temporary file that is given up is removed. -/
def ops : List (Op P Contents) :=
  match a.prepared codec, a.call .createTemp with
  | .ok contents, .ok () =>
    match a.call .writeAll, a.call .syncFile with
    | .ok (), .ok () =>
      match a.call .rename with
      | .error _ => [.put a.tmp contents, .sync a.tmp, .remove a.tmp]
      | .ok () =>
        match a.call .openDir, a.call .syncDir with
        | .ok (), .ok () => replaceOps a.tmp path contents
        | _, _ => [.put a.tmp contents, .sync a.tmp, .rename a.tmp path]
    | _, _ => [.put a.tmp contents, .remove a.tmp]
  | _, _ => []

/-- The answer of `persist`. It does not depend on the file that is there. -/
def answer : Except String Unit :=
  (RegistryStore.persist codec a.call a.snapshot (.error .notFound)).1

end StoreAttempt

section Attempts

variable {P Contents : Type} {codec : JsonCodec Contents} {path : P} {a : StoreAttempt P}

/-- An attempt gets through part of the replacement, and what it cleans up is elsewhere. -/
theorem StoreAttempt.ops_cases (htmp : a.tmp ≠ path) :
    a.ops codec path = [] ∨ ∃ contents n cleanup, a.prepared codec = .ok contents ∧
      a.ops codec path = (replaceOps a.tmp path contents).take n ++ cleanup ∧
      ∀ op ∈ cleanup, op.Elsewhere path := by
  have hremove : ∀ op ∈ [(Op.remove a.tmp : Op P Contents)], op.Elsewhere path := by
    intro op hop
    rw [List.mem_singleton.mp hop]
    exact htmp
  rw [ops]
  split
  · next contents hprepared _ =>
    refine .inr ⟨contents, ?_⟩
    split
    · split
      · exact ⟨2, [.remove a.tmp], hprepared, rfl, hremove⟩
      · split
        · exact ⟨4, [], hprepared, rfl, by simp⟩
        · exact ⟨3, [], hprepared, rfl, by simp⟩
    · exact ⟨1, [.remove a.tmp], hprepared, rfl, hremove⟩
  · exact .inl rfl

variable (path) in
/-- When `persist` is `Ok`, the replacement is complete. -/
theorem StoreAttempt.ops_of_ok (h : a.answer codec = .ok ()) :
    ∃ contents, a.prepared codec = .ok contents ∧
      a.ops codec path = replaceOps a.tmp path contents := by
  rw [answer, RegistryStore.persist] at h
  split at h
  · cases h
  · next contents hatomic =>
    simp only [bind_eq_ok_iff] at h
    obtain ⟨⟨⟩, hopen, hsyncDir⟩ := h
    simp only [RegistryStore.writeSessionsAtomic, bind_eq_ok_iff] at hatomic
    obtain ⟨⟨⟩, hparent, ⟨⟩, hcreate, rows, hrows, encoded, hencode, ⟨⟩, htemp, ⟨⟩, hwrite, ⟨⟩,
      hsync, ⟨⟩, hrename, -⟩ := hatomic
    have hprepared : a.prepared codec = .ok encoded := by
      simp only [prepared, bind_eq_ok_iff]
      exact ⟨(), hparent, (), hcreate, rows, hrows, hencode⟩
    refine ⟨encoded, hprepared, ?_⟩
    simp only [ops, hprepared, htemp, hwrite, hsync, hrename, hopen, hsyncDir]

/-- What the daemon finds when it starts again. -/
def readBack : Option Contents → Except ReadError Contents
  | none => .error .notFound
  | some contents => .ok contents

/-- The contents from which one of these snapshots is loaded. -/
def loading (codec : JsonCodec Contents) (A : Set (List ActiveSession)) : Set (Option Contents) :=
  {x | ∃ s ∈ A, RegistryStore.load codec (readBack x) = .ok s}

theorem loading_mono {A B : Set (List ActiveSession)} (h : A ⊆ B) :
    loading codec A ⊆ loading codec B := by
  intro x hx
  obtain ⟨s, hs, hload⟩ := hx
  exact ⟨s, h hs, hload⟩

/-- What has been prepared for a snapshot is loaded as the snapshot. -/
theorem StoreAttempt.load_prepared (hcodec : codec.RoundTrips)
    (hwhole : ∀ s ∈ a.snapshot, SystemTimeSerde.WholeSeconds s.openedAt) {contents : Contents}
    (h : a.prepared codec = .ok contents) : some contents ∈ loading codec {a.snapshot} := by
  simp only [prepared, bind_eq_ok_iff] at h
  obtain ⟨⟨⟩, -, ⟨⟩, -, rows, hrows, hencode⟩ := h
  obtain ⟨rows', hrows', hsessions⟩ := StoredSession.mapM_toSession_ofSession hwhole
  obtain rfl : rows = rows' := Except.ok.inj (hrows.symm.trans hrows')
  obtain ⟨contents', hencode', hread⟩ := hcodec rows
  obtain rfl : contents = contents' := Except.ok.inj (hencode.symm.trans hencode')
  have hload : codec.fromSlice contents >>= List.mapM StoredSession.toSession = .ok a.snapshot := by
    rw [hread]
    exact hsessions
  exact ⟨a.snapshot, rfl, by rw [readBack, RegistryStore.load, hload]⟩

variable [DecidableEq P] {d : Disk P Contents} {A : Set (List ActiveSession)}

/-- However far an attempt has come, the file loads as before or as the new snapshot. -/
theorem keeps_take (hcodec : codec.RoundTrips) (htmp : a.tmp ≠ path)
    (hwhole : ∀ s ∈ a.snapshot, SystemTimeSerde.WholeSeconds s.openedAt)
    (h : Keeps (loading codec A) path d) (m : ℕ) :
    Keeps (loading codec (insert a.snapshot A)) path (d.run ((a.ops codec path).take m)) := by
  rcases a.ops_cases htmp with hnone | ⟨contents, n, cleanup, hprepared, hops, hcleanup⟩
  · rw [hnone, List.take_nil]
    exact h.mono (loading_mono (Set.subset_insert _ _))
  · have hnew : insert (some contents) (loading codec A) ⊆
        loading codec (insert a.snapshot A) := by
      rintro x (rfl | hx)
      · exact loading_mono (by simp) (a.load_prepared hcodec hwhole hprepared)
      · exact loading_mono (Set.subset_insert _ _) hx
    rw [hops, List.take_append, List.take_take, Disk.run_append]
    refine ((h.replace_take htmp contents _).mono hnew).run_elsewhere fun op hop => ?_
    exact hcleanup op (List.mem_of_mem_take hop)

/-- After an attempt whose answer is `Ok` the file loads as its snapshot. -/
theorem keeps_of_ok (hcodec : codec.RoundTrips) (htmp : a.tmp ≠ path)
    (hwhole : ∀ s ∈ a.snapshot, SystemTimeSerde.WholeSeconds s.openedAt)
    (hok : a.answer codec = .ok ()) (d : Disk P Contents) :
    Keeps (loading codec {a.snapshot}) path (d.run (a.ops codec path)) := by
  obtain ⟨contents, hprepared, hops⟩ := a.ops_of_ok path hok
  rw [hops]
  refine (keeps_replace htmp contents d).mono fun x hx => ?_
  rw [Set.mem_singleton_iff.mp hx]
  exact a.load_prepared hcodec hwhole hprepared

variable (codec) in
/-- The snapshot is the first one or that of an attempt, and no later attempt was `Ok`. -/
def NotOutdated (first : List ActiveSession) (attempts : List (StoreAttempt P)) :
    Set (List ActiveSession) :=
  {s | (s = first ∧ ∀ a ∈ attempts, a.answer codec ≠ .ok ()) ∨
    ∃ before a after, attempts = before ++ a :: after ∧ s = a.snapshot ∧
      ∀ b ∈ after, b.answer codec ≠ .ok ()}

omit [DecidableEq P] in
theorem notOutdated_last (first : List ActiveSession) (attempts : List (StoreAttempt P))
    (a : StoreAttempt P) : a.snapshot ∈ NotOutdated codec first (attempts ++ [a]) :=
  .inr ⟨attempts, a, [], rfl, rfl, by simp⟩

omit [DecidableEq P] in
/-- An attempt that fails leaves the snapshots that were not outdated before. -/
theorem notOutdated_of_failed {first s : List ActiveSession} {attempts : List (StoreAttempt P)}
    (h : s ∈ NotOutdated codec first attempts) (hfailed : a.answer codec ≠ .ok ()) :
    s ∈ NotOutdated codec first (attempts ++ [a]) := by
  rcases h with ⟨rfl, hnone⟩ | ⟨before, b, after, rfl, rfl, hnone⟩
  · refine .inl ⟨rfl, fun b hb => ?_⟩
    rcases List.mem_append.mp hb with hb | hb
    · exact hnone b hb
    · rw [List.mem_singleton.mp hb]
      exact hfailed
  · refine .inr ⟨before, b, after ++ [a], by simp, rfl, fun c hc => ?_⟩
    rcases List.mem_append.mp hc with hc | hc
    · exact hnone c hc
    · rw [List.mem_singleton.mp hc]
      exact hfailed

theorem keeps_attempts (hcodec : codec.RoundTrips) {first : List ActiveSession}
    (hstart : Keeps (loading codec {first}) path d) (attempts : List (StoreAttempt P))
    (htmp : ∀ a ∈ attempts, a.tmp ≠ path)
    (hwhole : ∀ a ∈ attempts, ∀ s ∈ a.snapshot, SystemTimeSerde.WholeSeconds s.openedAt) :
    Keeps (loading codec (NotOutdated codec first attempts)) path
      (d.run (attempts.flatMap fun a => a.ops codec path)) := by
  induction attempts using List.reverseRecOn with
  | nil =>
    refine hstart.mono (loading_mono fun s hs => ?_)
    rw [Set.mem_singleton_iff.mp hs]
    exact .inl ⟨rfl, by simp⟩
  | append_singleton attempts a ih =>
    have hbefore := ih (fun b hb => htmp b (List.mem_append_left _ hb))
      fun b hb => hwhole b (List.mem_append_left _ hb)
    have hlast : a ∈ attempts ++ [a] := List.mem_append_right _ (List.mem_singleton_self a)
    rw [List.flatMap_append, List.flatMap_singleton, Disk.run_append]
    by_cases hok : a.answer codec = .ok ()
    · refine (keeps_of_ok hcodec (htmp a hlast) (hwhole a hlast) hok _).mono (loading_mono ?_)
      rintro s rfl
      exact notOutdated_last first attempts a
    · have hall := keeps_take hcodec (htmp a hlast) (hwhole a hlast) hbefore
        (a.ops codec path).length
      rw [List.take_length] at hall
      refine hall.mono (loading_mono ?_)
      rintro s (rfl | hs)
      · exact notOutdated_last first attempts a
      · exact notOutdated_of_failed hs hok

/-- Whenever the power goes, the registry that is loaded afterwards is a whole snapshot: that of
the attempt under way, or one that no later successful attempt has replaced. -/
theorem registry_survives_power_loss (hcodec : codec.RoundTrips) {first : List ActiveSession}
    (hstart : Keeps (loading codec {first}) path d) (attempts : List (StoreAttempt P))
    (current : StoreAttempt P) (m : ℕ) (htmp : ∀ a ∈ attempts ++ [current], a.tmp ≠ path)
    (hwhole : ∀ a ∈ attempts ++ [current], ∀ s ∈ a.snapshot,
      SystemTimeSerde.WholeSeconds s.openedAt) :
    ∀ x ∈ (((d.run (attempts.flatMap fun a => a.ops codec path)).run
        ((current.ops codec path).take m)) path).survivors,
      ∃ s, RegistryStore.load codec (readBack x) = .ok s ∧
        (s = current.snapshot ∨ s ∈ NotOutdated codec first attempts) := by
  have hlast : current ∈ attempts ++ [current] :=
    List.mem_append_right _ (List.mem_singleton_self current)
  have hbefore := keeps_attempts hcodec hstart attempts
    (fun a ha => htmp a (List.mem_append_left _ ha))
    fun a ha => hwhole a (List.mem_append_left _ ha)
  intro x hx
  obtain ⟨s, hs, hload⟩ :=
    (keeps_take hcodec (htmp current hlast) (hwhole current hlast) hbefore m).survivors hx
  exact ⟨s, hload, hs⟩

end Attempts

/-- A directory without files, as it is on the disk. -/
def emptyDisk : Disk String (List StoredSession) := fun _ => ⟨none, {none}⟩

theorem emptyDisk_keeps (path : String) : Keeps (loading rowCodec {[]}) path emptyDisk := by
  have hnone : remains (none : Option (File (List StoredSession))) ⊆ loading rowCodec {[]} := by
    rintro x rfl
    exact ⟨[], rfl, rfl⟩
  refine ⟨hnone, ?_⟩
  rintro f rfl
  exact hnone

def aliceStored : StoreAttempt String := ⟨fun _ => .ok (), [aliceSession], ".tmp1"⟩

/-- The directory is full when the session has been closed. -/
def closedUnstored : StoreAttempt String :=
  ⟨fun c => if c = .createTemp then .error "no space" else .ok (), [], ".tmp2"⟩

/-- The session that was closed is found again. -/
theorem registry_survives_power_loss_alice :
    ∃ x ∈ (((emptyDisk.run ([aliceStored].flatMap fun a => a.ops rowCodec "sessions.json")).run
        ((closedUnstored.ops rowCodec "sessions.json").take 2)) "sessions.json").survivors,
      ∃ s, RegistryStore.load rowCodec (readBack x) = .ok s ∧
        (s = [] ∨ s ∈ NotOutdated rowCodec [] [aliceStored]) := by
  have haccepted : aliceStored.answer rowCodec = .ok () := rfl
  obtain ⟨contents, -, hops⟩ := aliceStored.ops_of_ok "sessions.json" haccepted
  have hleft : some contents ∈ (((emptyDisk.run
      ([aliceStored].flatMap fun a => a.ops rowCodec "sessions.json")).run
        ((closedUnstored.ops rowCodec "sessions.json").take 2)) "sessions.json").survivors := by
    rw [List.flatMap_singleton, hops]
    exact ⟨some (.synced contents), rfl, contents, rfl, rfl⟩
  refine ⟨some contents, hleft, registry_survives_power_loss (fun rows => ⟨rows, rfl, rfl⟩)
    (emptyDisk_keeps _) [aliceStored] closedUnstored 2 ?_ ?_ _ hleft⟩
  · intro a ha
    rcases List.mem_pair.mp ha with rfl | rfl
    · decide
    · decide
  · intro a ha s hs
    rcases List.mem_pair.mp ha with rfl | rfl
    · rw [List.mem_singleton.mp hs]
      exact ⟨0, by decide, by decide, rfl⟩
    · cases hs

end PamCertauth.Monitord
