import PamCertauth.SharedManager

/-!
# Who gets a connection

The accept loop of the daemon (`server.rs`) takes connections off the listener one by one. It
turns away a peer that is not root (`peercred.rs`), waits for one of a fixed number of permits and
hands the stream and the permit to a task. The permit comes back when the task ends.

The loop runs beside the connections and the manager. Whatever their order, the manager hears of
root's connections only, and of no more at a time than there are permits.
-/

namespace PamCertauth.Monitord

open X509 Ipc SerialServers

structure PeerCred where
  uid : UInt32
  gid : UInt32
  pid : Option Int32
  deriving DecidableEq

inductive CredError where
  | lookup (detail : String)
  | unauthorized (uid : UInt32)
  deriving DecidableEq

def verifyPeerCredentials (peerCred : Except String PeerCred) : Except CredError PeerCred := do
  let cred ← peerCred.mapError .lookup
  if cred.uid ≠ 0 then .error (.unauthorized cred.uid) else .ok cred

structure AcceptConfig where
  enforcePeercred : Bool
  idleTimeout : Duration
  maxConcurrentConnections : UInt32

def AcceptConfig.default : AcceptConfig where
  enforcePeercred := true
  idleTimeout := fromSecs 30
  maxConcurrentConnections := 64

/-- The loop does not turn the peer away. -/
def AcceptConfig.admits (cfg : AcceptConfig) (peerCred : Except String PeerCred) : Bool :=
  !cfg.enforcePeercred || (verifyPeerCredentials peerCred).isOk

/-- Where the loop is: at its `select!`, waiting for a permit for a stream, or behind its end. -/
inductive LoopPhase (ι : Type) where
  | selecting
  | acquiring (stream : ι)
  | stopped

def LoopPhase.held {ι : Type} : LoopPhase ι → List ι
  | acquiring stream => [stream]
  | _ => []

/-- The streams that wait in the listener and that are served. `connected` are all streams in
their order, and `taken` those that the loop is done with, and whether it has served them. -/
structure Accepting (ι : Type) where
  backlog : List ι
  phase : LoopPhase ι
  permits : ℕ
  live : List ι
  cancelled : Bool
  connected : List ι
  taken : List (ι × Bool)

namespace Accepting

variable {ι : Type}

def start (cfg : AcceptConfig) : Accepting ι :=
  ⟨[], .selecting, cfg.maxConcurrentConnections.toNat, [], false, [], []⟩

/-- The streams that were handed to a task. -/
def served (a : Accepting ι) : List ι := (a.taken.filter Prod.snd).map Prod.fst

section

variable (cfg : AcceptConfig) (peerCred : ι → Except String PeerCred)

/-- What the loop does. Its semaphore is never closed. -/
inductive LoopStep : Accepting ι → Accepting ι → Prop where
  | acceptFailed {a : Accepting ι} (selecting : a.phase = .selecting) : LoopStep a a
  | turnAway {a : Accepting ι} {i : ι} {rest : List ι} (selecting : a.phase = .selecting)
      (backlog : a.backlog = i :: rest) (refused : cfg.admits (peerCred i) = false) :
      LoopStep a { a with backlog := rest, taken := a.taken ++ [(i, false)] }
  | accept {a : Accepting ι} {i : ι} {rest : List ι} (selecting : a.phase = .selecting)
      (backlog : a.backlog = i :: rest) (admitted : cfg.admits (peerCred i) = true) :
      LoopStep a { a with backlog := rest, phase := .acquiring i }
  | acquire {a : Accepting ι} {i : ι} (acquiring : a.phase = .acquiring i)
      (permit : 0 < a.permits) :
      LoopStep a
        { a with
          phase := .selecting
          permits := a.permits - 1
          live := a.live ++ [i]
          taken := a.taken ++ [(i, true)] }
  | stop {a : Accepting ι} (selecting : a.phase = .selecting) (cancelled : a.cancelled = true) :
      LoopStep a { a with phase := .stopped }

variable [DecidableEq ι]

/-- What else happens: peers connect, connections end, and the daemon is told to stop. -/
inductive OutsideStep : Accepting ι → Accepting ι → Prop where
  | connect {a : Accepting ι} {i : ι} (fresh : i ∉ a.connected) :
      OutsideStep a { a with backlog := a.backlog ++ [i], connected := a.connected ++ [i] }
  | finish {a : Accepting ι} {i : ι} (live : i ∈ a.live) :
      OutsideStep a { a with live := a.live.erase i, permits := a.permits + 1 }
  | cancel {a : Accepting ι} : OutsideStep a { a with cancelled := true }

end

section

variable {cfg : AcceptConfig} {peerCred : ι → Except String PeerCred} {a a' : Accepting ι}

/-- Every permit is free or with a live connection, and every stream is behind the loop, in it
or before it, in the order in which they came. -/
structure Orderly (cfg : AcceptConfig) (peerCred : ι → Except String PeerCred) (a : Accepting ι) :
    Prop where
  permits : a.permits + a.live.length = cfg.maxConcurrentConnections.toNat
  connected : a.connected = a.taken.map Prod.fst ++ (a.phase.held ++ a.backlog)
  taken : ∀ p ∈ a.taken, p.2 = cfg.admits (peerCred p.1)
  held : ∀ i ∈ a.phase.held, cfg.admits (peerCred i) = true
  nodup : a.connected.Nodup
  live : a.live.Nodup ∧ ∀ i ∈ a.live, i ∈ a.served

theorem orderly_start (cfg : AcceptConfig) (peerCred : ι → Except String PeerCred) :
    Orderly cfg peerCred (start cfg) where
  permits := rfl
  connected := rfl
  taken p hp := by cases hp
  held i hi := by cases hi
  nodup := List.nodup_nil
  live := ⟨List.nodup_nil, fun i hi => by cases hi⟩

/-- A stream that the loop holds was not served before. -/
theorem Orderly.not_mem_served (h : Orderly cfg peerCred a) {i : ι} (hi : i ∈ a.phase.held) :
    i ∉ a.served := by
  intro hserved
  obtain ⟨p, hp, rfl⟩ := List.mem_map.mp hserved
  have hnodup := h.nodup
  rw [h.connected] at hnodup
  exact (List.nodup_append.mp hnodup).2.2 p.1
    (List.mem_map_of_mem (List.mem_of_mem_filter hp)) p.1 (List.mem_append_left _ hi) rfl

theorem Orderly.loopStep (h : Orderly cfg peerCred a) (hstep : LoopStep cfg peerCred a a') :
    Orderly cfg peerCred a' := by
  cases hstep with
  | acceptFailed => exact h
  | @turnAway i rest hselecting hbacklog hrefused =>
    refine ⟨h.permits, ?_, fun p hp => ?_, h.held, h.nodup, h.live.1, fun j hj => ?_⟩
    · rw [h.connected, hselecting, hbacklog]
      simp [LoopPhase.held]
    · rcases List.mem_append.mp hp with hp | hp
      · exact h.taken p hp
      · rw [List.mem_singleton.mp hp]
        exact hrefused.symm
    · have hserved := h.live.2 j hj
      simpa [served] using hserved
  | @accept i rest hselecting hbacklog hadmitted =>
    refine ⟨h.permits, ?_, h.taken, fun j hj => ?_, h.nodup, h.live⟩
    · rw [h.connected, hselecting, hbacklog]
      simp [LoopPhase.held]
    · rw [List.mem_singleton.mp hj]
      exact hadmitted
  | @acquire i hacquiring hpermit =>
    have hheld : i ∈ a.phase.held := by simp [hacquiring, LoopPhase.held]
    have hnew := h.not_mem_served hheld
    refine ⟨?_, ?_, fun p hp => ?_, fun j hj => ?_, h.nodup, ?_, fun j hj => ?_⟩
    · have hpermits := h.permits
      simp only [List.length_append, List.length_singleton]
      omega
    · rw [h.connected, hacquiring]
      simp [LoopPhase.held]
    · rcases List.mem_append.mp hp with hp | hp
      · exact h.taken p hp
      · rw [List.mem_singleton.mp hp]
        exact (h.held i hheld).symm
    · cases hj
    · refine List.nodup_append.mpr ⟨h.live.1, List.nodup_singleton i, fun j hj k hk hjk => ?_⟩
      rw [List.mem_singleton.mp hk] at hjk
      exact hnew (hjk ▸ h.live.2 j hj)
    · rw [served, List.filter_append, List.map_append]
      rcases List.mem_append.mp hj with hj | hj
      · exact List.mem_append_left _ (h.live.2 j hj)
      · exact List.mem_append_right _ hj
  | stop hselecting =>
    refine ⟨h.permits, ?_, h.taken, fun j hj => ?_, h.nodup, h.live⟩
    · rw [h.connected, hselecting]
      rfl
    · cases hj

theorem Orderly.outsideStep [DecidableEq ι] (h : Orderly cfg peerCred a)
    (hstep : OutsideStep a a') : Orderly cfg peerCred a' := by
  cases hstep with
  | @connect i hfresh =>
    refine ⟨h.permits, ?_, h.taken, h.held, ?_, h.live⟩
    · rw [h.connected]
      simp
    · refine List.nodup_append.mpr ⟨h.nodup, List.nodup_singleton i, fun j hj k hk hjk => ?_⟩
      rw [List.mem_singleton.mp hk] at hjk
      exact hfresh (hjk ▸ hj)
  | @finish i hlive =>
    refine ⟨?_, h.connected, h.taken, h.held, h.nodup, h.live.1.erase i, fun j hj => ?_⟩
    · have hpermits := h.permits
      have hlength := List.length_erase_of_mem hlive
      have hpos := List.length_pos_of_mem hlive
      simp only [hlength]
      omega
    · exact h.live.2 j (List.mem_of_mem_erase hj)
  | cancel => exact ⟨h.permits, h.connected, h.taken, h.held, h.nodup, h.live⟩

/-- The loop comes to its end by itself unless it waits for a permit and there is none. -/
theorem stops_iff (hcancelled : a.cancelled = true) :
    (∃ a', Relation.ReflTransGen (LoopStep cfg peerCred) a a' ∧ a'.phase = .stopped) ↔
      ¬ ∃ i, a.phase = .acquiring i ∧ a.permits = 0 := by
  constructor
  · rintro ⟨a', hsteps, hstopped⟩ ⟨i, hacquiring, hpermits⟩
    rcases Relation.ReflTransGen.cases_head hsteps with rfl | ⟨b, hstep, -⟩
    · rw [hacquiring] at hstopped
      cases hstopped
    · cases hstep with
      | acceptFailed hselecting | turnAway hselecting | accept hselecting | stop hselecting =>
        rw [hacquiring] at hselecting
        cases hselecting
      | acquire _ hpermit => omega
  · intro hfree
    cases hphase : a.phase with
    | stopped => exact ⟨a, .refl, hphase⟩
    | selecting => exact ⟨_, .single (.stop hphase hcancelled), rfl⟩
    | acquiring i =>
      have hpermit : 0 < a.permits := by
        rw [Nat.pos_iff_ne_zero]
        exact fun hzero => hfree ⟨i, hphase, hzero⟩
      have hacquire : LoopStep cfg peerCred a _ := .acquire hphase hpermit
      exact ⟨_, (Relation.ReflTransGen.single hacquire).tail (.stop rfl hcancelled), rfl⟩

end

end Accepting

section

variable {ι : Type} [DecidableEq ι]

/-- One step of the whole daemon. Only a live connection makes requests, and a connection does
not end while it waits for a reply. -/
inductive DaemonStep (cfg : StateConfig) (l : Listener) (peers : ι → Peer) (accept : AcceptConfig)
    (peerCred : ι → Except String PeerCred) :
    Accepting ι × Daemon ι → Accepting ι × Daemon ι → Prop where
  | loop {a a' : Accepting ι} {d : Daemon ι} (step : a.LoopStep accept peerCred a') :
      DaemonStep cfg l peers accept peerCred (a, d) (a', d)
  | outside {a a' : Accepting ι} {d : Daemon ι} (step : a.OutsideStep a')
      (idle : ∀ i, i ∈ a.live → i ∉ a'.live → (d.clients i).slot = .free) :
      DaemonStep cfg l peers accept peerCred (a, d) (a', d)
  | inside {a : Accepting ι} {d d' : Daemon ι}
      (step : SerialServers.Step (managerServer cfg) (AsksNext l peers) d d')
      (live : ∀ i, i ∉ a.live → (d'.clients i).asked = (d.clients i).asked) :
      DaemonStep cfg l peers accept peerCred (a, d) (a, d')

variable {cfg : StateConfig} {l : Listener} {peers : ι → Peer} {accept : AcceptConfig}
  {peerCred : ι → Except String PeerCred} {m₀ : Manager} {a : Accepting ι} {d : Daemon ι}

/-- The daemon gets from its start to the state. -/
def Started (cfg : StateConfig) (l : Listener) (peers : ι → Peer) (accept : AcceptConfig)
    (peerCred : ι → Except String PeerCred) (m₀ : Manager) (s : Accepting ι × Daemon ι) : Prop :=
  Relation.ReflTransGen (DaemonStep cfg l peers accept peerCred) (.start accept, .start m₀) s

/-- Connections that have asked were served, and those that wait are live. -/
structure Guarded (a : Accepting ι) (d : Daemon ι) : Prop where
  served : ∀ i, (d.clients i).asked ≠ 0 → i ∈ a.served
  live : ∀ i, (d.clients i).slot ≠ .free → i ∈ a.live

omit [DecidableEq ι] in
theorem Guarded.loopStep {a' : Accepting ι} (h : Guarded a d)
    (hstep : a.LoopStep accept peerCred a') : Guarded a' d := by
  cases hstep with
  | acceptFailed => exact h
  | turnAway =>
    refine ⟨fun i hi => ?_, h.live⟩
    simpa [Accepting.served] using h.served i hi
  | accept => exact ⟨h.served, h.live⟩
  | acquire =>
    refine ⟨fun i hi => ?_, fun i hi => List.mem_append_left _ (h.live i hi)⟩
    rw [Accepting.served, List.filter_append, List.map_append]
    exact List.mem_append_left _ (h.served i hi)
  | stop => exact ⟨h.served, h.live⟩

theorem Guarded.outsideStep {a' : Accepting ι} (h : Guarded a d) (hstep : a.OutsideStep a')
    (hidle : ∀ i, i ∈ a.live → i ∉ a'.live → (d.clients i).slot = .free) : Guarded a' d := by
  refine ⟨fun i hi => ?_, fun i hi => ?_⟩
  · cases hstep <;> exact h.served i hi
  · by_contra hgone
    exact hi (hidle i (h.live i hi) hgone)

theorem Guarded.inside {d' : Daemon ι} (h : Guarded a d) (horderly : a.Orderly accept peerCred)
    (hstep : SerialServers.Step (managerServer cfg) (AsksNext l peers) d d')
    (hlive : ∀ i, i ∉ a.live → (d'.clients i).asked = (d.clients i).asked) : Guarded a d' := by
  refine ⟨fun i hi => ?_, fun i hi => ?_⟩
  · by_cases hmem : i ∈ a.live
    · exact horderly.live.2 i hmem
    · rw [hlive i hmem] at hi
      exact h.served i hi
  · by_contra hmem
    have hfree : (d.clients i).slot = .free := by
      by_contra hbusy
      exact hmem (h.live i hbusy)
    exact hi (free_of_step hstep hfree (hlive i hmem))

theorem started_invariant {s : Accepting ι × Daemon ι}
    (h : Started cfg l peers accept peerCred m₀ s) :
    s.1.Orderly accept peerCred ∧ Guarded s.1 s.2 ∧
      Daemon.Reaches cfg l peers (.start m₀) s.2 := by
  induction h with
  | refl =>
    refine ⟨Accepting.orderly_start accept peerCred, ⟨fun i hi => ?_, fun i hi => ?_⟩, .refl⟩
    · exact absurd rfl hi
    · exact absurd rfl hi
  | tail _ hstep ih =>
    obtain ⟨horderly, hguarded, hreaches⟩ := ih
    cases hstep with
    | loop hstep => exact ⟨horderly.loopStep hstep, hguarded.loopStep hstep, hreaches⟩
    | outside hstep hidle =>
      exact ⟨horderly.outsideStep hstep, hguarded.outsideStep hstep hidle, hreaches⟩
    | inside hstep hlive =>
      exact ⟨horderly, hguarded.inside horderly hstep hlive, hreaches.tail hstep⟩

omit [DecidableEq ι] in
/-- With credentials enforced, an admitted peer is root. -/
theorem uid_of_admits {cred : Except String PeerCred} (henforce : accept.enforcePeercred = true)
    (h : accept.admits cred = true) : ∃ c, cred = .ok c ∧ c.uid = 0 := by
  rw [AcceptConfig.admits, henforce, Bool.not_true, Bool.false_or] at h
  cases cred with
  | error detail => cases h
  | ok c =>
    refine ⟨c, rfl, ?_⟩
    by_contra huid
    have hfailed : verifyPeerCredentials (.ok c) = .error (.unauthorized c.uid) := if_pos huid
    rw [hfailed] at h
    cases h

/-- The manager gets requests of admitted connections only, no more of them wait than there are
permits, and the loop serves the streams in the order in which they connect. It comes to its end
when it is told to, unless all permits are taken while it holds a further stream. -/
theorem admitted_connections_only (h : Started cfg l peers accept peerCred m₀ (a, d)) :
    (∀ i k e, ⟨some (i, k), e⟩ ∈ d.sent → i ∈ a.served ∧
      (accept.enforcePeercred = true → ∃ c, peerCred i = .ok c ∧ c.uid = 0)) ∧
    (∀ i, (d.clients i).slot ≠ .free → i ∈ a.live) ∧ a.Orderly accept peerCred ∧
    (a.cancelled = true →
      ((∃ a', Relation.ReflTransGen (Accepting.LoopStep accept peerCred) a a' ∧
          a'.phase = .stopped) ↔
        ¬ ∃ i, a.phase = .acquiring i ∧
          a.live.length = accept.maxConcurrentConnections.toNat)) := by
  obtain ⟨horderly, hguarded, hreaches⟩ := started_invariant h
  have hsound := sound_of_reaches hreaches
  refine ⟨fun i k e hmem => ?_, hguarded.live, horderly, fun hcancelled => ?_⟩
  · have hasked := ((hsound.clients i).asks k e hmem).1
    have hserved := hguarded.served i (Nat.ne_zero_of_lt hasked)
    refine ⟨hserved, fun henforce => uid_of_admits henforce ?_⟩
    obtain ⟨p, hp, rfl⟩ := List.mem_map.mp hserved
    obtain ⟨hp, htrue⟩ := List.mem_filter.mp hp
    rw [← horderly.taken p hp]
    exact htrue
  · rw [Accepting.stops_iff hcancelled]
    have hpermits : a.permits = 0 ↔ a.live.length = accept.maxConcurrentConnections.toNat := by
      have hsum : a.permits + a.live.length = accept.maxConcurrentConnections.toNat :=
        horderly.permits
      constructor <;> intro h <;> omega
    simp only [hpermits]

end

section Sample

def onePermit : AcceptConfig := { AcceptConfig.default with maxConcurrentConnections := 1 }

def rootCred (_ : Bool) : Except String PeerCred := .ok ⟨0, 0, none⟩

/-- One connection is live, the loop holds a second stream, and the daemon is told to stop. -/
def crowded : Accepting Bool :=
  ⟨[], .acquiring false, 0, [true], true, [true, false], [(true, true)]⟩

theorem crowded_reached : Started .testDefaults callerListener (fun _ => Caller.closer.peer) onePermit
    rootCred (spawnStateManager .new [] 0) (crowded, .start (spawnStateManager .new [] 0)) := by
  have hfirst : Accepting.OutsideStep (.start onePermit)
      (⟨[true], .selecting, 1, [], false, [true], []⟩ : Accepting Bool) :=
    .connect (i := true) (by simp [Accepting.start])
  have hsecond : Accepting.OutsideStep
      (⟨[true], .selecting, 1, [], false, [true], []⟩ : Accepting Bool)
      ⟨[true, false], .selecting, 1, [], false, [true, false], []⟩ :=
    .connect (i := false) (by simp)
  have haccept : Accepting.LoopStep onePermit rootCred
      ⟨[true, false], .selecting, 1, [], false, [true, false], []⟩
      ⟨[false], .acquiring true, 1, [], false, [true, false], []⟩ := .accept rfl rfl rfl
  have hacquire : Accepting.LoopStep onePermit rootCred
      ⟨[false], .acquiring true, 1, [], false, [true, false], []⟩
      ⟨[false], .selecting, 0, [true], false, [true, false], [(true, true)]⟩ :=
    .acquire rfl Nat.one_pos
  have haccept' : Accepting.LoopStep onePermit rootCred
      ⟨[false], .selecting, 0, [true], false, [true, false], [(true, true)]⟩
      ⟨[], .acquiring false, 0, [true], false, [true, false], [(true, true)]⟩ := .accept rfl rfl rfl
  exact (((((Relation.ReflTransGen.single (.outside hfirst fun _ _ _ => rfl)).tail
    (.outside hsecond fun _ _ _ => rfl)).tail (.loop haccept)).tail (.loop hacquire)).tail
    (.loop haccept')).tail (.outside .cancel fun _ _ _ => rfl)

/-- The loop does not see that it is to stop. -/
theorem admitted_connections_only_crowded : crowded.cancelled = true ∧
    ¬ ∃ a', Relation.ReflTransGen (Accepting.LoopStep onePermit rootCred) crowded a' ∧
      a'.phase = .stopped := by
  refine ⟨rfl, fun hstops => ?_⟩
  obtain ⟨-, -, -, hiff⟩ := admitted_connections_only crowded_reached
  exact (hiff rfl).mp hstops ⟨false, rfl, rfl⟩

end Sample

end PamCertauth.Monitord
