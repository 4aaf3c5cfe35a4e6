import PamCertauth.AdmissionWindows
import PamCertauth.Certificates
import Mathlib.Data.List.AList
import Mathlib.Data.List.MinMax

/-!
# Audits of integrity bounds that do not parse

A certificate whose integrity bound does not parse is reported to the audit log (`mac/audit.rs`).
So that one bad certificate does not flood the log, a cache of fingerprints holds its reports
back for a minute. The cache is bounded and drops its oldest fingerprint when it is full. The
iteration order of a hash map is not specified, so that each call comes with its own here, and
it decides between fingerprints of one instant.
-/

namespace PamCertauth.ParseFailureAudits

open X509 AdmissionWindows

def parseFailRateWindow : Duration := Duration.fromSecs 60

def parseFailCacheCap : ℕ := 256

/-- The fingerprints with the instants of their last reports. -/
abbrev ParseFailCache := AList fun _ : String => ℕ

namespace ParseFailCache

def retain (p : ℕ → Bool) (cache : ParseFailCache) : ParseFailCache where
  entries := cache.entries.filter fun e => p e.2
  nodupKeys := cache.nodupKeys.sublist List.filter_sublist

def len (cache : ParseFailCache) : ℕ := cache.entries.length

end ParseFailCache

/-- The order in which a hash map is iterated. -/
structure HashOrder where
  iter : ParseFailCache → List (Sigma fun _ : String => ℕ)
  perm : ∀ cache, (iter cache).Perm cache.entries

def removeOldest (order : HashOrder) (cache : ParseFailCache) : ParseFailCache :=
  match (order.iter cache).argmin (·.2) with
  | some oldest => cache.erase oldest.1
  | none => cache

def shouldEmitParseFailed (order : HashOrder) (now : ℕ) (fingerprint : String)
    (cache : ParseFailCache) : Bool × ParseFailCache :=
  let cache := ParseFailCache.retain (fun t => now - t < parseFailRateWindow) cache
  if (cache.lookup fingerprint).any fun last => now - last < parseFailRateWindow then
    (false, cache)
  else
    let cache := if parseFailCacheCap ≤ ParseFailCache.len cache then removeOldest order cache
      else cache
    (true, cache.insert fingerprint now)

def parseFailLimiter : Limiter where
  window := parseFailRateWindow
  capacity := parseFailCacheCap
  capacity_pos := by decide

namespace ParseFailCache

variable {cache : ParseFailCache} {fingerprint : String} {now : ℕ}

def held (cache : ParseFailCache) : Finset (String × ℕ) :=
  (cache.entries.map fun e => (e.1, e.2)).toFinset

theorem mem_held {e : String × ℕ} : e ∈ held cache ↔ cache.lookup e.1 = some e.2 := by
  rw [← Option.mem_def, AList.mem_lookup_iff, held, List.mem_toFinset, List.mem_map]
  constructor
  · rintro ⟨⟨k, t⟩, hmem, rfl⟩
    exact hmem
  · intro hmem
    exact ⟨⟨e.1, e.2⟩, hmem, rfl⟩

theorem card_held (cache : ParseFailCache) : (held cache).card = len cache := by
  rw [held, List.toFinset_card_of_nodup, List.length_map, len]
  refine cache.nodupKeys.nodup.map ?_
  rintro ⟨k, t⟩ ⟨k', t'⟩ heq
  cases heq
  rfl

theorem held_retain (p : ℕ → Bool) :
    held (retain p cache) = (held cache).filter fun e => p e.2 := by
  ext e
  rw [Finset.mem_filter, mem_held, mem_held, ← Option.mem_def, ← Option.mem_def,
    AList.mem_lookup_iff, AList.mem_lookup_iff]
  exact List.mem_filter

/-- What the code retains are the admissions whose window is still open. -/
theorem held_retain_live (now : ℕ) (cache : ParseFailCache) :
    held (retain (fun t => now - t < parseFailRateWindow) cache) =
      parseFailLimiter.live now (held cache) := by
  ext e
  rw [held_retain, Finset.mem_filter, Limiter.mem_live, decide_eq_true_eq]
  rfl

theorem held_insert (h : fingerprint ∉ cache) :
    held (cache.insert fingerprint now) = insert (fingerprint, now) (held cache) := by
  rw [held, AList.entries_insert_of_notMem h, List.map_cons, List.toFinset_cons, held]

theorem held_erase {oldest : Sigma fun _ : String => ℕ} (h : oldest ∈ cache.entries) :
    held (cache.erase oldest.1) = (held cache).erase (oldest.1, oldest.2) := by
  have hlookup : cache.lookup oldest.1 = some oldest.2 := AList.mem_lookup_iff.mpr h
  ext e
  rw [Finset.mem_erase, mem_held, mem_held]
  rcases e with ⟨key, since⟩
  by_cases hkey : key = oldest.1
  · subst hkey
    simp [hlookup, eq_comm]
  · have hne : (key, since) ≠ (oldest.1, oldest.2) := fun heq => hkey (congrArg Prod.fst heq)
    rw [AList.lookup_erase_ne hkey]
    exact (and_iff_right hne).symm

theorem held_removeOldest (order : HashOrder) (h : 0 < len cache) :
    ∃ oldest ∈ held cache, (∀ e ∈ held cache, oldest.2 ≤ e.2) ∧
      held (removeOldest order cache) = (held cache).erase oldest := by
  cases holdest : (order.iter cache).argmin (·.2) with
  | none =>
    have hempty : cache.entries.length = 0 := by
      rw [← (order.perm cache).length_eq, List.argmin_eq_none.mp holdest, List.length_nil]
    rw [len] at h
    omega
  | some oldest =>
    have hmem : oldest ∈ cache.entries := (order.perm cache).subset (List.argmin_mem holdest)
    refine ⟨(oldest.1, oldest.2), mem_held.mpr (AList.mem_lookup_iff.mpr hmem), ?_, ?_⟩
    · intro e he
      have hiter : ⟨e.1, e.2⟩ ∈ order.iter cache :=
        (order.perm cache).symm.subset (AList.mem_lookup_iff.mp (mem_held.mp he))
      have hleast := List.le_of_mem_argmin hiter holdest
      exact hleast
    · rw [removeOldest, holdest]
      exact held_erase hmem

theorem notMem_removeOldest (order : HashOrder) (h : fingerprint ∉ cache) :
    fingerprint ∉ removeOldest order cache := by
  rw [removeOldest]
  split
  · exact fun hmem => h (AList.mem_erase.mp hmem).2
  · exact h

end ParseFailCache

open ParseFailCache

/-- Each call is a step of the limiter, whatever the iteration order is. -/
theorem shouldEmitParseFailed_step (order : HashOrder) (now : ℕ) (fingerprint : String)
    (cache : ParseFailCache) :
    Step parseFailLimiter (held cache) ⟨fingerprint, now⟩
      (shouldEmitParseFailed order now fingerprint cache).1
      (held (shouldEmitParseFailed order now fingerprint cache).2) := by
  rw [shouldEmitParseFailed]
  have hlive := held_retain_live now cache
  generalize retain (fun t => now - t < parseFailRateWindow) cache = kept at hlive
  cases hlookup : kept.lookup fingerprint with
  | some last =>
    have hpresent : (fingerprint, last) ∈ parseFailLimiter.live now (held cache) := by
      rw [← hlive]
      exact mem_held.mpr hlookup
    have hopen : now - last < parseFailRateWindow := (Limiter.mem_live.mp hpresent).2
    simp only [Option.any_some, hopen, decide_true, if_true]
    rw [hlive]
    exact .refuse hpresent
  | none =>
    have habsent : ∀ since, (fingerprint, since) ∉ parseFailLimiter.live now (held cache) := by
      intro since hmem
      rw [← hlive, mem_held, hlookup] at hmem
      cases hmem
    have hnew : fingerprint ∉ kept := AList.lookup_eq_none.mp hlookup
    simp only [Option.any_none, Bool.false_eq_true, if_false]
    by_cases hfull : parseFailCacheCap ≤ len kept
    · rw [if_pos hfull]
      have hpos : 0 < len kept := lt_of_lt_of_le (by decide) hfull
      obtain ⟨oldest, hmem, hleast, herase⟩ := held_removeOldest order hpos
      rw [held_insert (notMem_removeOldest order hnew), herase]
      rw [← card_held] at hfull
      rw [hlive] at hmem hleast hfull ⊢
      exact .replace habsent hfull hmem hleast
    · rw [if_neg hfull, held_insert hnew, hlive]
      refine .accept habsent ?_
      rw [← hlive, card_held]
      exact not_le.mp hfull

structure ParseFailCall where
  now : ℕ
  fingerprint : String
  order : HashOrder

namespace ParseFailCall

def perform (call : ParseFailCall) (cache : ParseFailCache) : Bool × ParseFailCache :=
  shouldEmitParseFailed call.order call.now call.fingerprint cache

def request (call : ParseFailCall) : Request String := ⟨call.fingerprint, call.now⟩

end ParseFailCall

/-- The answers of the calls, one after another. -/
def answers : ParseFailCache → List ParseFailCall → List Bool
  | _, [] => []
  | cache, call :: calls => (call.perform cache).1 :: answers (call.perform cache).2 calls

def cacheAfter : ParseFailCache → List ParseFailCall → ParseFailCache
  | cache, [] => cache
  | cache, call :: calls => cacheAfter (call.perform cache).2 calls

/-- The `n`-th call is `call`, and it is permitted. -/
def Permitted (calls : List ParseFailCall) (n : ℕ) (call : ParseFailCall) : Prop :=
  calls[n]? = some call ∧ (answers ∅ calls)[n]? = some true

/-- The calls with their answers. -/
def events (cache : ParseFailCache) (calls : List ParseFailCall) : List (Event String) :=
  (calls.map ParseFailCall.request).zip (answers cache calls)

theorem length_answers (cache : ParseFailCache) (calls : List ParseFailCall) :
    (answers cache calls).length = calls.length := by
  induction calls generalizing cache with
  | nil => rfl
  | cons call calls ih => simp [answers, ih]

theorem run_events (cache : ParseFailCache) (calls : List ParseFailCall) :
    Run parseFailLimiter (held cache) (events cache calls) (held (cacheAfter cache calls)) := by
  induction calls generalizing cache with
  | nil => exact .nil _
  | cons call calls ih =>
    exact .cons (shouldEmitParseFailed_step call.order call.now call.fingerprint cache) (ih _)

theorem len_cacheAfter_le (calls : List ParseFailCall) : len (cacheAfter ∅ calls) ≤ 256 := by
  have hremembers := (run_events ∅ calls).remembers remembers_nil
  rw [← card_held]
  exact hremembers.bounded

variable {calls : List ParseFailCall}

theorem getElem?_events_eq_some_iff {n : ℕ} {event : Event String} :
    (events ∅ calls)[n]? = some event ↔
      ∃ call, calls[n]? = some call ∧ call.request = event.1 ∧
        (answers ∅ calls)[n]? = some event.2 := by
  rw [events, List.getElem?_zip_eq_some, List.getElem?_map, Option.map_eq_some_iff]
  constructor
  · rintro ⟨⟨call, hcall, hrequest⟩, hanswer⟩
    exact ⟨call, hcall, hrequest, hanswer⟩
  · rintro ⟨call, hcall, hrequest, hanswer⟩
    exact ⟨⟨call, hcall, hrequest⟩, hanswer⟩

theorem Permitted.getElem?_events {n : ℕ} {call : ParseFailCall} (h : Permitted calls n call) :
    (events ∅ calls)[n]? = some (call.request, true) :=
  getElem?_events_eq_some_iff.mpr ⟨call, h.1, rfl, h.2⟩

theorem exists_permitted_of_mem_events {fingerprint : String} {now : ℕ}
    (h : (⟨fingerprint, now⟩, true) ∈ events ∅ calls) :
    ∃ n call, Permitted calls n call ∧ call.fingerprint = fingerprint ∧ call.now = now := by
  obtain ⟨n, hn⟩ := List.mem_iff_getElem?.mp h
  obtain ⟨call, hcall, hrequest, hanswer⟩ := getElem?_events_eq_some_iff.mp hn
  cases hrequest
  exact ⟨n, call, ⟨hcall, hanswer⟩, rfl, rfl⟩

theorem ordered_events (h : calls.Pairwise fun a b => a.now ≤ b.now) :
    Ordered (events ∅ calls) := by
  have hrequests : (events ∅ calls).map Prod.fst = calls.map ParseFailCall.request :=
    List.map_fst_zip (by simp [length_answers])
  have hinstants : (calls.map ParseFailCall.request).Pairwise fun a b => a.now ≤ b.now := by
    rw [List.pairwise_map]
    exact h
  rw [← hrequests, List.pairwise_map] at hinstants
  exact hinstants

theorem exists_split {α : Type} {l : List α} {i j : ℕ} {a b : α} (hij : i < j)
    (hi : l[i]? = some a) (hj : l[j]? = some b) :
    ∃ before between after, l = before ++ a :: (between ++ b :: after) := by
  obtain ⟨hlt, rfl⟩ := List.getElem?_eq_some_iff.mp hi
  have hmem : b ∈ l.drop (i + 1) := by
    refine List.mem_iff_getElem?.mpr ⟨j - (i + 1), ?_⟩
    rw [List.getElem?_drop, Nat.add_sub_cancel' hij, hj]
  obtain ⟨between, after, hsplit⟩ := List.append_of_mem hmem
  refine ⟨l.take i, between, after, ?_⟩
  rw [← hsplit, ← List.drop_eq_getElem_cons hlt, List.take_append_drop]

section

variable (order : HashOrder)

def fingerprintOf (k : ℕ) : String := String.ofList (List.replicate k 'f')

/-- One fingerprint at each instant, all of them different. -/
def arrivals (n : ℕ) : List ParseFailCall :=
  (List.range n).map fun k => ⟨k, fingerprintOf k, order⟩

def arrived (n : ℕ) : Finset (String × ℕ) := (Finset.range n).image fun k => (fingerprintOf k, k)

theorem fingerprintOf_injective : Function.Injective fingerprintOf := by
  intro k k' heq
  have hlists := String.ofList_injective heq
  simpa using congrArg List.length hlists

theorem mem_arrived {n : ℕ} {e : String × ℕ} :
    e ∈ arrived n ↔ e.2 < n ∧ fingerprintOf e.2 = e.1 := by
  rw [arrived, Finset.mem_image]
  constructor
  · rintro ⟨k, hk, rfl⟩
    exact ⟨Finset.mem_range.mp hk, rfl⟩
  · rintro ⟨hlt, hkey⟩
    exact ⟨e.2, Finset.mem_range.mpr hlt, by rw [hkey]⟩

theorem card_arrived (n : ℕ) : (arrived n).card = n := by
  rw [arrived, Finset.card_image_of_injective, Finset.card_range]
  intro k k' heq
  exact congrArg Prod.snd heq

/-- Nothing expires as early as this. -/
theorem live_of_le {now : ℕ} (h : now ≤ 257) (entries : Finset (String × ℕ)) :
    parseFailLimiter.live now entries = entries := by
  apply Finset.filter_true_of_mem
  intro e he
  have hwindow : 257 < parseFailLimiter.window := by decide
  exact lt_of_le_of_lt ((Nat.sub_le now e.2).trans h) hwindow

theorem cacheAfter_append (cache : ParseFailCache) (calls calls' : List ParseFailCall) :
    cacheAfter cache (calls ++ calls') = cacheAfter (cacheAfter cache calls) calls' := by
  induction calls generalizing cache with
  | nil => rfl
  | cons call calls ih => exact ih _

theorem answers_append (cache : ParseFailCache) (calls calls' : List ParseFailCall) :
    answers cache (calls ++ calls') =
      answers cache calls ++ answers (cacheAfter cache calls) calls' := by
  induction calls generalizing cache with
  | nil => rfl
  | cons call calls ih => simp [answers, cacheAfter, ih]

/-- A call behind others is permitted if the cache that they leave permits it. -/
theorem permitted_of_perform {call : ParseFailCall} {rest : List ParseFailCall}
    (h : (call.perform (cacheAfter ∅ calls)).1 = true) :
    Permitted (calls ++ call :: rest) calls.length call := by
  constructor
  · simp
  · rw [answers_append, ← length_answers ∅ calls]
    simp [answers, h]

theorem arrivals_succ (n : ℕ) :
    arrivals order (n + 1) = arrivals order n ++ [⟨n, fingerprintOf n, order⟩] := by
  simp [arrivals, List.range_succ]

theorem absent_arrived {n : ℕ} (hn : n ≤ 256) (since : ℕ) :
    (fingerprintOf n, since) ∉ parseFailLimiter.live n (arrived n) := by
  rw [live_of_le (by omega), mem_arrived]
  rintro ⟨hlt, hkey⟩
  exact absurd (fingerprintOf_injective hkey) hlt.ne

theorem held_arrivals {n : ℕ} (hn : n ≤ 256) :
    held (cacheAfter ∅ (arrivals order n)) = arrived n := by
  induction n with
  | zero => rfl
  | succ n ih =>
    have hstep := shouldEmitParseFailed_step order n (fingerprintOf n)
      (cacheAfter ∅ (arrivals order n))
    have hlive := live_of_le (by omega : n ≤ 257) (arrived n)
    rw [ih (by omega)] at hstep
    have hroom : (parseFailLimiter.live n (arrived n)).card < parseFailLimiter.capacity := by
      rw [hlive, card_arrived]
      exact hn
    have habsent := absent_arrived (by omega : n ≤ 256)
    rw [arrivals_succ, cacheAfter_append]
    refine (hstep.eq_insert habsent hroom).trans ?_
    rw [hlive, arrived, arrived, Finset.range_add_one, Finset.image_insert]

/-- The cache is full behind 256 fingerprints, and the next one takes the place of the first. -/
theorem held_arrivals_full {n : ℕ} (hn : n = 256) : held (cacheAfter ∅ (arrivals order (n + 1))) =
    insert (fingerprintOf n, n) ((arrived n).erase (fingerprintOf 0, 0)) := by
  have hstep := shouldEmitParseFailed_step order n (fingerprintOf n)
    (cacheAfter ∅ (arrivals order n))
  have hlive := live_of_le (by omega : n ≤ 257) (arrived n)
  have hfull : parseFailLimiter.capacity ≤ (parseFailLimiter.live n (arrived n)).card := by
    rw [hlive, card_arrived]
    exact hn.ge
  have hfirst : (fingerprintOf 0, 0) ∈ parseFailLimiter.live n (arrived n) := by
    rw [hlive, mem_arrived]
    exact ⟨by simp only; omega, rfl⟩
  have hleast : ∀ e ∈ parseFailLimiter.live n (arrived n), e.2 ≤ 0 →
      e = (fingerprintOf 0, 0) := by
    rw [hlive]
    rintro ⟨key, since⟩ he hle
    obtain rfl : since = 0 := Nat.le_zero.mp hle
    exact Prod.ext (mem_arrived.mp he).2.symm rfl
  rw [held_arrivals order hn.le] at hstep
  have hheld := hstep.eq_replace (absent_arrived hn.le) hfull hfirst hleast
  rw [hlive] at hheld
  rw [arrivals_succ, cacheAfter_append]
  exact hheld

/-- The first of 257 fingerprints comes back at once. -/
def comeback : List ParseFailCall := arrivals order 257 ++ [⟨257, fingerprintOf 0, order⟩]

theorem ordered_comeback : (comeback order).Pairwise fun a b => a.now ≤ b.now := by
  have harrivals : (arrivals order 257).Pairwise fun a b => a.now ≤ b.now := by
    rw [arrivals, List.pairwise_map]
    exact List.pairwise_lt_range.imp fun hlt => hlt.le
  rw [comeback, List.pairwise_append]
  refine ⟨harrivals, List.pairwise_singleton _ _, ?_⟩
  intro call hcall last hlast
  obtain ⟨k, hk, rfl⟩ := List.mem_map.mp hcall
  obtain rfl := List.mem_singleton.mp hlast
  exact (List.mem_range.mp hk).le

theorem length_arrivals (n : ℕ) : (arrivals order n).length = n := by
  simp [arrivals]

theorem permitted_comeback : Permitted (comeback order) 257 ⟨257, fingerprintOf 0, order⟩ := by
  have hstep := shouldEmitParseFailed_step order 257 (fingerprintOf 0)
    (cacheAfter ∅ (arrivals order 257))
  rw [held_arrivals_full order rfl] at hstep
  have hdropped : ∀ since, (fingerprintOf 0, since) ∉ parseFailLimiter.live 257
      (insert (fingerprintOf 256, 256) ((arrived 256).erase (fingerprintOf 0, 0))) := by
    intro since hmem
    rw [live_of_le le_rfl] at hmem
    rcases Finset.mem_insert.mp hmem with heq | hmem
    · exact absurd (fingerprintOf_injective (congrArg Prod.fst heq)) (by decide)
    · obtain ⟨hne, hmem⟩ := Finset.mem_erase.mp hmem
      have hsince : since = 0 := fingerprintOf_injective (mem_arrived.mp hmem).2
      exact hne (by rw [hsince])
  have hpermitted : Permitted (comeback order) (arrivals order 257).length _ :=
    permitted_of_perform (hstep.admitted hdropped)
  rwa [length_arrivals] at hpermitted

theorem permitted_first : Permitted (comeback order) 0 ⟨0, fingerprintOf 0, order⟩ := by
  have hcons : ∃ rest, comeback order = ⟨0, fingerprintOf 0, order⟩ :: rest := by
    rw [comeback, arrivals, List.range_succ_eq_map]
    exact ⟨_, rfl⟩
  obtain ⟨rest, hcons⟩ := hcons
  have hstep := shouldEmitParseFailed_step order 0 (fingerprintOf 0) ∅
  rw [hcons]
  have hempty : ∀ since, (fingerprintOf 0, since) ∉ parseFailLimiter.live 0 (held ∅) := by
    intro since hmem
    cases (Limiter.mem_live.mp hmem).1
  have hpermitted : Permitted ([] ++ ⟨0, fingerprintOf 0, order⟩ :: rest) 0 _ :=
    permitted_of_perform (hstep.admitted hempty)
  exact hpermitted

end

/-- The cache of the limiter stays bounded, and a fingerprint is reported twice within a minute
only if 256 others are reported in between. -/
theorem parse_failure_limiter (calls : List ParseFailCall)
    (hordered : calls.Pairwise fun a b => a.now ≤ b.now) :
    (∀ n, len (cacheAfter ∅ (calls.take n)) ≤ 256) ∧
    ∀ i j first second, i < j → Permitted calls i first → Permitted calls j second →
      first.fingerprint = second.fingerprint → second.now - first.now < Duration.fromSecs 60 →
        ∃ others : Finset String, 256 ≤ others.card ∧ first.fingerprint ∉ others ∧
          ∀ other ∈ others, ∃ n call, Permitted calls n call ∧ call.fingerprint = other ∧
            first.now ≤ call.now ∧ call.now ≤ second.now := by
  refine ⟨fun n => len_cacheAfter_le _, ?_⟩
  intro i j first second hij hfirst hsecond hsame hclose
  obtain ⟨before, between, after, hsplit⟩ :=
    exists_split hij hfirst.getElem?_events hsecond.getElem?_events
  have hrun := run_events ∅ calls
  have hevents := ordered_events hordered
  rw [ParseFailCall.request, ParseFailCall.request, ← hsame] at hsplit
  rw [hsplit] at hrun hevents
  obtain ⟨others, hcard, hself, hothers⟩ := hrun.readmitted hclose hevents
  refine ⟨others, hcard, hself, fun other hother => ?_⟩
  obtain ⟨since, hlow, hhigh, hmem⟩ := hothers other hother
  rw [← hsplit] at hmem
  obtain ⟨n, call, hpermitted, rfl, rfl⟩ := exists_permitted_of_mem_events hmem
  exact ⟨n, call, hpermitted, rfl, hlow, hhigh⟩

def entryOrder : HashOrder where
  iter cache := cache.entries
  perm _ := .refl _

theorem parse_failure_limiter_comeback :
    (comeback entryOrder).Pairwise (fun a b => a.now ≤ b.now) ∧
    ∃ others : Finset String, 256 ≤ others.card ∧ fingerprintOf 0 ∉ others ∧
      ∀ other ∈ others, ∃ n call, Permitted (comeback entryOrder) n call ∧
        call.fingerprint = other ∧ 0 ≤ call.now ∧ call.now ≤ 257 := by
  have hordered := ordered_comeback entryOrder
  have hlimiter := (parse_failure_limiter (comeback entryOrder) hordered).2
  exact ⟨hordered, hlimiter 0 257 _ _ (by decide) (permitted_first entryOrder)
    (permitted_comeback entryOrder) rfl (by decide)⟩

end PamCertauth.ParseFailureAudits
