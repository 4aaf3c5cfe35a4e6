import Mathlib.Data.Finset.Card

/-!
# Admission windows

A limiter admits a key and remembers when it did. While a key is remembered, it is refused. It
is forgotten when the window behind its admission has passed, or when the limiter is full and
it is one of the oldest keys. Which one of the oldest keys makes room is left open.

The limiter never remembers more keys than it has places. A key can come back within its
window, but only if as many other keys as there are places were admitted in between.
-/

namespace PamCertauth.AdmissionWindows

structure Limiter where
  window : ℕ
  capacity : ℕ
  capacity_pos : 0 < capacity

structure Request (K : Type) where
  key : K
  now : ℕ
  deriving DecidableEq

/-- A request with its answer. -/
abbrev Event (K : Type) := Request K × Bool

section Histories

variable {K : Type} {L : Limiter} {held held' : Finset (K × ℕ)} {history : List (Event K)}

/-- The admissions whose window is still open. -/
def Limiter.live (L : Limiter) (now : ℕ) (held : Finset (K × ℕ)) : Finset (K × ℕ) :=
  held.filter fun e => now - e.2 < L.window

theorem Limiter.mem_live {now : ℕ} {e : K × ℕ} :
    e ∈ L.live now held ↔ e ∈ held ∧ now - e.2 < L.window := by
  rw [live, Finset.mem_filter]

theorem Limiter.card_live_le (now : ℕ) : (L.live now held).card ≤ held.card :=
  Finset.card_filter_le _ _

/-- The requests come at instants that do not go back. -/
def Ordered (history : List (Event K)) : Prop :=
  history.Pairwise fun a b => a.1.now ≤ b.1.now

/-- The limiter remembers admissions of the history, one for each key, and not too many. -/
structure Remembers (L : Limiter) (history : List (Event K)) (held : Finset (K × ℕ)) : Prop where
  admitted : ∀ e ∈ held, (⟨e.1, e.2⟩, true) ∈ history
  unique : ∀ e ∈ held, ∀ e' ∈ held, e.1 = e'.1 → e = e'
  bounded : held.card ≤ L.capacity

theorem remembers_nil : Remembers L ([] : List (Event K)) ∅ :=
  ⟨by simp, by simp, by simp⟩

theorem Remembers.mono {event : Event K} (h : Remembers L history held) (hsub : held' ⊆ held) :
    Remembers L (history ++ [event]) held' where
  admitted e he := List.mem_append_left _ (h.admitted e (hsub he))
  unique e he e' he' := h.unique e (hsub he) e' (hsub he')
  bounded := (Finset.card_le_card hsub).trans h.bounded

/-- As many other keys as there are places were admitted, at instants from `first` to `last`. -/
def Crowded (L : Limiter) (history : List (Event K)) (key : K) (first last : ℕ) : Prop :=
  ∃ others : Finset K, L.capacity ≤ others.card ∧ key ∉ others ∧
    ∀ other ∈ others, ∃ since, first ≤ since ∧ since ≤ last ∧ (⟨other, since⟩, true) ∈ history

theorem Crowded.mono {history' : List (Event K)} {key : K} {first last last' : ℕ}
    (h : Crowded L history key first last) (hsub : history ⊆ history') (hlast : last ≤ last') :
    Crowded L history' key first last' := by
  obtain ⟨others, hcard, hkey, hothers⟩ := h
  refine ⟨others, hcard, hkey, fun other hother => ?_⟩
  obtain ⟨since, hfirst, hsince, hmem⟩ := hothers other hother
  exact ⟨since, hfirst, hsince.trans hlast, hsub hmem⟩

end Histories

variable {K : Type} [DecidableEq K] {L : Limiter} {held held' : Finset (K × ℕ)}

inductive Step (L : Limiter) (held : Finset (K × ℕ)) (r : Request K) :
    Bool → Finset (K × ℕ) → Prop where
  | refuse {since : ℕ} (present : (r.key, since) ∈ L.live r.now held) :
      Step L held r false (L.live r.now held)
  | accept (absent : ∀ since, (r.key, since) ∉ L.live r.now held)
      (room : (L.live r.now held).card < L.capacity) :
      Step L held r true (insert (r.key, r.now) (L.live r.now held))
  | replace {oldest : K × ℕ} (absent : ∀ since, (r.key, since) ∉ L.live r.now held)
      (full : L.capacity ≤ (L.live r.now held).card) (mem : oldest ∈ L.live r.now held)
      (least : ∀ e ∈ L.live r.now held, oldest.2 ≤ e.2) :
      Step L held r true (insert (r.key, r.now) ((L.live r.now held).erase oldest))

inductive Run (L : Limiter) : Finset (K × ℕ) → List (Event K) → Finset (K × ℕ) → Prop where
  | nil (held : Finset (K × ℕ)) : Run L held [] held
  | cons {held held₁ held' : Finset (K × ℕ)} {r : Request K} {answer : Bool}
      {events : List (Event K)} (step : Step L held r answer held₁)
      (run : Run L held₁ events held') : Run L held ((r, answer) :: events) held'

theorem Run.append_inv {events events' : List (Event K)}
    (h : Run L held (events ++ events') held') :
    ∃ held₁, Run L held events held₁ ∧ Run L held₁ events' held' := by
  induction events generalizing held with
  | nil => exact ⟨held, .nil held, h⟩
  | cons e events ih =>
    cases h with
    | cons step run =>
      obtain ⟨held₁, hfirst, hsecond⟩ := ih run
      exact ⟨held₁, .cons step hfirst, hsecond⟩

variable {history : List (Event K)} {r : Request K} {answer : Bool}

/-- An admission fits into what is left. -/
theorem Remembers.insert (h : Remembers L history held) (hsub : held' ⊆ held)
    (habsent : ∀ since, (r.key, since) ∉ held') (hroom : held'.card < L.capacity) :
    Remembers L (history ++ [(r, true)]) (insert (r.key, r.now) held') := by
  have hother : ∀ e ∈ held', e.1 ≠ r.key := by
    rintro ⟨key, since⟩ he rfl
    exact habsent since he
  constructor
  · intro e he
    rcases Finset.mem_insert.mp he with rfl | he
    · simp
    · exact List.mem_append_left _ (h.admitted e (hsub he))
  · intro e he e' he' hkey
    rcases Finset.mem_insert.mp he with rfl | he <;> rcases Finset.mem_insert.mp he' with rfl | he'
    · rfl
    · exact absurd hkey.symm (hother e' he')
    · exact absurd hkey (hother e he)
    · exact h.unique e (hsub he) e' (hsub he') hkey
  · exact (Finset.card_insert_le _ _).trans hroom

theorem Remembers.card_keys (h : Remembers L history held) (hsub : held' ⊆ held) :
    (held'.image Prod.fst).card = held'.card := by
  apply Finset.card_image_of_injOn
  intro e he e' he' hkey
  exact h.unique e (hsub he) e' (hsub he') hkey

theorem Step.remembers (hstep : Step L held r answer held') (h : Remembers L history held) :
    Remembers L (history ++ [(r, answer)]) held' := by
  have hlive : L.live r.now held ⊆ held := Finset.filter_subset _ _
  cases hstep with
  | refuse => exact h.mono hlive
  | accept absent room => exact h.insert hlive absent room
  | replace absent full mem least =>
    apply h.insert ((Finset.erase_subset _ _).trans hlive)
    · exact fun since hmem => absent since (Finset.mem_of_mem_erase hmem)
    · have hcard := Finset.card_erase_of_mem mem
      have hbound := (L.card_live_le r.now).trans h.bounded
      have hpos := L.capacity_pos
      omega

theorem Run.remembers {events : List (Event K)} (hrun : Run L held events held')
    (h : Remembers L history held) : Remembers L (history ++ events) held' := by
  induction hrun generalizing history with
  | nil => simpa using h
  | cons step run ih => simpa using ih (step.remembers h)

/-- An admission that is dropped within its window makes room for another key, and nothing that
is remembered then is older. -/
theorem Step.dropped {e : K × ℕ} (hstep : Step L held r answer held') (hmem : e ∈ held)
    (hopen : r.now - e.2 < L.window) (hdropped : e ∉ held') :
    answer = true ∧ (∀ since, (r.key, since) ∉ L.live r.now held) ∧
      L.capacity ≤ (L.live r.now held).card ∧ ∀ e' ∈ L.live r.now held, e.2 ≤ e'.2 := by
  have hlive : e ∈ L.live r.now held := Limiter.mem_live.mpr ⟨hmem, hopen⟩
  cases hstep with
  | refuse => exact absurd hlive hdropped
  | accept => exact absurd (Finset.mem_insert_of_mem hlive) hdropped
  | @replace oldest absent full mem least =>
    have heq : e = oldest := by
      by_contra hne
      exact hdropped (Finset.mem_insert_of_mem (Finset.mem_erase.mpr ⟨hne, hlive⟩))
    subst heq
    exact ⟨rfl, absent, full, least⟩

theorem Step.crowded {e : K × ℕ} (hstep : Step L held r answer held')
    (h : Remembers L history held) (hmem : e ∈ held) (hopen : r.now - e.2 < L.window)
    (hlast : ∀ event ∈ history, event.1.now ≤ r.now) (hdropped : e ∉ held') :
    Crowded L (history ++ [(r, answer)]) e.1 e.2 r.now := by
  obtain ⟨rfl, habsent, hfull, hleast⟩ := hstep.dropped hmem hopen hdropped
  have hlive : e ∈ L.live r.now held := Limiter.mem_live.mpr ⟨hmem, hopen⟩
  have hsub : L.live r.now held ⊆ held := Finset.filter_subset _ _
  have hcomes : r.key ∉ (L.live r.now held).image Prod.fst := by
    intro hkey
    obtain ⟨⟨_, since⟩, he', rfl⟩ := Finset.mem_image.mp hkey
    exact habsent since he'
  have hgoes : e.1 ∈ (L.live r.now held).image Prod.fst := Finset.mem_image_of_mem _ hlive
  -- The other keys are those that stay, and the one that comes.
  refine ⟨insert r.key (((L.live r.now held).image Prod.fst).erase e.1), ?_, ?_, ?_⟩
  · rw [Finset.card_insert_of_notMem fun hkey => hcomes (Finset.mem_of_mem_erase hkey),
      Finset.card_erase_of_mem hgoes, h.card_keys hsub]
    omega
  · intro hkey
    rcases Finset.mem_insert.mp hkey with hkey | hkey
    · exact hcomes (hkey ▸ hgoes)
    · exact Finset.notMem_erase _ _ hkey
  · intro other hother
    rcases Finset.mem_insert.mp hother with rfl | hother
    · exact ⟨r.now, hlast _ (h.admitted e hmem), le_rfl, by simp⟩
    · obtain ⟨e', he', rfl⟩ := Finset.mem_image.mp (Finset.mem_of_mem_erase hother)
      have hadmitted := h.admitted e' (hsub he')
      exact ⟨e'.2, hleast e' he', hlast _ hadmitted, List.mem_append_left _ hadmitted⟩

/-- A key that is remembered within its window is refused. -/
theorem Step.not_admitted {since : ℕ} (hstep : Step L held r answer held')
    (hmem : (r.key, since) ∈ held) (hopen : r.now - since < L.window) : answer = false := by
  have hlive : (r.key, since) ∈ L.live r.now held := Limiter.mem_live.mpr ⟨hmem, hopen⟩
  cases hstep with
  | refuse => rfl
  | accept absent => exact absurd hlive (absent since)
  | replace absent => exact absurd hlive (absent since)

/-- An admission that is not remembered any more when its key is admitted again was dropped on
the way, and the induction goes along the requests up to that one. -/
theorem Run.crowded {key : K} {first last : ℕ} {events : List (Event K)}
    (hrun : Run L held (events ++ [(⟨key, last⟩, true)]) held') (h : Remembers L history held)
    (hmem : (key, first) ∈ held) (hopen : last - first < L.window)
    (hordered : Ordered (history ++ (events ++ [(⟨key, last⟩, true)]))) :
    Crowded L (history ++ events) key first last := by
  induction events generalizing held history with
  | nil =>
    cases hrun with
    | cons step run => exact absurd (step.not_admitted hmem hopen) (by simp)
  | cons event events ih =>
    cases hrun with
    | @cons _ held₁ _ r answer _ step run =>
      have hlast : r.now ≤ last := by
        have htail := (List.pairwise_append.mp hordered).2.1
        have hagain : (⟨key, last⟩, true) ∈ events ++ [(⟨key, last⟩, true)] := by simp
        exact List.rel_of_pairwise_cons htail hagain
      have hbefore : ∀ event ∈ history, event.1.now ≤ r.now := fun event he =>
        (List.pairwise_append.mp hordered).2.2 event he (r, answer) (by simp)
      by_cases hkept : (key, first) ∈ held₁
      · have hrest := ih run (step.remembers h) hkept (by simpa using hordered)
        simpa using hrest
      · have hcrowded := step.crowded h hmem (by simp only; omega) hbefore hkept
        exact hcrowded.mono (by simp) hlast

/-- A key that is not remembered is admitted. -/
theorem Step.admitted (hstep : Step L held r answer held')
    (habsent : ∀ since, (r.key, since) ∉ L.live r.now held) : answer = true := by
  cases hstep with
  | refuse present => exact absurd present (habsent _)
  | accept => rfl
  | replace => rfl

theorem Step.eq_insert (hstep : Step L held r answer held')
    (habsent : ∀ since, (r.key, since) ∉ L.live r.now held)
    (hroom : (L.live r.now held).card < L.capacity) :
    held' = insert (r.key, r.now) (L.live r.now held) := by
  cases hstep with
  | refuse present => exact absurd present (habsent _)
  | accept => rfl
  | replace _ full => exact absurd hroom (not_lt.mpr full)

/-- A full limiter drops its oldest admission if there is only one. -/
theorem Step.eq_replace {oldest : K × ℕ} (hstep : Step L held r answer held')
    (habsent : ∀ since, (r.key, since) ∉ L.live r.now held)
    (hfull : L.capacity ≤ (L.live r.now held).card) (hmem : oldest ∈ L.live r.now held)
    (hleast : ∀ e ∈ L.live r.now held, e.2 ≤ oldest.2 → e = oldest) :
    held' = insert (r.key, r.now) ((L.live r.now held).erase oldest) := by
  cases hstep with
  | refuse present => exact absurd present (habsent _)
  | accept _ room => exact absurd room (not_lt.mpr hfull)
  | @replace dropped _ _ mem least =>
    have heq : dropped = oldest := hleast dropped mem (least oldest hmem)
    rw [heq]

theorem Step.mem_of_admitted (hstep : Step L held r true held') : (r.key, r.now) ∈ held' := by
  cases hstep with
  | accept => exact Finset.mem_insert_self _ _
  | replace => exact Finset.mem_insert_self _ _

/-- A key that is admitted twice within a window has been crowded out in between. -/
theorem Run.readmitted {key : K} {first last : ℕ} {before between after : List (Event K)}
    (hrun : Run L ∅ (before ++ (⟨key, first⟩, true) :: (between ++ (⟨key, last⟩, true) :: after))
      held')
    (hopen : last - first < L.window)
    (hordered : Ordered
      (before ++ (⟨key, first⟩, true) :: (between ++ (⟨key, last⟩, true) :: after))) :
    Crowded L (before ++ (⟨key, first⟩, true) :: (between ++ (⟨key, last⟩, true) :: after))
      key first last := by
  obtain ⟨held₀, hbefore, hrest⟩ := hrun.append_inv
  cases hrest with
  | @cons _ held₁ _ _ _ _ step run =>
    have hremembers : Remembers L (before ++ [(⟨key, first⟩, true)]) held₁ := by
      simpa using step.remembers (hbefore.remembers remembers_nil)
    have hsplit : between ++ (⟨key, last⟩, true) :: after =
        (between ++ [(⟨key, last⟩, true)]) ++ after := by simp
    rw [hsplit] at run
    obtain ⟨held₂, hbetween, -⟩ := run.append_inv
    have hcut : Ordered
        (before ++ [(⟨key, first⟩, true)] ++ (between ++ [(⟨key, last⟩, true)])) := by
      refine hordered.sublist ?_
      simp
    refine (hbetween.crowded hremembers step.mem_of_admitted hopen hcut).mono ?_ le_rfl
    have hassoc : before ++ (⟨key, first⟩, true) :: (between ++ (⟨key, last⟩, true) :: after) =
        before ++ [(⟨key, first⟩, true)] ++ between ++ (⟨key, last⟩, true) :: after := by simp
    rw [hassoc]
    exact List.subset_append_left _ _

end PamCertauth.AdmissionWindows
