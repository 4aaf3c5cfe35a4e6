import Mathlib.Data.List.Basic
import Mathlib.Order.Nat
import Mathlib.Logic.Function.Basic
import Mathlib.Logic.Relation

/-!
# A server and its clients

A server takes requests off one queue and answers each before it takes the next. A client asks
one thing at a time: it waits for the answer, or gives up and goes on, and its request is then
handled all the same. Requests may also come from elsewhere and expect no answer. When the server
stops, what is queued is dropped, and so is every answer that a client still waits for.

In every order of these steps the requests are handled in the order in which they were asked, and
each answer is the one that the server gives at that point of a single run.
-/

namespace PamCertauth.SerialServers

/-- What a server does with an input, which carries a request or stops it, and what a client
makes of a server that is gone and of an answer that does not come. -/
structure Server (M I R B : Type) where
  next : M → I → M
  reply : M → I → B
  Takes : I → R → Prop
  Halts : I → Prop
  refused : B
  lost : B

/-- A request, and the client and the number of the request there, if it expects an answer. -/
structure Item (ι R : Type) where
  sender : Option (ι × ℕ)
  request : R

/-- What has become of the last request of a client. -/
inductive Slot (B : Type) where
  | free
  | waiting
  | filled (answer : B)
  | dropped

structure Client (B : Type) where
  answers : List B
  slot : Slot B

namespace Client

variable {ι R B : Type} [DecidableEq ι]

/-- The number of requests that were made. -/
def asked (c : Client B) : ℕ :=
  match c.slot with
  | .free => c.answers.length
  | _ => c.answers.length + 1

def ask (c : Client B) : Client B := { c with slot := .waiting }

/-- The answer to a request reaches the client if it still waits for it. -/
def deliver (i : ι) (item : Item ι R) (answer : B) (c : Client B) : Client B :=
  match c.slot with
  | .waiting =>
    if item.sender = some (i, c.answers.length) then { c with slot := .filled answer } else c
  | _ => c

def drop (c : Client B) : Client B :=
  match c.slot with
  | .waiting => { c with slot := .dropped }
  | _ => c

def take (c : Client B) (answer : B) : Client B := ⟨c.answers ++ [answer], .free⟩

theorem length_le_asked (c : Client B) : c.answers.length ≤ c.asked := by
  rw [asked]
  split <;> omega

theorem asked_le (c : Client B) : c.asked ≤ c.answers.length + 1 := by
  rw [asked]
  split <;> omega

theorem asked_of_free {c : Client B} (h : c.slot = .free) : c.asked = c.answers.length := by
  rw [asked, h]

@[simp] theorem asked_ask (c : Client B) : c.ask.asked = c.answers.length + 1 := rfl

@[simp] theorem asked_take (c : Client B) (b : B) : (c.take b).asked = c.answers.length + 1 := by
  simp [asked, take]

theorem deliver_of_ne {i : ι} {item : Item ι R} {b : B} {c : Client B}
    (h : item.sender ≠ some (i, c.answers.length)) : c.deliver i item b = c := by
  rw [deliver]
  split
  · rw [if_neg h]
  · rfl

theorem deliver_of_not_waiting {i : ι} {item : Item ι R} {b : B} {c : Client B}
    (h : c.slot ≠ .waiting) : c.deliver i item b = c := by
  rw [deliver]
  split
  · exact absurd ‹_› h
  · rfl

end Client

/-- The server and its queue, the clients, and what was put into the queue and taken off it. -/
structure State (ι M I R B : Type) where
  server : M
  running : Bool
  queue : List (Item ι R)
  sent : List (Item ι R)
  handled : List (Item ι R × I)
  clients : ι → Client B

namespace State

variable {ι M I R B : Type}

def start (m : M) : State ι M I R B := ⟨m, true, [], [], [], fun _ => ⟨[], .free⟩⟩

def put (s : State ι M I R B) (item : Item ι R) : State ι M I R B :=
  { s with queue := s.queue ++ [item], sent := s.sent ++ [item] }

def setClient [DecidableEq ι] (s : State ι M I R B) (i : ι) (c : Client B) : State ι M I R B :=
  { s with clients := Function.update s.clients i c }

end State

section

variable {ι M I R B : Type} [DecidableEq ι] (sv : Server M I R B) (Asks : ι → List B → R → Prop)

/-- One step of the system. `Asks` says what a client may ask after the answers it has got. -/
inductive Step : State ι M I R B → State ι M I R B → Prop where
  | ask {s : State ι M I R B} {i : ι} {r : R} (running : s.running = true)
      (free : (s.clients i).slot = .free) (asks : Asks i (s.clients i).answers r) :
      Step s ((s.put ⟨some (i, (s.clients i).answers.length), r⟩).setClient i (s.clients i).ask)
  | refuse {s : State ι M I R B} {i : ι} {r : R} (halted : s.running = false)
      (free : (s.clients i).slot = .free) (asks : Asks i (s.clients i).answers r) :
      Step s (s.setClient i ((s.clients i).take sv.refused))
  | post {s : State ι M I R B} {r : R} (running : s.running = true) : Step s (s.put ⟨none, r⟩)
  | handle {s : State ι M I R B} {item : Item ι R} {rest : List (Item ι R)} {input : I}
      (running : s.running = true) (queue : s.queue = item :: rest)
      (takes : sv.Takes input item.request) :
      Step s
        { s with
          server := sv.next s.server input
          queue := rest
          handled := s.handled ++ [(item, input)]
          clients := fun i => (s.clients i).deliver i item (sv.reply s.server input) }
  | halt {s : State ι M I R B} {input : I} (running : s.running = true)
      (halts : sv.Halts input) :
      Step s
        { s with
          server := sv.next s.server input
          running := false
          queue := []
          clients := fun i => (s.clients i).drop }
  | receive {s : State ι M I R B} {i : ι} {answer : B}
      (slot : (s.clients i).slot = .filled answer) :
      Step s (s.setClient i ((s.clients i).take answer))
  | giveUp {s : State ι M I R B} {i : ι}
      (slot : (s.clients i).slot = .waiting ∨ (s.clients i).slot = .dropped) :
      Step s (s.setClient i ((s.clients i).take sv.lost))

/-- The second state can be reached from the first. -/
def Reaches : State ι M I R B → State ι M I R B → Prop := Relation.ReflTransGen (Step sv Asks)

end

/-- A client that asks nothing stays idle. -/
theorem free_of_step {ι M I R B : Type} [DecidableEq ι] {sv : Server M I R B}
    {Asks : ι → List B → R → Prop} {s s' : State ι M I R B} {i : ι} (hstep : Step sv Asks s s')
    (hfree : (s.clients i).slot = .free) (hasked : (s'.clients i).asked = (s.clients i).asked) :
    (s'.clients i).slot = .free := by
  have hupdate : ∀ {j : ι} {c : Client B}, (j = i → c.slot = .free) →
      (Function.update s.clients j c i).slot = .free := by
    intro j c hc
    by_cases hj : i = j
    · subst hj
      rw [Function.update_self]
      exact hc rfl
    · rw [Function.update_of_ne hj]
      exact hfree
  cases hstep with
  | @ask j r =>
    refine hupdate fun hj => ?_
    subst hj
    simp only [State.setClient, State.put, Function.update_self, Client.asked_ask,
      Client.asked_of_free hfree] at hasked
    omega
  | refuse | receive | giveUp => exact hupdate fun _ => rfl
  | post => exact hfree
  | handle =>
    simp only [Client.deliver, hfree]
  | halt =>
    simp only [Client.drop, hfree]

section

variable {ι M I R B : Type} (sv : Server M I R B) (m₀ : M)

/-- The server when it has handled these requests. -/
def after (handled : List (Item ι R × I)) : M := handled.foldl (fun m h => sv.next m h.2) m₀

/-- The request with this number was handled, and this is the server's answer. -/
def Replied (handled : List (Item ι R × I)) (i : ι) (k : ℕ) (b : B) : Prop :=
  ∃ front r input back, handled = front ++ (⟨some (i, k), r⟩, input) :: back ∧
    sv.Takes input r ∧ b = sv.reply (after sv m₀ front) input

/-- The number of a request of the client. -/
def numberOf [DecidableEq ι] (i : ι) (item : Item ι R) : Option ℕ :=
  item.sender.bind fun sender => if sender.1 = i then some sender.2 else none

variable {sv m₀}

theorem Replied.mono {handled handled' : List (Item ι R × I)} {i : ι} {k : ℕ} {b : B}
    (h : Replied sv m₀ handled i k b) (hmore : handled <+: handled') :
    Replied sv m₀ handled' i k b := by
  obtain ⟨front, r, input, back, rfl, htakes, rfl⟩ := h
  obtain ⟨more, rfl⟩ := hmore
  exact ⟨front, r, input, back ++ more, by simp, htakes, rfl⟩

theorem replied_concat {handled : List (Item ι R × I)} {i : ι} {k : ℕ} {r : R} {input : I}
    (htakes : sv.Takes input r) :
    Replied sv m₀ (handled ++ [(⟨some (i, k), r⟩, input)]) i k
      (sv.reply (after sv m₀ handled) input) :=
  ⟨handled, r, input, [], rfl, htakes, rfl⟩

theorem numberOf_eq_some_iff [DecidableEq ι] {i : ι} {item : Item ι R} {k : ℕ} :
    numberOf i item = some k ↔ item.sender = some (i, k) := by
  rcases item with ⟨_ | ⟨j, l⟩, r⟩
  · simp [numberOf]
  · by_cases h : j = i <;> simp [numberOf, h]

variable [DecidableEq ι] {Asks : ι → List B → R → Prop}

/-- The requests of a client are in the queue or behind it, once each and in their order, and
every answer is the server's or says that there is none. -/
structure ClientSound (sv : Server M I R B) (Asks : ι → List B → R → Prop) (m₀ : M)
    (s : State ι M I R B) (i : ι) (c : Client B) : Prop where
  asks : ∀ k r, ⟨some (i, k), r⟩ ∈ s.sent → k < c.asked ∧ Asks i (c.answers.take k) r
  increasing : (s.sent.filterMap (numberOf i)).Pairwise (· < ·)
  accepted : ∀ k, k < c.asked →
    c.answers[k]? = some sv.refused ∧ s.running = false ∨ ∃ r, ⟨some (i, k), r⟩ ∈ s.sent
  answered : ∀ k b, c.answers[k]? = some b →
    b = sv.refused ∧ s.running = false ∨ b = sv.lost ∨ Replied sv m₀ s.handled i k b
  waiting : c.slot = .waiting → ∃ r, ⟨some (i, c.answers.length), r⟩ ∈ s.queue
  filled : ∀ b, c.slot = .filled b → Replied sv m₀ s.handled i c.answers.length b

/-- Nothing is lost or handled twice while the server runs. -/
structure Sound (sv : Server M I R B) (Asks : ι → List B → R → Prop) (m₀ : M)
    (s : State ι M I R B) : Prop where
  running : s.running = true →
    s.sent = s.handled.map Prod.fst ++ s.queue ∧ s.server = after sv m₀ s.handled
  halted : s.running = false →
    s.handled.map Prod.fst <+: s.sent ∧
      ∃ input, sv.Halts input ∧ s.server = sv.next (after sv m₀ s.handled) input
  takes : ∀ h ∈ s.handled, sv.Takes h.2 h.1.request
  clients : ∀ i, ClientSound sv Asks m₀ s i (s.clients i)

variable {s : State ι M I R B} {i : ι} {c : Client B}

namespace ClientSound

/-- A request of somebody else does not concern the client. -/
theorem put_other (h : ClientSound sv Asks m₀ s i c) {item : Item ι R}
    (hitem : numberOf i item = none) : ClientSound sv Asks m₀ (s.put item) i c where
  asks k r hmem := by
    rcases List.mem_append.mp hmem with hmem | hmem
    · exact h.asks k r hmem
    · rw [← List.mem_singleton.mp hmem, numberOf_eq_some_iff.mpr rfl] at hitem
      cases hitem
  increasing := by
    rw [State.put, List.filterMap_append]
    simpa [hitem] using h.increasing
  accepted k hk :=
    (h.accepted k hk).imp_right fun ⟨r, hmem⟩ => ⟨r, List.mem_append_left _ hmem⟩
  answered := h.answered
  waiting hslot := by
    obtain ⟨r, hmem⟩ := h.waiting hslot
    exact ⟨r, List.mem_append_left _ hmem⟩
  filled := h.filled

/-- The client asks, and waits from now on. -/
theorem put_own (h : ClientSound sv Asks m₀ s i c) (hfree : c.slot = .free) {r : R}
    (hasks : Asks i c.answers r) :
    ClientSound sv Asks m₀ (s.put ⟨some (i, c.answers.length), r⟩) i c.ask where
  asks k r' hmem := by
    rcases List.mem_append.mp hmem with hmem | hmem
    · obtain ⟨hk, hasks'⟩ := h.asks k r' hmem
      rw [Client.asked_of_free hfree] at hk
      exact ⟨Nat.lt_succ_of_lt hk, hasks'⟩
    · cases List.mem_singleton.mp hmem
      refine ⟨Nat.lt_succ_self _, ?_⟩
      have htake : c.ask.answers.take c.answers.length = c.answers := List.take_length
      rw [htake]
      exact hasks
  increasing := by
    have hnumber : numberOf i (⟨some (i, c.answers.length), r⟩ : Item ι R) =
        some c.answers.length := numberOf_eq_some_iff.mpr rfl
    have hlast : ([⟨some (i, c.answers.length), r⟩] : List (Item ι R)).filterMap (numberOf i) =
        [c.answers.length] := by
      rw [List.filterMap_cons_some hnumber, List.filterMap_nil]
    rw [State.put, List.filterMap_append, hlast]
    refine List.pairwise_append.mpr ⟨h.increasing, List.pairwise_singleton _ _, ?_⟩
    intro k hk l hl
    obtain ⟨item, hmem, hnumber⟩ := List.mem_filterMap.mp hk
    have hitem : item = ⟨some (i, k), item.request⟩ := by
      rw [← numberOf_eq_some_iff.mp hnumber]
    rw [hitem] at hmem
    have hlt := (h.asks k item.request hmem).1
    rw [Client.asked_of_free hfree] at hlt
    rw [List.mem_singleton.mp hl]
    exact hlt
  accepted k hk := by
    rw [Client.asked_ask] at hk
    rcases Nat.lt_succ_iff_lt_or_eq.mp hk with hk | rfl
    · rw [← Client.asked_of_free hfree] at hk
      exact (h.accepted k hk).imp_right fun ⟨r, hmem⟩ => ⟨r, List.mem_append_left _ hmem⟩
    · exact .inr ⟨r, List.mem_append_right _ (List.mem_singleton_self _)⟩
  answered := h.answered
  waiting _ := ⟨r, List.mem_append_right _ (List.mem_singleton_self _)⟩
  filled b hslot := by cases hslot

/-- The server handles the next request, and the client gets the answer if it waits for it. -/
theorem handle (h : ClientSound sv Asks m₀ s i c) {item : Item ι R} {rest : List (Item ι R)}
    {input : I} (hqueue : s.queue = item :: rest) (hserver : s.server = after sv m₀ s.handled)
    (htakes : sv.Takes input item.request) (clients : ι → Client B) :
    ClientSound sv Asks m₀
      { s with
        server := sv.next s.server input
        queue := rest
        handled := s.handled ++ [(item, input)]
        clients := clients } i (c.deliver i item (sv.reply s.server input)) := by
  have hmono := List.prefix_append s.handled [(item, input)]
  have hanswered : ∀ k b, c.answers[k]? = some b → b = sv.refused ∧ s.running = false ∨
      b = sv.lost ∨ Replied sv m₀ (s.handled ++ [(item, input)]) i k b := by
    intro k b hk
    rcases h.answered k b hk with hrefused | hlost | hreplied
    · exact .inl hrefused
    · exact .inr (.inl hlost)
    · exact .inr (.inr (hreplied.mono hmono))
  by_cases hslot : c.slot = .waiting
  · by_cases hsender : item.sender = some (i, c.answers.length)
    · have hdeliver : c.deliver i item (sv.reply s.server input) =
          { c with slot := .filled (sv.reply s.server input) } := by
        rw [Client.deliver, hslot]
        exact if_pos hsender
      have hasked : ({ c with slot := .filled (sv.reply s.server input) } : Client B).asked =
          c.asked := by
        simp only [Client.asked, hslot]
      rw [hdeliver]
      refine ⟨fun k r hmem => ?_, h.increasing, fun k hk => ?_, hanswered,
        fun hw => (nomatch hw), ?_⟩
      · rw [hasked]
        exact h.asks k r hmem
      · rw [hasked] at hk
        exact h.accepted k hk
      · intro b hfilled
        cases hfilled
        have hitem : item = ⟨some (i, c.answers.length), item.request⟩ := by rw [← hsender]
        rw [hserver]
        conv => arg 3; rw [hitem]
        exact replied_concat htakes
    · rw [Client.deliver_of_ne hsender]
      refine ⟨h.asks, h.increasing, h.accepted, hanswered, fun _ => ?_, fun b hfilled => ?_⟩
      · obtain ⟨r, hmem⟩ := h.waiting hslot
        rw [hqueue] at hmem
        rcases List.mem_cons.mp hmem with hhead | hmem
        · exact absurd (by rw [← hhead]) hsender
        · exact ⟨r, hmem⟩
      · rw [hslot] at hfilled
        cases hfilled
  · rw [Client.deliver_of_not_waiting hslot]
    exact ⟨h.asks, h.increasing, h.accepted, hanswered, fun hw => absurd hw hslot,
      fun b hfilled => (h.filled b hfilled).mono hmono⟩

/-- The server stops. -/
theorem halt (h : ClientSound sv Asks m₀ s i c) (m : M) (clients : ι → Client B) :
    ClientSound sv Asks m₀ { s with server := m, running := false, queue := [], clients := clients }
      i c.drop := by
  have hrefused : ∀ {p : Prop}, p ∧ s.running = false → p ∧ false = false := fun hp => ⟨hp.1, rfl⟩
  by_cases hslot : c.slot = .waiting
  · have hdrop : c.drop = { c with slot := .dropped } := by rw [Client.drop, hslot]
    have hasked : ({ c with slot := .dropped } : Client B).asked = c.asked := by
      simp only [Client.asked, hslot]
    rw [hdrop]
    refine ⟨fun k r hmem => ?_, h.increasing, fun k hk => ?_,
      fun k b hk => (h.answered k b hk).imp_left hrefused, fun hw => (nomatch hw),
      fun b hf => (nomatch hf)⟩
    · rw [hasked]
      exact h.asks k r hmem
    · rw [hasked] at hk
      exact (h.accepted k hk).imp_left hrefused
  · have hdrop : c.drop = c := by
      rw [Client.drop]
      split
      · exact absurd ‹_› hslot
      · rfl
    rw [hdrop]
    exact ⟨h.asks, h.increasing, fun k hk => (h.accepted k hk).imp_left hrefused,
      fun k b hk => (h.answered k b hk).imp_left hrefused, fun hw => absurd hw hslot, h.filled⟩

/-- The client takes an answer. -/
theorem take (h : ClientSound sv Asks m₀ s i c) {b : B}
    (hanswer : b = sv.refused ∧ s.running = false ∨ b = sv.lost ∨
      Replied sv m₀ s.handled i c.answers.length b)
    (hlast : b = sv.refused ∧ s.running = false ∨ c.slot ≠ .free) (clients : ι → Client B) :
    ClientSound sv Asks m₀ { s with clients := clients } i (c.take b) where
  asks k r hmem := by
    obtain ⟨hk, hasks⟩ := h.asks k r hmem
    have hle := c.asked_le
    refine ⟨?_, ?_⟩
    · rw [Client.asked_take]
      omega
    · rw [Client.take, List.take_append_of_le_length (by omega)]
      exact hasks
  increasing := h.increasing
  accepted k hk := by
    rw [Client.asked_take] at hk
    rcases Nat.lt_succ_iff_lt_or_eq.mp hk with hk | rfl
    · have hasked := lt_of_lt_of_le hk c.length_le_asked
      refine (h.accepted k hasked).imp_left fun hrefused => ⟨?_, hrefused.2⟩
      rw [Client.take, List.getElem?_append_left hk]
      exact hrefused.1
    · rcases hlast with ⟨rfl, hhalted⟩ | hslot
      · refine .inl ⟨?_, hhalted⟩
        simp [Client.take]
      · have hasked : c.asked = c.answers.length + 1 := by
          rw [Client.asked]
          split
          · exact absurd ‹_› hslot
          · rfl
        refine (h.accepted c.answers.length (by omega)).imp_left fun hrefused => ?_
        have hnone : c.answers[c.answers.length]? = none := List.getElem?_eq_none le_rfl
        rw [hnone] at hrefused
        exact absurd hrefused.1 (by simp)
  answered k b' hk := by
    rcases lt_trichotomy k c.answers.length with hlt | rfl | hgt
    · rw [Client.take, List.getElem?_append_left hlt] at hk
      exact h.answered k b' hk
    · have hb : b = b' := by simpa [Client.take] using hk
      rw [← hb]
      exact hanswer
    · rw [List.getElem?_eq_none (by simp [Client.take]; omega)] at hk
      cases hk
  waiting hslot := nomatch hslot
  filled b' hslot := nomatch hslot

end ClientSound

/-- A step of one client leaves the others as they are. -/
theorem clientSound_setClient (h : ∀ j, ClientSound sv Asks m₀ s j (s.clients j)) {c : Client B}
    (hc : ClientSound sv Asks m₀ (s.setClient i c) i c) (j : ι) :
    ClientSound sv Asks m₀ (s.setClient i c) j ((s.setClient i c).clients j) := by
  by_cases hj : j = i
  · rw [hj]
    simp only [State.setClient, Function.update_self]
    exact hc
  · simp only [State.setClient, Function.update_of_ne hj]
    obtain ⟨hasks, hincreasing, haccepted, hanswered, hwaiting, hfilled⟩ := h j
    exact ⟨hasks, hincreasing, haccepted, hanswered, hwaiting, hfilled⟩

theorem sound_start (sv : Server M I R B) (Asks : ι → List B → R → Prop) (m₀ : M) :
    Sound sv Asks m₀ (State.start m₀) where
  running _ := ⟨rfl, rfl⟩
  halted h := by cases h
  takes h hmem := by cases hmem
  clients i := by
    refine ⟨fun k r hmem => ?_, List.Pairwise.nil, fun k hk => ?_, fun k b hk => ?_,
      fun hw => (nomatch hw), fun b hf => (nomatch hf)⟩
    · cases hmem
    · cases hk
    · cases hk

theorem sound_of_step {s' : State ι M I R B} (h : Sound sv Asks m₀ s) (hstep : Step sv Asks s s') :
    Sound sv Asks m₀ s' := by
  cases hstep with
  | @ask i r hrunning hfree hasks =>
    obtain ⟨hsent, hserver⟩ := h.running hrunning
    refine ⟨fun _ => ⟨?_, hserver⟩, fun hhalted => ?_, h.takes, ?_⟩
    · simp only [State.setClient, State.put, hsent, List.append_assoc]
    · exact absurd (hrunning.symm.trans hhalted) (by decide)
    · intro j
      by_cases hj : j = i
      · subst hj
        have hown := (h.clients j).put_own hfree hasks
        simp only [State.setClient, Function.update_self]
        obtain ⟨h₁, h₂, h₃, h₄, h₅, h₆⟩ := hown
        exact ⟨h₁, h₂, h₃, h₄, h₅, h₆⟩
      · have hother :
            numberOf j (⟨some (i, (s.clients i).answers.length), r⟩ : Item ι R) = none := by
          simp [numberOf, Ne.symm hj]
        have hput := (h.clients j).put_other hother
        simp only [State.setClient, Function.update_of_ne hj]
        obtain ⟨h₁, h₂, h₃, h₄, h₅, h₆⟩ := hput
        exact ⟨h₁, h₂, h₃, h₄, h₅, h₆⟩
  | @refuse i r hhalted hfree hasks =>
    refine ⟨h.running, h.halted, h.takes, clientSound_setClient h.clients ?_⟩
    exact (h.clients i).take (.inl ⟨rfl, hhalted⟩) (.inl ⟨rfl, hhalted⟩) _
  | @post r hrunning =>
    obtain ⟨hsent, hserver⟩ := h.running hrunning
    refine ⟨fun _ => ⟨?_, hserver⟩, fun hhalted => ?_, h.takes,
      fun j => (h.clients j).put_other rfl⟩
    · simp only [State.put, hsent, List.append_assoc]
    · exact absurd (hrunning.symm.trans hhalted) (by decide)
  | @handle item rest input hrunning hqueue htakes =>
    obtain ⟨hsent, hserver⟩ := h.running hrunning
    refine ⟨fun _ => ⟨?_, ?_⟩, fun hhalted => ?_, fun g hmem => ?_,
      fun j => (h.clients j).handle hqueue hserver htakes _⟩
    · simp [hsent, hqueue]
    · simp [after, hserver]
    · exact absurd (hrunning.symm.trans hhalted) (by decide)
    · rcases List.mem_append.mp hmem with hmem | hmem
      · exact h.takes g hmem
      · rw [List.mem_singleton.mp hmem]
        exact htakes
  | @halt input hrunning hhalts =>
    obtain ⟨hsent, hserver⟩ := h.running hrunning
    refine ⟨fun hrun => (nomatch hrun), fun _ => ⟨?_, input, hhalts, ?_⟩, h.takes,
      fun j => (h.clients j).halt _ _⟩
    · simp only [hsent]
      exact List.prefix_append _ _
    · simp only [hserver]
  | @receive i b hslot =>
    refine ⟨h.running, h.halted, h.takes, clientSound_setClient h.clients ?_⟩
    exact (h.clients i).take (.inr (.inr ((h.clients i).filled b hslot)))
      (.inr (by simp [hslot])) _
  | @giveUp i hslot =>
    refine ⟨h.running, h.halted, h.takes, clientSound_setClient h.clients ?_⟩
    refine (h.clients i).take (.inr (.inl rfl)) (.inr ?_) _
    rcases hslot with hslot | hslot <;> simp [hslot]

/-- Whatever the order of the steps. -/
theorem sound_of_reaches (h : Reaches sv Asks (State.start m₀) s) : Sound sv Asks m₀ s := by
  induction h with
  | refl => exact sound_start sv Asks m₀
  | tail _ hstep ih => exact sound_of_step ih hstep

/-- Requests are handled in the order in which they were sent. -/
theorem Sound.handled_inOrder (h : Sound sv Asks m₀ s) : s.handled.map Prod.fst <+: s.sent := by
  cases hrunning : s.running with
  | false => exact (h.halted hrunning).1
  | true =>
    rw [(h.running hrunning).1]
    exact List.prefix_append _ _

theorem Sound.mem_sent (h : Sound sv Asks m₀ s) {g : Item ι R × I} (hmem : g ∈ s.handled) :
    g.1 ∈ s.sent :=
  h.handled_inOrder.subset (List.mem_map_of_mem hmem)

/-- What was sent and handled stays so, and every later request comes behind it. -/
theorem prefix_of_reaches {s' : State ι M I R B} (h : Reaches sv Asks s s') :
    s.sent <+: s'.sent ∧ s.handled <+: s'.handled := by
  induction h with
  | refl => exact ⟨List.prefix_rfl, List.prefix_rfl⟩
  | tail _ hstep ih =>
    obtain ⟨hsent, hhandled⟩ := ih
    cases hstep with
    | ask => exact ⟨hsent.trans (List.prefix_append _ _), hhandled⟩
    | post => exact ⟨hsent.trans (List.prefix_append _ _), hhandled⟩
    | handle => exact ⟨hsent, hhandled.trans (List.prefix_append _ _)⟩
    | refuse => exact ⟨hsent, hhandled⟩
    | halt => exact ⟨hsent, hhandled⟩
    | receive => exact ⟨hsent, hhandled⟩
    | giveUp => exact ⟨hsent, hhandled⟩

end

end PamCertauth.SerialServers
