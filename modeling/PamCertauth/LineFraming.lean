import Mathlib.Data.List.Basic
import Mathlib.Data.List.Induction

/-!
# Delimited frames on chunked streams

A stream arrives in reads of any size, and a buffered reader hands it out item by item.
`segments` cuts the whole stream behind each delimiter; a bounded frame read takes one
segment, whatever the reads are, or reports that it is too long. A reader that is dropped
takes along what the last read brought too much, which is `overshoot`.
-/

namespace PamCertauth.LineFraming

section

variable {α : Type} [DecidableEq α] (delim : α)

/-- The parts of a list, each up to its first delimiter. The last one may have none. -/
def segments : List α → List (List α)
  | [] => []
  | x :: xs =>
    if x = delim then [x] :: segments xs
    else
      match segments xs with
      | [] => [[x]]
      | s :: ss => (x :: s) :: ss

/-- A list whose only delimiter is its last item. -/
def IsLine (line : List α) : Prop := ∃ body, delim ∉ body ∧ line = body ++ [delim]

variable {delim}

variable (delim) in
theorem flatten_segments (xs : List α) : (segments delim xs).flatten = xs := by
  induction xs with
  | nil => rfl
  | cons x xs ih =>
    rw [segments]
    split
    · simp [ih]
    · cases hsegments : segments delim xs with
      | nil =>
        rw [hsegments] at ih
        simp [← ih]
      | cons s ss =>
        rw [hsegments] at ih
        simp [← ih]

theorem segments_line {body : List α} (h : delim ∉ body) (rest : List α) :
    segments delim (body ++ delim :: rest) = (body ++ [delim]) :: segments delim rest := by
  induction body with
  | nil => simp [segments]
  | cons x body ih =>
    obtain ⟨hx, hbody⟩ := List.ne_and_not_mem_of_not_mem_cons h
    rw [List.cons_append, segments, if_neg (Ne.symm hx), ih hbody]
    rfl

theorem IsLine.segments_eq {line : List α} (h : IsLine delim line) (rest : List α) :
    segments delim (line ++ rest) = line :: segments delim rest := by
  obtain ⟨body, hbody, rfl⟩ := h
  rw [List.append_assoc, List.singleton_append, segments_line hbody]

theorem segments_of_notMem {xs : List α} (h : delim ∉ xs) (hne : xs ≠ []) :
    segments delim xs = [xs] := by
  induction xs with
  | nil => exact absurd rfl hne
  | cons x xs ih =>
    obtain ⟨hx, hxs⟩ := List.ne_and_not_mem_of_not_mem_cons h
    rw [segments, if_neg (Ne.symm hx)]
    cases xs with
    | nil => rfl
    | cons y ys => rw [ih hxs (List.cons_ne_nil y ys)]

/-- The first segment is a line with the others behind it, or it is the whole list. -/
theorem segments_eq_cons {xs s : List α} {ss : List (List α)}
    (h : segments delim xs = s :: ss) :
    IsLine delim s ∧ xs = s ++ ss.flatten ∧ segments delim ss.flatten = ss ∨
      delim ∉ xs ∧ s = xs ∧ ss = [] := by
  by_cases hmem : delim ∈ xs
  · obtain ⟨body, rest, rfl, hbody⟩ := List.eq_append_cons_of_mem hmem
    rw [segments_line hbody, List.cons.injEq] at h
    obtain ⟨rfl, rfl⟩ := h
    rw [flatten_segments]
    exact .inl ⟨⟨body, hbody, rfl⟩, by simp, rfl⟩
  · have hne : xs ≠ [] := by
      rintro rfl
      cases h
    rw [segments_of_notMem hmem hne, List.cons.injEq] at h
    exact .inr ⟨hmem, h.1.symm, h.2.symm⟩

theorem notMem_dropLast_of_segments {xs s : List α} {ss : List (List α)}
    (h : segments delim xs = s :: ss) : delim ∉ s.dropLast := by
  rcases segments_eq_cons h with ⟨⟨body, hbody, rfl⟩, -, -⟩ | ⟨hmem, rfl, -⟩
  · rw [List.dropLast_concat]
    exact hbody
  · exact fun hdrop => hmem (List.dropLast_subset s hdrop)

variable (delim) in
/-- A stream that loses its beginning has no more segments than before. -/
theorem length_segments_le (xs ys : List α) :
    (segments delim ys).length ≤ (segments delim (xs ++ ys)).length := by
  induction xs with
  | nil => exact Nat.le_refl _
  | cons x xs ih =>
    rw [List.cons_append, segments]
    split
    · exact Nat.le_succ_of_le ih
    · cases hsegments : segments delim (xs ++ ys) with
      | nil =>
        rw [hsegments] at ih
        exact Nat.le_succ_of_le ih
      | cons s ss =>
        rw [hsegments] at ih
        exact ih

end

variable {ε α : Type}

/-- A reader with what it has read ahead, and the reads to come: data, or a failure. A read
without data is the end. -/
structure Buffered (ε α : Type) where
  buffer : List α
  source : List (Except ε (List α))
  deriving DecidableEq

/-- The data of the reads up to the end or the first failure. -/
def arrivals : List (Except ε (List α)) → List α
  | .ok (x :: xs) :: source => x :: xs ++ arrivals source
  | _ => []

/-- How the reads end. -/
def ending : List (Except ε (List α)) → Except ε Unit
  | .ok (_ :: _) :: source => ending source
  | .error e :: _ => .error e
  | _ => .ok ()

theorem ending_append {chunks : List (List α)} (h : [] ∉ chunks)
    (closing : List (Except ε (List α))) : ending (chunks.map .ok ++ closing) = ending closing := by
  induction chunks with
  | nil => rfl
  | cons chunk chunks ih =>
    obtain ⟨hchunk, hchunks⟩ := List.ne_and_not_mem_of_not_mem_cons h
    obtain ⟨x, chunk, rfl⟩ := List.exists_cons_of_ne_nil (Ne.symm hchunk)
    exact ih hchunks

theorem arrivals_append {chunks : List (List α)} (h : [] ∉ chunks)
    (closing : List (Except ε (List α))) :
    arrivals (chunks.map .ok ++ closing) = chunks.flatten ++ arrivals closing := by
  induction chunks with
  | nil => rfl
  | cons chunk chunks ih =>
    obtain ⟨hchunk, hchunks⟩ := List.ne_and_not_mem_of_not_mem_cons h
    cases chunk with
    | nil => exact absurd rfl hchunk
    | cons x xs =>
      rw [List.map_cons, List.cons_append, arrivals, ih hchunks, List.flatten_cons,
        List.append_assoc]

namespace Buffered

/-- Everything that the reader hands out. -/
def content (r : Buffered ε α) : List α := r.buffer ++ arrivals r.source

/-- The next item, if the stream has one. -/
def next : Buffered ε α → Except ε (Option (α × Buffered ε α))
  | ⟨x :: buffer, source⟩ => .ok (some (x, ⟨buffer, source⟩))
  | ⟨[], .ok (x :: chunk) :: source⟩ => .ok (some (x, ⟨chunk, source⟩))
  | ⟨[], .error e :: _⟩ => .error e
  | ⟨[], _⟩ => .ok none

/-- The reader hands out its content item by item and then ends like its reads. -/
theorem next_cases (r : Buffered ε α) :
    (∃ x r', r.next = .ok (some (x, r')) ∧ r.content = x :: r'.content ∧
      ending r'.source = ending r.source) ∨
    r.content = [] ∧ r.next = (ending r.source).map fun _ => none := by
  obtain ⟨buffer, source⟩ := r
  cases buffer with
  | cons x buffer => exact .inl ⟨x, ⟨buffer, source⟩, rfl, rfl, rfl⟩
  | nil =>
    rcases source with _ | ⟨e | chunk, source⟩
    · exact .inr ⟨rfl, rfl⟩
    · exact .inr ⟨rfl, rfl⟩
    · cases chunk with
      | nil => exact .inr ⟨rfl, rfl⟩
      | cons x chunk => exact .inl ⟨x, ⟨chunk, source⟩, rfl, rfl, rfl⟩

theorem next_of_cons {r : Buffered ε α} {x : α} {xs : List α} (h : r.content = x :: xs) :
    ∃ r', r.next = .ok (some (x, r')) ∧ r'.content = xs ∧ ending r'.source = ending r.source := by
  rcases r.next_cases with ⟨y, r', hnext, hcontent, hending⟩ | ⟨hnil, -⟩
  · rw [h, List.cons.injEq] at hcontent
    obtain ⟨rfl, hxs⟩ := hcontent
    exact ⟨r', hnext, hxs.symm, hending⟩
  · rw [h] at hnil
    cases hnil

theorem next_of_nil {r : Buffered ε α} (h : r.content = []) :
    r.next = (ending r.source).map fun _ => none := by
  rcases r.next_cases with ⟨y, r', -, hcontent, -⟩ | ⟨-, hnext⟩
  · rw [h] at hcontent
    cases hcontent
  · exact hnext

end Buffered

inductive Outcome where
  | frame
  | eof
  | oversize
  deriving DecidableEq, Repr

/-- A frame that is being read, and the reader behind it. -/
structure Reading (ε α : Type) where
  frame : List α
  reader : Buffered ε α

inductive Progress (ε α : Type) where
  | more (st : Reading ε α)
  | done (result : Except ε Outcome) (st : Reading ε α)

def Progress.state : Progress ε α → Reading ε α
  | more st => st
  | done _ st => st

section

variable [DecidableEq α] (delim : α) (max : ℕ)

/-- Read one more item. An item behind the bound is read and dropped. -/
def Reading.step (st : Reading ε α) : Progress ε α :=
  match st.reader.next with
  | .error e => .done (.error e) st
  | .ok none => .done (.ok (if st.frame = [] then .eof else .frame)) st
  | .ok (some (x, reader)) =>
    if max ≤ st.frame.length then .done (.ok .oversize) ⟨st.frame, reader⟩
    else if x = delim then .done (.ok .frame) ⟨st.frame ++ [x], reader⟩
    else .more ⟨st.frame ++ [x], reader⟩

variable {delim max}

theorem Reading.step_of_next {st : Reading ε α} {x : α} {reader : Buffered ε α}
    (h : st.reader.next = .ok (some (x, reader))) :
    st.step delim max =
      if max ≤ st.frame.length then .done (.ok .oversize) ⟨st.frame, reader⟩
      else if x = delim then .done (.ok .frame) ⟨st.frame ++ [x], reader⟩
      else .more ⟨st.frame ++ [x], reader⟩ := by
  rw [Reading.step, h]

variable (delim max) in
/-- Everything that a step can do. -/
theorem Reading.step_cases (st : Reading ε α) :
    (∃ x st', st.reader.content = x :: st'.reader.content ∧ st.frame.length < max ∧ x ≠ delim ∧
      st'.frame = st.frame ++ [x] ∧ st.step delim max = .more st') ∨
    (∃ st', st.reader.content = delim :: st'.reader.content ∧ st.frame.length < max ∧
      st'.frame = st.frame ++ [delim] ∧ st.step delim max = .done (.ok .frame) st') ∨
    (∃ st', max ≤ st.frame.length ∧ st'.frame = st.frame ∧
      st.step delim max = .done (.ok .oversize) st') ∨
    st.reader.content = [] ∧ st.step delim max =
      .done ((ending st.reader.source).map fun _ => if st.frame = [] then .eof else .frame) st := by
  rcases st.reader.next_cases with ⟨x, reader, hnext, hcontent, -⟩ | ⟨hnil, hnext⟩
  · rw [step_of_next hnext]
    by_cases hroom : max ≤ st.frame.length
    · exact .inr (.inr (.inl ⟨⟨st.frame, reader⟩, hroom, rfl, if_pos hroom⟩))
    · rw [if_neg hroom]
      by_cases hx : x = delim
      · subst hx
        exact .inr (.inl ⟨⟨st.frame ++ [x], reader⟩, hcontent, Nat.not_le.mp hroom, rfl, if_pos rfl⟩)
      · exact .inl ⟨x, ⟨st.frame ++ [x], reader⟩, hcontent, Nat.not_le.mp hroom, hx, rfl,
          if_neg hx⟩
  · refine .inr (.inr (.inr ⟨hnil, ?_⟩))
    rw [Reading.step, hnext]
    cases ending st.reader.source <;> rfl

theorem Reading.step_eq_more {st st' : Reading ε α} (h : st.step delim max = .more st') :
    ∃ x, st.reader.content = x :: st'.reader.content ∧ st'.frame = st.frame ++ [x] ∧
      st.frame.length < max := by
  rcases st.step_cases delim max with
    ⟨x, st₁, hcontent, hroom, -, hframe, hstep⟩ | ⟨st₁, -, -, -, hstep⟩ | ⟨st₁, -, -, hstep⟩ |
      ⟨-, hstep⟩
  · rw [h] at hstep
    cases hstep
    exact ⟨x, hcontent, hframe, hroom⟩
  all_goals rw [h] at hstep; cases hstep

variable (delim max) in
def Reading.run (st : Reading ε α) : Except ε Outcome × Reading ε α :=
  match _h : st.step delim max with
  | .more st' => st'.run
  | .done result st' => (result, st')
termination_by st.reader.content.length
decreasing_by
  obtain ⟨x, hcontent, -⟩ := Reading.step_eq_more _h
  simp [hcontent]

theorem Reading.run_of_more {st st' : Reading ε α} (h : st.step delim max = .more st') :
    st.run delim max = st'.run delim max := by
  rw [Reading.run]
  split
  · next st₁ hstep =>
    rw [h] at hstep
    cases hstep
    rfl
  · next hstep =>
    rw [h] at hstep
    cases hstep

theorem Reading.run_of_done {st st' : Reading ε α} {result : Except ε Outcome}
    (h : st.step delim max = .done result st') : st.run delim max = (result, st') := by
  rw [Reading.run]
  split
  · next hstep =>
    rw [h] at hstep
    cases hstep
  · next hstep =>
    rw [h] at hstep
    cases hstep
    rfl

/-- Items before the delimiter and within the bound go into the frame. -/
theorem Reading.run_append (st : Reading ε α) {body rest : List α} (hbody : delim ∉ body)
    (hcontent : st.reader.content = body ++ rest)
    (hfit : st.frame.length + body.length ≤ max) :
    ∃ reader, st.run delim max = Reading.run delim max ⟨st.frame ++ body, reader⟩ ∧
      reader.content = rest ∧ ending reader.source = ending st.reader.source := by
  induction body generalizing st with
  | nil => exact ⟨st.reader, by simp, hcontent, rfl⟩
  | cons x body ih =>
    obtain ⟨hx, hbody⟩ := List.ne_and_not_mem_of_not_mem_cons hbody
    obtain ⟨reader, hnext, hreader, hending⟩ := Buffered.next_of_cons hcontent
    have hroom : ¬ max ≤ st.frame.length := by
      simp only [List.length_cons] at hfit
      omega
    have hstep : st.step delim max = .more ⟨st.frame ++ [x], reader⟩ := by
      rw [step_of_next hnext, if_neg hroom, if_neg (Ne.symm hx)]
    have hfit' : (st.frame ++ [x]).length + body.length ≤ max := by
      simp only [List.length_cons, List.length_append, List.length_nil] at hfit ⊢
      omega
    obtain ⟨reader', hrun, hcontent', hending'⟩ :=
      ih ⟨st.frame ++ [x], reader⟩ hbody hreader hfit'
    refine ⟨reader', ?_, hcontent', hending'.trans hending⟩
    rw [run_of_more hstep, hrun, List.append_assoc, List.singleton_append]

/-- A line that fits is read up to its delimiter. -/
theorem Reading.run_of_line (st : Reading ε α) {body rest : List α} (hbody : delim ∉ body)
    (hcontent : st.reader.content = body ++ delim :: rest)
    (hfit : st.frame.length + body.length < max) :
    ∃ reader, st.run delim max = (.ok .frame, ⟨st.frame ++ body ++ [delim], reader⟩) ∧
      reader.content = rest ∧ ending reader.source = ending st.reader.source := by
  obtain ⟨reader, hrun, hreader, hending⟩ := st.run_append hbody hcontent (Nat.le_of_lt hfit)
  obtain ⟨reader', hnext, hreader', hending'⟩ := Buffered.next_of_cons hreader
  have hroom : ¬ max ≤ (st.frame ++ body).length := by
    rw [List.length_append]
    omega
  have hstep : Reading.step delim max ⟨st.frame ++ body, reader⟩ =
      .done (.ok .frame) ⟨st.frame ++ body ++ [delim], reader'⟩ := by
    rw [step_of_next hnext, if_neg hroom, if_pos rfl]
  exact ⟨reader', by rw [hrun, run_of_done hstep], hreader', hending'.trans hending⟩

/-- A stream that ends within the bound is one frame, unless nothing was read or the last
read fails. -/
theorem Reading.run_of_end (st : Reading ε α) (h : delim ∉ st.reader.content)
    (hfit : st.frame.length + st.reader.content.length ≤ max) :
    ∃ reader, st.run delim max =
        ((ending st.reader.source).map
            fun _ => if st.frame ++ st.reader.content = [] then .eof else .frame,
          ⟨st.frame ++ st.reader.content, reader⟩) ∧
      reader.content = [] ∧ ending reader.source = ending st.reader.source := by
  obtain ⟨reader, hrun, hreader, hending⟩ :=
    st.run_append h (List.append_nil st.reader.content).symm hfit
  refine ⟨reader, ?_, hreader, hending⟩
  have hnext := Buffered.next_of_nil hreader
  rw [hending] at hnext
  rw [hrun]
  cases hend : ending st.reader.source with
  | error e =>
    rw [hend] at hnext
    exact run_of_done (by rw [Reading.step, hnext]; rfl)
  | ok u =>
    rw [hend] at hnext
    exact run_of_done (by rw [Reading.step, hnext]; rfl)

/-- An item behind the bound ends the read. -/
theorem Reading.run_oversize (st : Reading ε α) {body rest : List α} {x : α}
    (hbody : delim ∉ body) (hcontent : st.reader.content = body ++ x :: rest)
    (hfull : st.frame.length + body.length = max) :
    ∃ st', st.run delim max = (.ok .oversize, st') := by
  obtain ⟨reader, hrun, hreader, -⟩ := st.run_append hbody hcontent (Nat.le_of_eq hfull)
  obtain ⟨reader', hnext, -⟩ := Buffered.next_of_cons hreader
  have hroom : max ≤ (st.frame ++ body).length := by
    rw [List.length_append]
    omega
  refine ⟨⟨st.frame ++ body, reader'⟩, ?_⟩
  rw [hrun, run_of_done (by rw [step_of_next hnext, if_pos hroom])]

/-- A read that completes a frame has taken its items from the stream, and at least one. -/
theorem Reading.run_frame {st st' : Reading ε α} (h : st.run delim max = (.ok .frame, st')) :
    st.frame ++ st.reader.content = st'.frame ++ st'.reader.content ∧ st'.frame ≠ [] := by
  induction st using Reading.run.induct delim max with
  | case1 st st₁ hstep ih =>
    obtain ⟨x, hcontent, hframe, -⟩ := step_eq_more hstep
    rw [run_of_more hstep] at h
    rw [← (ih h).1, hcontent, hframe, List.append_assoc, List.singleton_append]
    exact ⟨rfl, (ih h).2⟩
  | case2 st result st₁ hstep =>
    rw [run_of_done hstep, Prod.mk.injEq] at h
    obtain ⟨rfl, rfl⟩ := h
    rcases st.step_cases delim max with ⟨x, st₂, -, -, -, -, hmore⟩ | ⟨st₂, hcontent, -, hframe, hdone⟩ |
      ⟨st₂, -, -, hdone⟩ | ⟨hnil, hdone⟩
    · rw [hstep] at hmore
      cases hmore
    · rw [hstep] at hdone
      cases hdone
      simp [hcontent, hframe]
    · rw [hstep] at hdone
      cases hdone
    · rw [hstep, Progress.done.injEq] at hdone
      obtain ⟨hresult, rfl⟩ := hdone
      refine ⟨rfl, fun hempty => ?_⟩
      cases hending : ending st₁.reader.source with
      | error e => rw [hending] at hresult; cases hresult
      | ok u => simp [hending, hempty, Except.map] at hresult

/-- The states that a frame read goes through. -/
inductive Reading.Reaches (delim : α) (max : ℕ) (st : Reading ε α) : Reading ε α → Prop where
  | refl : Reaches delim max st st
  | step {st' : Reading ε α} (h : Reaches delim max st st') :
      Reaches delim max st (st'.step delim max).state

/-- A step keeps the frame within the bound. -/
theorem Reading.step_length_le {st : Reading ε α} (h : st.frame.length ≤ max) :
    (st.step delim max).state.frame.length ≤ max := by
  rcases st.step_cases delim max with ⟨x, st', -, hroom, -, hframe, hstep⟩ |
    ⟨st', -, hroom, hframe, hstep⟩ | ⟨st', -, hframe, hstep⟩ | ⟨-, hstep⟩
  · rw [hstep, Progress.state, hframe, List.length_append]
    exact hroom
  · rw [hstep, Progress.state, hframe, List.length_append]
    exact hroom
  · rw [hstep, Progress.state, hframe]
    exact h
  · rw [hstep]
    exact h

theorem Reading.Reaches.length_le {st st' : Reading ε α} (hreaches : Reaches delim max st st')
    (h : st.frame.length ≤ max) : st'.frame.length ≤ max := by
  induction hreaches with
  | refl => exact h
  | step _ ih => exact step_length_le ih

end

section

variable [DecidableEq α] {delim : α} {max : ℕ} {r : Buffered ε α}

variable (delim max r) in
/-- Read the next frame. -/
def readFrame : Except ε Outcome × Reading ε α := Reading.run delim max ⟨[], r⟩

theorem readFrame_content_lt {st : Reading ε α} (h : readFrame delim max r = (.ok .frame, st)) :
    st.reader.content.length < r.content.length := by
  obtain ⟨hcontent, hne⟩ := Reading.run_frame h
  have hlen := congrArg List.length hcontent
  have hpos := List.length_pos_of_ne_nil hne
  simp only [List.nil_append, List.length_append] at hlen
  omega

theorem readFrame_of_line {line rest : List α} (hline : IsLine delim line)
    (hcontent : r.content = line ++ rest) (hfit : line.length ≤ max) :
    ∃ reader, readFrame delim max r = (.ok .frame, ⟨line, reader⟩) ∧ reader.content = rest ∧
      ending reader.source = ending r.source := by
  obtain ⟨body, hbody, rfl⟩ := hline
  rw [List.append_assoc, List.singleton_append] at hcontent
  have hroom : ([] : List α).length + body.length < max := by
    simp only [List.length_append, List.length_singleton, List.length_nil] at hfit ⊢
    omega
  exact Reading.run_of_line ⟨[], r⟩ hbody hcontent hroom

/-- A segment that does not fit ends the reading. -/
theorem readFrame_oversize {s : List α} {ss : List (List α)}
    (h : segments delim r.content = s :: ss) (hlong : max < s.length) :
    ∃ st, readFrame delim max r = (.ok .oversize, st) := by
  have hbody : delim ∉ s.take max := by
    intro hmem
    refine notMem_dropLast_of_segments h ?_
    rw [List.dropLast_eq_take]
    exact List.take_subset_take_left s (by omega) hmem
  have hcontent : r.content = s.take max ++ s[max] :: (s.drop (max + 1) ++ ss.flatten) := by
    rw [← List.cons_append, ← List.drop_eq_getElem_cons, ← List.append_assoc, List.take_append_drop,
      ← List.flatten_cons, ← h, flatten_segments]
  exact Reading.run_oversize ⟨[], r⟩ hbody hcontent (by simp; omega)

/-- A stream without a delimiter is one frame at most. -/
theorem readFrame_of_end (h : delim ∉ r.content) (hfit : r.content.length ≤ max) :
    ∃ reader, readFrame delim max r =
        ((ending r.source).map fun _ => if r.content = [] then .eof else .frame,
          ⟨r.content, reader⟩) ∧
      reader.content = [] ∧ ending reader.source = ending r.source :=
  Reading.run_of_end ⟨[], r⟩ h (by simpa using hfit)

variable (delim max r) in
/-- Everything that a frame read can do: it takes the next segment if that fits, and the
others follow. The last segment may miss its delimiter, and is lost if the reads fail. -/
theorem readFrame_cases :
    (∃ s ss reader, segments delim r.content = s :: ss ∧ s.length ≤ max ∧
      readFrame delim max r = (.ok .frame, ⟨s, reader⟩) ∧
      segments delim reader.content = ss ∧ ending reader.source = ending r.source) ∨
    (∃ s ss st, segments delim r.content = s :: ss ∧ max < s.length ∧
      readFrame delim max r = (.ok .oversize, st)) ∨
    (∃ st, segments delim r.content = [] ∧ ending r.source = .ok () ∧
      readFrame delim max r = (.ok .eof, st)) ∨
    ∃ e st, delim ∉ r.content ∧ ending r.source = .error e ∧
      readFrame delim max r = (.error e, st) := by
  cases hsegments : segments delim r.content with
  | nil =>
    have hnil : r.content = [] := by
      rw [← flatten_segments delim r.content, hsegments]
      rfl
    have hmem : delim ∉ r.content := by simp [hnil]
    have hfit : r.content.length ≤ max := by simp [hnil]
    obtain ⟨reader, hread, -⟩ := readFrame_of_end hmem hfit
    cases hending : ending r.source with
    | error e =>
      rw [hending] at hread
      exact .inr (.inr (.inr ⟨e, _, hmem, rfl, hread⟩))
    | ok u =>
      rw [hending, if_pos hnil] at hread
      exact .inr (.inr (.inl ⟨_, rfl, rfl, hread⟩))
  | cons s ss =>
    by_cases hlong : max < s.length
    · obtain ⟨st, hread⟩ := readFrame_oversize hsegments hlong
      exact .inr (.inl ⟨s, ss, st, rfl, hlong, hread⟩)
    have hfit := Nat.not_lt.mp hlong
    rcases segments_eq_cons hsegments with ⟨hline, hcontent, hss⟩ | ⟨hmem, rfl, rfl⟩
    · obtain ⟨reader, hread, hreader, hending⟩ := readFrame_of_line hline hcontent hfit
      exact .inl ⟨s, ss, reader, rfl, hfit, hread, by rw [hreader, hss], hending⟩
    · have hne : r.content ≠ [] := by
        intro hnil
        rw [hnil] at hsegments
        cases hsegments
      obtain ⟨reader, hread, hreader, hending'⟩ := readFrame_of_end hmem hfit
      cases hending : ending r.source with
      | error e =>
        rw [hending] at hread
        exact .inr (.inr (.inr ⟨e, _, hmem, rfl, hread⟩))
      | ok u =>
        rw [hending, if_neg hne] at hread
        rw [hending] at hending'
        exact .inl ⟨r.content, [], reader, rfl, hfit, hread, by rw [hreader]; rfl, hending'⟩

end

/-- What the read that brings the item number `n` brings behind it. -/
def overshoot : ℕ → List (List α) → List α
  | _, [] => []
  | n, chunk :: chunks =>
    if chunk.length < n then overshoot (n - chunk.length) chunks else chunk.drop n

theorem overshoot_of_le (line extra : List α) (chunks : List (List α)) :
    overshoot line.length ((line ++ extra) :: chunks) = extra := by
  rw [overshoot, if_neg (by simp), List.drop_left]

theorem overshoot_append {line : List α} (h : line ≠ []) (buffer : List α)
    (chunks : List (List α)) :
    overshoot (buffer ++ line).length (buffer :: chunks) = overshoot line.length chunks := by
  have hpos := List.length_pos_of_ne_nil h
  rw [overshoot, List.length_append, if_pos (by omega), Nat.add_sub_cancel_left]

section

variable [DecidableEq α] {delim : α}

variable (delim) in
/-- Cut a list behind its first delimiter. -/
def cut : List α → Option (List α × List α)
  | [] => none
  | x :: xs => if x = delim then some ([x], xs) else (cut xs).map fun p => (x :: p.1, p.2)

theorem cut_line {body : List α} (h : delim ∉ body) (rest : List α) :
    cut delim (body ++ delim :: rest) = some (body ++ [delim], rest) := by
  induction body with
  | nil => simp [cut]
  | cons x body ih =>
    obtain ⟨hx, hbody⟩ := List.ne_and_not_mem_of_not_mem_cons h
    rw [List.cons_append, cut, if_neg (Ne.symm hx), ih hbody]
    rfl

theorem cut_of_notMem {xs : List α} (h : delim ∉ xs) : cut delim xs = none := by
  induction xs with
  | nil => rfl
  | cons x xs ih =>
    obtain ⟨hx, hxs⟩ := List.ne_and_not_mem_of_not_mem_cons h
    rw [cut, if_neg (Ne.symm hx), ih hxs]
    rfl

theorem append_of_cut {xs line rest : List α} (h : cut delim xs = some (line, rest)) :
    xs = line ++ rest := by
  by_cases hmem : delim ∈ xs
  · obtain ⟨body, rest', rfl, hbody⟩ := List.eq_append_cons_of_mem hmem
    rw [cut_line hbody, Option.some.injEq, Prod.mk.injEq] at h
    rw [← h.1, ← h.2]
    simp
  · rw [cut_of_notMem hmem] at h
    cases h

variable (delim) in
/-- Read up to the first delimiter, or to the end of the stream. -/
def Buffered.readUntil (buffer : List α) (source : List (Except ε (List α))) :
    Except ε (List α × Buffered ε α) :=
  match cut delim buffer with
  | some (line, rest) => .ok (line, ⟨rest, source⟩)
  | none =>
    match source with
    | .ok (x :: chunk) :: source => do
      let (more, reader) ← readUntil (x :: chunk) source
      .ok (buffer ++ more, reader)
    | .error e :: _ => .error e
    | source => .ok (buffer, ⟨[], source⟩)

theorem Buffered.readUntil_of_cut {buffer line rest : List α} (h : cut delim buffer = some (line, rest))
    (source : List (Except ε (List α))) :
    readUntil delim buffer source = .ok (line, ⟨rest, source⟩) := by
  rcases source with _ | ⟨e | _ | ⟨x, chunk⟩, source⟩ <;> simp [readUntil, h]

/-- The line and what is left are the stream, which ends as before. -/
theorem Buffered.readUntil_eq_ok {buffer line : List α} {source : List (Except ε (List α))}
    {reader : Buffered ε α} (h : readUntil delim buffer source = .ok (line, reader)) :
    buffer ++ arrivals source = line ++ reader.content ∧ ending reader.source = ending source := by
  induction buffer, source using readUntil.induct delim generalizing line with
  | case1 source buffer line' rest hcut =>
    rw [readUntil_of_cut hcut] at h
    cases h
    rw [append_of_cut hcut, List.append_assoc]
    exact ⟨rfl, rfl⟩
  | case2 buffer hcut x chunk source ih =>
    simp only [readUntil, hcut] at h
    cases hmore : readUntil delim (x :: chunk) source with
    | error e =>
      rw [hmore] at h
      cases h
    | ok p =>
      obtain ⟨more, reader'⟩ := p
      rw [hmore] at h
      cases h
      obtain ⟨hcontent, hending⟩ := ih hmore
      refine ⟨?_, hending⟩
      rw [arrivals, hcontent, List.append_assoc]
  | case3 buffer hcut e source =>
    simp only [readUntil, hcut] at h
    cases h
  | case4 source buffer hcut hdata hfail =>
    rcases source with _ | ⟨e | _ | ⟨x, chunk⟩, source⟩
    · simp only [readUntil, hcut] at h
      cases h
      exact ⟨rfl, rfl⟩
    · exact absurd rfl (hfail e source)
    · simp only [readUntil, hcut] at h
      cases h
      exact ⟨rfl, rfl⟩
    · exact absurd rfl (hdata x chunk source)

omit [DecidableEq α] in
theorem IsLine.ne_nil {line : List α} (h : IsLine delim line) : line ≠ [] := by
  obtain ⟨body, -, rfl⟩ := h
  simp

theorem IsLine.cut_eq {line : List α} (h : IsLine delim line) (rest : List α) :
    cut delim (line ++ rest) = some (line, rest) := by
  obtain ⟨body, hbody, rfl⟩ := h
  rw [List.append_assoc, List.singleton_append, cut_line hbody]

/-- A stream that starts with a line has it in its first part, or that part is a proper
beginning of the line. -/
theorem IsLine.split {line rest buffer more : List α} (hline : IsLine delim line)
    (h : buffer ++ more = line ++ rest) :
    (∃ extra, buffer = line ++ extra ∧ rest = extra ++ more) ∨
      delim ∉ buffer ∧ ∃ line', IsLine delim line' ∧ line = buffer ++ line' ∧
        more = line' ++ rest := by
  obtain ⟨body, hbody, rfl⟩ := hline
  by_cases hmem : delim ∈ buffer
  · obtain ⟨body', extra, rfl, hbody'⟩ := List.eq_append_cons_of_mem hmem
    have hcut := congrArg (cut delim) h
    rw [List.append_assoc, List.append_assoc, List.cons_append, List.singleton_append,
      cut_line hbody', cut_line hbody, Option.some.injEq, Prod.mk.injEq] at hcut
    exact .inl ⟨extra, by rw [← hcut.1]; simp, hcut.2.symm⟩
  · refine .inr ⟨hmem, ?_⟩
    rw [List.append_assoc, List.singleton_append] at h
    rcases List.append_eq_append_iff.mp h with ⟨body', rfl, hmore⟩ | ⟨rest', hbuffer, hrest⟩
    · refine ⟨body' ++ [delim], ⟨body', ?_, rfl⟩, by simp, by simp [hmore]⟩
      exact fun hmem' => hbody (List.mem_append_right buffer hmem')
    · cases rest' with
      | nil =>
        refine ⟨[delim], ⟨[], by simp, rfl⟩, by simp [hbuffer], ?_⟩
        simpa using hrest.symm
      | cons y rest' =>
        rw [List.cons_append, List.cons.injEq] at hrest
        exact absurd (by simp [hbuffer, hrest.1]) hmem

/-- The line is read, and what the last read brought behind it stays in the buffer. -/
theorem Buffered.readUntil_of_line {buffer line rest : List α} {chunks : List (List α)}
    (hline : IsLine delim line) (hchunks : [] ∉ chunks)
    (h : buffer ++ chunks.flatten = line ++ rest) (closing : List (Except ε (List α))) :
    ∃ later : List (List α), readUntil delim buffer (chunks.map .ok ++ closing) =
        .ok (line, ⟨overshoot line.length (buffer :: chunks), later.map .ok ++ closing⟩) ∧
      [] ∉ later ∧ rest = overshoot line.length (buffer :: chunks) ++ later.flatten := by
  induction chunks generalizing buffer line with
  | nil =>
    rcases hline.split h with ⟨extra, rfl, rfl⟩ | ⟨-, line', ⟨body, -, rfl⟩, -, hmore⟩
    · refine ⟨[], ?_, hchunks, ?_⟩
      · rw [readUntil_of_cut (hline.cut_eq extra), overshoot_of_le]
      · rw [overshoot_of_le]
    · simp at hmore
  | cons chunk chunks ih =>
    rcases hline.split h with ⟨extra, rfl, rfl⟩ | ⟨hmem, line', hline', rfl, hmore⟩
    · refine ⟨chunk :: chunks, ?_, hchunks, ?_⟩
      · rw [readUntil_of_cut (hline.cut_eq extra), overshoot_of_le]
      · rw [overshoot_of_le]
    · obtain ⟨hchunk, hchunks'⟩ := List.ne_and_not_mem_of_not_mem_cons hchunks
      obtain ⟨x, chunk, rfl⟩ := List.exists_cons_of_ne_nil (Ne.symm hchunk)
      obtain ⟨later, hread, hlater, hrest⟩ := ih hline' hchunks' hmore
      rw [overshoot_append hline'.ne_nil]
      refine ⟨later, ?_, hlater, hrest⟩
      rw [List.map_cons, List.cons_append, readUntil, cut_of_notMem hmem]
      simp only [hread]
      rfl

/-- Without a delimiter the failure of the reads is that of the line. -/
theorem Buffered.readUntil_of_notMem {buffer : List α} {chunks : List (List α)} (e : ε)
    (hchunks : [] ∉ chunks) (h : delim ∉ buffer ++ chunks.flatten) :
    readUntil delim buffer (chunks.map .ok ++ [.error e]) = .error e := by
  induction chunks generalizing buffer with
  | nil =>
    have hbuffer : delim ∉ buffer := fun hmem => h (List.mem_append_left _ hmem)
    simp [readUntil, cut_of_notMem hbuffer]
  | cons chunk chunks ih =>
    obtain ⟨hchunk, hchunks'⟩ := List.ne_and_not_mem_of_not_mem_cons hchunks
    obtain ⟨x, chunk, rfl⟩ := List.exists_cons_of_ne_nil (Ne.symm hchunk)
    have hbuffer : delim ∉ buffer := fun hmem => h (List.mem_append_left _ hmem)
    have hmore : delim ∉ x :: chunk ++ chunks.flatten := fun hmem =>
      h (List.mem_append_right _ hmem)
    rw [List.map_cons, List.cons_append, readUntil, cut_of_notMem hbuffer]
    simp only [ih hchunks' hmore]
    rfl

/-- Part of a line has no delimiter unless it is the whole line. -/
theorem IsLine.notMem_of_append {line part rest : List α} (hline : IsLine delim line)
    (h : part ++ rest = line) (hrest : rest ≠ []) : delim ∉ part := by
  have hsplit : part ++ rest = line ++ [] := by rw [List.append_nil, h]
  rcases hline.split hsplit with ⟨extra, -, hextra⟩ | ⟨hmem, -⟩
  · exact absurd (List.append_eq_nil_iff.mp hextra.symm).2 hrest
  · exact hmem

/-- Reads that bring exactly a line leave the reads behind them as they are. -/
theorem Buffered.readUntil_of_flatten {line : List α} {chunks : List (List α)}
    (hline : IsLine delim line) (hchunks : [] ∉ chunks) (h : chunks.flatten = line)
    (closing : List (Except ε (List α))) :
    readUntil delim [] (chunks.map .ok ++ closing) = .ok (line, ⟨[], closing⟩) := by
  have hbuffered : [] ++ chunks.flatten = line ++ [] := by rw [h, List.append_nil, List.nil_append]
  obtain ⟨later, hread, hlater, hrest⟩ := readUntil_of_line hline hchunks hbuffered closing
  obtain ⟨hahead, hnone⟩ := List.append_eq_nil_iff.mp hrest.symm
  have hnil : later = [] := by
    cases later with
    | nil => rfl
    | cons chunk later =>
      rw [List.flatten_cons, List.append_eq_nil_iff] at hnone
      exact absurd (by simp [hnone.1]) hlater
  rw [hread, hahead, hnil]
  rfl

end

section

variable {α : Type} [DecidableEq α] (delim : α)

/-- The lines that have ended, without their delimiters. -/
def completed (xs : List α) : List (List α) := (xs.splitOn delim).dropLast

variable {delim}

end

end PamCertauth.LineFraming
