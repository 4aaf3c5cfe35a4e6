import Mathlib.Data.List.Basic
import Mathlib.Data.List.Infix

/-!
# Lexical paths

Paths as texts, read without a file system: a segment names a child, `..` goes back to
the parent, and an absolute path that is joined to another one replaces it. A relative
path stays below whatever it is joined to exactly when it never goes up more often than
it has gone down (`under_join_iff`).
-/

namespace PamCertauth.LexicalPaths

/-- One move in a tree of names. -/
inductive Step (α : Type) where
  | up
  | down (name : α)
  deriving DecidableEq, Repr

section

variable {α : Type}

/-- Where the steps lead from a place; above the root there is only the root. -/
def follow : List α → List (Step α) → List α
  | place, [] => place
  | place, .up :: steps => follow place.dropLast steps
  | place, .down name :: steps => follow (place ++ [name]) steps

/-- The steps never go above the place that lies so many steps above their start. -/
def staysFrom : ℕ → List (Step α) → Bool
  | _, [] => true
  | 0, .up :: _ => false
  | depth + 1, .up :: steps => staysFrom depth steps
  | depth, .down _ :: steps => staysFrom (depth + 1) steps

theorem staysFrom_of_up_notMem {steps : List (Step α)} (h : .up ∉ steps) (depth : ℕ) :
    staysFrom depth steps = true := by
  induction steps generalizing depth with
  | nil => rfl
  | cons step steps ih =>
    rw [List.mem_cons, not_or] at h
    cases step with
    | up => exact absurd rfl h.1
    | down name => exact ih h.2 (depth + 1)

theorem follow_append (place : List α) (steps steps' : List (Step α)) :
    follow place (steps ++ steps') = follow (follow place steps) steps' := by
  induction steps generalizing place with
  | nil => rfl
  | cons step steps ih =>
    cases step with
    | up => exact ih place.dropLast
    | down name => exact ih (place ++ [name])

/-- Steps that stay within the last part of a place keep the first part. -/
theorem prefix_follow (base rest : List α) {steps : List (Step α)}
    (h : staysFrom rest.length steps = true) : base <+: follow (base ++ rest) steps := by
  induction steps generalizing rest with
  | nil => exact List.prefix_append base rest
  | cons step steps ih =>
    cases step with
    | up =>
      cases rest using List.reverseRecOn with
      | nil => cases h
      | append_singleton rest name =>
        rw [List.length_append, List.length_singleton, staysFrom] at h
        have hfollow := ih rest h
        rw [follow, ← List.append_assoc, List.dropLast_concat]
        exact hfollow
    | down name =>
      rw [staysFrom] at h
      have hfollow := ih (rest ++ [name]) (by simpa using h)
      rw [follow, List.append_assoc]
      exact hfollow

theorem mem_follow {place : List α} {steps : List (Step α)} {name : α}
    (h : name ∈ follow place steps) : name ∈ place ∨ .down name ∈ steps := by
  induction steps generalizing place with
  | nil => exact .inl h
  | cons step steps ih =>
    cases step with
    | up =>
      rcases ih h with hplace | hsteps
      · exact .inl (List.dropLast_subset place hplace)
      · exact .inr (List.mem_cons_of_mem _ hsteps)
    | down name' =>
      rcases ih h with hplace | hsteps
      · rcases List.mem_append.mp hplace with hplace | hname
        · exact .inl hplace
        · rw [List.mem_singleton.mp hname]
          exact .inr List.mem_cons_self
      · exact .inr (List.mem_cons_of_mem _ hsteps)

/-- Steps that do not stay leave a place whose name they do not know for good. -/
theorem not_mem_follow {name : α} (rest : List α) {steps : List (Step α)}
    (hstays : staysFrom rest.length steps = false) (hrest : name ∉ rest)
    (hsteps : .down name ∉ steps) : name ∉ follow (name :: rest) steps := by
  induction steps generalizing rest with
  | nil => cases hstays
  | cons step steps ih =>
    rw [List.mem_cons, not_or] at hsteps
    cases step with
    | up =>
      cases rest using List.reverseRecOn with
      | nil =>
        intro hmem
        rw [follow, List.dropLast_singleton] at hmem
        exact (mem_follow hmem).elim List.not_mem_nil hsteps.2
      | append_singleton rest last =>
        rw [List.length_append, List.length_singleton, staysFrom] at hstays
        rw [follow, ← List.cons_append, List.dropLast_concat]
        exact ih rest hstays (fun h => hrest (List.mem_append_left _ h)) hsteps.2
    | down name' =>
      rw [staysFrom] at hstays
      have hname : name ≠ name' := fun h => hsteps.1 (by rw [h])
      have hrest' : name ∉ rest ++ [name'] := by
        simp [hrest, hname]
      exact ih _ (by simpa using hstays) hrest' hsteps.2

end

/-- What a segment of a text means. -/
def stepOf (segment : List Char) : Option (Step (List Char)) :=
  if segment = [] ∨ segment = ['.'] then none
  else if segment = ['.', '.'] then some .up
  else some (.down segment)

def stepsOf (path : List Char) : List (Step (List Char)) :=
  (path.splitOn '/').filterMap stepOf

def isAbsolute (path : List Char) : Bool := path.head? = some '/'

/-- Append a path; one that is absolute replaces what is there. -/
def join (base path : List Char) : List Char :=
  if isAbsolute path then path
  else if base = [] ∨ base.getLast? = some '/' then base ++ path
  else base ++ '/' :: path

/-- The place that a path names. -/
def resolve (path : List Char) : List (List Char) := follow [] (stepsOf path)

/-- The path names the place of `base` or one below it. -/
def Under (base path : List Char) : Prop :=
  isAbsolute path = isAbsolute base ∧ resolve base <+: resolve path

instance (base path : List Char) : Decidable (Under base path) :=
  inferInstanceAs (Decidable (_ ∧ _))

/-- A relative path that never goes above its start. -/
def Descends (path : List Char) : Prop :=
  isAbsolute path = false ∧ staysFrom 0 (stepsOf path) = true

instance (path : List Char) : Decidable (Descends path) :=
  inferInstanceAs (Decidable (_ ∧ _))

theorem mem_splitOn_of_up_mem {path : List Char} (h : .up ∈ stepsOf path) :
    ['.', '.'] ∈ path.splitOn '/' := by
  obtain ⟨segment, hmem, hstep⟩ := List.mem_filterMap.mp h
  rw [stepOf] at hstep
  split at hstep
  · cases hstep
  · split at hstep
    · rename_i hdots
      exact hdots ▸ hmem
    · cases hstep

theorem stepsOf_append_slash (base path : List Char) :
    stepsOf (base ++ '/' :: path) = stepsOf base ++ stepsOf path := by
  rw [stepsOf, List.splitOn_append_cons_self, List.filterMap_append]
  rfl

theorem stepsOf_join {base path : List Char} (h : isAbsolute path = false) :
    stepsOf (join base path) = stepsOf base ++ stepsOf path := by
  rw [join, if_neg (by simp [h])]
  split
  · rename_i hbase
    rcases hbase with rfl | hlast
    · rfl
    · obtain ⟨base, rfl⟩ := List.getLast?_eq_some_iff.mp hlast
      have htrailing : stepsOf (base ++ ['/']) = stepsOf base := by
        rw [stepsOf_append_slash]
        exact List.append_nil _
      rw [List.append_assoc, htrailing]
      exact stepsOf_append_slash base path
  · exact stepsOf_append_slash base path

theorem isAbsolute_join {base path : List Char} (h : isAbsolute path = false) :
    isAbsolute (join base path) = isAbsolute base := by
  cases base with
  | nil =>
    rw [join, if_neg (by simp [h]), if_pos (.inl rfl)]
    exact h
  | cons c base =>
    rw [join, if_neg (by simp [h])]
    split <;> simp [isAbsolute]

theorem resolve_join {base path : List Char} (h : isAbsolute path = false) :
    resolve (join base path) = follow (resolve base) (stepsOf path) := by
  rw [resolve, stepsOf_join h, follow_append]
  rfl

theorem Descends.under_join {path : List Char} (h : Descends path) (base : List Char) :
    Under base (join base path) := by
  obtain ⟨hrelative, hstays⟩ := h
  refine ⟨isAbsolute_join hrelative, ?_⟩
  have hfollow := prefix_follow (resolve base) [] hstays
  rw [resolve_join hrelative]
  simpa using hfollow

theorem length_le_of_mem_splitOn {path segment : List Char}
    (h : segment ∈ path.splitOn '/') : segment.length ≤ path.length := by
  induction path generalizing segment with
  | nil =>
    rw [List.splitOn_nil, List.mem_singleton] at h
    rw [h]
  | cons c path ih =>
    rw [List.splitOn_cons_eq_if_modifyHead] at h
    split at h
    · rcases List.mem_cons.mp h with rfl | htail
      · exact Nat.zero_le _
      · exact (ih htail).trans (Nat.le_succ _)
    · obtain ⟨first, rest, hsplit⟩ := List.exists_cons_of_ne_nil (List.splitOn_ne_nil '/' path)
      rw [hsplit, List.modifyHead_cons] at h
      rw [hsplit] at ih
      rcases List.mem_cons.mp h with rfl | htail
      · exact Nat.succ_le_succ (ih List.mem_cons_self)
      · exact (ih (List.mem_cons_of_mem _ htail)).trans (Nat.le_succ _)

theorem mem_splitOn_of_down_mem {path name : List Char} (h : .down name ∈ stepsOf path) :
    name ∈ path.splitOn '/' := by
  obtain ⟨segment, hmem, hstep⟩ := List.mem_filterMap.mp h
  rw [stepOf] at hstep
  split at hstep
  · cases hstep
  · split at hstep
    · cases hstep
    · cases hstep
      exact hmem

/-- A name too long to occur in the path. -/
def longName (path : List Char) : List Char := List.replicate (path.length + 1) 'm'

theorem down_longName_notMem (path : List Char) : .down (longName path) ∉ stepsOf path := by
  intro hmem
  have hle := length_le_of_mem_splitOn (mem_splitOn_of_down_mem hmem)
  rw [longName, List.length_replicate] at hle
  omega

theorem resolve_longName (path : List Char) :
    resolve ('/' :: longName path) = [longName path] := by
  have hslash : '/' ∉ longName path := by
    intro hmem
    exact absurd (List.eq_of_mem_replicate hmem) (by decide)
  have hsteps : stepsOf (longName path) = [.down (longName path)] := by
    rw [stepsOf, List.splitOn_eq_singleton hslash]
    simp [stepOf, longName, List.replicate_succ]
  have hroot : stepsOf ('/' :: longName path) = stepsOf [] ++ stepsOf (longName path) :=
    stepsOf_append_slash [] (longName path)
  rw [resolve, hroot, hsteps]
  rfl

/-- A path stays below every place that it is joined to exactly if it descends. -/
theorem under_join_iff {path : List Char} :
    (∀ base, Under base (join base path)) ↔ Descends path := by
  constructor
  · intro hunder
    obtain ⟨-, hprefix⟩ := hunder ('/' :: longName path)
    rw [resolve_longName] at hprefix
    have hmem := hprefix.subset List.mem_cons_self
    have hunknown := down_longName_notMem path
    by_cases habsolute : isAbsolute path = true
    · rw [join, if_pos habsolute] at hmem
      exact ((mem_follow hmem).elim List.not_mem_nil hunknown).elim
    · rw [Bool.not_eq_true] at habsolute
      rw [resolve_join habsolute, resolve_longName] at hmem
      refine ⟨habsolute, ?_⟩
      by_contra hstays
      rw [Bool.not_eq_true] at hstays
      exact not_mem_follow [] hstays List.not_mem_nil hunknown hmem
  · intro h base
    exact h.under_join base

end PamCertauth.LexicalPaths
