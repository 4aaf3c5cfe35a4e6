import Mathlib.Data.Set.Insert
import Mathlib.Logic.Function.Basic

/-!
# Files and the loss of power

What programs see of a disk is the last thing they wrote. What is there after a loss of power
is another matter: contents that were not synced may be anything, and a name that was
replaced without a sync of its directory may mean any of the files that it meant since.

A disk says for every name which file it means now and which files it may mean after a
loss of power. The rules of this file bound what can survive at one name while other names
are written, a synced file is renamed onto it, and the directory is synced.
-/

namespace PamCertauth.DurableFiles

/-- A file with its contents, and the contents that a loss of power may leave. -/
structure File (C : Type*) where
  data : C
  safe : Set C

namespace File

variable {C : Type*}

def written (c : C) : File C := ⟨c, Set.univ⟩

def synced (c : C) : File C := ⟨c, {c}⟩

end File

/-- The file of a name, and the files that the name may have after a loss of power. -/
structure Entry (C : Type*) where
  file : Option (File C)
  after : Set (Option (File C))

/-- A directory. -/
abbrev Disk (P C : Type*) := P → Entry C

inductive Op (P C : Type*) where
  /-- Create or truncate the file, and write it. -/
  | put (p : P) (c : C)
  | sync (p : P)
  | rename (p q : P)
  | remove (p : P)
  | syncDir

section

variable {P C : Type*}

/-- What a loss of power may leave of a file. -/
def remains : Option (File C) → Set (Option C)
  | none => {none}
  | some f => {x | ∃ c ∈ f.safe, x = some c}

/-- What a loss of power may leave at a name. -/
def Entry.survivors (e : Entry C) : Set (Option C) := {x | ∃ f ∈ e.after, x ∈ remains f}

/-- The name gets this file. The directory is not synced. -/
def Entry.become (e : Entry C) (f : Option (File C)) : Entry C := ⟨f, insert f e.after⟩

/-- Whatever the name means now, and whatever it may mean after a loss of power, only these
contents can be left. -/
structure Keeps (S : Set (Option C)) (p : P) (d : Disk P C) : Prop where
  now : remains (d p).file ⊆ S
  after : ∀ f ∈ (d p).after, remains f ⊆ S

namespace Keeps

variable {S T : Set (Option C)} {p : P} {d d' : Disk P C}

theorem survivors (h : Keeps S p d) : (d p).survivors ⊆ S := by
  intro x hx
  obtain ⟨f, hf, hx⟩ := hx
  exact h.after f hf hx

theorem mono (h : Keeps S p d) (hST : S ⊆ T) : Keeps T p d :=
  ⟨h.now.trans hST, fun f hf => (h.after f hf).trans hST⟩

theorem congr (h : Keeps S p d) (hd : d' p = d p) : Keeps S p d' := by
  constructor
  · rw [hd]
    exact h.now
  · rw [hd]
    exact h.after

end Keeps

variable [DecidableEq P]

def Disk.apply (d : Disk P C) : Op P C → Disk P C
  | .put p c => Function.update d p ((d p).become (some (.written c)))
  | .sync p => Function.update d p ((d p).become ((d p).file.map fun f => .synced f.data))
  | .rename p q =>
    match (d p).file with
    | none => d
    | some f => Function.update (Function.update d q ((d q).become (some f))) p ((d p).become none)
  | .remove p => Function.update d p ((d p).become none)
  | .syncDir => fun p => ⟨(d p).file, {(d p).file}⟩

def Disk.run (d : Disk P C) (ops : List (Op P C)) : Disk P C := ops.foldl Disk.apply d

@[simp] theorem Disk.run_nil (d : Disk P C) : d.run [] = d := rfl

@[simp] theorem Disk.run_cons (d : Disk P C) (op : Op P C) (ops : List (Op P C)) :
    d.run (op :: ops) = (d.apply op).run ops := rfl

theorem Disk.run_append (d : Disk P C) (ops ops' : List (Op P C)) :
    d.run (ops ++ ops') = (d.run ops).run ops' := List.foldl_append

section Rules

variable {S : Set (Option C)} {p tmp : P} {d : Disk P C} {c : C}

/-- The name gets a file that leaves only the allowed contents. -/
theorem Keeps.become {f : Option (File C)} (h : Keeps S p d) (hf : remains f ⊆ S) :
    Keeps S p (Function.update d p ((d p).become f)) := by
  constructor
  · rw [Function.update_self]
    exact hf
  · rw [Function.update_self]
    intro g hg
    rcases hg with rfl | hg
    · exact hf
    · exact h.after g hg

/-- The operation concerns another name. -/
def Op.Elsewhere (p : P) : Op P C → Prop
  | .put q _ | .sync q | .remove q => q ≠ p
  | .rename q r => q ≠ p ∧ r ≠ p
  | .syncDir => True

theorem Keeps.elsewhere (h : Keeps S p d) {op : Op P C} (hop : op.Elsewhere p) :
    Keeps S p (d.apply op) := by
  cases op with
  | put q c => exact h.congr (Function.update_of_ne (Ne.symm hop) _ _)
  | sync q => exact h.congr (Function.update_of_ne (Ne.symm hop) _ _)
  | remove q => exact h.congr (Function.update_of_ne (Ne.symm hop) _ _)
  | rename q r =>
    rw [Disk.apply]
    split
    · exact h
    · refine h.congr ?_
      rw [Function.update_of_ne (Ne.symm hop.1), Function.update_of_ne (Ne.symm hop.2)]
  | syncDir =>
    refine ⟨h.now, fun f hf => ?_⟩
    rw [Set.mem_singleton_iff.mp hf]
    exact h.now

theorem Keeps.run_elsewhere (h : Keeps S p d) {ops : List (Op P C)}
    (hops : ∀ op ∈ ops, op.Elsewhere p) : Keeps S p (d.run ops) := by
  induction ops generalizing d with
  | nil => exact h
  | cons op ops ih =>
    exact ih (h.elsewhere (hops op List.mem_cons_self)) fun op' hop' =>
      hops op' (List.mem_cons_of_mem op hop')

/-- A synced file is renamed onto the name. -/
theorem Keeps.rename (h : Keeps S p d) (htmp : tmp ≠ p) (hfile : (d tmp).file = some (.synced c)) :
    Keeps (insert (some c) S) p (d.apply (.rename tmp p)) := by
  have hsynced : remains (some (File.synced c)) ⊆ insert (some c) S := by
    rintro x ⟨c', hc', rfl⟩
    rw [Set.mem_singleton_iff.mp hc']
    exact Set.mem_insert _ _
  rw [Disk.apply, hfile]
  refine (Keeps.become (h.mono (Set.subset_insert _ _)) hsynced).congr ?_
  exact Function.update_of_ne (Ne.symm htmp) _ _

/-- After a sync of the directory a name has the file that it has. -/
theorem keeps_syncDir (hfile : (d p).file = some (.synced c)) :
    Keeps {some c} p (d.apply .syncDir) := by
  have hsynced : remains (some (File.synced c)) ⊆ {some c} := by
    rintro x ⟨c', hc', rfl⟩
    rw [Set.mem_singleton_iff.mp hc']
    exact Set.mem_singleton _
  constructor
  · show remains (d p).file ⊆ _
    rw [hfile]
    exact hsynced
  · intro f hf
    rw [Set.mem_singleton_iff.mp hf, hfile]
    exact hsynced

/-- Write another file, sync it, rename it onto the name, and sync the directory. -/
def replaceOps (tmp p : P) (c : C) : List (Op P C) :=
  [.put tmp c, .sync tmp, .rename tmp p, .syncDir]

theorem file_of_sync (d : Disk P C) (tmp : P) (c : C) :
    (((d.apply (.put tmp c)).apply (.sync tmp)) tmp).file = some (.synced c) := by
  simp [Disk.apply, Entry.become, File.written]

theorem file_of_rename (htmp : tmp ≠ p) (hfile : (d tmp).file = some (.synced c)) :
    ((d.apply (.rename tmp p)) p).file = some (.synced c) := by
  rw [Disk.apply, hfile]
  simp only [Function.update_of_ne (Ne.symm htmp), Function.update_self, Entry.become]

/-- However far the replacement has come, the name keeps what it had or has the new contents. -/
theorem Keeps.replace_take (h : Keeps S p d) (htmp : tmp ≠ p) (c : C) (n : ℕ) :
    Keeps (insert (some c) S) p (d.run ((replaceOps tmp p c).take n)) := by
  have hput : Keeps S p (d.apply (.put tmp c)) := h.elsewhere htmp
  have hsync : Keeps S p ((d.apply (.put tmp c)).apply (.sync tmp)) := hput.elsewhere htmp
  have hrename := hsync.rename htmp (file_of_sync d tmp c)
  match n with
  | 0 => exact h.mono (Set.subset_insert _ _)
  | 1 => exact hput.mono (Set.subset_insert _ _)
  | 2 => exact hsync.mono (Set.subset_insert _ _)
  | 3 => exact hrename
  | n + 4 =>
    have hall : (replaceOps tmp p c).take (n + 4) = replaceOps tmp p c :=
      List.take_of_length_le (Nat.le_add_left _ _)
    have hdir : (Op.syncDir : Op P C).Elsewhere p := trivial
    rw [hall]
    exact hrename.elsewhere hdir

/-- When it is complete, nothing else is left. -/
theorem keeps_replace (htmp : tmp ≠ p) (c : C) (d : Disk P C) :
    Keeps {some c} p (d.run (replaceOps tmp p c)) :=
  keeps_syncDir (file_of_rename htmp (file_of_sync d tmp c))

end Rules

end

end PamCertauth.DurableFiles
