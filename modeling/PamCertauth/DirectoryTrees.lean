import Mathlib.Data.Set.Insert
import Mathlib.Data.List.Infix

/-!
# Making directories

A disk answers system calls on directories in any way it likes, as long as a creation that
succeeds adds its directory and one that fails changes none. Over such a disk the creation of a whole path is the recursion of the usual standard
library: try the leaf, on a missing parent make the parent first, and count a
directory that stands already as made. Whatever the disk answers, the recursion adds
prefixes of the path and nothing else, and the leaf only when it succeeds.
-/

namespace PamCertauth.Directories

/-- The components of a path, from the root. -/
abbrev Path := List String

inductive ErrorKind where
  | notFound
  | other
  deriving DecidableEq, Repr

structure IoError where
  kind : ErrorKind
  detail : String
  deriving DecidableEq, Repr

/-- System calls on the directories of a disk. -/
structure Disk (σ : Type) where
  dirs : σ → Set Path
  mkdir : Path → σ → Except IoError Unit × σ
  isDir : Path → σ → Bool
  mkdir_ok {p : Path} {s s' : σ} : mkdir p s = (.ok (), s') → dirs s' = insert p (dirs s)
  mkdir_error {p : Path} {s s' : σ} {e : IoError} : mkdir p s = (.error e, s') → dirs s' = dirs s
  /-- A failed look reports no directory. -/
  mem_of_isDir {p : Path} {s : σ} : isDir p s = true → p ∈ dirs s

namespace Disk

variable {σ : Type} (disk : Disk σ)

/-- Make one directory, unless it stands already. -/
def mkdirUnlessDir (path : Path) (s : σ) : Except IoError Unit × σ :=
  match disk.mkdir path s with
  | (.ok (), s₁) => (.ok (), s₁)
  | (.error e, s₁) => if disk.isDir path s₁ then (.ok (), s₁) else (.error e, s₁)

/-- Make a directory and its parents; the path is given from its leaf upwards. -/
def createUpwards : Path → σ → Except IoError Unit × σ
  | [], s => (.ok (), s)
  | leaf :: up, s =>
    match disk.mkdir (leaf :: up).reverse s with
    | (.ok (), s₁) => (.ok (), s₁)
    | (.error e, s₁) =>
      if e.kind = .notFound then
        match createUpwards up s₁ with
        | (.ok (), s₂) => disk.mkdirUnlessDir (leaf :: up).reverse s₂
        | (.error e', s₂) => (.error e', s₂)
      else if disk.isDir (leaf :: up).reverse s₁ then (.ok (), s₁)
      else (.error e, s₁)

def createDirAll (path : Path) : σ → Except IoError Unit × σ := disk.createUpwards path.reverse

/-- The directories strictly below a base. -/
def dirsUnder (base : Path) (s : σ) : Set Path := {q ∈ disk.dirs s | base <+: q ∧ q ≠ base}

/-- What making `path` may do: it keeps what stands, adds prefixes of the path, and adds
the path itself exactly when it succeeds. -/
structure Makes (path : Path) (s : σ) (answer : Except IoError Unit) (s' : σ) : Prop where
  keeps : disk.dirs s ⊆ disk.dirs s'
  adds : ∀ q ∈ disk.dirs s', q ∈ disk.dirs s ∨ q <+: path
  leaf : answer = .ok () → path = [] ∨ path ∈ disk.dirs s'
  failed : ∀ e, answer = .error e → path ∈ disk.dirs s' → path ∈ disk.dirs s

variable {disk} {path : Path} {s s' s'' : σ}

theorem Makes.of_mkdir (h : disk.mkdir path s = (.ok (), s')) :
    disk.Makes path s (.ok ()) s' := by
  have hdirs := disk.mkdir_ok h
  refine ⟨?_, ?_, ?_, ?_⟩
  · rw [hdirs]
    exact Set.subset_insert path _
  · intro q hq
    rw [hdirs] at hq
    rcases hq with rfl | hq
    · exact .inr q.prefix_rfl
    · exact .inl hq
  · intro
    rw [hdirs]
    exact .inr (Set.mem_insert path _)
  · intro e he
    cases he

/-- A call that changed no directory. -/
theorem Makes.of_same {answer : Except IoError Unit} (hdirs : disk.dirs s' = disk.dirs s)
    (hleaf : answer = .ok () → path = [] ∨ path ∈ disk.dirs s') :
    disk.Makes path s answer s' := by
  refine ⟨hdirs.ge, ?_, hleaf, ?_⟩
  · intro q hq
    exact .inl (hdirs ▸ hq)
  · intro e _ hpath
    exact hdirs ▸ hpath

theorem Makes.of_isDir (hdirs : disk.dirs s' = disk.dirs s) (h : disk.isDir path s' = true) :
    disk.Makes path s (.ok ()) s' :=
  .of_same hdirs fun _ => .inr (disk.mem_of_isDir h)

theorem Makes.of_error {e : IoError} (hdirs : disk.dirs s' = disk.dirs s) :
    disk.Makes path s (.error e) s' := by
  refine .of_same hdirs ?_
  intro he
  cases he

theorem makes_mkdirUnlessDir (path : Path) (s : σ) :
    disk.Makes path s (disk.mkdirUnlessDir path s).1 (disk.mkdirUnlessDir path s).2 := by
  rw [mkdirUnlessDir]
  rcases hmk : disk.mkdir path s with ⟨e | _, s₁⟩
  · have hsame := disk.mkdir_error hmk
    by_cases hdir : disk.isDir path s₁ = true
    · simp only [hdir, if_true]
      exact .of_isDir hsame hdir
    · simp only [hdir]
      exact .of_error hsame
  · exact .of_mkdir hmk

/-- Making the parent first adds prefixes of the parent, and never the leaf. -/
theorem Makes.of_parent {up : Path} {leaf : String} {answer answer' : Except IoError Unit}
    (hup : disk.Makes up s answer' s') (h : disk.Makes (up ++ [leaf]) s' answer s'') :
    disk.Makes (up ++ [leaf]) s answer s'' := by
  have hadded : ∀ q ∈ disk.dirs s', q ∈ disk.dirs s ∨ q <+: up ++ [leaf] := by
    intro q hq
    rcases hup.adds q hq with hq | hq
    · exact .inl hq
    · exact .inr (hq.trans (List.prefix_append _ _))
  refine ⟨hup.keeps.trans h.keeps, ?_, h.leaf, ?_⟩
  · intro q hq
    rcases h.adds q hq with hq | hq
    · exact hadded q hq
    · exact .inr hq
  · intro e he hpath
    rcases hup.adds _ (h.failed e he hpath) with hq | hq
    · exact hq
    · have hlength := hq.length_le
      rw [List.length_append, List.length_singleton] at hlength
      omega

theorem makes_createUpwards (rev : Path) (s : σ) :
    disk.Makes rev.reverse s (disk.createUpwards rev s).1 (disk.createUpwards rev s).2 := by
  induction rev generalizing s with
  | nil => exact .of_same rfl fun _ => .inl rfl
  | cons leaf up ih =>
    rw [createUpwards]
    rcases hmk : disk.mkdir (leaf :: up).reverse s with ⟨e | _, s₁⟩
    · have hsame := disk.mkdir_error hmk
      by_cases hkind : e.kind = .notFound
      · -- the parent is made from where the failed attempt left the disk
        have hup : disk.Makes up.reverse s (disk.createUpwards up s₁).1
            (disk.createUpwards up s₁).2 := by
          have hmakes := ih s₁
          refine ⟨hsame ▸ hmakes.keeps, ?_, hmakes.leaf, ?_⟩
          · exact hsame ▸ hmakes.adds
          · exact hsame ▸ hmakes.failed
        simp only [hkind, if_true, List.reverse_cons]
        rcases hrun : disk.createUpwards up s₁ with ⟨e' | _, s₂⟩
        · rw [hrun] at hup
          exact hup.of_parent (.of_error rfl)
        · rw [hrun] at hup
          exact hup.of_parent (makes_mkdirUnlessDir _ s₂)
      · simp only [hkind, if_false]
        by_cases hdir : disk.isDir (leaf :: up).reverse s₁ = true
        · simp only [hdir, if_true]
          exact .of_isDir hsame hdir
        · simp only [hdir]
          exact .of_error hsame
    · exact .of_mkdir hmk

theorem makes_createDirAll (path : Path) (s : σ) :
    disk.Makes path s (disk.createDirAll path s).1 (disk.createDirAll path s).2 := by
  have h : disk.Makes path.reverse.reverse s (disk.createDirAll path s).1
      (disk.createDirAll path s).2 := makes_createUpwards path.reverse s
  rwa [List.reverse_reverse] at h

/-- Of the prefixes of a child only the child itself is strictly below the base. -/
theorem eq_child_of_below {base q : Path} {leaf : String} (h : q <+: base ++ [leaf])
    (hbase : base <+: q) (hne : q ≠ base) : q = base ++ [leaf] := by
  rcases List.prefix_concat_iff.mp h with h | h
  · exact h
  · exact absurd (h.eq_of_length_le hbase.length_le) hne

theorem Makes.dirsUnder_of_error {base : Path} {leaf : String} {e : IoError}
    (h : disk.Makes (base ++ [leaf]) s (.error e) s') :
    disk.dirsUnder base s' = disk.dirsUnder base s := by
  ext q
  constructor
  · rintro ⟨hq, hbase, hne⟩
    rcases h.adds q hq with hold | hadded
    · exact ⟨hold, hbase, hne⟩
    · obtain rfl := eq_child_of_below hadded hbase hne
      exact ⟨h.failed e rfl hq, hbase, hne⟩
  · rintro ⟨hq, hbase, hne⟩
    exact ⟨h.keeps hq, hbase, hne⟩

theorem Makes.dirsUnder_of_ok {base : Path} {leaf : String}
    (h : disk.Makes (base ++ [leaf]) s (.ok ()) s') :
    disk.dirsUnder base s' = insert (base ++ [leaf]) (disk.dirsUnder base s) := by
  ext q
  constructor
  · rintro ⟨hq, hbase, hne⟩
    rcases h.adds q hq with hold | hadded
    · exact .inr ⟨hold, hbase, hne⟩
    · exact .inl (eq_child_of_below hadded hbase hne)
  · rintro (rfl | ⟨hq, hbase, hne⟩)
    · have hleaf : base ++ [leaf] ∈ disk.dirs s' := by
        rcases h.leaf rfl with hnil | hmem
        · simp at hnil
        · exact hmem
      exact ⟨hleaf, List.prefix_append _ _, by simp⟩
    · exact ⟨h.keeps hq, hbase, hne⟩

/-- Making a child changes nothing below the base exactly when the child stood there. -/
theorem Makes.dirsUnder_eq_iff {base : Path} {leaf : String}
    (h : disk.Makes (base ++ [leaf]) s (.ok ()) s') :
    disk.dirsUnder base s' = disk.dirsUnder base s ↔ base ++ [leaf] ∈ disk.dirs s := by
  rw [h.dirsUnder_of_ok, Set.insert_eq_self]
  constructor
  · rintro ⟨hmem, -⟩
    exact hmem
  · intro hmem
    exact ⟨hmem, List.prefix_append _ _, by simp⟩

end Disk

end PamCertauth.Directories
