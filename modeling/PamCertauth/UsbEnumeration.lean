import Mathlib.Data.List.Sort
import Mathlib.Data.Prod.Lex
import Mathlib.Data.String.Basic
import PamCertauth.MountGuards
import PamCertauth.RadixNumerals

/-!
# The devices of a scan

A scan asks udev for the block devices on the USB bus and turns each into records: a device
with a filesystem into itself, a disk without one into its partitions with a filesystem that
may be mounted, in the order of their names. A partition is a block device on the bus too, so
that it reaches the scan a second time, as a device of its own.
-/

namespace PamCertauth.Usb

open PamCertauth.Flow RadixNumerals

/-- A text of the operating system: its lossy rendering, and whether nothing was lost. -/
structure OsText where
  lossy : String
  isUtf8 : Bool
  deriving DecidableEq, Repr

namespace OsText

def toStr (text : OsText) : Option String := if text.isUtf8 then some text.lossy else none

def equals (text : OsText) (value : String) : Bool := text.toStr = some value

end OsText

/-- A block device with the properties that a scan reads. -/
structure UdevDevice where
  sysname : String
  devnode : Option String
  devtype : Option OsText
  idBus : Option OsText
  idVendorId : Option OsText
  idModelId : Option OsText
  idSerialShort : Option OsText
  idSerial : Option OsText
  idFsType : Option OsText
  idFsLabel : Option OsText
  deriving DecidableEq, Repr

namespace UdevDevice

def isWholeDisk (d : UdevDevice) : Bool := d.devtype.any (·.equals "disk")

def isPartition (d : UdevDevice) : Bool := d.devtype.any (·.equals "partition")

def onUsb (d : UdevDevice) : Bool := d.idBus.any (·.equals "usb")

-- An empty property counts as an absent one.
def nonempty (property : Option OsText) : Option String :=
  (property.map (·.lossy)).filter (· ≠ "")

def fsType (d : UdevDevice) : Option String := nonempty d.idFsType

def fsLabel (d : UdevDevice) : Option String := nonempty d.idFsLabel

def serial (d : UdevDevice) : Option String := (d.idSerialShort <|> d.idSerial).map (·.lossy)

theorem not_isPartition_of_isWholeDisk {d : UdevDevice} (h : d.isWholeDisk = true) :
    d.isPartition = false := by
  cases htype : d.devtype with
  | none => simp [isPartition, htype]
  | some text =>
    simp only [isWholeDisk, htype, Option.any_some, OsText.equals, decide_eq_true_eq] at h
    simp [isPartition, htype, OsText.equals, h]

end UdevDevice

/-- The answers of the two scans: of the devices on the bus, and of those below a device. -/
structure Udev where
  scan : Except String (List UdevDevice)
  children : UdevDevice → Except String (List UdevDevice)

/-- The number that a name ends in, and what stands before it. Without a number that fits into
64 bits it counts as zero. -/
def splitSuffix (name : String) : String × ℕ :=
  let reversed := name.toList.reverse
  let digits := (reversed.takeWhile Char.isDigit).reverse
  let stem := (reversed.dropWhile Char.isDigit).reverse
  match fromStrRadix 10 0 (2 ^ 64 - 1) digits with
  | .ok n => (String.ofList stem, n.toNat)
  | .error _ => (String.ofList stem, 0)

def naturalCmp (a b : String) : Ordering :=
  let (pa, na) := splitSuffix a
  let (pb, nb) := splitSuffix b
  match compare pa pb with
  | .eq => compare na nb
  | other => other

theorem naturalCmp_isLE_iff {a b : String} :
    (naturalCmp a b).isLE = true ↔ toLex (splitSuffix a) ≤ toLex (splitSuffix b) := by
  rw [Prod.Lex.toLex_le_toLex, naturalCmp]
  rcases lt_trichotomy (splitSuffix a).1 (splitSuffix b).1 with h | h | h
  · simp [compare_lt_iff_lt.mpr h, h]
  · simp [h, Nat.isLE_compare]
  · simp [compare_gt_iff_gt.mpr h, h.ne', not_lt_of_gt h]

/-- A name that ends in a number of 64 bits is split there. -/
theorem splitSuffix_numeral {stem : List Char} (hstem : ∀ c ∈ stem.getLast?, c.isDigit = false)
    {n : ℕ} (hn : n < 2 ^ 64) :
    splitSuffix (String.ofList (stem ++ numeral 10 n)) = (String.ofList stem, n) := by
  have hread : fromStrRadix 10 0 (2 ^ 64 - 1) (numeral 10 n) = .ok (n : ℤ) :=
    fromStrRadix_numeral (by omega) (by omega) (by omega) (by omega) (by omega)
  have hdigits : ∀ c ∈ (numeral 10 n).reverse, c.isDigit = true := by
    intro c hc
    have hmem : c ∈ Nat.toDigits 10 n := by simpa [numeral, not_lt_of_ge] using hc
    exact Nat.isDigit_of_mem_toDigits (by decide) (by decide) hmem
  have hstop : stem.reverse.takeWhile Char.isDigit = [] := by
    cases hlast : stem.reverse with
    | nil => rfl
    | cons c cs =>
      have hc : c ∈ stem.getLast? := by
        rw [← List.head?_reverse, hlast]
        rfl
      simp [hstem c hc]
  have hkeep : stem.reverse.dropWhile Char.isDigit = stem.reverse := by
    have hsplit := List.takeWhile_append_dropWhile (p := Char.isDigit) (l := stem.reverse)
    rwa [hstop, List.nil_append] at hsplit
  simp only [splitSuffix, String.toList_ofList, List.reverse_append, hstop, hkeep, hread,
    List.takeWhile_append_of_pos hdigits, List.dropWhile_append_of_pos hdigits, List.append_nil,
    List.reverse_reverse, Int.toNat_natCast]

structure PartitionCandidate where
  devnode : String
  fsType : Option String
  fsLabel : Option String
  deriving DecidableEq, Repr

def selectPartitions (parentFsType : Option String) (partitions : List PartitionCandidate) :
    List PartitionCandidate :=
  if parentFsType.isSome then []
  else partitions.filter fun p => p.fsType.any (· ∈ allowedFs)

def parseHex16 (property : Option OsText) : Except UsbError UInt16 :=
  match property.bind OsText.toStr with
  | none => .error (.missingProperty "ID_VENDOR_ID/ID_MODEL_ID")
  | some s =>
    match fromStrRadix 16 0 (2 ^ 16 - 1) s.toList with
    | .ok n => .ok (UInt16.ofNat n.toNat)
    | .error _ => .error (.missingProperty ("malformed hex VID/PID: " ++ s))

/-- A partition with a node, under its name. -/
def candidate (child : UdevDevice) : Option (String × PartitionCandidate) :=
  if child.isPartition then
    child.devnode.map fun devnode => (child.sysname, ⟨devnode, child.fsType, child.fsLabel⟩)
  else none

def NaturalLE (a b : String × PartitionCandidate) : Prop := (naturalCmp a.1 b.1).isLE = true

instance : DecidableRel NaturalLE := fun _ _ => inferInstanceAs (Decidable (_ = true))

instance : IsTrans (String × PartitionCandidate) NaturalLE where
  trans a b c hab hbc := by
    rw [NaturalLE, naturalCmp_isLE_iff] at hab hbc ⊢
    exact hab.trans hbc

instance : Std.Total NaturalLE where
  total a b := by
    rw [NaturalLE, NaturalLE, naturalCmp_isLE_iff, naturalCmp_isLE_iff]
    exact le_total _ _

-- The source sorts stably, and so does insertion.
def sortTagged (tagged : List (String × PartitionCandidate)) :
    List (String × PartitionCandidate) :=
  tagged.insertionSort NaturalLE

theorem sortTagged_perm (tagged : List (String × PartitionCandidate)) :
    (sortTagged tagged).Perm tagged :=
  List.perm_insertionSort _ _

def collectPartitionCandidates (udev : Udev) (parent : UdevDevice) :
    Except UsbError (List PartitionCandidate) := do
  let children ← (udev.children parent).mapError .udev
  .ok ((sortTagged (children.filterMap candidate)).map (·.2))

def devicesFrom (udev : Udev) (filter : Option (UInt16 × UInt16)) (maxUsbPartitions : ℕ)
    (d : UdevDevice) : Except UsbError (List UsbDevice) :=
  match d.devnode with
  | none => .ok []
  | some devnode => do
    let vid ← parseHex16 d.idVendorId
    let pid ← parseHex16 d.idModelId
    if filter.any (· ≠ (vid, pid)) then .ok []
    else if d.fsType.isSome then .ok [⟨devnode, d.serial, vid, pid, d.fsType⟩]
    else if !d.isWholeDisk then .ok []
    else
      match collectPartitionCandidates udev d with
      | .error _ => .ok []
      | .ok candidates =>
        if candidates.length > maxUsbPartitions then
          .error (.tooManyPartitions devnode candidates.length maxUsbPartitions)
        else
          .ok ((selectPartitions none candidates).map fun p =>
            ⟨p.devnode, d.serial, vid, pid, p.fsType⟩)

def enumerateOnceWithLimit (udev : Udev) (filter : Option (UInt16 × UInt16))
    (maxUsbPartitions : ℕ) : Except UsbError (List UsbDevice) := do
  let scanned ← udev.scan.mapError .udev
  let found ← scanned.mapM (devicesFrom udev filter maxUsbPartitions)
  .ok found.flatten

def defaultMaxUsbPartitions : ℕ := 64

def enumerateOnce (udev : Udev) (filter : Option (UInt16 × UInt16)) :
    Except UsbError (List UsbDevice) :=
  enumerateOnceWithLimit udev filter defaultMaxUsbPartitions

/-- The names of the partitions of a disk begin like this. Behind a digit the kernel sets a
letter before the number. -/
def partitionStem (disk : String) : List Char :=
  if disk.toList.getLast?.any Char.isDigit then disk.toList ++ ['p'] else disk.toList

def partitionName (disk : String) (n : ℕ) : String :=
  String.ofList (partitionStem disk ++ numeral 10 n)

theorem splitSuffix_partitionName (disk : String) {n : ℕ} (hn : n < 2 ^ 64) :
    splitSuffix (partitionName disk n) = (String.ofList (partitionStem disk), n) := by
  refine splitSuffix_numeral ?_ hn
  intro c hc
  unfold partitionStem at hc
  split at hc
  · rw [List.getLast?_concat, Option.mem_some_iff] at hc
    subst hc
    rfl
  · next hlast =>
    rw [Option.mem_def] at hc
    simpa [hc] using hlast

/-- The block devices of a machine. Their names and their nodes are distinct, a partition lies
on one disk only, and its name is that of the disk with its number. -/
structure BlockTree where
  devices : List UdevDevice
  below : UdevDevice → UdevDevice → Bool
  scanError : Option String
  childError : UdevDevice → Option String
  names_nodup : (devices.map (·.sysname)).Nodup
  nodes_nodup : (devices.filterMap (·.devnode)).Nodup
  one_disk : ∀ d ∈ devices, ∀ e ∈ devices, ∀ p ∈ devices, d.isWholeDisk → e.isWholeDisk →
    p.isPartition → below d p → below e p → d = e
  partition_named : ∀ d ∈ devices, ∀ p ∈ devices, d.isWholeDisk → p.isPartition → below d p →
    ∃ n < 2 ^ 64, p.sysname = partitionName d.sysname n

namespace BlockTree

variable (tree : BlockTree)

def scanned : List UdevDevice := tree.devices.filter (·.onUsb)

def underneath (d : UdevDevice) : List UdevDevice := tree.devices.filter (tree.below d)

def udev : Udev where
  scan := tree.scanError.elim (.ok tree.scanned) .error
  children d := (tree.childError d).elim (.ok (tree.underneath d)) .error

/-- The record is that of the partition with this number on the disk. -/
def IsPartitionOf (d : UdevDevice) (n : ℕ) (dev : UsbDevice) : Prop :=
  ∃ p ∈ tree.devices, p.isPartition = true ∧ tree.below d p = true ∧
    p.sysname = partitionName d.sysname n ∧ p.devnode = some dev.devnode

variable {tree}

theorem eq_of_devnode {d e : UdevDevice} (hd : d ∈ tree.devices) (he : e ∈ tree.devices)
    {node : String} (hnode : d.devnode = some node) (hnode' : e.devnode = some node) : d = e := by
  have hpairs := List.pairwise_filterMap.mp tree.nodes_nodup
  by_contra hne
  have hsymm : Std.Symm fun a b : UdevDevice =>
      ∀ x, a.devnode = some x → ∀ y, b.devnode = some y → x ≠ y :=
    ⟨fun a b h x hx y hy heq => h y hy x hx heq.symm⟩
  exact hpairs.forall hd he hne node hnode node hnode' rfl

end BlockTree

/-- The identity of the device can be read, and the filter admits it. -/
def Passes (filter : Option (UInt16 × UInt16)) (d : UdevDevice) : Prop :=
  ∃ vid pid, parseHex16 d.idVendorId = .ok vid ∧ parseHex16 d.idModelId = .ok pid ∧
    filter.any (· ≠ (vid, pid)) = false

/-- The partitions among the children with a filesystem that may be mounted, in their order. -/
def picked (children : List UdevDevice) : List (String × PartitionCandidate) :=
  (sortTagged (children.filterMap candidate)).filter fun t => t.2.fsType.any (· ∈ allowedFs)

section

variable {udev : Udev} {filter : Option (UInt16 × UInt16)} {limit : ℕ} {d : UdevDevice}
  {devs : List UsbDevice}

theorem selectPartitions_map (tagged : List (String × PartitionCandidate)) :
    selectPartitions none (tagged.map (·.2)) =
      (tagged.filter fun t => t.2.fsType.any (· ∈ allowedFs)).map (·.2) := by
  simp [selectPartitions, List.filter_map, Function.comp_def]

/-- A device is listed as itself, or it is a disk whose partitions are listed. -/
theorem devicesFrom_cases (h : devicesFrom udev filter limit d = .ok devs) :
    devs = [] ∨
      (∃ dev, devs = [dev] ∧ d.devnode = some dev.devnode ∧ d.fsType.isSome = true ∧
        Passes filter d) ∨
      (d.isWholeDisk = true ∧ ∃ children vid pid, udev.children d = .ok children ∧
        devs = (picked children).map fun t =>
          ⟨t.2.devnode, d.serial, vid, pid, t.2.fsType⟩) := by
  unfold devicesFrom at h
  split at h
  · cases h
    exact .inl rfl
  · next devnode hnode =>
    obtain ⟨vid, hvid, h⟩ := bind_eq_ok_iff.mp h
    obtain ⟨pid, hpid, h⟩ := bind_eq_ok_iff.mp h
    split at h
    · cases h
      exact .inl rfl
    · next hadmitted =>
      split at h
      · next hfs =>
        cases h
        exact .inr (.inl ⟨_, rfl, hnode, hfs, vid, pid, hvid, hpid, by simpa using hadmitted⟩)
      · split at h
        · cases h
          exact .inl rfl
        · next hdisk =>
          unfold collectPartitionCandidates at h
          cases hchildren : udev.children d with
          | error e =>
            rw [hchildren] at h
            cases h
            exact .inl rfl
          | ok children =>
            rw [hchildren] at h
            simp only [Except.mapError, bind, Except.bind, selectPartitions_map] at h
            split at h
            · cases h
            · cases h
              refine .inr (.inr ⟨by simpa using hdisk, children, vid, pid, rfl, ?_⟩)
              rw [picked, List.map_map]
              rfl

/-- A device that passes and has a filesystem lists itself. -/
theorem devicesFrom_of_fsType {node : String} (hnode : d.devnode = some node)
    (hpasses : Passes filter d) (hfs : d.fsType.isSome = true) :
    ∃ dev, devicesFrom udev filter limit d = .ok [dev] ∧ dev.devnode = node := by
  obtain ⟨vid, pid, hvid, hpid, hadmitted⟩ := hpasses
  refine ⟨⟨node, d.serial, vid, pid, d.fsType⟩, ?_, rfl⟩
  simp only [devicesFrom, hnode, hvid, hpid, bind, Except.bind, hadmitted, hfs, if_true,
    Bool.false_eq_true, if_false]

end

theorem candidate_eq_some_iff {child : UdevDevice} {t : String × PartitionCandidate} :
    candidate child = some t ↔ child.isPartition = true ∧ child.sysname = t.1 ∧
      child.devnode = some t.2.devnode ∧ child.fsType = t.2.fsType ∧
      child.fsLabel = t.2.fsLabel := by
  unfold candidate
  split
  · next hpartition =>
    simp only [Option.map_eq_some_iff, hpartition, true_and]
    constructor
    · rintro ⟨devnode, hnode, rfl⟩
      exact ⟨rfl, hnode, rfl, rfl⟩
    · rintro ⟨hname, hnode, hfs, hlabel⟩
      exact ⟨t.2.devnode, hnode, by rw [hname, hfs, hlabel]⟩
  · next hpartition => simp [hpartition]

theorem mem_picked {children : List UdevDevice} {t : String × PartitionCandidate}
    (h : t ∈ picked children) :
    (∃ p ∈ children, p.isPartition = true ∧ p.sysname = t.1 ∧ p.devnode = some t.2.devnode) ∧
      ∃ fs ∈ allowedFs, t.2.fsType = some fs := by
  obtain ⟨hsorted, hallowed⟩ := List.mem_filter.mp h
  have hmem : t ∈ children.filterMap candidate := (sortTagged_perm _).mem_iff.mp hsorted
  obtain ⟨p, hp, hcandidate⟩ := List.mem_filterMap.mp hmem
  obtain ⟨hpartition, hname, hnode, -⟩ := candidate_eq_some_iff.mp hcandidate
  refine ⟨⟨p, hp, hpartition, hname, hnode⟩, ?_⟩
  obtain ⟨fs, hfs, hlisted⟩ := (Option.any_eq_true _ _).mp hallowed
  exact ⟨fs, of_decide_eq_true hlisted, hfs⟩

theorem names_filterMap_sublist (children : List UdevDevice) :
    ((children.filterMap candidate).map (·.1)).Sublist (children.map (·.sysname)) := by
  induction children with
  | nil => exact List.Sublist.slnil
  | cons child children ih =>
    cases hcandidate : candidate child with
    | none =>
      rw [List.filterMap_cons_none hcandidate]
      exact ih.cons _
    | some t =>
      rw [List.filterMap_cons_some hcandidate, List.map_cons, List.map_cons,
        (candidate_eq_some_iff.mp hcandidate).2.1]
      exact ih.cons_cons _

/-- The names that are picked are distinct and ascend. -/
theorem picked_pairwise {children : List UdevDevice}
    (h : (children.map (·.sysname)).Nodup) :
    (picked children).Pairwise fun a b =>
      a.1 ≠ b.1 ∧ toLex (splitSuffix a.1) ≤ toLex (splitSuffix b.1) := by
  have hsorted : (sortTagged (children.filterMap candidate)).Pairwise NaturalLE :=
    List.pairwise_insertionSort _ _
  have hnodup : ((sortTagged (children.filterMap candidate)).map (·.1)).Nodup := by
    rw [((sortTagged_perm _).map _).nodup_iff]
    exact h.sublist (names_filterMap_sublist children)
  have hboth := (List.pairwise_map.mp hnodup).and hsorted
  refine (hboth.imp ?_).filter _
  intro a b hab
  exact ⟨hab.1, naturalCmp_isLE_iff.mp hab.2⟩

section

variable {tree : BlockTree} {d : UdevDevice}

/-- The partitions that are picked for a disk, with their numbers, ascend. -/
theorem picked_numbered (hd : d ∈ tree.devices) (hdisk : d.isWholeDisk = true)
    {record : String × PartitionCandidate → UsbDevice}
    (hrecord : ∀ t, (record t).devnode = t.2.devnode) :
    ∃ numbers : List ℕ, numbers.Pairwise (· < ·) ∧
      List.Forall₂ (tree.IsPartitionOf d) numbers ((picked (tree.underneath d)).map record) := by
  have hnamed : ∀ t ∈ picked (tree.underneath d), ∃ n < 2 ^ 64,
      t.1 = partitionName d.sysname n ∧ tree.IsPartitionOf d n (record t) := by
    intro t ht
    obtain ⟨⟨p, hp, hpartition, hname, hnode⟩, -⟩ := mem_picked ht
    obtain ⟨hdevice, hbelow⟩ := List.mem_filter.mp hp
    obtain ⟨n, hn, hnumber⟩ := tree.partition_named d hd p hdevice hdisk hpartition hbelow
    exact ⟨n, hn, hname ▸ hnumber, p, hdevice, hpartition, hbelow, hnumber, by rw [hrecord, hnode]⟩
  refine ⟨(picked (tree.underneath d)).map fun t => (splitSuffix t.1).2, ?_, ?_⟩
  · have hnames : ((tree.underneath d).map (·.sysname)).Nodup :=
      tree.names_nodup.sublist (List.filter_sublist.map _)
    rw [List.pairwise_map]
    refine (picked_pairwise hnames).imp_of_mem ?_
    intro a b ha hb hab
    obtain ⟨m, hm, hnameA, -⟩ := hnamed a ha
    obtain ⟨n, hn, hnameB, -⟩ := hnamed b hb
    obtain ⟨hne, hle⟩ := hab
    rw [hnameA, hnameB, splitSuffix_partitionName _ hm, splitSuffix_partitionName _ hn,
      Prod.Lex.toLex_le_toLex] at hle
    rw [hnameA, hnameB, splitSuffix_partitionName _ hm, splitSuffix_partitionName _ hn]
    have hle' : m ≤ n := by simpa using hle
    refine lt_of_le_of_ne hle' ?_
    rintro rfl
    exact hne (hnameA.trans hnameB.symm)
  · rw [List.forall₂_map_left_iff, List.forall₂_map_right_iff, List.forall₂_same]
    intro t ht
    obtain ⟨n, hn, hname, hpartition⟩ := hnamed t ht
    rw [hname, splitSuffix_partitionName _ hn]
    exact hpartition

end

/-- What a scan should return for the devices of a machine. -/
structure ListsTree (tree : BlockTree) (filter : Option (UInt16 × UInt16)) (limit : ℕ)
    (out : List UsbDevice) : Prop where
  once : (out.map (·.devnode)).Nodup
  through : ∀ d ∈ tree.scanned, ∀ devs, devicesFrom tree.udev filter limit d = .ok devs →
    ∀ dev ∈ devs, ∀ p ∈ tree.devices, p.isPartition = true → p.devnode = some dev.devnode →
      d.isWholeDisk = true ∧ tree.below d p = true ∧ ∃ fs ∈ allowedFs, dev.fsType = some fs
  consecutive : ∀ d ∈ tree.devices, d.isWholeDisk = true → ∃ before numbers segment after,
    out = before ++ segment ++ after ∧ numbers.Pairwise (· < ·) ∧
      List.Forall₂ (tree.IsPartitionOf d) numbers segment ∧
      ∀ dev ∈ before ++ after, ∀ n, ¬ tree.IsPartitionOf d n dev

/-- No partition that reaches the scan as a device of its own has a filesystem. -/
def NoBarePartition (tree : BlockTree) (filter : Option (UInt16 × UInt16)) : Prop :=
  ∀ p ∈ tree.scanned, p.isPartition = true → p.devnode.isSome = true → Passes filter p →
    p.fsType = none

section

variable {tree : BlockTree} {filter : Option (UInt16 × UInt16)} {limit : ℕ}
  {out : List UsbDevice}

/-- What a device adds to the result of a scan that succeeds. -/
def listed (tree : BlockTree) (filter : Option (UInt16 × UInt16)) (limit : ℕ)
    (d : UdevDevice) : List UsbDevice :=
  (devicesFrom tree.udev filter limit d).toOption.getD []

theorem enumerateOnceWithLimit_eq_ok
    (h : enumerateOnceWithLimit tree.udev filter limit = .ok out) :
    (∀ d ∈ tree.scanned,
        devicesFrom tree.udev filter limit d = .ok (listed tree filter limit d)) ∧
      out = tree.scanned.flatMap (listed tree filter limit) := by
  obtain ⟨scanned, hscan, h⟩ := bind_eq_ok_iff.mp h
  obtain ⟨found, hfound, hpure⟩ := bind_eq_ok_iff.mp h
  have hscanned : tree.scanned = scanned := by
    have hanswer : tree.udev.scan = .ok scanned := mapError_eq_ok_iff.mp hscan
    cases herror : tree.scanError with
    | none => simpa [BlockTree.udev, herror] using hanswer
    | some e => simp [BlockTree.udev, herror] at hanswer
  cases hpure
  subst hscanned
  have hall : ∀ d ∈ tree.scanned,
      devicesFrom tree.udev filter limit d = .ok (listed tree filter limit d) := by
    intro d hd
    obtain ⟨devs, -, hdevs⟩ := exists_ok_of_mapM_eq_ok hfound hd
    rw [listed, hdevs]
    rfl
  refine ⟨hall, ?_⟩
  have hlists : tree.scanned.mapM (devicesFrom tree.udev filter limit) =
      .ok (tree.scanned.map (listed tree filter limit)) := by
    rw [mapM_eq_ok_iff, List.forall₂_map_right_iff, List.forall₂_same]
    exact hall
  rw [hfound] at hlists
  rw [Except.ok.inj hlists, List.flatMap_def]

theorem mem_devices_of_mem_scanned {d : UdevDevice} (hd : d ∈ tree.scanned) : d ∈ tree.devices :=
  List.mem_of_mem_filter hd

theorem scanned_nodup (tree : BlockTree) : tree.scanned.Nodup :=
  tree.names_nodup.of_map.filter _

/-- One device of a scan on a machine. -/
inductive Adds (tree : BlockTree) (filter : Option (UInt16 × UInt16)) (d : UdevDevice) :
    List UsbDevice → Prop where
  | nothing : Adds tree filter d []
  | itself {dev : UsbDevice} (node : d.devnode = some dev.devnode)
      (fsType : d.fsType.isSome = true) (passes : Passes filter d) : Adds tree filter d [dev]
  | partitions {record : String × PartitionCandidate → UsbDevice}
      (disk : d.isWholeDisk = true) (node : ∀ t, (record t).devnode = t.2.devnode)
      (fsType : ∀ t, (record t).fsType = t.2.fsType) :
      Adds tree filter d ((picked (tree.underneath d)).map record)

theorem adds_of_devicesFrom {d : UdevDevice} {devs : List UsbDevice}
    (h : devicesFrom tree.udev filter limit d = .ok devs) : Adds tree filter d devs := by
  rcases devicesFrom_cases h with
    rfl | ⟨dev, rfl, hnode, hfs, hpasses⟩ | ⟨hdisk, children, vid, pid, hchildren, rfl⟩
  · exact .nothing
  · exact .itself hnode hfs hpasses
  · have hunder : tree.underneath d = children := by
      cases herror : tree.childError d with
      | none => simpa [BlockTree.udev, herror] using hchildren
      | some e => simp [BlockTree.udev, herror] at hchildren
    subst hunder
    exact .partitions hdisk (fun _ => rfl) fun _ => rfl

/-- Without partitions that list themselves, a partition is listed for its disk only. -/
theorem Adds.through (hbare : NoBarePartition tree filter) {d : UdevDevice}
    (hd : d ∈ tree.scanned) {devs : List UsbDevice} (h : Adds tree filter d devs)
    {dev : UsbDevice} (hdev : dev ∈ devs) {p : UdevDevice} (hp : p ∈ tree.devices)
    (hpartition : p.isPartition = true) (hnode : p.devnode = some dev.devnode) :
    d.isWholeDisk = true ∧ tree.below d p = true ∧ ∃ fs ∈ allowedFs, dev.fsType = some fs := by
  cases h with
  | nothing => cases hdev
  | itself hown hfs hpasses =>
    obtain rfl := List.mem_singleton.mp hdev
    obtain rfl := BlockTree.eq_of_devnode (mem_devices_of_mem_scanned hd) hp hown hnode
    rw [hbare d hd hpartition (by simp [hown]) hpasses] at hfs
    cases hfs
  | partitions hdisk hrecord hfs =>
    obtain ⟨t, ht, rfl⟩ := List.mem_map.mp hdev
    obtain ⟨⟨child, hchild, -, -, hchildNode⟩, hallowed⟩ := mem_picked ht
    obtain ⟨hdevice, hbelow⟩ := List.mem_filter.mp hchild
    rw [hrecord] at hnode
    obtain rfl := BlockTree.eq_of_devnode hdevice hp hchildNode hnode
    exact ⟨hdisk, hbelow, by rw [hfs]; exact hallowed⟩

/-- A record is that of a partition, or of the device that the scan reports. -/
theorem Adds.exists_owner {d : UdevDevice} (hd : d ∈ tree.devices) {devs : List UsbDevice}
    (h : Adds tree filter d devs) {dev : UsbDevice} (hdev : dev ∈ devs) :
    ∃ owner ∈ tree.devices, owner.devnode = some dev.devnode ∧
      (owner.isPartition = true ∨ owner = d) := by
  cases h with
  | nothing => cases hdev
  | itself hown hfs hpasses =>
    obtain rfl := List.mem_singleton.mp hdev
    exact ⟨d, hd, hown, .inr rfl⟩
  | partitions hdisk hrecord hfs =>
    obtain ⟨t, ht, rfl⟩ := List.mem_map.mp hdev
    obtain ⟨⟨child, hchild, hpartition, -, hchildNode⟩, -⟩ := mem_picked ht
    exact ⟨child, List.mem_of_mem_filter hchild, by rw [hrecord, hchildNode], .inl hpartition⟩

/-- Two devices of a scan never add the same node. -/
theorem Adds.disjoint (hbare : NoBarePartition tree filter) {d e : UdevDevice}
    (hd : d ∈ tree.scanned) (he : e ∈ tree.scanned) (hne : d ≠ e) {devs devs' : List UsbDevice}
    (h : Adds tree filter d devs) (h' : Adds tree filter e devs') {dev dev' : UsbDevice}
    (hdev : dev ∈ devs) (hdev' : dev' ∈ devs') : dev.devnode ≠ dev'.devnode := by
  intro hsame
  have hd' := mem_devices_of_mem_scanned hd
  have he' := mem_devices_of_mem_scanned he
  obtain ⟨owner, howner, hnode, hkind⟩ := h.exists_owner hd' hdev
  obtain ⟨owner', howner', hnode', hkind'⟩ := h'.exists_owner he' hdev'
  rw [← hsame] at hnode'
  obtain rfl := BlockTree.eq_of_devnode howner howner' hnode hnode'
  by_cases hpartition : owner.isPartition = true
  · obtain ⟨hdisk, hbelow, -⟩ := h.through hbare hd hdev howner hpartition hnode
    obtain ⟨hdisk', hbelow', -⟩ :=
      h'.through hbare he hdev' howner hpartition (hsame ▸ hnode)
    exact hne (tree.one_disk d hd' e he' owner howner hdisk hdisk' hpartition hbelow hbelow')
  · exact hne ((hkind.resolve_left hpartition).symm.trans (hkind'.resolve_left hpartition))

theorem Adds.nodup {d : UdevDevice} {devs : List UsbDevice} (h : Adds tree filter d devs) :
    (devs.map (·.devnode)).Nodup := by
  cases h with
  | nothing => exact List.nodup_nil
  | itself => exact List.nodup_singleton _
  | partitions hdisk hrecord hfs =>
    have hnames : ((tree.underneath d).map (·.sysname)).Nodup :=
      tree.names_nodup.sublist (List.filter_sublist.map _)
    rw [List.map_map]
    refine List.pairwise_map.mpr ((picked_pairwise hnames).imp_of_mem ?_)
    intro a b ha hb hab hsame
    obtain ⟨⟨p, hp, -, hname, hnode⟩, -⟩ := mem_picked ha
    obtain ⟨⟨q, hq, -, hname', hnode'⟩, -⟩ := mem_picked hb
    have hequal : a.2.devnode = b.2.devnode := by rw [← hrecord a, ← hrecord b]; exact hsame
    rw [← hequal] at hnode'
    obtain rfl := BlockTree.eq_of_devnode (List.mem_of_mem_filter hp) (List.mem_of_mem_filter hq)
      hnode hnode'
    exact hab.1 (hname.symm.trans hname')

variable {add : UdevDevice → List UsbDevice}

theorem once_of_noBare (hbare : NoBarePartition tree filter)
    (hadds : ∀ d ∈ tree.scanned, Adds tree filter d (add d)) :
    ((tree.scanned.flatMap add).map (·.devnode)).Nodup := by
  rw [List.map_flatMap, List.nodup_flatMap]
  refine ⟨fun d hd => (hadds d hd).nodup, ?_⟩
  refine (scanned_nodup tree).imp_of_mem ?_
  intro d e hd he hne node hnode hnode'
  obtain ⟨dev, hdev, rfl⟩ := List.mem_map.mp hnode
  obtain ⟨dev', hdev', hsame⟩ := List.mem_map.mp hnode'
  exact (hadds d hd).disjoint hbare hd he hne (hadds e he) hdev hdev' hsame.symm

/-- A partition of a disk is added for that disk. -/
theorem eq_of_isPartitionOf (hbare : NoBarePartition tree filter) {d e : UdevDevice}
    (hd : d ∈ tree.devices) (hdisk : d.isWholeDisk = true) (he : e ∈ tree.scanned)
    {devs : List UsbDevice} (h : Adds tree filter e devs) {dev : UsbDevice} (hdev : dev ∈ devs)
    {n : ℕ} (hpart : tree.IsPartitionOf d n dev) : e = d := by
  obtain ⟨p, hp, hpartition, hbelow, -, hnode⟩ := hpart
  obtain ⟨hdisk', hbelow', -⟩ := h.through hbare he hdev hp hpartition hnode
  exact tree.one_disk e (mem_devices_of_mem_scanned he) d hd p hp hdisk' hdisk hpartition hbelow'
    hbelow

/-- What a disk adds is its partitions in ascending order, or no partition of it. -/
theorem Adds.numbered {d : UdevDevice} (hd : d ∈ tree.scanned)
    (hdisk : d.isWholeDisk = true) {devs : List UsbDevice} (h : Adds tree filter d devs) :
    (∃ numbers : List ℕ, numbers.Pairwise (· < ·) ∧
        List.Forall₂ (tree.IsPartitionOf d) numbers devs) ∨
      ∀ dev ∈ devs, ∀ n, ¬ tree.IsPartitionOf d n dev := by
  cases h with
  | nothing => exact .inl ⟨[], List.Pairwise.nil, List.Forall₂.nil⟩
  | itself hown hfs hpasses =>
    refine .inr ?_
    rintro dev hdev n ⟨p, hp, hpartition, -, -, hnode⟩
    obtain rfl := List.mem_singleton.mp hdev
    obtain rfl := BlockTree.eq_of_devnode (mem_devices_of_mem_scanned hd) hp hown hnode
    rw [UdevDevice.not_isPartition_of_isWholeDisk hdisk] at hpartition
    cases hpartition
  | partitions _ hrecord _ =>
    exact .inl (picked_numbered (mem_devices_of_mem_scanned hd) hdisk hrecord)

theorem consecutive_of_noBare (hbare : NoBarePartition tree filter)
    (hadds : ∀ d ∈ tree.scanned, Adds tree filter d (add d)) {d : UdevDevice}
    (hd : d ∈ tree.devices) (hdisk : d.isWholeDisk = true) :
    ∃ before numbers segment after, tree.scanned.flatMap add = before ++ segment ++ after ∧
      numbers.Pairwise (· < ·) ∧ List.Forall₂ (tree.IsPartitionOf d) numbers segment ∧
      ∀ dev ∈ before ++ after, ∀ n, ¬ tree.IsPartitionOf d n dev := by
  have hforeign : ∀ e ∈ tree.scanned, e ≠ d → ∀ dev ∈ add e, ∀ n,
      ¬ tree.IsPartitionOf d n dev := by
    intro e he hne dev hdev n hpart
    exact hne (eq_of_isPartitionOf hbare hd hdisk he (hadds e he) hdev hpart)
  have hnowhere (hown : d ∈ tree.scanned → ∀ dev ∈ add d, ∀ n, ¬ tree.IsPartitionOf d n dev) :
      ∀ dev ∈ tree.scanned.flatMap add, ∀ n, ¬ tree.IsPartitionOf d n dev := by
    intro dev hdev
    obtain ⟨e, he, hadded⟩ := List.mem_flatMap.mp hdev
    by_cases hsame : e = d
    · subst hsame
      exact hown he dev hadded
    · exact hforeign e he hsame dev hadded
  by_cases hnone : d ∈ tree.scanned → ∀ dev ∈ add d, ∀ n, ¬ tree.IsPartitionOf d n dev
  · exact ⟨tree.scanned.flatMap add, [], [], [], by simp, List.Pairwise.nil, .nil,
      by simpa using hnowhere hnone⟩
  · obtain ⟨hscanned, hsome⟩ := Classical.not_imp.mp hnone
    obtain ⟨numbers, hsorted, hall⟩ :=
      ((hadds d hscanned).numbered hscanned hdisk).resolve_right hsome
    obtain ⟨front, back, hsplit⟩ := List.append_of_mem hscanned
    have hnodup := scanned_nodup tree
    rw [hsplit] at hnodup
    refine ⟨front.flatMap add, numbers, add d, back.flatMap add, by simp [hsplit], hsorted,
      hall, ?_⟩
    intro dev hdev
    rw [← List.flatMap_append] at hdev
    obtain ⟨e, he, hadded⟩ := List.mem_flatMap.mp hdev
    refine hforeign e ?_ ?_ dev hadded
    · rw [hsplit]
      exact List.mem_append.mpr ((List.mem_append.mp he).imp_right (List.mem_cons_of_mem d))
    · rintro rfl
      exact (List.nodup_middle.mp hnodup).notMem he

/-- A scan that succeeds lists the devices of a machine as it should exactly if no partition
that it meets on the way has a filesystem. -/
theorem enumerate_once_lists_tree_iff
    (h : enumerateOnceWithLimit tree.udev filter limit = .ok out) :
    ListsTree tree filter limit out ↔ NoBarePartition tree filter := by
  obtain ⟨hlisted, rfl⟩ := enumerateOnceWithLimit_eq_ok h
  have hadds : ∀ d ∈ tree.scanned, Adds tree filter d (listed tree filter limit d) :=
    fun d hd => adds_of_devicesFrom (hlisted d hd)
  constructor
  · intro hlists p hp hpartition hnode hpasses
    by_contra hfs
    obtain ⟨node, hnode⟩ := Option.isSome_iff_exists.mp hnode
    obtain ⟨dev, hdev, rfl⟩ : ∃ dev, devicesFrom tree.udev filter limit p = .ok [dev] ∧
        dev.devnode = node :=
      devicesFrom_of_fsType hnode hpasses (Option.ne_none_iff_isSome.mp hfs)
    obtain ⟨hdisk, -⟩ := hlists.through p hp [dev] hdev dev List.mem_cons_self p
      (mem_devices_of_mem_scanned hp) hpartition hnode
    rw [UdevDevice.not_isPartition_of_isWholeDisk hdisk] at hpartition
    cases hpartition
  · intro hbare
    refine ⟨once_of_noBare hbare hadds, ?_, ?_⟩
    · intro d hd devs hdevs dev hdev p hp hpartition hnode
      exact (adds_of_devicesFrom hdevs).through hbare hd hdev hp hpartition hnode
    · intro d hd hdisk
      exact consecutive_of_noBare hbare hadds hd hdisk

end

def osText (text : String) : OsText := ⟨text, true⟩

/-- A device of the stick. -/
def stickNode (sysname devtype : String) (idBus fsType : Option String) : UdevDevice where
  sysname := sysname
  devnode := some ("/dev/" ++ sysname)
  devtype := some (osText devtype)
  idBus := idBus.map osText
  idVendorId := some (osText "0951")
  idModelId := some (osText "1666")
  idSerialShort := some (osText "USB-1")
  idSerial := none
  idFsType := fsType.map osText
  idFsLabel := none

def stickDisk : UdevDevice := stickNode "sdb" "disk" (some "usb") none

/-- The stick with the partitions 10, 2 and 3, of which the last has a filesystem that is never
mounted. -/
def stickDevices (idBus : Option String) : List UdevDevice :=
  [stickDisk, stickNode "sdb10" "partition" idBus (some "ext4"),
    stickNode "sdb2" "partition" idBus (some "vfat"),
    stickNode "sdb3" "partition" idBus (some "btrfs")]

theorem stickNames : "sdb10" = partitionName "sdb" 10 ∧ "sdb2" = partitionName "sdb" 2 ∧
    "sdb3" = partitionName "sdb" 3 := by
  decide +kernel

theorem eq_stickDisk {idBus : Option String} {d : UdevDevice} (hd : d ∈ stickDevices idBus)
    (hdisk : d.isWholeDisk = true) : d = stickDisk := by
  simp only [stickDevices, List.mem_cons, List.not_mem_nil, or_false] at hd
  rcases hd with rfl | rfl | rfl | rfl
  · rfl
  all_goals cases hdisk

def stick (idBus : Option String) : BlockTree where
  devices := stickDevices idBus
  below _ _ := true
  scanError := none
  childError _ := none
  names_nodup := by
    change ["sdb", "sdb10", "sdb2", "sdb3"].Nodup
    decide
  nodes_nodup := by
    change ["/dev/sdb", "/dev/sdb10", "/dev/sdb2", "/dev/sdb3"].Nodup
    decide
  one_disk d hd e he _ _ hdisk hdisk' _ _ _ := by
    rw [eq_stickDisk hd hdisk, eq_stickDisk he hdisk']
  partition_named d hd p hp hdisk hpartition _ := by
    obtain rfl := eq_stickDisk hd hdisk
    simp only [stickDevices, List.mem_cons, List.not_mem_nil, or_false] at hp
    rcases hp with rfl | rfl | rfl | rfl
    · cases hpartition
    · exact ⟨10, by omega, stickNames.1⟩
    · exact ⟨2, by omega, stickNames.2.1⟩
    · exact ⟨3, by omega, stickNames.2.2⟩

def stickRecord (devnode : String) (fsType : String) : UsbDevice :=
  ⟨devnode, some "USB-1", 0x0951, 0x1666, some fsType⟩

/-- Where udev does not place the partitions on the bus, the disk alone lists them. -/
theorem enumerate_once_stick_by_disk :
    enumerateOnceWithLimit (stick none).udev none 64 =
        .ok [stickRecord "/dev/sdb2" "vfat", stickRecord "/dev/sdb10" "ext4"] ∧
      ListsTree (stick none) none 64
        [stickRecord "/dev/sdb2" "vfat", stickRecord "/dev/sdb10" "ext4"] := by
  have hscan : enumerateOnceWithLimit (stick none).udev none 64 =
      .ok [stickRecord "/dev/sdb2" "vfat", stickRecord "/dev/sdb10" "ext4"] := by decide +kernel
  refine ⟨hscan, (enumerate_once_lists_tree_iff hscan).mpr ?_⟩
  intro p hp hpartition
  have hdisk : p ∈ [stickDisk] := hp
  rw [List.mem_singleton.mp hdisk] at hpartition
  cases hpartition

/-- Where it does, partitions are listed twice, and one that is never mounted is listed too. -/
theorem enumerate_once_stick_repeats :
    enumerateOnceWithLimit (stick (some "usb")).udev none 64 =
        .ok [stickRecord "/dev/sdb2" "vfat", stickRecord "/dev/sdb10" "ext4",
          stickRecord "/dev/sdb10" "ext4", stickRecord "/dev/sdb2" "vfat",
          stickRecord "/dev/sdb3" "btrfs"] ∧
      ¬ ([stickRecord "/dev/sdb2" "vfat", stickRecord "/dev/sdb10" "ext4",
          stickRecord "/dev/sdb10" "ext4", stickRecord "/dev/sdb2" "vfat",
          stickRecord "/dev/sdb3" "btrfs"].map (·.devnode)).Nodup ∧
      "btrfs" ∉ allowedFs := by
  refine ⟨?_, ?_, ?_⟩ <;> decide +kernel

end PamCertauth.Usb
