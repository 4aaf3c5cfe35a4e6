import PamCertauth.DirectoryTrees
import PamCertauth.FlowCollaborators

/-!
# Mountpoints and their guards

A login mounts each candidate device below the mountpoint base, on a directory of its
own. A guard unmounts the device and removes the directory when it is dropped, but the
directory is made before any guard exists: between the two, a missing filesystem type, a
filesystem that is not allowed or a refused `mount(2)` ends the attempt with nobody left
to remove the directory. The same gap stands in the guard's own constructor for `tmpfs`,
behind the directory and before the mount.
-/

namespace PamCertauth.Flow

variable {σ : Type}

/-- What mounting asks of the operating system. -/
structure MountOs (σ : Type) where
  pathExists : String → σ → Bool
  mount (devnode target fsType : String) : σ → Except String Unit × σ

def allowedFs : List String := ["vfat", "exfat", "ext4", "ntfs"]

def selectFsType (dev : UsbDevice) : Except MountError String :=
  match dev.fsType with
  | some fs => .ok fs
  | none => .error (.unsupportedFs "(unknown)")

def mountUsbDevice (os : MountOs σ) (dev : UsbDevice) (mountpoint : String) (s : σ) :
    Except MountError Unit × σ :=
  if ¬ os.pathExists mountpoint s then (.error (.mountpointInvalid mountpoint), s)
  else
    match selectFsType dev with
    | .error e => (.error e, s)
    | .ok fs =>
      if fs ∉ allowedFs then (.error (.unsupportedFs fs), s)
      else
        let (answer, s₁) := os.mount dev.devnode mountpoint fs s
        (answer.mapError .mountSyscall, s₁)

/-- Everything that is looked at before the call is in order. -/
def MountOs.Admits (os : MountOs σ) (dev : UsbDevice) (mountpoint fs : String) (s : σ) : Prop :=
  os.pathExists mountpoint s = true ∧ dev.fsType = some fs ∧ fs ∈ allowedFs

/-- A device is refused without a call, or mounted with its filesystem. -/
theorem mountUsbDevice_cases (os : MountOs σ) (dev : UsbDevice) (mountpoint : String) (s : σ) :
    ((∃ e, mountUsbDevice os dev mountpoint s = (.error e, s)) ∧
        ∀ fs, ¬ os.Admits dev mountpoint fs s) ∨
      ∃ fs, os.Admits dev mountpoint fs s ∧ mountUsbDevice os dev mountpoint s =
        ((os.mount dev.devnode mountpoint fs s).1.mapError .mountSyscall,
          (os.mount dev.devnode mountpoint fs s).2) := by
  rw [mountUsbDevice]
  split
  · next hmissing => exact .inl ⟨⟨_, rfl⟩, fun _ hadmits => hmissing hadmits.1⟩
  · next hthere =>
    cases hfs : dev.fsType with
    | none =>
      rw [selectFsType, hfs]
      refine .inl ⟨⟨_, rfl⟩, fun _ hadmits => ?_⟩
      cases hfs.symm.trans hadmits.2.1
    | some fs =>
      simp only [selectFsType, hfs]
      split
      · next hother =>
        refine .inl ⟨⟨_, rfl⟩, fun _ hadmits => ?_⟩
        cases hfs.symm.trans hadmits.2.1
        exact hother hadmits.2.2
      · next hallowed => exact .inr ⟨fs, ⟨not_not.mp hthere, hfs, not_not.mp hallowed⟩, rfl⟩

end PamCertauth.Flow

namespace PamCertauth.Mount

open Directories
open PamCertauth.Flow (UsbDevice MountError)

structure MountFlags where
  bits : UInt32
  deriving DecidableEq, Repr

namespace MountFlags

def nosuid : MountFlags := ⟨1⟩

def nodev : MountFlags := ⟨(1 : UInt32) <<< 1⟩

def noexec : MountFlags := ⟨(1 : UInt32) <<< 2⟩

def ro : MountFlags := ⟨(1 : UInt32) <<< 3⟩

def noatime : MountFlags := ⟨(1 : UInt32) <<< 4⟩

def contains (flags other : MountFlags) : Bool := flags.bits &&& other.bits == other.bits

instance : OrOp MountFlags := ⟨fun flags other => ⟨flags.bits ||| other.bits⟩⟩

/-- The flags of `mount(2)`, with the numbers of the C library. -/
def toMsFlags (flags : MountFlags) : UInt64 :=
  (if flags.contains nosuid then 2 else 0) ||| (if flags.contains nodev then 4 else 0) |||
    (if flags.contains noexec then 8 else 0) ||| (if flags.contains ro then 1 else 0) |||
    (if flags.contains noatime then 1024 else 0)

end MountFlags

/-- The flags of every mount of the module. -/
def hardenedFlags : MountFlags := .nosuid ||| .nodev ||| .noexec ||| .ro ||| .noatime

inductive MountGuardError where
  | mount (target : Path) (source : IoError)
  | umount (target : Path) (source : IoError)
  | mkdir (path : Path) (source : IoError)
  | rmdir (path : Path) (source : IoError)
  | invalidSessionId (reason : String)
  deriving DecidableEq, Repr

/-- Mount operations of any behaviour. -/
structure MountOps (σ : Type) where
  mount (source : String) (target : Path) (fsType : String) (flags : MountFlags)
    (data : Option String) : σ → Except MountGuardError Unit × σ
  umount (target : Path) : σ → Except MountGuardError Unit × σ
  mkdirMode0700 (path : Path) : σ → Except MountGuardError Unit × σ
  rmdir (path : Path) : σ → Except MountGuardError Unit × σ

/-- One call of the mount operations, with its answer. -/
inductive OpCall where
  | mount (source : String) (target : Path) (fsType : String) (flags : MountFlags)
      (data : Option String) (answer : Except MountGuardError Unit)
  | umount (target : Path) (answer : Except MountGuardError Unit)
  | mkdirMode0700 (path : Path) (answer : Except MountGuardError Unit)
  | rmdir (path : Path) (answer : Except MountGuardError Unit)

structure MountGuard (σ : Type) where
  ops : MountOps σ
  target : Path
  mounted : Bool

variable {σ ε : Type}

namespace MountGuard

def adopt (ops : MountOps σ) (target : Path) : MountGuard σ := ⟨ops, target, true⟩

def validSessionId (sessionId : String) : Bool :=
  sessionId.toList.all (fun c => c.isAlphanum || c == '_' || c == '-') &&
    !sessionId.isEmpty && sessionId.utf8ByteSize ≤ 64

/-- The read-only file system of a session, at most four megabytes large. -/
def tmpfsMount (ops : MountOps σ) (target : Path) : σ → Except MountGuardError Unit × σ :=
  ops.mount "tmpfs" target "tmpfs" hardenedFlags (some "size=4m,mode=0700")

def newTmpfs (ops : MountOps σ) (base : Path) (sessionId : String) :
    Prog σ OpCall MountGuardError (MountGuard σ) :=
  if !validSessionId sessionId then
    Prog.fail (.invalidSessionId "must match [A-Za-z0-9_-]\x7b1,64\x7d")
  else do
    let target := base ++ [sessionId]
    Prog.request (ops.mkdirMode0700 target) (.mkdirMode0700 target) id
    Prog.request (tmpfsMount ops target)
      (.mount "tmpfs" target "tmpfs" hardenedFlags (some "size=4m,mode=0700")) id
    pure ⟨ops, target, true⟩

/-- Dropping the guard; a failure of either call is only logged. -/
def drop (guard : MountGuard σ) : Prog σ OpCall ε Unit := do
  if guard.mounted then
    discard (Prog.call (guard.ops.umount guard.target) (.umount guard.target))
  else
    pure ()
  discard (Prog.call (guard.ops.rmdir guard.target) (.rmdir guard.target))

end MountGuard

/-- The system calls of a mount; a `mount(2)` that fails changes no directory. -/
structure Kernel (σ : Type) extends Disk σ where
  pathExists : String → σ → Bool
  mount (source target fsType : String) (flags : UInt64) : σ → Except IoError Unit × σ
  umount2 (target : Path) (flags : UInt32) : σ → Except IoError Unit × σ
  rmdir : Path → σ → Except IoError Unit × σ
  mount_error {source target fsType : String} {flags : UInt64} {s s' : σ} {e : IoError} :
    mount source target fsType flags s = (.error e, s') → dirs s' = dirs s

/-- The guard of a device unmounts lazily, with `MNT_DETACH`. -/
def realMountOps (kernel : Kernel σ) : MountOps σ where
  mount _ _ _ _ _ := fun s => (.ok (), s)
  umount target := fun s => (kernel.umount2 target 2 s).map (Except.mapError (.umount target)) id
  mkdirMode0700 path := fun s =>
    (kernel.createDirAll path s).map (Except.mapError (.mkdir path)) id
  rmdir path := fun s => (kernel.rmdir path s).map (Except.mapError (.rmdir path)) id

/-- The calls of a mount with the hardened flags. -/
def mountOs (kernel : Kernel σ) : Flow.MountOs σ where
  pathExists := kernel.pathExists
  mount devnode target fsType := fun s =>
    (kernel.mount devnode target fsType hardenedFlags.toMsFlags s).map
      (Except.mapError IoError.detail) id

def displayPath (path : Path) : String := "/" ++ "/".intercalate path

/-- Mount a device; its guard adopts the mountpoint. -/
def mountUsbDevice (kernel : Kernel σ) (dev : UsbDevice) (mountpoint : Path) (s : σ) :
    Except MountError (MountGuard σ) × σ :=
  (Flow.mountUsbDevice (mountOs kernel) dev (displayPath mountpoint) s).map
    (Except.map fun _ => .adopt (realMountOps kernel) mountpoint) id

structure MountSession (σ : Type) where
  mountpoint : Path
  guard : MountGuard σ

structure RealFlowIo where
  mountpointBase : Path
  sessionId : String
  mountSeq : UInt32

namespace RealFlowIo

/-- Retries across partitions do not share a directory. -/
def subdir (io : RealFlowIo) : String :=
  if io.mountSeq = 0 then io.sessionId else io.sessionId ++ "-" ++ toString io.mountSeq

def target (io : RealFlowIo) : Path := io.mountpointBase ++ [io.subdir]

/-- One attempt, on a directory of its own. -/
def attempt (kernel : Kernel σ) (target : Path) (dev : UsbDevice) (s : σ) :
    Except MountError (MountSession σ) × σ :=
  match kernel.createDirAll target s with
  | (.error e, s₁) => (.error (.mountSyscall e.detail), s₁)
  | (.ok (), s₁) => (mountUsbDevice kernel dev target s₁).map (Except.map (.mk target)) id

/-- The attempt, with the counter of attempts wrapping around. -/
def mount (kernel : Kernel σ) (io : RealFlowIo) (dev : UsbDevice) (s : σ) :
    (Except MountError (MountSession σ) × σ) × RealFlowIo :=
  (attempt kernel io.target dev s, ⟨io.mountpointBase, io.sessionId, io.mountSeq + 1⟩)

end RealFlowIo

def leftAfter (left : List Path) : OpCall → List Path
  | .mkdirMode0700 path (.ok _) => path :: left
  | .rmdir path (.ok _) => left.filter (· ≠ path)
  | _ => left

/-- The directories that a sequence of calls has made and not removed. -/
def leftBehind (calls : List OpCall) : List Path := calls.foldl leftAfter []

/-- A failed mount changes no directory below the base. -/
def MountClean (kernel : Kernel σ) (io : RealFlowIo) (dev : UsbDevice) (s : σ) : Prop :=
  ∀ e, (io.mount kernel dev s).1.1 = .error e →
    kernel.dirsUnder io.mountpointBase (io.mount kernel dev s).1.2 =
      kernel.dirsUnder io.mountpointBase s

/-- A failed constructor has removed the directory that it made. -/
def TmpfsClean (ops : MountOps σ) (base : Path) (sessionId : String) (s : σ) : Prop :=
  ∀ e, (MountGuard.newTmpfs ops base sessionId s).result = .error e →
    leftBehind (MountGuard.newTmpfs ops base sessionId s).calls = []

/-- Dropping the guard unmounts the target and then removes it, each once. -/
def Releases (guard : MountGuard σ) (target : Path) : Prop :=
  ∀ s : σ, ∃ unmounted removed,
    ((guard.drop : Prog σ OpCall Empty Unit) s).calls =
      [.umount target unmounted, .rmdir target removed]

theorem drop_of_mounted {guard : MountGuard σ} (h : guard.mounted = true) (s : σ) :
    (guard.drop : Prog σ OpCall ε Unit) s =
      ⟨.ok (), (guard.ops.rmdir guard.target (guard.ops.umount guard.target s).2).2,
        [.umount guard.target (guard.ops.umount guard.target s).1,
          .rmdir guard.target
            (guard.ops.rmdir guard.target (guard.ops.umount guard.target s).2).1]⟩ := by
  rw [MountGuard.drop, h]
  rfl

theorem releases_of_mounted {guard : MountGuard σ} (h : guard.mounted = true) :
    Releases guard guard.target := by
  intro s
  rw [drop_of_mounted h]
  exact ⟨_, _, rfl⟩

/-- Behind the directory, a failed mount changes nothing. -/
theorem dirs_of_mountUsbDevice_error {kernel : Kernel σ} {dev : UsbDevice} {path : Path}
    {s s₁ : σ} {e : MountError} (h : mountUsbDevice kernel dev path s = (.error e, s₁)) :
    kernel.dirs s₁ = kernel.dirs s := by
  rw [mountUsbDevice] at h
  rcases Flow.mountUsbDevice_cases (mountOs kernel) dev (displayPath path) s with
    ⟨⟨e', hrefused⟩, -⟩ | ⟨fs, -, hmount⟩
  · rw [hrefused] at h
    cases h
    rfl
  · rw [hmount] at h
    rcases hcall : kernel.mount dev.devnode (displayPath path) fs hardenedFlags.toMsFlags s with
      ⟨e' | _, s₂⟩
    · simp only [mountOs, hcall] at h
      cases h
      exact kernel.mount_error hcall
    · simp only [mountOs, hcall] at h
      cases h

/-- The guard of a mounted device adopts the mountpoint. -/
theorem eq_adopt_of_mountUsbDevice {kernel : Kernel σ} {dev : UsbDevice} {path : Path}
    {s s₁ : σ} {guard : MountGuard σ} (h : mountUsbDevice kernel dev path s = (.ok guard, s₁)) :
    guard = .adopt (realMountOps kernel) path := by
  rcases hmount : Flow.mountUsbDevice (mountOs kernel) dev (displayPath path) s with ⟨e | _, s₂⟩
  · rw [mountUsbDevice, hmount] at h
    cases h
  · rw [mountUsbDevice, hmount] at h
    cases h
    rfl

/-- The path is there, the device has a filesystem of the allow-list, and `mount(2)` accepts
it. -/
def Mountable (kernel : Kernel σ) (dev : UsbDevice) (path : Path) (s : σ) : Prop :=
  ∃ fs, (mountOs kernel).Admits dev (displayPath path) fs s ∧
    (kernel.mount dev.devnode (displayPath path) fs hardenedFlags.toMsFlags s).1 = .ok ()

theorem exists_guard_iff_mountable {kernel : Kernel σ} {dev : UsbDevice} {path : Path} {s : σ} :
    (∃ guard, (mountUsbDevice kernel dev path s).1 = .ok guard) ↔ Mountable kernel dev path s := by
  rw [mountUsbDevice]
  rcases Flow.mountUsbDevice_cases (mountOs kernel) dev (displayPath path) s with
    ⟨⟨e, hrefused⟩, hnone⟩ | ⟨fs, hadmits, hmount⟩
  · rw [hrefused]
    constructor
    · rintro ⟨guard, hguard⟩
      cases hguard
    · rintro ⟨fs, hadmits, -⟩
      exact absurd hadmits (hnone fs)
  · rw [hmount]
    rcases hcall : kernel.mount dev.devnode (displayPath path) fs hardenedFlags.toMsFlags s with
      ⟨e | _, s₁⟩
    · simp only [mountOs, hcall]
      constructor
      · rintro ⟨guard, hguard⟩
        cases hguard
      · rintro ⟨fs', hadmits', hok⟩
        cases hadmits.2.1.symm.trans hadmits'.2.1
        rw [hcall] at hok
        cases hok
    · simp only [mountOs, hcall]
      exact ⟨fun _ => ⟨fs, hadmits, by rw [hcall]⟩, fun _ => ⟨_, rfl⟩⟩

section Attempts

variable {kernel : Kernel σ} {io : RealFlowIo} {dev : UsbDevice} {s : σ}

theorem attempt_of_not_created {target : Path} {e : IoError} {s₁ : σ}
    (h : kernel.createDirAll target s = (.error e, s₁)) :
    RealFlowIo.attempt kernel target dev s = (.error (.mountSyscall e.detail), s₁) := by
  rw [RealFlowIo.attempt, h]

/-- Once the directory is there, the attempt is the mount on it. -/
theorem attempt_of_created {target : Path} {s₁ s₂ : σ} {answer : Except MountError (MountGuard σ)}
    (h : kernel.createDirAll target s = (.ok (), s₁))
    (hmount : mountUsbDevice kernel dev target s₁ = (answer, s₂)) :
    RealFlowIo.attempt kernel target dev s = (answer.map (.mk target), s₂) := by
  rw [RealFlowIo.attempt, h]
  change Prod.map _ id (mountUsbDevice kernel dev target s₁) = _
  rw [hmount]
  rfl

/-- A failed mount is clean when it could not make the directory, and otherwise only when
the directory was there before. -/
theorem mountClean_iff :
    MountClean kernel io dev s ↔ ∀ s₁, kernel.createDirAll io.target s = (.ok (), s₁) →
      io.target ∈ kernel.dirs s ∨ Mountable kernel dev io.target s₁ := by
  simp only [← exists_guard_iff_mountable]
  have hmakes : kernel.Makes io.target s (kernel.createDirAll io.target s).1
      (kernel.createDirAll io.target s).2 := Disk.makes_createDirAll io.target s
  rcases hcreate : kernel.createDirAll io.target s with ⟨e | _, s₁⟩
  · rw [hcreate] at hmakes
    rw [MountClean, RealFlowIo.mount, attempt_of_not_created hcreate]
    constructor
    · intro _ s₂ hs₂
      cases hs₂
    · intro _ e' _
      exact hmakes.dirsUnder_of_error
  · rw [hcreate] at hmakes
    rcases hmount : mountUsbDevice kernel dev io.target s₁ with ⟨e | guard, s₂⟩
    · -- the mount fails behind the directory and leaves the disk as the directory made it
      have hunder : kernel.dirsUnder io.mountpointBase s₂ =
          kernel.dirsUnder io.mountpointBase s₁ := by
        rw [Disk.dirsUnder, dirs_of_mountUsbDevice_error hmount, Disk.dirsUnder]
      rw [MountClean, RealFlowIo.mount, attempt_of_created hcreate hmount]
      constructor
      · intro h s₃ _
        exact .inl (hmakes.dirsUnder_eq_iff.mp (hunder.symm.trans (h e rfl)))
      · intro h e' _
        rcases h s₁ rfl with hmem | ⟨guard, hguard⟩
        · exact hunder.trans (hmakes.dirsUnder_eq_iff.mpr hmem)
        · rw [hmount] at hguard
          cases hguard
    · rw [MountClean, RealFlowIo.mount, attempt_of_created hcreate hmount]
      constructor
      · intro _ s₃ hs₃
        cases hs₃
        exact .inr ⟨guard, by rw [hmount]⟩
      · intro _ e he
        cases he

theorem releases_of_mount {session : MountSession σ}
    (h : (io.mount kernel dev s).1.1 = .ok session) :
    session.mountpoint = io.target ∧ Releases session.guard io.target := by
  rw [RealFlowIo.mount] at h
  rcases hcreate : kernel.createDirAll io.target s with ⟨e | _, s₁⟩
  · rw [attempt_of_not_created hcreate] at h
    cases h
  · rcases hmount : mountUsbDevice kernel dev io.target s₁ with ⟨e | guard, s₂⟩
    · rw [attempt_of_created hcreate hmount] at h
      cases h
    · rw [attempt_of_created hcreate hmount] at h
      cases h
      obtain rfl := eq_adopt_of_mountUsbDevice hmount
      exact ⟨rfl, releases_of_mounted rfl⟩

end Attempts

section Tmpfs

variable {ops : MountOps σ} {base : Path} {sessionId : String} {s : σ}

theorem newTmpfs_of_invalid (h : MountGuard.validSessionId sessionId = false) :
    MountGuard.newTmpfs ops base sessionId s =
      ⟨.error (.invalidSessionId "must match [A-Za-z0-9_-]\x7b1,64\x7d"), s, []⟩ := by
  rw [MountGuard.newTmpfs, h]
  rfl

theorem newTmpfs_of_mkdir_error {s₁ : σ} {e : MountGuardError}
    (h : MountGuard.validSessionId sessionId = true)
    (hmkdir : ops.mkdirMode0700 (base ++ [sessionId]) s = (.error e, s₁)) :
    MountGuard.newTmpfs ops base sessionId s =
      ⟨.error e, s₁, [.mkdirMode0700 (base ++ [sessionId]) (.error e)]⟩ := by
  rw [MountGuard.newTmpfs, h]
  exact Prog.bind_of_error (Prog.request_of_error hmkdir)

theorem newTmpfs_of_mount {s₁ s₂ : σ} {answer : Except MountGuardError Unit}
    (h : MountGuard.validSessionId sessionId = true)
    (hmkdir : ops.mkdirMode0700 (base ++ [sessionId]) s = (.ok (), s₁))
    (hmount : MountGuard.tmpfsMount ops (base ++ [sessionId]) s₁ = (answer, s₂)) :
    MountGuard.newTmpfs ops base sessionId s =
      ⟨answer.map fun _ => ⟨ops, base ++ [sessionId], true⟩, s₂,
        [.mkdirMode0700 (base ++ [sessionId]) (.ok ()),
          .mount "tmpfs" (base ++ [sessionId]) "tmpfs" hardenedFlags (some "size=4m,mode=0700")
            answer]⟩ := by
  rw [MountGuard.newTmpfs, h]
  refine (Prog.bind_of_ok (Prog.request_of_ok hmkdir)).trans ?_
  rcases answer with e | _
  · rw [Prog.bind_of_error (Prog.request_of_error hmount)]
    rfl
  · rw [Prog.bind_of_ok (Prog.request_of_ok hmount)]
    rfl

/-- The constructor stops before it has a directory, or it gets as far as its mount. -/
theorem newTmpfs_cases (ops : MountOps σ) (base : Path) (sessionId : String) (s : σ) :
    ((∃ e s₁ calls, MountGuard.newTmpfs ops base sessionId s = ⟨.error e, s₁, calls⟩ ∧
        leftBehind calls = []) ∧
      (MountGuard.validSessionId sessionId = true →
        ∀ s₁, ops.mkdirMode0700 (base ++ [sessionId]) s ≠ (.ok (), s₁))) ∨
    (MountGuard.validSessionId sessionId = true ∧ ∃ s₁ answer s₂,
      ops.mkdirMode0700 (base ++ [sessionId]) s = (.ok (), s₁) ∧
      MountGuard.tmpfsMount ops (base ++ [sessionId]) s₁ = (answer, s₂)) := by
  cases hvalid : MountGuard.validSessionId sessionId with
  | false =>
    refine .inl ⟨⟨_, _, _, newTmpfs_of_invalid hvalid, rfl⟩, ?_⟩
    intro h
    cases h
  | true =>
    rcases hmkdir : ops.mkdirMode0700 (base ++ [sessionId]) s with ⟨e | _, s₁⟩
    · refine .inl ⟨⟨_, _, _, newTmpfs_of_mkdir_error hvalid hmkdir, rfl⟩, ?_⟩
      intro _ s₂ hs₂
      cases hs₂
    · exact .inr ⟨rfl, s₁, _, _, rfl, rfl⟩

/-- The constructor is clean unless its mount fails behind the directory. -/
theorem tmpfsClean_iff :
    TmpfsClean ops base sessionId s ↔ (MountGuard.validSessionId sessionId = true →
      ∀ s₁, ops.mkdirMode0700 (base ++ [sessionId]) s = (.ok (), s₁) →
        (MountGuard.tmpfsMount ops (base ++ [sessionId]) s₁).1 = .ok ()) := by
  rcases newTmpfs_cases ops base sessionId s with
    ⟨⟨e, s₁, calls, hrun, hleft⟩, hnone⟩ | ⟨hvalid, s₁, e | _, s₂, hmkdir, hmount⟩
  · rw [TmpfsClean, hrun]
    constructor
    · intro _ hvalid s₂ hmkdir
      exact absurd hmkdir (hnone hvalid s₂)
    · intro _ _ _
      exact hleft
  · rw [TmpfsClean, newTmpfs_of_mount hvalid hmkdir hmount]
    constructor
    · intro h
      have hleft := h e rfl
      simp [leftBehind, leftAfter] at hleft
    · intro h
      have hok := h hvalid s₁ hmkdir
      rw [hmount] at hok
      cases hok
  · rw [TmpfsClean, newTmpfs_of_mount hvalid hmkdir hmount]
    constructor
    · intro _ _ s₃ hs₃
      rw [hmkdir] at hs₃
      cases hs₃
      rw [hmount]
    · intro _ e he
      cases he

theorem releases_of_newTmpfs {guard : MountGuard σ}
    (h : (MountGuard.newTmpfs ops base sessionId s).result = .ok guard) :
    Releases guard (base ++ [sessionId]) := by
  rcases newTmpfs_cases ops base sessionId s with
    ⟨⟨e, s₁, calls, hrun, -⟩, -⟩ | ⟨hvalid, s₁, e | _, s₂, hmkdir, hmount⟩
  · rw [hrun] at h
    cases h
  · rw [newTmpfs_of_mount hvalid hmkdir hmount] at h
    cases h
  · rw [newTmpfs_of_mount hvalid hmkdir hmount] at h
    obtain rfl : MountGuard.mk ops (base ++ [sessionId]) true = guard := by
      cases h
      rfl
    exact releases_of_mounted rfl

end Tmpfs

/-- Failed attempts leave their directory behind exactly when they fail between making it
and mounting on it; a guard that was handed out releases its target. -/
theorem mount_residue_iff (kernel : Kernel σ) (io : RealFlowIo) (dev : UsbDevice)
    (ops : MountOps σ) (base : Path) (sessionId : String) (s : σ) :
    (MountClean kernel io dev s ↔ ∀ s₁, kernel.createDirAll io.target s = (.ok (), s₁) →
      io.target ∈ kernel.dirs s ∨ Mountable kernel dev io.target s₁) ∧
    (TmpfsClean ops base sessionId s ↔ (MountGuard.validSessionId sessionId = true →
      ∀ s₁, ops.mkdirMode0700 (base ++ [sessionId]) s = (.ok (), s₁) →
        (MountGuard.tmpfsMount ops (base ++ [sessionId]) s₁).1 = .ok ())) ∧
    (∀ session, (io.mount kernel dev s).1.1 = .ok session →
      session.mountpoint = io.target ∧ Releases session.guard io.target) ∧
    ∀ guard, (MountGuard.newTmpfs ops base sessionId s).result = .ok guard →
      Releases guard (base ++ [sessionId]) :=
  ⟨mountClean_iff, tmpfsClean_iff, fun _ => releases_of_mount, fun _ => releases_of_newTmpfs⟩

/-- The directories of a disk as a list, on which no mount succeeds. -/
def memoryKernel : Kernel (List Path) where
  dirs s := {p | p ∈ s}
  mkdir p s :=
    if p ∈ s then (.error ⟨.other, "File exists (os error 17)"⟩, s)
    else if p.length ≤ 1 ∨ p.dropLast ∈ s then (.ok (), p :: s)
    else (.error ⟨.notFound, "No such file or directory (os error 2)"⟩, s)
  rmdir p s :=
    if p ∈ s then (.ok (), s.filter (· ≠ p))
    else (.error ⟨.notFound, "No such file or directory (os error 2)"⟩, s)
  isDir p s := p ∈ s
  pathExists p s := p ∈ s.map displayPath
  mount _ _ _ _ s := (.error ⟨.other, "Input/output error (os error 5)"⟩, s)
  umount2 _ _ s := (.error ⟨.other, "Invalid argument (os error 22)"⟩, s)
  mkdir_ok := by
    intro p s s' h
    split_ifs at h
    · cases h
    · cases h
      ext q
      simp
    · cases h
  mkdir_error := by
    intro p s s' e h
    split_ifs at h
    · cases h
      rfl
    · cases h
    · cases h
      rfl
  mem_of_isDir := by
    intro p s h
    simpa using h
  mount_error := by
    intro _ _ _ _ s s' e h
    cases h
    rfl

/-- Operations that make directories on the disk and mount nothing. -/
def memoryOps : MountOps (List Path) where
  mount _ target _ _ _ s := (.error (.mount target ⟨.other, "Input/output error (os error 5)"⟩), s)
  umount := (realMountOps memoryKernel).umount
  mkdirMode0700 := (realMountOps memoryKernel).mkdirMode0700
  rmdir := (realMountOps memoryKernel).rmdir

def sampleIo : RealFlowIo := ⟨["run", "pam_certauth", "mounts"], "0f6c7a52-session", 0⟩

/-- A partition on which `udev` found no filesystem. -/
def blankPartition : UsbDevice := ⟨"/dev/sdz1", some "TEST", 0x1234, 0x5678, none⟩

def emptyBase : List Path :=
  [["run", "pam_certauth", "mounts"], ["run", "pam_certauth"], ["run"]]

/-- A blank partition ends the attempt behind the directory; so does a `tmpfs` that the
kernel refuses. -/
theorem mount_leaves_directory :
    (sampleIo.mount memoryKernel blankPartition emptyBase).1.1 =
      .error (.unsupportedFs "(unknown)") ∧
    ¬ MountClean memoryKernel sampleIo blankPartition emptyBase ∧
    leftBehind (MountGuard.newTmpfs memoryOps sampleIo.mountpointBase "abc-test" emptyBase).calls =
      [["run", "pam_certauth", "mounts", "abc-test"]] ∧
    ¬ TmpfsClean memoryOps sampleIo.mountpointBase "abc-test" emptyBase := by
  have hcreate : memoryKernel.createDirAll sampleIo.target emptyBase =
      (.ok (), sampleIo.target :: emptyBase) := rfl
  refine ⟨rfl, ?_, by decide +kernel, ?_⟩
  · rw [mountClean_iff]
    intro h
    rcases h _ hcreate with hmem | ⟨fs, hadmits, -⟩
    · revert hmem
      change ¬ (sampleIo.target ∈ emptyBase)
      decide
    · cases hadmits.2.1
  · intro h
    have hleft := h _ rfl
    revert hleft
    decide +kernel

end PamCertauth.Mount
