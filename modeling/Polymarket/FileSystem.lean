import Mathlib.Data.List.Basic
import Mathlib.Logic.Function.Basic

/-! A file system with a memory and a disk. Processes see directory entries and bytes at
once; after a power failure an entry is anything it was since its directory was last
synced, and a file whose bytes were not synced holds anything. -/

set_option autoImplicit false

namespace Polymarket

structure FileSystem (Name Byte : Type) where
  entry : Name → Option Nat
  /-- What the entry was before, back to the last sync of its directory. -/
  earlier : Name → List (Option Nat)
  bytes : Nat → List Byte
  synced : Nat → Bool
  next : Nat
  allocated : ∀ name inode, some inode ∈ entry name :: earlier name → inode < next

namespace FileSystem

variable {Name Byte : Type}

/-- What a power failure may leave of the entry. -/
def candidates (fs : FileSystem Name Byte) (name : Name) : List (Option Nat) :=
  fs.entry name :: fs.earlier name

/-- The text of a file, nothing where there is no file. -/
def text? (fs : FileSystem Name Byte) (name : Name) : Option (List Byte) :=
  (fs.entry name).map fs.bytes

def versions (fs : FileSystem Name Byte) (name : Name) : List (Option (List Byte)) :=
  (fs.candidates name).map (Option.map fs.bytes)

/-- Every file that the entry may turn out to be is on the disk. -/
def Durable (fs : FileSystem Name Byte) (name : Name) : Prop :=
  ∀ inode, some inode ∈ fs.candidates name → fs.synced inode = true

theorem mem_candidates {fs : FileSystem Name Byte} {name : Name} {inode : Nat}
    (entered : fs.entry name = some inode) : some inode ∈ fs.candidates name :=
  entered ▸ List.mem_cons_self

theorem lt_next {fs : FileSystem Name Byte} {name : Name} {inode : Nat}
    (candidate : some inode ∈ fs.candidates name) : inode < fs.next :=
  fs.allocated name inode candidate

/-- Two file systems that hold the same bytes in every file the entry may be. -/
theorem versions_congr {left right : FileSystem Name Byte} {name : Name}
    (candidates : left.candidates name = right.candidates name)
    (bytes : ∀ inode, some inode ∈ left.candidates name → left.bytes inode = right.bytes inode) :
    left.versions name = right.versions name := by
  unfold versions
  rw [← candidates]
  refine List.map_congr_left fun candidate member => ?_
  cases candidate with
  | none => rfl
  | some inode => exact congrArg some (bytes inode member)

theorem text?_congr {left right : FileSystem Name Byte} {name : Name}
    (same : left.versions name = right.versions name) : left.text? name = right.text? name :=
  (List.cons.inj same).1

/-! ## Writing a file -/

section Files

variable (fs : FileSystem Name Byte)

def write (inode : Nat) (more : List Byte) : FileSystem Name Byte :=
  { fs with
    bytes := Function.update fs.bytes inode (fs.bytes inode ++ more)
    synced := Function.update fs.synced inode false }

/-- `fsync` of a file. -/
def sync (inode : Nat) : FileSystem Name Byte :=
  { fs with synced := Function.update fs.synced inode true }

variable {fs} {inode : Nat} {name : Name}

theorem versions_write (outside : some inode ∉ fs.candidates name) (more : List Byte) :
    (fs.write inode more).versions name = fs.versions name := by
  refine versions_congr rfl fun other member => ?_
  have different : other ≠ inode := by
    rintro rfl
    exact outside member
  exact Function.update_of_ne different _ _

theorem durable_write (outside : some inode ∉ fs.candidates name) (more : List Byte)
    (durable : fs.Durable name) : (fs.write inode more).Durable name := by
  intro other member
  have different : other ≠ inode := by
    rintro rfl
    exact outside member
  simpa only [write, Function.update_of_ne different] using durable other member

theorem durable_sync (durable : fs.Durable name) : (fs.sync inode).Durable name := by
  intro other member
  by_cases same : other = inode
  · simp only [sync, same, Function.update_self]
  · simpa only [sync, Function.update_of_ne same] using durable other member

end Files

/-! ## Directories -/

section Directories

variable (fs : FileSystem Name Byte)

/-- `fsync` of the directory with these names. -/
def syncDirectory (inside : Name → Bool) : FileSystem Name Byte :=
  { fs with
    earlier := fun name => if inside name then [] else fs.earlier name
    allocated := by
      intro name inode candidate
      refine fs.allocated name inode (List.mem_cons.mpr ((List.mem_cons.mp candidate).imp_right fun member => ?_))
      by_cases within : inside name = true
      · simp [within] at member
      · simpa [within] using member }

variable {fs} {name : Name}

theorem mem_syncDirectory_candidates {inside : Name → Bool} {candidate : Option Nat}
    (member : candidate ∈ (fs.syncDirectory inside).candidates name) : candidate ∈ fs.candidates name := by
  refine List.mem_cons.mpr ((List.mem_cons.mp member).imp_right fun before => ?_)
  by_cases within : inside name = true
  · simp [syncDirectory, within] at before
  · simpa [syncDirectory, within] using before

theorem versions_syncDirectory (inside : Name → Bool) :
    (fs.syncDirectory inside).versions name = if inside name then [fs.text? name] else fs.versions name := by
  by_cases within : inside name = true
  · simp [versions, candidates, syncDirectory, within, text?]
  · simp [versions, candidates, syncDirectory, within]

end Directories

/-! ## Entries -/

section Entries

variable [DecidableEq Name] (fs : FileSystem Name Byte)

/-- The entry becomes this one. -/
def enter (name : Name) (value : Option Nat) (known : ∀ inode ∈ value, inode < fs.next) :
    FileSystem Name Byte :=
  { fs with
    entry := Function.update fs.entry name value
    earlier := Function.update fs.earlier name (fs.candidates name)
    allocated := by
      intro other inode candidate
      by_cases same : other = name
      · subst same
        simp only [Function.update_self] at candidate
        rcases List.mem_cons.mp candidate with entered | before
        · exact known inode entered.symm
        · exact fs.allocated other inode before
      · simp only [Function.update_of_ne same] at candidate
        exact fs.allocated other inode candidate }

/-- A new empty file. -/
def create (name : Name) : FileSystem Name Byte :=
  let allocated : FileSystem Name Byte :=
    { fs with
      bytes := Function.update fs.bytes fs.next []
      synced := Function.update fs.synced fs.next false
      next := fs.next + 1
      allocated := fun other inode candidate => Nat.lt_succ_of_lt (fs.allocated other inode candidate) }
  allocated.enter name (some fs.next) fun _ same => Option.some.inj same ▸ fs.next.lt_succ_self

/-- `unlink`. -/
def unlink (name : Name) : FileSystem Name Byte := fs.enter name none fun _ impossible => nomatch impossible

/-- `rename`: both entries change at once. -/
def rename (source target : Name) : FileSystem Name Byte :=
  (fs.enter target (fs.entry source) fun inode entered =>
    fs.allocated source inode (entered ▸ List.mem_cons_self)).unlink source

variable {fs} {name other : Name}

@[simp] theorem enter_bytes {value : Option Nat} {known : ∀ inode ∈ value, inode < fs.next} :
    (fs.enter name value known).bytes = fs.bytes := rfl

theorem enter_candidates_self {value : Option Nat} {known : ∀ inode ∈ value, inode < fs.next} :
    (fs.enter name value known).candidates name = value :: fs.candidates name := by
  simp [candidates, enter]

theorem enter_candidates_of_ne {value : Option Nat} {known : ∀ inode ∈ value, inode < fs.next}
    (different : other ≠ name) : (fs.enter name value known).candidates other = fs.candidates other := by
  simp [candidates, enter, Function.update_of_ne different]

@[simp] theorem create_entry_self : (fs.create name).entry name = some fs.next := by
  simp [create, enter]

theorem create_entry_of_ne (different : other ≠ name) : (fs.create name).entry other = fs.entry other := by
  simp [create, enter, Function.update_of_ne different]

theorem create_bytes (inode : Nat) :
    (fs.create name).bytes inode = if inode = fs.next then [] else fs.bytes inode := by
  simp only [create, enter_bytes, Function.update_apply]

theorem create_synced {inode : Nat} (old : inode ≠ fs.next) : (fs.create name).synced inode = fs.synced inode := by
  simp [create, enter, Function.update_of_ne old]

theorem create_candidates_self : (fs.create name).candidates name = some fs.next :: fs.candidates name := by
  simp [create, candidates, enter]

theorem create_candidates_of_ne (different : other ≠ name) :
    (fs.create name).candidates other = fs.candidates other := by
  simp [create, candidates, enter, Function.update_of_ne different]

theorem versions_create (different : other ≠ name) : (fs.create name).versions other = fs.versions other := by
  refine versions_congr (create_candidates_of_ne different) fun inode member => ?_
  rw [create_candidates_of_ne different] at member
  rw [create_bytes, if_neg (Nat.ne_of_lt (lt_next member))]

theorem durable_create (different : other ≠ name) (durable : fs.Durable other) :
    (fs.create name).Durable other := by
  intro inode member
  rw [create_candidates_of_ne different] at member
  rw [create_synced (Nat.ne_of_lt (lt_next member))]
  exact durable inode member

theorem unlink_candidates_of_ne (different : other ≠ name) :
    (fs.unlink name).candidates other = fs.candidates other := enter_candidates_of_ne different

theorem mem_unlink_candidates {inode : Nat} (candidate : some inode ∈ (fs.unlink name).candidates other) :
    some inode ∈ fs.candidates other := by
  by_cases same : other = name
  · subst same
    rw [unlink, enter_candidates_self] at candidate
    exact (List.mem_cons.mp candidate).resolve_left (by simp)
  · rwa [unlink_candidates_of_ne same] at candidate

variable {source target : Name}

theorem rename_candidates_target (different : target ≠ source) :
    (fs.rename source target).candidates target = fs.entry source :: fs.candidates target := by
  rw [rename, unlink_candidates_of_ne different, enter_candidates_self]

theorem rename_candidates_of_ne (first : other ≠ source) (second : other ≠ target) :
    (fs.rename source target).candidates other = fs.candidates other := by
  rw [rename, unlink_candidates_of_ne first, enter_candidates_of_ne second]

/-- What an entry may be after a rename it was before, or it is the file that moved. -/
theorem mem_rename_candidates {inode : Nat} (different : target ≠ source)
    (candidate : some inode ∈ (fs.rename source target).candidates other) :
    fs.entry source = some inode ∨ some inode ∈ fs.candidates other := by
  by_cases there : other = target
  · subst there
    rw [rename_candidates_target different] at candidate
    exact (List.mem_cons.mp candidate).imp_left Eq.symm
  · rw [rename] at candidate
    have before := mem_unlink_candidates candidate
    rw [enter_candidates_of_ne there] at before
    exact .inr before

theorem versions_rename (different : target ≠ source) :
    (fs.rename source target).versions target = fs.text? source :: fs.versions target := by
  rw [versions, rename_candidates_target different]
  rfl

/-- A file that has been synced keeps the entry it moves to on the disk. -/
theorem durable_rename {inode : Nat} (different : target ≠ source) (entered : fs.entry source = some inode)
    (synced : fs.synced inode = true) (durable : fs.Durable target) :
    (fs.rename source target).Durable target := by
  intro candidate member
  rw [rename_candidates_target different, entered] at member
  rcases List.mem_cons.mp member with same | before
  · exact Option.some.inj same ▸ synced
  · exact durable candidate before

end Entries

/-! ## Power failures -/

/-- The file system after a power failure: which entries have reached the disk, and what
stands in the files that have not. -/
def crash (fs : FileSystem Name Byte) (choose : Name → Option Nat) (junk : Nat → List Byte) :
    FileSystem Name Byte where
  entry name := if choose name ∈ fs.candidates name then choose name else fs.entry name
  earlier _ := []
  bytes inode := if fs.synced inode then fs.bytes inode else junk inode
  synced _ := true
  next := fs.next
  allocated := by
    intro name inode candidate
    rw [List.mem_singleton] at candidate
    split at candidate
    · next possible => exact fs.allocated name inode (candidate ▸ possible)
    · exact fs.allocated name inode (candidate ▸ List.mem_cons_self)

theorem durable_crash (fs : FileSystem Name Byte) (choose : Name → Option Nat) (junk : Nat → List Byte)
    (name : Name) : (fs.crash choose junk).Durable name := fun _ _ => rfl

/-- A power failure leaves one of the versions of a durable entry. -/
theorem text?_crash {fs : FileSystem Name Byte} {name : Name} (durable : fs.Durable name)
    (choose : Name → Option Nat) (junk : Nat → List Byte) :
    (fs.crash choose junk).text? name ∈ fs.versions name := by
  obtain ⟨candidate, member, entered⟩ : ∃ candidate ∈ fs.candidates name,
      (fs.crash choose junk).entry name = candidate := by
    by_cases possible : choose name ∈ fs.candidates name
    · exact ⟨_, possible, if_pos possible⟩
    · exact ⟨_, List.mem_cons_self, if_neg possible⟩
  refine List.mem_map.mpr ⟨candidate, member, ?_⟩
  rw [text?, entered]
  cases candidate with
  | none => rfl
  | some inode => simp only [Option.map_some, crash, durable inode member, if_true]

end FileSystem

end Polymarket
