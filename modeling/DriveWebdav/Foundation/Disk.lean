import Mathlib.Logic.Function.Basic
import Mathlib.Data.List.Basic

/-! # What survives a stop

A directory whose changes reach the disk in their own time, and files whose bytes are
only sure after a sync. When the machine stops, any of the pending changes may have
reached the disk, each as a whole. -/

namespace DriveWebdav

/-- A change of a directory. What is moved is the file that the source named. -/
inductive DirectoryChange (Name : Type)
  | link (name : Name) (inode : Nat)
  | move (source target : Name) (inode : Nat)
  | unlink (name : Name)
  deriving DecidableEq

namespace DirectoryChange

variable {Name : Type} [DecidableEq Name]

def apply (entries : Name → Option Nat) (change : DirectoryChange Name) : Name → Option Nat :=
  match change with
  | .link name inode => Function.update entries name (some inode)
  | .move source target inode =>
      Function.update (Function.update entries source none) target (some inode)
  | .unlink name => Function.update entries name none

def applyAll (changes : List (DirectoryChange Name)) (entries : Name → Option Nat) :
    Name → Option Nat :=
  changes.foldl apply entries

/-- The file that the change gives a name to. -/
def inode : DirectoryChange Name → Option Nat
  | .link _ inode | .move _ _ inode => some inode
  | .unlink _ => none

/-- The change keeps what holds of a name. -/
def Keeps (name : Name) (holds : Option Nat → Prop) (change : DirectoryChange Name) : Prop :=
  ∀ entries : Name → Option Nat, holds (entries name) → holds (change.apply entries name)

theorem keeps_link {name other : Name} {inode : Nat} {holds : Option Nat → Prop}
    (different : name ≠ other) : (link other inode).Keeps name holds := by
  intro entries held
  rw [apply, Function.update_of_ne different]
  exact held

theorem keeps_unlink {name other : Name} {holds : Option Nat → Prop}
    (different : name ≠ other) : (unlink other).Keeps name holds := by
  intro entries held
  rw [apply, Function.update_of_ne different]
  exact held

theorem keeps_move {name source target : Name} {inode : Nat} {holds : Option Nat → Prop}
    (notSource : name ≠ source) (notTarget : name ≠ target) :
    (move source target inode).Keeps name holds := by
  intro entries held
  rw [apply, Function.update_of_ne notTarget, Function.update_of_ne notSource]
  exact held

theorem keeps_move_target {source target : Name} {inode : Nat} {holds : Option Nat → Prop}
    (held : holds (some inode)) : (move source target inode).Keeps target holds := by
  intro entries _
  rw [apply, Function.update_self]
  exact held

theorem applyAll_keeps {name : Name} {holds : Option Nat → Prop}
    {changes : List (DirectoryChange Name)} (keeps : ∀ change ∈ changes, change.Keeps name holds)
    {entries : Name → Option Nat} (begins : holds (entries name)) :
    holds (applyAll changes entries name) := by
  induction changes generalizing entries with
  | nil => exact begins
  | cons change rest induction =>
      apply induction
      · intro other member
        exact keeps other (List.mem_cons_of_mem change member)
      · exact keeps change List.mem_cons_self entries begins

theorem applyAll_append (changes later : List (DirectoryChange Name))
    (entries : Name → Option Nat) :
    applyAll (changes ++ later) entries = applyAll later (applyAll changes entries) :=
  List.foldl_append

theorem apply_below {limit : Nat} {entries : Name → Option Nat}
    (bounded : ∀ name inode, entries name = some inode → inode < limit)
    {change : DirectoryChange Name} (below : ∀ inode, change.inode = some inode → inode < limit)
    (name : Name) (inode : Nat) (named : change.apply entries name = some inode) :
    inode < limit := by
  cases change with
  | link other file =>
      by_cases same : name = other
      · rw [apply, same, Function.update_self] at named
        exact below inode named
      · rw [apply, Function.update_of_ne same] at named
        exact bounded name inode named
  | move source target file =>
      by_cases same : name = target
      · rw [apply, same, Function.update_self] at named
        exact below inode named
      · rw [apply, Function.update_of_ne same] at named
        by_cases left : name = source
        · rw [left, Function.update_self] at named
          cases named
        · rw [Function.update_of_ne left] at named
          exact bounded name inode named
  | unlink other =>
      by_cases same : name = other
      · rw [apply, same, Function.update_self] at named
        cases named
      · rw [apply, Function.update_of_ne same] at named
        exact bounded name inode named

theorem applyAll_below {limit : Nat} {changes : List (DirectoryChange Name)}
    {entries : Name → Option Nat}
    (bounded : ∀ name inode, entries name = some inode → inode < limit)
    (below : ∀ change ∈ changes, ∀ inode, change.inode = some inode → inode < limit)
    (name : Name) (inode : Nat) (named : applyAll changes entries name = some inode) :
    inode < limit := by
  induction changes generalizing entries with
  | nil => exact bounded name inode named
  | cons change rest induction =>
      apply induction (apply_below bounded (below change List.mem_cons_self)) _ named
      intro other member
      exact below other (List.mem_cons_of_mem change member)

end DirectoryChange

/-- One directory on a disk. `durable` is what the disk holds for sure, `pending` what
has been changed since, and every file has a number below `next`. -/
structure Disk (Name Byte : Type) [DecidableEq Name] where
  durable : Name → Option Nat
  pending : List (DirectoryChange Name)
  bytes : Nat → List Byte
  synced : Nat → Bool
  next : Nat
  durableBelow : ∀ name inode, durable name = some inode → inode < next
  pendingBelow : ∀ change ∈ pending, ∀ inode, change.inode = some inode → inode < next

namespace Disk

variable {Name Byte : Type} [DecidableEq Name]

/-- The directory as the programs see it. -/
def entries (disk : Disk Name Byte) : Name → Option Nat :=
  DirectoryChange.applyAll disk.pending disk.durable

def read (disk : Disk Name Byte) (name : Name) : Option (List Byte) :=
  (disk.entries name).map disk.bytes

theorem entries_below (disk : Disk Name Byte) (name : Name) (inode : Nat)
    (named : disk.entries name = some inode) : inode < disk.next :=
  DirectoryChange.applyAll_below disk.durableBelow disk.pendingBelow name inode named

/-- A directory that is on the disk with all its files. -/
def settled (durable : Name → Option Nat) (bytes : Nat → List Byte) (next : Nat)
    (below : ∀ name inode, durable name = some inode → inode < next) : Disk Name Byte where
  durable := durable
  pending := []
  bytes := bytes
  synced _ := true
  next := next
  durableBelow := below
  pendingBelow := nofun

omit [DecidableEq Name] in
private theorem below_concat {pending : List (DirectoryChange Name)} {limit : Nat}
    {change : DirectoryChange Name}
    (below : ∀ change ∈ pending, ∀ inode, change.inode = some inode → inode < limit)
    (last : ∀ inode, change.inode = some inode → inode < limit) :
    ∀ other ∈ pending ++ [change], ∀ inode, other.inode = some inode → inode < limit := by
  intro other member
  rcases List.mem_append.mp member with member | member
  · exact below other member
  · rw [List.mem_singleton.mp member]
    exact last

def create (name : Name) (disk : Disk Name Byte) : Disk Name Byte where
  durable := disk.durable
  pending := disk.pending ++ [.link name disk.next]
  bytes := Function.update disk.bytes disk.next []
  synced := Function.update disk.synced disk.next false
  next := disk.next + 1
  durableBelow name inode named := Nat.lt_succ_of_lt (disk.durableBelow name inode named)
  pendingBelow := by
    apply below_concat
    · intro change member inode named
      exact Nat.lt_succ_of_lt (disk.pendingBelow change member inode named)
    · intro inode named
      cases named
      exact Nat.lt_succ_self disk.next

def append (inode : Nat) (more : List Byte) (disk : Disk Name Byte) : Disk Name Byte :=
  { disk with
    bytes := Function.update disk.bytes inode (disk.bytes inode ++ more)
    synced := Function.update disk.synced inode false }

def sync (inode : Nat) (disk : Disk Name Byte) : Disk Name Byte :=
  { disk with synced := Function.update disk.synced inode true }

def rename (source target : Name) (disk : Disk Name Byte) : Option (Disk Name Byte) :=
  match named : disk.entries source with
  | none => none
  | some inode =>
      some { disk with
        pending := disk.pending ++ [.move source target inode]
        pendingBelow := by
          apply below_concat disk.pendingBelow
          intro other same
          cases same
          exact disk.entries_below source inode named }

def remove (name : Name) (disk : Disk Name Byte) : Disk Name Byte :=
  { disk with
    pending := disk.pending ++ [.unlink name]
    pendingBelow := below_concat disk.pendingBelow nofun }

def syncDirectory (disk : Disk Name Byte) : Disk Name Byte :=
  { disk with
    durable := disk.entries
    pending := []
    durableBelow := disk.entries_below
    pendingBelow := nofun }

/-- The machine stops: `kept` has reached the disk, and a file that was not synced may
hold anything. -/
def stop (kept : List (DirectoryChange Name)) (contents : Nat → List Byte)
    (disk : Disk Name Byte) : Option (Disk Name Byte) :=
  if survives : kept.Sublist disk.pending then
    some {
      durable := DirectoryChange.applyAll kept disk.durable
      pending := []
      bytes := fun inode => if disk.synced inode then disk.bytes inode else contents inode
      synced := fun _ => true
      next := disk.next
      durableBelow := DirectoryChange.applyAll_below disk.durableBelow
        fun change member => disk.pendingBelow change (survives.mem member)
      pendingBelow := nofun }
  else none

theorem entries_create (name : Name) (disk : Disk Name Byte) :
    (disk.create name).entries = Function.update disk.entries name (some disk.next) :=
  DirectoryChange.applyAll_append ..

theorem entries_remove (name : Name) (disk : Disk Name Byte) :
    (disk.remove name).entries = Function.update disk.entries name none :=
  DirectoryChange.applyAll_append ..

theorem rename_eq_some {source target : Name} {disk next : Disk Name Byte}
    (renamed : disk.rename source target = some next) :
    ∃ inode, disk.entries source = some inode ∧ next.durable = disk.durable ∧
      next.pending = disk.pending ++ [.move source target inode] ∧
      next.bytes = disk.bytes ∧ next.synced = disk.synced ∧
      next.entries =
        Function.update (Function.update disk.entries source none) target (some inode) := by
  unfold rename at renamed
  split at renamed
  · cases renamed
  · next inode named =>
      cases renamed
      exact ⟨inode, named, rfl, rfl, rfl, rfl, DirectoryChange.applyAll_append ..⟩

theorem rename_eq_none {source target : Name} {disk : Disk Name Byte} :
    disk.rename source target = none ↔ disk.entries source = none := by
  unfold rename
  split
  · next named => simp [named]
  · next inode named => simp [named]

theorem next_rename {source target : Name} {disk next : Disk Name Byte}
    (renamed : disk.rename source target = some next) : next.next = disk.next := by
  unfold rename at renamed
  split at renamed
  · cases renamed
  · cases renamed
    rfl

theorem create_other {inode : Nat} {name : Name} {disk : Disk Name Byte}
    (different : inode ≠ disk.next) : (disk.create name).bytes inode = disk.bytes inode ∧
      (disk.create name).synced inode = disk.synced inode :=
  ⟨Function.update_of_ne different .., Function.update_of_ne different ..⟩

theorem append_other {inode file : Nat} {more : List Byte} {disk : Disk Name Byte}
    (different : inode ≠ file) : (disk.append file more).bytes inode = disk.bytes inode ∧
      (disk.append file more).synced inode = disk.synced inode :=
  ⟨Function.update_of_ne different .., Function.update_of_ne different ..⟩

theorem append_bytes {inode : Nat} {more : List Byte} {disk : Disk Name Byte} :
    (disk.append inode more).bytes inode = disk.bytes inode ++ more :=
  Function.update_self ..

theorem sync_other {inode file : Nat} {disk : Disk Name Byte} (different : inode ≠ file) :
    (disk.sync file).synced inode = disk.synced inode :=
  Function.update_of_ne different ..

/-! ## What holds of a name at any time -/

/-- It holds of the name on the disk, and every pending change keeps it. -/
structure Always (name : Name) (holds : Option Nat → Prop) (disk : Disk Name Byte) : Prop where
  durable : holds (disk.durable name)
  pending : ∀ change ∈ disk.pending, change.Keeps name holds

variable {disk next : Disk Name Byte} {name : Name} {holds : Option Nat → Prop}

theorem Always.entries (always : Always name holds disk) : holds (disk.entries name) :=
  DirectoryChange.applyAll_keeps always.pending always.durable

theorem Always.of_same (always : Always name holds disk) (durable : next.durable = disk.durable)
    (pending : next.pending = disk.pending) : Always name holds next := by
  constructor
  · rw [durable]
    exact always.durable
  · rw [pending]
    exact always.pending

theorem Always.concat {change : DirectoryChange Name} (always : Always name holds disk)
    (durable : next.durable = disk.durable) (pending : next.pending = disk.pending ++ [change])
    (keeps : change.Keeps name holds) : Always name holds next := by
  constructor
  · rw [durable]
    exact always.durable
  · rw [pending]
    intro other member
    rcases List.mem_append.mp member with member | member
    · exact always.pending other member
    · rw [List.mem_singleton.mp member]
      exact keeps

theorem Always.syncDirectory (always : Always name holds disk) :
    Always name holds disk.syncDirectory :=
  ⟨always.entries, nofun⟩

theorem Always.stop {kept : List (DirectoryChange Name)} {contents : Nat → List Byte}
    (always : Always name holds disk) (stopped : disk.stop kept contents = some next) :
    Always name holds next := by
  simp only [Disk.stop, Option.dite_none_right_eq_some] at stopped
  rcases stopped with ⟨survives, stopped⟩
  cases stopped
  refine ⟨?_, nofun⟩
  apply DirectoryChange.applyAll_keeps _ always.durable
  intro change member
  exact always.pending change (survives.mem member)

theorem stop_synced {kept : List (DirectoryChange Name)} {contents : Nat → List Byte}
    {inode : Nat} (synced : disk.synced inode = true)
    (stopped : disk.stop kept contents = some next) :
    next.bytes inode = disk.bytes inode ∧ next.synced inode = true := by
  simp only [Disk.stop, Option.dite_none_right_eq_some] at stopped
  rcases stopped with ⟨survives, stopped⟩
  cases stopped
  exact ⟨if_pos synced, rfl⟩

/-! ## Disks that look alike -/

/-- The disk once everything has reached it. -/
def settle (disk : Disk Name Byte) : Disk Name Byte :=
  settled disk.entries disk.bytes disk.next disk.entries_below

/-- Programs see the same directory, and the same bytes in every file that is not hidden. -/
structure Alike (hidden : Nat → Prop) (disk twin : Disk Name Byte) : Prop where
  entries : twin.entries = disk.entries
  next : twin.next = disk.next
  bytes : ∀ inode, ¬hidden inode → twin.bytes inode = disk.bytes inode

section

variable {hidden : Nat → Prop} {twin : Disk Name Byte}

theorem alike_settle (hidden : Nat → Prop) (disk : Disk Name Byte) :
    Alike hidden disk disk.settle :=
  ⟨rfl, rfl, fun _ _ => rfl⟩

theorem Alike.read (alike : Alike hidden disk twin)
    (shown : ∀ inode, disk.entries name = some inode → ¬hidden inode) :
    twin.read name = disk.read name := by
  rw [Disk.read, Disk.read, alike.entries]
  cases named : disk.entries name with
  | none => rfl
  | some inode => exact congrArg some (alike.bytes inode (shown inode named))

theorem Alike.create (alike : Alike hidden disk twin) :
    Alike hidden (disk.create name) (twin.create name) := by
  constructor
  · rw [entries_create, entries_create, alike.entries, alike.next]
  · exact congrArg (· + 1) alike.next
  · intro inode shown
    simp only [Disk.create, alike.next, Function.update_apply, alike.bytes inode shown]

theorem Alike.append {inode : Nat} {more : List Byte} (alike : Alike hidden disk twin) :
    Alike hidden (disk.append inode more) (twin.append inode more) := by
  constructor
  · exact alike.entries
  · exact alike.next
  · intro other shown
    simp only [Disk.append, Function.update_apply]
    split
    · next same => rw [← same, alike.bytes other shown]
    · exact alike.bytes other shown

theorem Alike.sync {inode : Nat} (alike : Alike hidden disk twin) :
    Alike hidden (disk.sync inode) (twin.sync inode) :=
  ⟨alike.entries, alike.next, alike.bytes⟩

theorem Alike.remove (alike : Alike hidden disk twin) :
    Alike hidden (disk.remove name) (twin.remove name) :=
  ⟨by rw [entries_remove, entries_remove, alike.entries], alike.next, alike.bytes⟩

theorem Alike.syncDirectory (alike : Alike hidden disk twin) :
    Alike hidden disk.syncDirectory twin.syncDirectory :=
  ⟨alike.entries, alike.next, alike.bytes⟩

theorem Alike.rename {source target : Name} (alike : Alike hidden disk twin)
    (renamed : disk.rename source target = some next) :
    ∃ other, twin.rename source target = some other ∧ Alike hidden next other := by
  have same : twin.entries source = disk.entries source := congrFun alike.entries source
  cases found : twin.rename source target with
  | none =>
      rw [rename_eq_none] at found
      rcases rename_eq_some renamed with ⟨inode, named, _⟩
      rw [found, named] at same
      cases same
  | some other =>
      rcases rename_eq_some renamed with ⟨inode, named, _, _, bytes, _, entries⟩
      rcases rename_eq_some found with ⟨inode', named', _, _, bytes', _, entries'⟩
      rw [named, named'] at same
      cases same
      refine ⟨other, rfl, ?_, ?_, ?_⟩
      · rw [entries, entries', alike.entries]
      · rw [next_rename renamed, next_rename found, alike.next]
      · rw [bytes, bytes']
        exact alike.bytes

end

end Disk

end DriveWebdav
