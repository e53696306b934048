import DriveWebdav.Foundation.Machine
import Mathlib.Data.Finset.Card

/-! # Copy passes

The timer runs `copy.sh` until a pass leaves the `COMPLETE` marker. The source may
change at any time; only the passes write to the remote. -/

namespace DriveWebdav

structure SourceFile where
  path : String
  bytes : List UInt8
  deriving DecidableEq

/-- The regular files below a directory, at most one for each path. -/
structure FileTree where
  files : Finset SourceFile
  distinct : ∀ left ∈ files, ∀ right ∈ files, left.path = right.path → left = right

namespace FileTree

def empty : FileTree where
  files := ∅
  distinct := by
    intro left member
    simp at member

def count (tree : FileTree) : Nat := tree.files.card

def IsFree (tree : FileTree) (path : String) : Prop := ∀ file ∈ tree.files, file.path ≠ path

instance (tree : FileTree) (path : String) : Decidable (tree.IsFree path) :=
  inferInstanceAs (Decidable (∀ file ∈ tree.files, file.path ≠ path))

def insert (tree : FileTree) (file : SourceFile) (free : tree.IsFree file.path) : FileTree where
  files := Insert.insert file tree.files
  distinct := by
    intro left leftMember right rightMember equal
    rw [Finset.mem_insert] at leftMember rightMember
    rcases leftMember with rfl | leftMember
    · rcases rightMember with rfl | rightMember
      · rfl
      · exact absurd equal.symm (free right rightMember)
    · rcases rightMember with rfl | rightMember
      · exact absurd equal (free left leftMember)
      · exact tree.distinct left leftMember right rightMember equal

end FileTree

/-- What the source guards look at. -/
structure SourceCheck where
  isDirectory : Bool
  isMounted : Bool
  subdirs : List String

/-- `listed` is the work set of rclone, `counted` the source when `find` ran, and
`got` the count of the remote if `rclone size` gave one. -/
inductive CopyPhase
  | idle (exitCode : Option Nat)
  | guarding
  | awaitingBridge
  | listing (listed : Finset SourceFile)
  | copying (listed : Finset SourceFile)
  | counting
  | sizing (counted : FileTree)
  | comparing (counted : FileTree) (got : Option Nat)

/-- No step depends on `kept`: the files that have been in the source ever since the
last pass began to list it. -/
structure CopyWorld where
  source : FileTree
  remote : FileTree
  marker : Bool
  phase : CopyPhase
  kept : Finset SourceFile

namespace CopyWorld

def enter (phase : CopyPhase) (world : CopyWorld) : CopyWorld := { world with phase }

/-- Whether the source is there, with every subtree that it has to have. -/
def isGuarded (requireSubdirs : List String) (check : SourceCheck) : Bool :=
  check.isDirectory && check.isMounted &&
    requireSubdirs.all fun subdir => subdir.isEmpty || subdir ∈ check.subdirs

/-- `rclone copy --immutable` uploads a file that the source still has to a path that
the remote does not have. -/
def upload (file : SourceFile) (listed : Finset SourceFile) (world : CopyWorld) :
    Option CopyWorld :=
  if file ∈ world.source.files ∧ ∃ entry ∈ listed, entry.path = file.path then
    if free : world.remote.IsFree file.path then
      some { world with remote := world.remote.insert file free }
    else none
  else none

/-- Exit 0 means that every listed file has a copy on the remote. -/
def rcloneExit (code : Nat) (listed : Finset SourceFile) (world : CopyWorld) :
    Option CopyWorld :=
  if code ≠ 0 then some (world.enter (.idle (some code)))
  else if listed ⊆ world.remote.files then some (world.enter .counting)
  else none

def compare (counted : FileTree) (got : Option Nat) (world : CopyWorld) : CopyWorld :=
  if got = some counted.count then { world.enter (.idle (some 0)) with marker := true }
  else world.enter (.idle (some 70))

/-- The source changes, a pass takes its next step or is killed, or the user removes
the marker. -/
inductive Event
  | change (source : FileTree)
  | start
  | guard (check : SourceCheck)
  | bridge (appeared : Bool)
  | list (file : SourceFile)
  | endListing
  | upload (file : SourceFile)
  | exit (code : Nat)
  | find
  | size (answered : Bool)
  | compare
  | kill
  | unmark

/-- rclone may start to copy while it lists, and lists at least what stays in the
source all the time. -/
def machine (requireSubdirs : List String) : Machine CopyWorld Event
  | world, .change source => some { world with source, kept := world.kept ∩ source.files }
  | world, .start =>
      match world.phase with
      | .idle _ => some (world.enter (if world.marker then .idle (some 0) else .guarding))
      | _ => none
  | world, .guard check =>
      match world.phase with
      | .guarding =>
          some (world.enter
            (if isGuarded requireSubdirs check then .awaitingBridge else .idle (some 75)))
      | _ => none
  | world, .bridge appeared =>
      match world.phase with
      | .awaitingBridge =>
          some { world.enter (if appeared then .listing ∅ else .idle (some 76)) with
            kept := world.source.files }
      | _ => none
  | world, .list file =>
      match world.phase with
      | .listing listed =>
          if file ∈ world.source.files then some (world.enter (.listing (insert file listed)))
          else none
      | _ => none
  | world, .endListing =>
      match world.phase with
      | .listing listed =>
          if world.kept ⊆ listed then some (world.enter (.copying listed)) else none
      | _ => none
  | world, .upload file =>
      match world.phase with
      | .listing listed => world.upload file listed
      | .copying listed => world.upload file listed
      | _ => none
  | world, .exit code =>
      match world.phase with
      | .listing listed => if code = 0 then none else world.rcloneExit code listed
      | .copying listed => world.rcloneExit code listed
      | _ => none
  | world, .find =>
      match world.phase with
      | .counting => some (world.enter (.sizing world.source))
      | _ => none
  | world, .size answered =>
      match world.phase with
      | .sizing counted =>
          some (world.enter
            (.comparing counted (if answered then some world.remote.count else none)))
      | _ => none
  | world, .compare =>
      match world.phase with
      | .comparing counted got => some (world.compare counted got)
      | _ => none
  | world, .kill => some (world.enter (.idle none))
  | world, .unmark => some { world with marker := false }

/-- Before the first pass. -/
def start (source remote : FileTree) (marker : Bool) : CopyWorld where
  source := source
  remote := remote
  marker := marker
  phase := .idle none
  kept := ∅

end CopyWorld

end DriveWebdav
