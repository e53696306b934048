import DriveWebdav.Drive.Relocation
import DriveWebdav.SdkGateway.Alone

/-! # An SDK over a tree

What the gateway assumes of the calls that trash nodes and move them about: a node that is moved
keeps its name, and neither a move nor a rename gives two siblings one name. -/

namespace DriveWebdav

namespace Drive

/-- Another node that is not trashed has the name in the folder. -/
def nameTaken (platform : Platform) (drive : Drive) (parent : Uid) (name : JsString)
    (self : Uid) : Bool :=
  drive.nodes.entries.any fun entry =>
    entry.1 ≠ self && entry.2.parentUid = some parent && !entry.2.trashed &&
      platform.showName entry.2.name = name

/-- A node other than the root, and a folder that is neither the node nor below it. Both are
there. -/
structure MayEnter (platform : Platform) (drive : Drive) (node folder : NodeEntity) : Prop where
  source : drive.getNode node.uid = some node
  notRoot : node.uid ≠ drive.root
  target : drive.getNode folder.uid = some folder
  isFolder : folder.type = .folder
  apart : ∀ above below, drive.visit platform above false = some node →
    drive.visit platform (below ++ above) false ≠ some folder

end Drive

/-- A node that is there can be trashed. -/
def Trashes (answer : TreeAnswer) : Prop :=
  ∀ drive node, drive.getNode node.uid = some node →
    answer drive (.trashNodes [node]) = (.ok ⟨[.ok ()], none⟩, drive.trash node.uid)

/-- A node that is moved keeps its name, and a move or a rename is made unless a sibling would have
the same name. -/
structure KeepsNames (platform : Platform) (answer : TreeAnswer) : Prop where
  moves : ∀ drive node folder, drive.MayEnter platform node folder →
    drive.nameTaken platform folder.uid (platform.getName node) node.uid = false →
    answer drive (.moveNodes [node] folder) = (.ok ⟨[.ok ()], none⟩,
      drive.alter node.uid fun stored => { stored with parentUid := some folder.uid })
  refuses : ∀ drive node folder, drive.MayEnter platform node folder →
    drive.nameTaken platform folder.uid (platform.getName node) node.uid = true →
    ∃ fault, answer drive (.moveNodes [node] folder) = (.ok ⟨[.error fault], none⟩, drive) ∨
      answer drive (.moveNodes [node] folder) = (.error (.sdk fault), drive)
  renames : ∀ drive node stored parent name, drive.nodes.get node.uid = some stored →
    stored.parentUid = some parent → node.uid ≠ drive.root →
    drive.nameTaken platform parent name node.uid = false →
    answer drive (.renameNode node name) = (.ok (),
      drive.alter node.uid fun stored => { stored with name := ⟨true, name⟩ })

namespace TreeSdk

def sameName : SdkError := ⟨.nodeWithSameNameExists false, "exists"⟩

def notFound : Thrown := .sdk ⟨.validation, "Node not found"⟩

variable (platform : Platform)

def getNode (drive : Drive) (uid : Uid) : Except Thrown NodeEntity :=
  match drive.getNode uid with
  | some node => .ok node
  | none => .error notFound

def moveNode (drive : Drive) (node parent : NodeEntity) : NodeResult × Drive :=
  if drive.nameTaken platform parent.uid (platform.getName node) node.uid then
    (.error sameName, drive)
  else
    (.ok (), drive.alter node.uid fun stored => { stored with parentUid := some parent.uid })

def renameNode (drive : Drive) (node : NodeEntity) (name : JsString) :
    Except Thrown Unit × Drive :=
  match drive.nodes.get node.uid with
  | none => (.error notFound, drive)
  | some stored =>
      if stored.parentUid.any fun parent => drive.nameTaken platform parent name node.uid then
        (.error (.sdk sameName), drive)
      else (.ok (), drive.alter node.uid fun stored => { stored with name := ⟨true, name⟩ })

/-- The answers. Calls that change files, and calls on several nodes, are left out. -/
def answer : TreeAnswer
  | drive, .getPathNode => (getNode drive drive.root, drive)
  | drive, .getNode uid => (getNode drive uid, drive)
  | drive, .iterateFolderChildren parent _ =>
      (.ok ⟨drive.children platform parent.uid, none⟩, drive)
  | drive, .trashNodes [node] => (.ok ⟨[.ok ()], none⟩, drive.trash node.uid)
  | drive, .moveNodes [node] parent =>
      match moveNode platform drive node parent with
      | (result, moved) => (.ok ⟨[result], none⟩, moved)
  | drive, .renameNode node name => renameNode platform drive node name
  | drive, _ => (.error (.sdk ⟨.other, "Not implemented"⟩), drive)

variable {platform : Platform} {drive : Drive}

theorem getNode_eq_ok {uid : Uid} {node : NodeEntity} :
    getNode drive uid = .ok node ↔ drive.getNode uid = some node := by
  unfold getNode
  cases drive.getNode uid with
  | none => exact ⟨nofun, nofun⟩
  | some found => simp

theorem getNode_error {uid : Uid} {error : Thrown} (fails : getNode drive uid = .error error) :
    error = notFound := by
  unfold getNode at fails
  split at fails
  · cases fails
  · cases fails
    rfl

theorem renameNode_error {node : NodeEntity} {name : JsString} {error : Thrown}
    (fails : (renameNode platform drive node name).1 = .error error) :
    ∃ fault, error = .sdk fault := by
  unfold renameNode at fails
  split at fails
  · cases fails
    exact ⟨_, rfl⟩
  · split at fails
    · cases fails
      exact ⟨_, rfl⟩
    · cases fails

/-- It fails with errors of the SDK only. -/
theorem answer_error {command : SdkCall} {error : Thrown}
    (fails : (answer platform drive command).1 = .error error) : ∃ fault, error = .sdk fault := by
  unfold answer at fails
  split at fails
  · exact ⟨_, getNode_error fails⟩
  · exact ⟨_, getNode_error fails⟩
  · cases fails
  · cases fails
  · cases fails
  · exact renameNode_error fails
  · cases fails
    exact ⟨_, rfl⟩

theorem truthful : Truthful platform (answer platform) where
  lookups drive command lookup := by
    cases command with
    | getPathNode => rfl
    | getNode uid => rfl
    | iterateFolderChildren parent sought => rfl
    | _ => cases lookup
  nodes drive uid node found := getNode_eq_ok.mp found
  root drive node fetched := ⟨getNode_eq_ok.mpr fetched, getNode_eq_ok.mpr fetched⟩
  pathNode drive node found := getNode_eq_ok.mp found
  children drive parent sought := rfl
  failures drive command error fails := by
    rcases answer_error fails with ⟨fault, rfl⟩
    exact Nat.le_of_ble_eq_true rfl

theorem trashes : Trashes (answer platform) := fun _ _ _ => rfl

theorem keepsNames : KeepsNames platform (answer platform) where
  moves drive node folder _ free := by
    rw [answer, moveNode, free]
    rfl
  refuses drive node folder _ taken := by
    refine ⟨sameName, .inl ?_⟩
    rw [answer, moveNode, taken]
    rfl
  renames drive node stored parent name located inside _ free := by
    rw [answer, renameNode, located]
    dsimp only
    rw [inside, Option.any_some, free]
    rfl

end TreeSdk

end DriveWebdav
