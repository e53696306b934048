import DriveWebdav.Drive.Places
import DriveWebdav.Drive.TreeChanges

/-! # Sound trees

Trees of folders and files whose revisions say what is so. Every change that the SDK makes keeps
a tree sound, and the folders where they lie, but for those it takes away. -/

namespace DriveWebdav

/-- What a revision says of its content is so. -/
structure Revision.Claims (digest : Bytes → JsString) (revision : Revision) (bytes : Bytes) :
    Prop where
  size : ∀ size, revision.claimedSize = some size → size = bytes.length
  sha1 : ∀ sha1, revision.claimedSha1 = some sha1 → sha1.toLowerCase = digest bytes

/-- A folder, or a file whose revision says what is so. -/
structure DriveNode.Sound (platform : Platform) (node : DriveNode) : Prop where
  kind : node.type ≠ .other
  claims : ∀ revision, node.type = .file → node.activeRevision = some revision →
    revision.Claims platform.sha1 node.bytes

namespace Drive

/-- A tree with nothing in the trash whose nodes are sound. What is put in the trash is taken to
leave such a tree: it is neither listed nor returned any more. -/
structure Sound (platform : Platform) (drive : Drive) : Prop where
  plain : Plain platform drive
  nodes : ∀ uid stored, drive.nodes.get uid = some stored → stored.Sound platform

/-- A committed file with these bytes is what is then found under a name of a folder, and nothing
else changes. -/
def Stores (platform : Platform) (folder : Uid) (name : JsString) (bytes : Bytes)
    (drive changed : Drive) : Prop :=
  ChangesAt platform folder name drive changed ∧
    ∃ uid stored revision, changed.nodes.get uid = some stored ∧
      stored.IsAt platform folder name ∧ stored.type = .file ∧
      stored.activeRevision = some revision ∧ revision.Claims platform.sha1 bytes ∧
      stored.bytes = bytes

/-- No other node has the name in the folder. -/
def FreeFor (platform : Platform) (drive : Drive) (uid folder : Uid) (name : JsString) : Prop :=
  ∀ other stored, other ≠ uid → drive.nodes.get other = some stored →
    ¬stored.IsAt platform folder name

/-- What a change leaves: a sound tree, and the folders that it spares where they lie. -/
structure Spares (platform : Platform) (spared : List JsString → Prop) (drive changed : Drive) :
    Prop where
  root : changed.root = drive.root
  sound : changed.Sound platform
  folders : ∀ q uid, spared q → FolderAt platform drive q uid → FolderAt platform changed q uid

variable {platform : Platform} {drive changed : Drive} {segs path : List JsString}
  {uid folder : Uid} {name : JsString} {bytes : Bytes}

theorem Sound.proper (sound : Sound platform drive) : drive.Proper platform :=
  ⟨sound.plain.uniqueNames, sound.plain.isFolder⟩

theorem Sound.spares (sound : Sound platform drive) {spared : List JsString → Prop} :
    Spares platform spared drive drive :=
  ⟨rfl, sound, fun _ _ _ lies => lies⟩

theorem Spares.trans {spared : List JsString → Prop} {last : Drive}
    (first : Spares platform spared drive changed) (second : Spares platform spared changed last) :
    Spares platform spared drive last where
  root := second.root.trans first.root
  sound := second.sound
  folders q uid here lies := second.folders q uid here (first.folders q uid here lies)

theorem Drafted.spares (drafted : Drafted platform drive changed) (sound : Sound platform drive)
    {spared : List JsString → Prop} : Spares platform spared drive changed where
  root := drafted.root
  sound := by
    refine ⟨drafted.plain, fun uid stored located => ?_⟩
    cases draft : stored.isDraft with
    | false => exact sound.nodes uid stored ((drafted.committed uid stored draft).mp located)
    | true =>
        simp only [DriveNode.isDraft, Bool.and_eq_true, decide_eq_true_eq] at draft
        constructor
        · rw [draft.1]
          exact NodeType.noConfusion
        · intro revision _ active
          rw [Option.isNone_iff_eq_none.mp draft.2] at active
          cases active
  folders _ _ _ lies := drafted.folderAt sound.plain lies

theorem AddsFolder.spares (adds : AddsFolder platform folder name uid drive changed)
    (sound : Sound platform drive) (lies : FolderAt platform drive segs folder)
    {spared : List JsString → Prop} : Spares platform spared drive changed where
  root := adds.root
  sound := by
    refine ⟨adds.plain sound.plain, fun other stored located => ?_⟩
    by_cases new : other = uid
    · rcases adds.added with ⟨added, addedLocated, _, isFolder, _⟩
      rw [new, addedLocated] at located
      cases located
      constructor
      · rw [isFolder]
        exact NodeType.noConfusion
      · intro revision isFile
        rw [isFolder] at isFile
        cases isFile
    · rw [adds.elsewhere other new] at located
      exact sound.nodes other stored located
  folders _ _ _ there := adds.folderAt sound.plain lies there

theorem Deletes.spares {node : NodeEntity} (deletes : Deletes node.uid drive changed)
    (sound : Sound platform drive)
    (found : drive.visit platform path.reverse false = some node) (inside : path ≠ []) :
    Spares platform (fun q => ¬path <+: q) drive changed where
  root := deletes.root
  sound := ⟨deletes.plain sound.plain (sound.plain.rooted.ne_root_of_inside found inside),
    fun other stored located => sound.nodes other stored (deletes.kept located)⟩
  folders _ _ apart lies :=
    deletes.folderAt sound.plain (sound.plain.rooted.ne_root_of_inside found inside) found rfl
      inside lies apart

theorem Stores.spares (stores : Stores platform folder name bytes drive changed)
    (sound : Sound platform drive) {spared : List JsString → Prop} :
    Spares platform spared drive changed where
  root := stores.1.root
  sound := by
    refine ⟨stores.1.plain sound.plain, fun other stored located => ?_⟩
    by_cases there : stored.IsAt platform folder name
    · rcases stores with ⟨changes, new, added, revision, newLocated, newThere, isFile, active,
        claims, rfl⟩
      have same := changes.single _ _ _ _ located there newLocated newThere
      rw [same, newLocated] at located
      cases located
      constructor
      · rw [isFile]
        exact NodeType.noConfusion
      · intro other _ also
        cases active.symm.trans also
        exact claims
    · exact sound.nodes other stored ((stores.1.elsewhere other stored there).mp located)
  folders _ _ _ lies := (stores.1.folderAt_iff sound.plain _).mpr lies

/-- The file is what is then seen at its path. -/
theorem Stores.tree (stores : Stores platform folder name bytes drive changed)
    (sound : Sound platform drive) (lies : FolderAt platform drive segs folder) :
    changed.tree platform = Function.update (drive.tree platform) (segs ++ [name])
      (some (.file bytes)) := by
  rcases stores with ⟨changes, uid, stored, revision, located, there, isFile, active, _, rfl⟩
  have committed : stored.activeRevision ≠ none := by
    rw [active]
    exact Option.some_ne_none _
  have after := changes.plain sound.plain
  have home := (changes.folderAt_iff sound.plain _).mpr lies
  rw [changes.tree sound.plain lies, after.tree_file home located there isFile committed]

theorem Sound.relocate {node home : NodeEntity} {newName : NodeName} {above : List JsString}
    (sound : Sound platform drive)
    (found : drive.visit platform path.reverse false = some node) (inside : path ≠ [])
    (free : ∀ other stored, drive.nodes.get other = some stored →
      ¬stored.IsAt platform home.uid (platform.showName newName))
    (target : drive.visit platform above.reverse false = some home)
    (isFolder : home.type = .folder) (apart : ¬path <+: above ++ [platform.showName newName]) :
    Spares platform (fun q => ¬path <+: q) drive (drive.relocate node.uid home.uid newName) where
  root := rfl
  sound := by
    refine ⟨sound.plain.relocate found inside free target isFolder apart,
      fun other stored located => ?_⟩
    rw [Drive.relocate, get_alter, Option.map_eq_some_iff] at located
    rcases located with ⟨earlier, located, rfl⟩
    have before := sound.nodes other earlier located
    split
    · exact ⟨before.kind, before.claims⟩
    · exact before
  folders _ _ elsewhere lies :=
    sound.plain.folderAt_relocate found inside free target isFolder apart lies elsewhere

end Drive

end DriveWebdav
