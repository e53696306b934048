import DriveWebdav.SdkGateway.DoublePut
import DriveWebdav.SdkGateway.Store

/-! # A store that answers

The stand-in for the SDK that the tests run against, as a store without unfinished uploads. It
refuses a name that is taken, what would change the root, and to move anything where the root lies in
another folder, and fails at nothing else. -/

namespace DriveWebdav

namespace StoreDouble

/-- Another node than `except` has the name in the folder. -/
def taken (platform : Platform) (drive : Drive) (folder : Uid) (name : JsString)
    (except : Option Uid) : Bool :=
  drive.nodes.entries.any fun entry =>
    some entry.1 ≠ except && entry.2.parentUid = some folder &&
      platform.showName entry.2.name = name

/-- An identity that no node has, and no node's folder had. -/
def freshUid (drive : Drive) : Uid :=
  (drive.nodes.keys ++ drive.nodes.entries.filterMap fun entry => entry.2.parentUid).foldr max 0 + 1

section

variable (platform : Platform) (now : Date)

def createFolder (drive : Drive) (parent : Uid) (name : JsString) : Option Drive :=
  if (drive.nodes.get parent).isNone || taken platform drive parent name none then none
  else some ⟨drive.root, drive.nodes.set (freshUid drive) (.folder (some parent) name)⟩

def trashNode (drive : Drive) (uid : Uid) : Option Drive :=
  if uid = drive.root then none else some (drive.delete uid)

/-- A revision whose claims are so. -/
def revisionOf (bytes : Bytes) (mtime : Option Date) : Revision :=
  ⟨some bytes.length, some (platform.sha1 bytes), true, mtime⟩

def createFile (drive : Drive) (parent : Uid) (name : JsString) (mtime : Option Date)
    (bytes : Bytes) : Option Drive :=
  if taken platform drive parent name none then none
  else some (drive.add (Drive.newFile parent name (revisionOf platform bytes mtime) bytes now))

/-- The root lies in a folder. What is above it might be moved to a place below it. -/
def rootInside (drive : Drive) : Bool :=
  (drive.nodes.get drive.root).any fun root => root.parentUid.isSome

/-- A node gets another folder or name, where that is free. -/
def relocated (drive : Drive) (uid parent : Uid) (name : NodeName) : Option Drive :=
  if rootInside drive || uid = drive.root || taken platform drive parent (platform.showName name) (some uid) then none
  else some (drive.relocate uid parent name)

def moveNode (drive : Drive) (uid parent : Uid) : Option Drive :=
  (drive.nodes.get uid).bind fun stored => relocated platform drive uid parent stored.name

def renameNode (drive : Drive) (uid : Uid) (name : JsString) : Option Drive :=
  (drive.nodes.get uid).bind fun stored =>
    stored.parentUid.bind fun parent => relocated platform drive uid parent ⟨true, name⟩

def copyNode (drive : Drive) (uid parent : Uid) (name : JsString) : Option Drive :=
  (drive.nodes.get uid).bind fun source =>
    createFile platform now drive parent name none source.bytes

/-- A new revision is committed to a file that is there. -/
def reviseFile (drive : Drive) (uid : Uid) (metadata : UploadMetadata) (bytes : Bytes) :
    Option Drive :=
  (drive.nodes.get uid).bind fun stored =>
    if stored.type = .file && stored.parentUid.isSome then
      some (drive.revise uid (revisionOf platform bytes metadata.modificationTime) bytes)
    else none

def commit (drive : Drive) (bytes : Bytes) : Uploader → Option Drive
  | .file parent name metadata =>
      createFile platform now drive parent name metadata.modificationTime bytes
  | .revision uid metadata => reviseFile platform drive uid metadata bytes

/-- The tree is changed, or left where the change is refused. -/
def ofChange {α : Type} (value : α) (drive : Drive) (changed : Option Drive) :
    Except Thrown α × Drive :=
  match changed with
  | none => (.error (SdkDouble.sameNameExists false), drive)
  | some final => (.ok value, final)

/-- The one result of a call on one node. -/
def ofNode (drive : Drive) (changed : Option Drive) :
    Except Thrown (Yielded NodeResult) × Drive :=
  match changed with
  | none => (.ok ⟨[.error ⟨.nodeWithSameNameExists false, "exists"⟩], none⟩, drive)
  | some final => (.ok ⟨[.ok ()], none⟩, final)

def fits (metadata : UploadMetadata) (bytes : Bytes) : Bool :=
  metadata.expectedSize.all (· = (bytes.length : Int)) &&
    metadata.expectedSha1.all (· = platform.sha1 bytes)

def completion (drive : Drive) (controller : UploadController) : Except Thrown Unit × Drive :=
  match controller.stream.bytes with
  | none => (.error SdkDouble.bodyError, drive)
  | some bytes =>
      if fits platform (SdkDouble.metadataOf controller.uploader) bytes then
        ofChange () drive (commit platform now drive bytes controller.uploader)
      else (.error (.sdk ⟨.integrity, "mismatch"⟩), drive)

/-- A download that writes its bytes in one chunk, if there are any. -/
def downloadToStream (drive : Drive) (uid : Uid) : Except Thrown DownloadStart :=
  match drive.nodes.get uid with
  | none => .error (SdkDouble.nodeNotFound uid)
  | some stored => .ok (if stored.bytes = [] then .complete 0 (platform.sha1 []) else .chunk)

/-- It cannot seek. -/
def answer (drive : Drive) : (command : SdkCall) → Except Thrown (SdkAnswer command) × Drive
  | .getPathNode => (SdkDouble.getNode drive drive.root, drive)
  | .getNode uid => (SdkDouble.getNode drive uid, drive)
  | .iterateFolderChildren parent _ => (.ok ⟨drive.children platform parent.uid, none⟩, drive)
  | .createFolder parent name =>
      ofChange ((DriveNode.folder (some parent.uid) name).entity (freshUid drive)) drive
        (createFolder platform drive parent.uid name)
  | .trashNodes [node] => ofNode drive (trashNode drive node.uid)
  | .moveNodes [node] parent => ofNode drive (moveNode platform drive node.uid parent.uid)
  | .renameNode node name => ofChange () drive (renameNode platform drive node.uid name)
  | .copyNodes [(uid, name)] parent => ofNode drive (copyNode platform now drive uid parent.uid name)
  | .getFileUploader parent name metadata => (.ok (.file parent.uid name metadata), drive)
  | .getFileRevisionUploader uid metadata => (.ok (.revision uid metadata), drive)
  | .uploadFromStream uploader stream => (.ok ⟨uploader, stream⟩, drive)
  | .completion controller => completion platform now drive controller
  | .cancelBody => (.ok (), drive)
  | .releaseBody => (.ok (), drive)
  | .getFileDownloader _ => (.ok (), drive)
  | .forceReleaseDownloadSlot _ => (.ok (), drive)
  | .downloadToStream node => (downloadToStream platform drive node.uid, drive)
  | _ => (.error (.sdk ⟨.other, "Not implemented"⟩), drive)

end

variable {platform : Platform} {now : Date} {drive final : Drive} {folder uid : Uid}
  {name : JsString} {bytes : Bytes}

theorem free_of_not_taken {except : Option Uid} (free : ¬taken platform drive folder name except)
    {other : Uid} {stored : DriveNode} (apart : some other ≠ except)
    (located : drive.nodes.get other = some stored) : ¬stored.IsAt platform folder name := by
  intro there
  apply free
  rw [taken, List.any_eq_true]
  refine ⟨(other, stored), (InsertionMap.get_eq_some_iff _ _ _).mp located, ?_⟩
  simp [apart, there.1, there.2]

theorem le_foldr_max {used : Uid} {uids : List Uid} (member : used ∈ uids) :
    used ≤ uids.foldr max 0 := by
  induction uids with
  | nil => cases member
  | cons first rest induction =>
      rw [List.foldr_cons]
      rcases List.mem_cons.mp member with rfl | member
      · exact Nat.le_max_left _ _
      · exact Nat.le_trans (induction member) (Nat.le_max_right _ _)

theorem ne_freshUid {other : Uid} {stored : DriveNode}
    (located : drive.nodes.get other = some stored) :
    other ≠ freshUid drive ∧ stored.parentUid ≠ some (freshUid drive) := by
  have member := (InsertionMap.get_eq_some_iff _ _ _).mp located
  have below : ∀ used ∈ drive.nodes.keys ++
      drive.nodes.entries.filterMap (fun entry => entry.2.parentUid), used ≠ freshUid drive := by
    intro used member
    exact Nat.ne_of_lt (Nat.lt_succ_of_le (le_foldr_max member))
  constructor
  · exact below other (List.mem_append_left _ (List.mem_map_of_mem member))
  · intro inside
    refine below _ (List.mem_append_right _ (List.mem_filterMap.mpr ⟨_, member, inside⟩)) rfl

/-! ## What the changes do -/

theorem adds_createFolder (created : createFolder platform drive folder name = some final) :
    Drive.AddsFolder platform folder name (freshUid drive) drive final := by
  unfold createFolder at created
  split at created
  · cases created
  · next free =>
      cases created
      simp only [Bool.or_eq_true, not_or, Option.isNone_iff_eq_none] at free
      rcases Option.ne_none_iff_exists'.mp free.1 with ⟨parent, here⟩
      have free := free.2
      constructor
      · rfl
      · rw [Option.eq_none_iff_forall_ne_some]
        intro stored located
        exact (ne_freshUid located).1 rfl
      · intro other different
        exact InsertionMap.get_set_of_ne _ _ different
      · exact ⟨_, InsertionMap.get_set_self _ _ _, ⟨rfl, platform.showName_ok _ rfl⟩, rfl, rfl⟩
      · intro other stored
        exact free_of_not_taken free (Option.some_ne_none _)
      · intro other stored located inside
        rcases InsertionMap.get_set_eq_some located with ⟨_, rfl⟩ | ⟨_, before⟩
        · exact (ne_freshUid here).1 (Option.some.inj inside)
        · exact (ne_freshUid before).2 inside

theorem deletes_trashNode (plain : drive.Plain platform)
    (trashed : trashNode drive uid = some final) :
    final.Plain platform ∧ Drive.Deletes uid drive final := by
  unfold trashNode at trashed
  split at trashed
  · cases trashed
  · next notRoot =>
      cases trashed
      have deletes : Drive.Deletes uid drive (drive.delete uid) :=
        ⟨rfl, InsertionMap.get_delete_self _ _,
          fun other different => InsertionMap.get_delete_of_ne _ different⟩
      exact ⟨deletes.plain plain notRoot, deletes⟩

theorem plain_relocated {newName : NodeName} (plain : drive.Plain platform)
    (moved : relocated platform drive uid folder newName = some final) :
    final.Plain platform ∧ drive.FreeFor platform uid folder (platform.showName newName) ∧
      final = drive.relocate uid folder newName := by
  unfold relocated at moved
  split at moved
  · cases moved
  · next allowed =>
      cases moved
      simp only [Bool.or_eq_true, decide_eq_true_eq, not_or] at allowed
      rcases allowed with ⟨⟨outside, notRoot⟩, untaken⟩
      have free : drive.FreeFor platform uid folder (platform.showName newName) := by
        intro other stored different located
        apply free_of_not_taken untaken _ located
        exact fun same => different (Option.some.inj same)
      have top : ∀ stored, drive.nodes.get drive.root = some stored → stored.parentUid = none := by
        intro stored located
        rw [rootInside, located] at outside
        exact Option.not_isSome_iff_eq_none.mp outside
      exact ⟨plain.relocate_of_top top notRoot free, free, rfl⟩

theorem stores_createFile {mtime : Option Date}
    (lower : ∀ bytes, (platform.sha1 bytes).toLowerCase = platform.sha1 bytes)
    (created : createFile platform now drive folder name mtime bytes = some final) :
    drive.Stores platform folder name bytes final := by
  unfold createFile at created
  split at created
  · cases created
  · next free =>
      cases created
      refine ⟨SdkDouble.changesAt_add platform folder name _ _ _ fun other stored =>
        free_of_not_taken free (Option.some_ne_none _), drive.newUid, _, _,
        InsertionMap.get_set_self _ _ _, ⟨rfl, platform.showName_ok _ rfl⟩, rfl, rfl, ⟨?_, ?_⟩, rfl⟩
      · intro size claimed
        exact (Option.some.inj claimed).symm
      · intro sha1 claimed
        rw [← Option.some.inj claimed]
        exact lower bytes

theorem commits_reviseFile (plain : drive.Plain platform) {metadata : UploadMetadata}
    (lower : ∀ bytes, (platform.sha1 bytes).toLowerCase = platform.sha1 bytes)
    (revised : reviseFile platform drive uid metadata bytes = some final) :
    (Uploader.revision uid metadata).Commits platform drive bytes final := by
  rcases Option.bind_eq_some_iff.mp revised with ⟨stored, located, revised⟩
  split at revised
  · next isFile =>
      cases revised
      simp only [Bool.and_eq_true, decide_eq_true_eq, Option.isSome_iff_exists] at isFile
      rcases isFile with ⟨isFile, folder, inside⟩
      have noFolder : stored.type ≠ .folder := by
        rw [isFile]
        exact NodeType.noConfusion
      refine ⟨stored, folder, located, inside,
        SdkDouble.changesAt_revise plain _ bytes located ⟨inside, rfl⟩ noFolder, uid, _, _,
        Drive.get_revise _ bytes located, ⟨inside, rfl⟩, isFile, rfl, ⟨?_, ?_⟩, rfl⟩
      · intro size claimed
        exact (Option.some.inj claimed).symm
      · intro sha1 claimed
        rw [← Option.some.inj claimed]
        exact lower bytes
  · cases revised

/-! ## What the store allows -/

/-- An answer that the store may give, and that keeps the tree plain. -/
def Allowed (platform : Platform) (drive : Drive) (command : SdkCall)
    (answered : Except Thrown (SdkAnswer command) × Drive) : Prop :=
  answered.2.Plain platform ∧ storeService platform drive command answered.1 answered.2

theorem allowed_error (plain : drive.Plain platform) (command : SdkCall) (fault : SdkError) :
    Allowed platform drive command (.error (.sdk fault), drive) := by
  refine ⟨plain, ⟨fault, rfl⟩, ?_⟩
  split
  · exact .refl plain
  · rfl

theorem allowed_ofChange {command : SdkCall} (plain : drive.Plain platform)
    (value : SdkAnswer command) {changed : Option Drive}
    (allows : ∀ final, changed = some final →
      final.Plain platform ∧ StoreSucceeds platform drive command value final) :
    Allowed platform drive command (ofChange value drive changed) := by
  unfold ofChange
  split
  · exact allowed_error plain command _
  · next final => exact allows final rfl

theorem allOrNothing_ofNode {changed : Option Drive} {change : Drive → Prop}
    (plain : drive.Plain platform)
    (allows : ∀ final, changed = some final → final.Plain platform ∧ change final) :
    (ofNode drive changed).2.Plain platform ∧ ∃ results, (ofNode drive changed).1 = .ok results ∧
      AllOrNothing results drive (ofNode drive changed).2 (change (ofNode drive changed).2) := by
  unfold ofNode
  split
  · refine ⟨plain, _, rfl, .inr ⟨?_, rfl⟩⟩
    rintro ⟨none, _⟩
    cases none
  · next final =>
      rcases allows final rfl with ⟨plain, changes⟩
      exact ⟨plain, _, rfl, .inl ⟨⟨rfl, rfl⟩, changes⟩⟩

theorem getNode_cases (drive : Drive) (uid : Uid) :
    (∃ node, drive.getNode uid = some node ∧ SdkDouble.getNode drive uid = .ok node) ∨
      ∃ fault, SdkDouble.getNode drive uid = .error (.sdk fault) := by
  unfold SdkDouble.getNode
  split
  · next node found => exact .inl ⟨node, found, rfl⟩
  · exact .inr ⟨_, rfl⟩

theorem moved_of_moveNode (plain : drive.Plain platform)
    (moved : moveNode platform drive uid folder = some final) :
    final.Plain platform ∧ ∃ stored, drive.nodes.get uid = some stored ∧
      drive.FreeFor platform uid folder (platform.showName stored.name) ∧
      final = drive.relocate uid folder stored.name := by
  rcases Option.bind_eq_some_iff.mp moved with ⟨stored, located, moved⟩
  rcases plain_relocated plain moved with ⟨plain, free, rfl⟩
  exact ⟨plain, stored, located, free, rfl⟩

theorem renamed_of_renameNode (plain : drive.Plain platform)
    (renamed : renameNode platform drive uid name = some final) :
    final.Plain platform ∧ ∃ stored parent, drive.nodes.get uid = some stored ∧
      stored.parentUid = some parent ∧ drive.FreeFor platform uid parent name ∧
      final = drive.relocate uid parent ⟨true, name⟩ := by
  rcases Option.bind_eq_some_iff.mp renamed with ⟨stored, located, renamed⟩
  rcases Option.bind_eq_some_iff.mp renamed with ⟨parent, inside, renamed⟩
  rcases plain_relocated plain renamed with ⟨plain, free, rfl⟩
  have free' := free
  rw [platform.showName_ok _ rfl] at free'
  exact ⟨plain, stored, parent, located, inside, free', rfl⟩

section

variable (lower : ∀ bytes, (platform.sha1 bytes).toLowerCase = platform.sha1 bytes)
include lower

theorem copied_of_copyNode (plain : drive.Plain platform)
    (copied : copyNode platform now drive uid folder name = some final) :
    final.Plain platform ∧ ∃ source, drive.nodes.get uid = some source ∧
      drive.Stores platform folder name source.bytes final := by
  rcases Option.bind_eq_some_iff.mp copied with ⟨source, located, created⟩
  have stores := stores_createFile lower created
  exact ⟨stores.1.plain plain, source, located, stores⟩

theorem commits_commit (plain : drive.Plain platform) {uploader : Uploader}
    (committed : commit platform now drive bytes uploader = some final) :
    final.Plain platform ∧ uploader.Commits platform drive bytes final := by
  cases uploader with
  | file parent name metadata =>
      have stores := stores_createFile lower committed
      exact ⟨stores.1.plain plain, stores⟩
  | revision uid metadata =>
      have commits := commits_reviseFile plain lower committed
      rcases commits with ⟨stored, folder, located, inside, stores⟩
      exact ⟨stores.1.plain plain, stored, folder, located, inside, stores⟩

theorem allowed_completion (plain : drive.Plain platform) (controller : UploadController) :
    Allowed platform drive (.completion controller)
      (completion platform now drive controller) := by
  unfold completion
  split
  · exact allowed_error plain _ _
  · next bytes whole =>
      split
      · next fits =>
          simp only [StoreDouble.fits, Bool.and_eq_true, Option.all_eq_true, decide_eq_true_eq]
            at fits
          apply allowed_ofChange plain
          intro final committed
          rcases commits_commit lower plain committed with ⟨plain, commits⟩
          refine ⟨plain, bytes, whole, ⟨?_, ?_⟩, commits⟩
          · exact fun expected declared => (fits.1 expected declared).symm
          · exact fun expected declared => (fits.2 expected declared).symm
      · exact allowed_error plain _ _

/-- Every call is answered as the store allows, and keeps the tree plain. -/
theorem allowed_answer (plain : drive.Plain platform) (command : SdkCall) :
    Allowed platform drive command (answer platform now drive command) := by
  have drafted := Drive.Drafted.refl plain
  unfold answer
  split
  · rcases getNode_cases drive drive.root with ⟨node, found, answered⟩ | ⟨fault, answered⟩
    · rw [answered]
      exact ⟨plain, rfl, found⟩
    · rw [answered]
      exact allowed_error plain _ fault
  · next uid =>
      rcases getNode_cases drive uid with ⟨node, found, answered⟩ | ⟨fault, answered⟩
      · rw [answered]
        exact ⟨plain, rfl, found⟩
      · rw [answered]
        exact allowed_error plain _ fault
  · exact ⟨plain, rfl, List.prefix_rfl, fun _ => rfl⟩
  · apply allowed_ofChange plain
    intro final created
    have adds := adds_createFolder created
    exact ⟨adds.plain plain, adds⟩
  · rcases allOrNothing_ofNode plain fun final => deletes_trashNode plain with
      ⟨plain, results, answered, tried⟩
    rw [Allowed, answered]
    exact ⟨plain, tried.imp fun deletes => ⟨_, rfl, deletes⟩⟩
  · rcases allOrNothing_ofNode plain fun final => moved_of_moveNode plain with
      ⟨plain, results, answered, tried⟩
    rw [Allowed, answered]
    refine ⟨plain, tried.imp ?_⟩
    rintro ⟨stored, located, free, moved⟩
    exact ⟨_, stored, rfl, located, free, moved⟩
  · apply allowed_ofChange plain
    exact fun final renamed => renamed_of_renameNode plain renamed
  · rcases allOrNothing_ofNode plain fun final => copied_of_copyNode lower plain with
      ⟨plain, results, answered, tried⟩
    rw [Allowed, answered]
    refine ⟨plain, tried.imp ?_⟩
    rintro ⟨source, located, stores⟩
    exact ⟨_, _, source, rfl, located, stores⟩
  · exact ⟨plain, rfl, drafted⟩
  · exact ⟨plain, rfl, drafted⟩
  · exact ⟨plain, rfl, drafted⟩
  · exact allowed_completion lower plain _
  · exact ⟨plain, rfl, trivial⟩
  · exact ⟨plain, rfl, trivial⟩
  · exact ⟨plain, rfl, trivial⟩
  · exact ⟨plain, rfl, trivial⟩
  · unfold downloadToStream
    split
    · exact allowed_error plain _ _
    · exact ⟨plain, rfl, trivial⟩
  · exact allowed_error plain _ _

/-- The double as the world of the service. -/
def respond (platform : Platform) (now : Date) (world : ServiceWorld) (command : SdkCall) :
    Except Thrown (SdkAnswer command) × ServiceWorld :=
  ((answer platform now world.remote command).1,
    ⟨world.memory, (answer platform now world.remote command).2⟩)

/-- What runs against the double runs against the store. -/
theorem runs_respond {α : Type} (now : Date) (program : SdkOperation α) {world : ServiceWorld}
    (plain : world.remote.Plain platform) :
    (sdkView platform).rules.Runs program world (Program.run (respond platform now) program world).1
      (Program.run (respond platform now) program world).2 := by
  have allowed : ∀ (world : ServiceWorld) (command : SdkCall), world.remote.Plain platform →
      (respond platform now world command).2.remote.Plain platform ∧
        (sdkView platform).rules.service world.remote command (respond platform now world command).1
          (respond platform now world command).2.remote :=
    fun _ command plain => allowed_answer lower plain command
  exact Rules.runs_of_computed _ (Drive.Plain platform) (fun _ _ => rfl) allowed program plain

end

end StoreDouble

end DriveWebdav
