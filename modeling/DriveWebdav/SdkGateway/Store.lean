import DriveWebdav.Drive.Sound
import DriveWebdav.SdkGateway.AnchoredOperations
import DriveWebdav.SdkGateway.Double
import DriveWebdav.Webdav.CommittedPut
import DriveWebdav.Webdav.FileService

/-! # A store that one gateway writes to

What the calls of the SDK do to a tree that nobody else changes, and when the memory of the
gateway is right about it. Any call may fail, and leaves at most a draft behind. -/

namespace DriveWebdav

/-- None of the results is an error, and the iteration came to its end. -/
def Yielded.Succeeded (results : Yielded NodeResult) : Prop :=
  results.items.findSome? resultError = none ∧ results.failure = none

/-- A call on nodes either makes the change and says so, or leaves the tree. -/
def AllOrNothing (results : Yielded NodeResult) (drive final : Drive) (change : Prop) : Prop :=
  results.Succeeded ∧ change ∨ ¬results.Succeeded ∧ final = drive

theorem AllOrNothing.imp {results : Yielded NodeResult} {drive final : Drive} {change also : Prop}
    (tried : AllOrNothing results drive final change) (implies : change → also) :
    AllOrNothing results drive final also :=
  tried.imp_left fun done => ⟨done.1, implies done.2⟩

/-- The bytes of an upload are committed where its uploader was requested for. -/
def Uploader.Commits (platform : Platform) (drive : Drive) (bytes : Bytes) (final : Drive) :
    Uploader → Prop
  | .file parent name _ => drive.Stores platform parent name bytes final
  | .revision uid _ => ∃ stored folder, drive.nodes.get uid = some stored ∧
      stored.parentUid = some folder ∧
      drive.Stores platform folder (platform.showName stored.name) bytes final

/-- How the calls succeed. -/
def StoreSucceeds (platform : Platform) (drive : Drive) :
    (command : SdkCall) → SdkAnswer command → Drive → Prop
  | .createFolder parent name, node, final =>
      Drive.AddsFolder platform parent.uid name node.uid drive final
  | .trashNodes nodes, results, final => AllOrNothing results drive final
      (∃ node, nodes = [node] ∧ Drive.Deletes node.uid drive final)
  | .moveNodes nodes parent, results, final => AllOrNothing results drive final
      (∃ node stored, nodes = [node] ∧ drive.nodes.get node.uid = some stored ∧
        drive.FreeFor platform node.uid parent.uid (platform.showName stored.name) ∧
        final = drive.relocate node.uid parent.uid stored.name)
  | .renameNode node name, _, final => ∃ stored parent,
      drive.nodes.get node.uid = some stored ∧ stored.parentUid = some parent ∧
        drive.FreeFor platform node.uid parent name ∧
        final = drive.relocate node.uid parent ⟨true, name⟩
  | .copyNodes sources parent, results, final => AllOrNothing results drive final
      (∃ uid name source, sources = [(uid, name)] ∧ drive.nodes.get uid = some source ∧
        drive.Stores platform parent.uid name source.bytes final)
  | .getFileUploader parent name metadata, uploader, final =>
      uploader = .file parent.uid name metadata ∧ drive.Drafted platform final
  | .getFileRevisionUploader uid metadata, uploader, final =>
      uploader = .revision uid metadata ∧ drive.Drafted platform final
  | .uploadFromStream uploader stream, controller, final =>
      controller = ⟨uploader, stream⟩ ∧ drive.Drafted platform final
  | .completion controller, _, final => ∃ bytes, controller.stream.bytes = some bytes ∧
      (SdkDouble.metadataOf controller.uploader).Fits platform bytes ∧
      controller.uploader.Commits platform drive bytes final
  | command, value, final => final = drive ∧ AnswersTruly platform drive command value

/-- Any call may fail instead, with an error of the SDK. -/
def storeService (platform : Platform) : Program.Service SdkCall SdkAnswer Thrown Drive :=
  fun drive command answer final =>
    match answer with
    | .ok value => StoreSucceeds platform drive command value final
    | .error thrown => (∃ fault, thrown = .sdk fault) ∧
        if command.changesTree then drive.Drafted platform final else final = drive

/-- Every entry of the path cache is kept under a path in its normal form. -/
def ServiceMemory.Normal (memory : ServiceMemory) : Prop :=
  ∀ key cached, memory.resolveCache.get key = some cached → normalize key = key

/-- The tree is sound, and the memory is right about it. -/
structure Steady (platform : Platform) (world : ServiceWorld) : Prop where
  anchored : Anchored platform world
  normal : world.memory.Normal
  sound : world.remote.Sound platform

theorem waits_refl (world : ServiceWorld) : Waits world world :=
  (soleWriter (.plain [])).interference_refl world

theorem waits_trans (first second third : ServiceWorld) (one : Waits first second)
    (two : Waits second third) : Waits first third :=
  (soleWriter (.plain [])).interference_trans first second third one two

/-- The store as it is seen. Meanwhile time passes. -/
def sdkView (platform : Platform) : FileView SdkCall SdkAnswer Drive where
  service := storeService platform
  digest := platform.sha1
  tree := Drive.tree platform
  good := Steady platform
  admits _ := True
  idle := Waits
  idle_refl := waits_refl
  idle_trans := waits_trans

end DriveWebdav
