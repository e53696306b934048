import DriveWebdav.SdkGateway.StoreOperations
import DriveWebdav.SdkGateway.Visibility
import DriveWebdav.Webdav.FileReads
import DriveWebdav.Webdav.TornGet

/-! # What is read of the store

A lookup tells what is seen of the drive, a listing tells it of a folder, and the stream of a read
is of the node that is seen. -/

namespace DriveWebdav

variable {platform : Platform} {world : ServiceWorld} {drive : Drive} {α β : Type}
  {path : JsString} {content : Bytes}

/-! ## Entries -/

theorem folder_of_toEntry {node : NodeEntity} {entry : DriveEntry}
    (shown : toEntry platform node = some entry) (isDir : entry.isDir = true) :
    node.type = .folder := by
  unfold toEntry at shown
  dsimp only at shown
  split at shown
  · cases shown
  · split at shown
    · next isFolder => exact isFolder
    · split at shown
      · cases shown
      · split at shown
        · cases shown
        · cases shown
          cases isDir

theorem file_of_toEntry {node : NodeEntity} {entry : DriveEntry}
    (shown : toEntry platform node = some entry) (isFile : entry.isDir = false) :
    node.type = .file := by
  unfold toEntry at shown
  dsimp only at shown
  split at shown
  · cases shown
  · next visible =>
      split at shown
      · cases shown
        cases isFile
      · next noFolder =>
          cases type : node.type with
          | file => rfl
          | folder => exact absurd type noFolder
          | other =>
              rw [type] at visible
              exact absurd rfl visible

/-- The entry of a node tells what is seen of it. -/
theorem tells_toEntry {node : NodeEntity} {entry : DriveEntry} (sound : drive.Sound platform)
    (fetched : drive.getNode node.uid = some node)
    (shown : toEntry platform node = some entry) :
    ∃ item, drive.shown node = some item ∧ entry.Tells platform.sha1 item := by
  cases directory : entry.isDir with
  | true =>
      refine ⟨.folder, ?_, directory⟩
      rw [Drive.shown, folder_of_toEntry shown directory]
  | false =>
      have isFile := file_of_toEntry shown directory
      rcases toEntry_file shown directory with ⟨revision, active, claimed, reported⟩
      rcases Drive.getNode_eq_some.mp fetched with ⟨stored, located, same⟩
      have claims : revision.Claims platform.sha1 stored.bytes := by
        apply (sound.nodes _ _ located).claims
        · rw [← same] at isFile
          exact isFile
        · rw [← same] at active
          exact active
      refine ⟨.file stored.bytes, ?_, directory, claims.size _ claimed, ?_⟩
      · rw [Drive.shown, isFile, located]
        rfl
      · intro sha1 announced
        rw [reported, Revision.reportedSha1, Option.filter_eq_some_iff] at announced
        rcases Option.map_eq_some_iff.mp announced.1 with ⟨digest, known, rfl⟩
        exact claims.sha1 digest known

theorem told_toEntry {node : NodeEntity} {entry : DriveEntry} {q : List JsString}
    (sound : drive.Sound platform) (found : drive.visit platform q.reverse false = some node)
    (shown : toEntry platform node = some entry) :
    (drive.tree platform).Told platform.sha1 q entry := by
  rcases tells_toEntry sound (Drive.getNode_of_visit found) shown with ⟨item, seen, tells⟩
  refine ⟨item, ?_, tells⟩
  rw [Drive.tree, found]
  exact seen

/-! ## Listings -/

/-- Every node but the root has a name that a listing shows, and every revision reports a size. -/
def Drive.Clear (platform : Platform) (drive : Drive) : Prop :=
  ∀ uid stored, drive.nodes.get uid = some stored → stored.parentUid ≠ none →
    stored.name.ok = true ∧ isSafeSegment (platform.showName stored.name) = true ∧
      ∀ revision, stored.activeRevision = some revision → revision.claimedSize ≠ none

theorem names_shownEntries (children : List NodeEntity) (seen : List JsString) :
    ((shownEntries platform children seen).map DriveEntry.name).Nodup := by
  induction children generalizing seen with
  | nil => exact .nil
  | cons child rest induction =>
      rw [shownEntries]
      split
      · exact induction seen
      · next entry _ =>
          split
          · exact induction seen
          · rw [List.map_cons, List.nodup_cons]
            refine ⟨?_, induction _⟩
            intro member
            rcases List.mem_map.mp member with ⟨other, listed, same⟩
            rw [mem_shownEntries, same] at listed
            exact listed.1 List.mem_cons_self

/-- A node that a listing cannot leave out. -/
theorem exists_toEntry {node : NodeEntity} (sound : drive.Sound platform)
    (clear : drive.Clear platform) (fetched : drive.getNode node.uid = some node)
    (inside : node.parentUid ≠ none) (committed : node.isDraft = false) :
    ∃ entry, toEntry platform node = some entry := by
  rcases Drive.getNode_eq_some.mp fetched with ⟨stored, located, same⟩
  have below : stored.parentUid ≠ none := by
    rw [← same] at inside
    exact inside
  rcases clear _ _ located below with ⟨named, safe, sized⟩
  have live := sound.plain.untrashed _ _ located
  have kind := (sound.nodes _ _ located).kind
  have nodeNamed : node.name.ok = true := by
    rw [← same]
    exact named
  have nodeSafe : isSafeSegment (platform.getName node) = true := by
    rw [← same]
    exact safe
  have nodeLive : node.trashed = false := by
    rw [← same]
    exact live
  have nodeKind : node.type ≠ .other := by
    rw [← same]
    exact kind
  unfold toEntry
  dsimp only
  rw [nodeNamed, nodeSafe, nodeLive]
  cases type : node.type with
  | other => exact absurd type nodeKind
  | folder => exact ⟨_, rfl⟩
  | file =>
      cases active : node.activeRevision with
      | none =>
          rw [NodeEntity.isDraft, type, active] at committed
          cases committed
      | some revision =>
          have storedActive : stored.activeRevision = some revision := by
            rw [← same] at active
            exact active
          cases claimed : revision.claimedSize with
          | none => exact absurd claimed (sized revision storedActive)
          | some size =>
              dsimp only
              rw [claimed]
              exact ⟨_, rfl⟩

/-- What a listing of a folder makes of its children is what is seen in it. -/
theorem listed_shownEntries {folder : NodeEntity} {q : List JsString}
    (sound : drive.Sound platform) (found : drive.visit platform q.reverse false = some folder)
    (isFolder : folder.type = .folder) :
    (drive.tree platform).Listed platform.sha1 (drive.Clear platform) q
      (shownEntries platform (drive.children platform folder.uid) []) where
  told := by
    intro entry member
    rcases ((mem_shownEntries _ _).mp member).2 |> Option.bind_eq_some_iff.mp with
      ⟨node, first, shown⟩
    rcases sound.plain.mem_children.mp (List.mem_of_find?_eq_some first) with ⟨fetched, inside⟩
    rcases Drive.getNode_eq_some.mp fetched with ⟨stored, located, same⟩
    have named := shown_of_toEntry shown
    have there : stored.IsAt platform folder.uid entry.name :=
      (Drive.isAt_iff same).mpr ⟨inside, named.1.symm⟩
    have lies : drive.FolderAt platform q folder.uid := ⟨folder, found, isFolder, rfl⟩
    have visited : drive.visit platform (q ++ [entry.name]).reverse false =
        some (stored.entity node.uid) := by
      apply sound.plain.visit_isAt lies located there
      intro draft
      rw [same, named.2.2.2] at draft
      cases draft
    rw [same] at visited
    exact told_toEntry sound visited shown
  once := names_shownEntries _ _
  complete := by
    intro clear name item seen
    rw [Drive.tree, Option.bind_eq_some_iff] at seen
    rcases seen with ⟨node, visited, _⟩
    have fetched := Drive.getNode_of_visit visited
    rw [List.reverse_concat] at visited
    rcases Drive.visit_cons_eq_some.mp visited with ⟨parent, ⟨above, foundAbove, _, same⟩, first,
      committed, _⟩
    rw [List.reverse_reverse, found] at foundAbove
    cases foundAbove
    rw [← same] at first
    have inside := (sound.plain.mem_children.mp (List.mem_of_find?_eq_some first)).2
    have named : platform.getName node = name := by simpa using List.find?_some first
    have below : node.parentUid ≠ none := by
      rw [inside]
      exact Option.some_ne_none _
    have finished : node.isDraft = false := by
      cases draft : node.isDraft with
      | false => rfl
      | true => cases committed draft
    rcases exists_toEntry sound clear fetched below finished with ⟨entry, shown⟩
    have same : entry.name = name := (shown_of_toEntry shown).1.trans named
    refine ⟨entry, (mem_shownEntries _ _).mpr ⟨List.not_mem_nil, ?_⟩, same⟩
    rw [same, shownChild_of_first first shown]
    exact shown

/-! ## What a program gives -/

/-- In any world the program comes to a value of which this is so, or to an error's status. -/
def Gives (platform : Platform) (good : α → Prop) (program : SdkOperation α) : Prop :=
  ∀ world, (sdkView platform).rules.Ensures program (fun outcome _ => OrError good outcome) world

namespace Gives

variable {good : α → Prop} {better : β → Prop}

theorem pure {value : α} (fits : good value) :
    Gives platform good (Pure.pure value : SdkOperation α) := fun _ => fits

theorem reject {error : GatewayError} (fails : 400 ≤ error.httpStatus) :
    Gives platform good (DriveWebdav.reject error : SdkOperation α) := fun _ => fails

theorem throw {error : Thrown} (fails : 400 ≤ error.status) :
    Gives platform good (MonadExcept.throw error : SdkOperation α) := fun _ => fails

theorem bind {program : SdkOperation α} {next : α → SdkOperation β}
    (first : Gives platform good program) (rest : ∀ value, good value →
      Gives platform better (next value)) : Gives platform better (program >>= next) :=
  fun world => (first world).bind (fun _ _ failed => failed) fun value reached fits =>
    rest value fits reached

theorem tryCatch {program : SdkOperation α} {recover : Thrown → SdkOperation α}
    (first : Gives platform good program) (rest : ∀ error, 400 ≤ error.status →
      Gives platform good (recover error)) :
    Gives platform good (MonadExcept.tryCatch program recover) :=
  fun world => (first world).tryCatch (fun _ _ fits => fits) fun error reached failed =>
    rest error failed reached

theorem mapErrors {program : SdkOperation α} (first : Gives platform good program) :
    Gives platform good (DriveWebdav.mapErrors platform program) :=
  first.tryCatch fun _ failed => .throw (status_genericError failed)

theorem request (command : SdkCall) :
    Gives platform (fun _ => True) (Program.request command : SdkOperation _) := by
  intro world
  apply Rules.ensures_request.mpr
  intro now _ _
  refine ⟨trivial, fun answer remote answered => ?_⟩
  cases answer with
  | ok value => trivial
  | error error => exact undisturbed_sdkView.failures _ _ _ _ answered

theorem modify (change : ServiceMemory → ServiceMemory) :
    Gives platform (fun _ => True) (Program.modify change : SdkOperation Unit) :=
  fun _ => Rules.ensures_modify.mpr fun _ _ _ => ⟨trivial, trivial⟩

end Gives

/-! ## Reads -/

/-- The node has these bytes. -/
def Drive.Holds (drive : Drive) (node : NodeEntity) (content : Bytes) : Prop :=
  (drive.nodes.get node.uid).map DriveNode.bytes = some content

/-- The stream is made for what was asked for of a node that has these bytes. -/
inductive ReadStream.Carries (drive : Drive) :
    ReadStream → Bytes → Option ByteRange → Prop
  | empty {content : Bytes} {range : ByteRange} (none : wantedBytes range content.length = 0) :
      Carries drive .empty content (some range)
  | whole {node : NodeEntity} {content : Bytes} (holds : drive.Holds node content) :
      Carries drive (.whole node content.length) content none
  | seekable {node : NodeEntity} {content : Bytes} {range : ByteRange} {first : Nat}
      (holds : drive.Holds node content) :
      Carries drive (.seekable node range.start (wantedBytes range content.length) first) content
        (some range)
  | skipping {node : NodeEntity} {content : Bytes} {range : ByteRange}
      (holds : drive.Holds node content) :
      Carries drive (.skipping node range.start (wantedBytes range content.length) content.length)
        content (some range)

theorem partOf_eq_slice (content : Bytes) (range : ByteRange) :
    partOf content (some range) = range.slice content := by
  unfold partOf
  dsimp only
  by_cases inside : range.stop < content.length
  · have wanted : wantedBytes range content.length = range.stop + 1 - range.start := by
      rw [wantedBytes, if_neg (by omega)]
      omega
    rw [ByteRange.slice, wanted]
  · have wanted : (content.drop range.start).length ≤ wantedBytes range content.length := by
      unfold wantedBytes
      rw [List.length_drop]
      split
      · omega
      · omega
    rw [ByteRange.slice, List.take_of_length_le wanted, List.take_of_length_le]
    rw [List.length_drop]
    omega

theorem gives_readWhole (node : NodeEntity) (revision : Revision) (totalSize : Nat) :
    Gives platform (· = ⟨.whole node totalSize, totalSize, totalSize⟩)
      (readWhole platform path node revision totalSize) := by
  apply (Gives.request _).bind
  intro _ _
  apply (Gives.request _).mapErrors.bind
  intro started _
  cases started with
  | chunk => exact .pure rfl
  | complete produced actual =>
      dsimp only
      split
      · next error failed =>
          apply Gives.reject
          unfold checkDownload at failed
          split at failed
          · cases failed
            exact Nat.le_of_ble_eq_true rfl
          · split at failed
            · cases failed
            · split at failed
              · cases failed
                exact Nat.le_of_ble_eq_true rfl
              · cases failed
      · exact .pure rfl

theorem gives_firstSeekableChunk (start wanted : Nat) :
    Gives platform (fun _ => True) (firstSeekableChunk path start wanted) := by
  apply (Gives.request _).bind
  intro _ _
  apply (Gives.request _).bind
  intro value _
  unfold acceptFirst
  split
  · exact .reject (Nat.le_of_ble_eq_true rfl)
  · exact .reject (Nat.le_of_ble_eq_true rfl)
  · exact .pure trivial

/-- A range is reported with its size and the size of the file. -/
theorem hands_range {range : ByteRange} {stream : ReadStream}
    (carries : stream.Carries drive content (some range)) :
    (⟨stream, wantedBytes range content.length, content.length⟩ : ReadResult ReadStream).Hands
      (ReadStream.Carries drive) content (some range) where
  size := by rw [partOf_eq_slice, ByteRange.length_slice]
  total := rfl
  stream := carries

section

variable {node : NodeEntity} (revision : Revision) (holds : drive.Holds node content)
include holds

theorem gives_readRange (range : ByteRange) :
    Gives platform (ReadResult.Hands (ReadStream.Carries drive) content (some range))
      (readRange platform path node revision range content.length) := by
  apply (Gives.request _).bind
  intro _ _
  have sought : Gives platform (fun _ => True)
      (tryCatch
        (do
          Program.request (SdkCall.getSeekableStream node)
          pure true)
        fun _ => pure false : SdkOperation Bool) := by
    apply Gives.tryCatch
    · exact (Gives.request _).bind fun _ _ => .pure trivial
    · exact fun _ _ => .pure trivial
  apply sought.bind
  intro seekable _
  cases seekable with
  | true =>
      rw [if_pos rfl]
      split
      · next none =>
          have hands := hands_range (ReadStream.Carries.empty none : ReadStream.Carries drive _ _ _)
          rw [none] at hands
          exact .pure hands
      · apply (gives_firstSeekableChunk _ _).mapErrors.bind
        intro first _
        exact .pure (hands_range (.seekable holds))
  | false =>
      rw [if_neg Bool.false_ne_true]
      have released : Gives platform (fun _ => True)
          (tryCatch (Program.request (SdkCall.forceReleaseDownloadSlot node)) fun _ => pure () :
            SdkOperation Unit) := (Gives.request _).tryCatch fun _ _ => .pure trivial
      apply released.bind
      intro _ _
      apply (gives_readWhole _ _ _).bind
      intro _ _
      exact .pure (hands_range (.skipping holds))

theorem gives_read {range : Option ByteRange} :
    Gives platform (ReadResult.Hands (ReadStream.Carries drive) content range)
      (match range with
        | some range => readRange platform path node revision range content.length
        | none => readWhole platform path node revision content.length) := by
  cases range with
  | some range => exact gives_readRange revision holds range
  | none =>
      intro world
      apply (gives_readWhole node revision content.length world).mono
      intro outcome reached given
      cases outcome with
      | error error => exact given
      | ok result =>
          have same : result = ⟨.whole node content.length, content.length, content.length⟩ := given
          rw [same]
          exact ⟨rfl, rfl, .whole holds⟩

end

/-! ## Operations -/

/-- What a program gives in a world whose tree it leaves. -/
theorem gives_and_leaves {good : α → Prop} {program : SdkOperation α}
    (looks : (sdkView platform).rules.Ensures program
      (fun _ reached => SteadyAt platform drive reached) world)
    (gives : (sdkView platform).rules.Ensures program (fun outcome _ => OrError good outcome) world) :
    (sdkView platform).rules.Ensures program
      (fun outcome reached => reached.remote = drive ∧ OrError good outcome) world :=
  (looks.and gives).mono fun _ _ ended => ⟨ended.1.2, ended.2⟩

theorem orError_of_sees {good : α → Prop} {program : SdkOperation α}
    (sees : (sdkView platform).rules.Ensures program (Sees platform drive good) world) :
    (sdkView platform).rules.Ensures program (fun outcome _ => OrError good outcome) world := by
  apply sees.mono
  intro outcome reached seen
  cases outcome with
  | ok value => exact seen.2
  | error error => exact seen.2

/-- A lookup tells what is seen. -/
theorem told_stat (steady : SteadyAt platform drive world) :
    (sdkView platform).rules.Ensures (stat platform path)
      (fun outcome _ => OrError (fun found => ∀ entry, found = some entry →
        (drive.tree platform).Told platform.sha1 (segments path) entry) outcome) world := by
  apply orError_of_sees
  apply sees_bind (sees_mapErrors (sees_resolve path false steady))
  intro found reached same steady
  cases found with
  | none =>
      refine ⟨steady, fun entry known => ?_⟩
      cases known
  | some node =>
      have sound := steady.sound
      have visited := (walked_of_nodeAt same.symm).2
      dsimp only
      split
      · next root =>
          refine ⟨steady, fun entry known => ?_⟩
          cases known
          have top : segments path = [] := isRoot_iff.mp root
          rw [top]
          exact ⟨.folder, (Drive.grounded_tree sound.plain.isFolder).root, rfl⟩
      · exact ⟨steady, fun entry known => told_toEntry sound visited known⟩

theorem reads_file {range : Option ByteRange} (steady : SteadyAt platform drive world) :
    (sdkView platform).rules.Ensures (read platform path range)
      (fun outcome _ => OrError (fun result => ∃ content,
        drive.tree platform (segments path) = some (.file content) ∧
          result.Hands (ReadStream.Carries drive) content range) outcome) world := by
  apply (orError_of_sees (sees_resolveOrThrow path steady)).bind
  · exact fun _ _ failed => failed
  · intro node reached found
    have sound := steady.sound
    have visited := (walked_of_nodeAt found).2
    rcases Drive.getNode_eq_some.mp (Drive.getNode_of_visit visited) with ⟨stored, located, same⟩
    split
    · next revision isFile active =>
        split
        · exact Nat.le_of_ble_eq_true rfl
        · next size claimed =>
            have claims : revision.Claims platform.sha1 stored.bytes := by
              apply (sound.nodes _ _ located).claims
              · rw [← same] at isFile
                exact isFile
              · rw [← same] at active
                exact active
            have holds : drive.Holds node stored.bytes := by
              rw [Drive.Holds, located]
              rfl
            rw [claims.size size claimed]
            apply (gives_read revision holds reached).mono
            intro outcome last given
            cases outcome with
            | error error => exact given
            | ok result => exact ⟨stored.bytes, tree_of_file visited isFile located, given⟩
    · exact Nat.le_of_ble_eq_true rfl

theorem reports_sdkView (platform : Platform) :
    (sdkView platform).Reports (sdkGateway platform) ReadStream.Carries where
  stat _ _ steady := told_stat ⟨steady, rfl⟩
  read path range world steady := by
    have looks : (sdkView platform).rules.Ensures (read platform path range)
        (fun _ reached => SteadyAt platform world.remote reached) world :=
      steady_reads (makes_read tolerant_keyRules trivial range)
        (makes_read anchoring_anchorRules.tolerant trivial range) ⟨steady, rfl⟩
    apply (gives_and_leaves looks (reads_file ⟨steady, rfl⟩)).mono
    rintro outcome reached ⟨same, given⟩
    rw [same]
    exact given

theorem gives_listEntries (path : JsString) (parent : Uid) (children : List NodeEntity)
    (seen : List JsString) :
    Gives platform (· = shownEntries platform children seen)
      (listEntries platform path parent children seen) := by
  induction children generalizing seen with
  | nil => exact .pure rfl
  | cons child rest induction =>
      rw [listEntries, shownEntries]
      cases toEntry platform child with
      | none => exact induction seen
      | some entry =>
          dsimp only
          split
          · exact induction seen
          · apply (Gives.modify _).bind
            intro _ _
            apply (induction _).bind
            rintro others rfl
            exact .pure rfl

/-- The children that a listing gets, if the iteration came to its end. -/
theorem gives_listChildren {folder : NodeEntity} {children : Yielded NodeEntity}
    (whole : children.failure = none →
      children.items = drive.children platform folder.uid) :
    Gives platform (· = shownEntries platform (drive.children platform folder.uid) [])
      (listChildren platform path folder.uid children) := by
  apply (gives_listEntries _ _ _ _).bind
  rintro out rfl
  split
  · exact .throw status_sdkError
  · next ended =>
      rw [whole ended]
      exact .pure rfl

/-- A listing tells what is seen in a folder. -/
theorem listed_list (steady : SteadyAt platform drive world) :
    (sdkView platform).rules.Ensures (list platform path)
      (fun outcome _ => OrError (fun entries => (drive.tree platform).Listed platform.sha1
        (drive.Clear platform) (segments path) entries) outcome) world := by
  apply (sees_mapErrors (sees_resolveOrThrow path steady)).bind
  · exact fun _ _ failed => failed.2
  · rintro folder reached ⟨steady, found⟩
    have visited := (walked_of_nodeAt found).2
    split
    · exact Nat.le_of_ble_eq_true rfl
    · next isFolder =>
        have isFolder := Decidable.of_not_not isFolder
        have asked : (sdkView platform).rules.Ensures
            (Program.request (SdkCall.iterateFolderChildren folder none) : SdkOperation _)
            (fun outcome _ => OrError (fun children => children.failure = none →
              children.items = drive.children platform folder.uid) outcome) reached := by
          apply Rules.ensures_request.mpr
          intro now _ waited
          refine ⟨trivial, fun answer remote answered => ?_⟩
          cases answer with
          | error error => exact undisturbed_sdkView.failures _ _ _ _ answered
          | ok children =>
              have truly := (undisturbed_sdkView.lookups _ _ _ _ rfl answered).2 children rfl
              rw [waited.1, steady.2] at truly
              exact truly.2
        have mapped : (sdkView platform).rules.Ensures
            (mapErrors platform (Program.request (SdkCall.iterateFolderChildren folder none)))
            (fun outcome _ => OrError (fun children => children.failure = none →
              children.items = drive.children platform folder.uid) outcome) reached :=
          asked.tryCatch (fun _ _ fits => fits) fun _ _ failed => status_genericError failed
        apply mapped.bind
        · exact fun _ _ failed => failed
        · intro children last whole
          apply (gives_listChildren whole last).mono
          intro outcome _ given
          cases outcome with
          | error error => exact given
          | ok entries =>
              have same : entries =
                  shownEntries platform (drive.children platform folder.uid) [] := given
              rw [same]
              exact listed_shownEntries steady.sound visited isFolder

theorem lists_sdkView (platform : Platform) :
    (sdkView platform).Lists (sdkGateway platform) (Drive.Clear platform) where
  list path world steady := by
    have looks : (sdkView platform).rules.Ensures (DriveWebdav.list platform path)
        (fun _ reached => SteadyAt platform world.remote reached) world :=
      steady_reads (normalKeys_list path)
        (Looks.makes fun _ => looks_list anchoring_anchorRules trivial) ⟨steady, rfl⟩
    apply (gives_and_leaves looks (listed_list ⟨steady, rfl⟩)).mono
    rintro outcome reached ⟨same, given⟩
    rw [same]
    exact given
  quota world _ := by
    have given : Gives platform (fun _ => True) DriveWebdav.quota :=
      ((Gives.request _).bind fun _ _ => .pure trivial).tryCatch fun _ _ => .pure trivial
    exact given world

end DriveWebdav
