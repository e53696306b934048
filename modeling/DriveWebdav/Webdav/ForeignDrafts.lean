import DriveWebdav.Drive.Changes
import DriveWebdav.Webdav.ImmutableContent

/-! # Unfinished uploads of other clients

A PUT replaces another client's draft only with consent for its path, and no lookup gives a
draft to a DELETE. But a DELETE takes with it the drafts below a collection. -/

namespace DriveWebdav

/-- Another client's unfinished upload, not in the trash. -/
def Drive.HoldsDraft (drive : Drive) (uid : Uid) : Prop :=
  ∃ stored, drive.nodes.get uid = some stored ∧ stored.isForeignDraft = true ∧
    stored.trashed = false

/-- The node has the name in the folder. -/
def Drive.LiesIn (platform : Platform) (drive : Drive) (uid parent : Uid) (name : JsString) :
    Prop :=
  ∃ stored, drive.nodes.get uid = some stored ∧ stored.IsAt platform parent name

/-- The node lies at the path, whether or not a lookup shows it. -/
def Drive.LiesAt (platform : Platform) (drive : Drive) (uid : Uid) (path : JsString) : Prop :=
  ∃ parent, Drive.FolderAt platform drive (segments (parentPath path)) parent ∧
    drive.LiesIn platform uid parent (baseName path)

/-- The calls that may take a draft away: it is trashed, alone or with a folder above it, or
replaced on request. -/
def Endangers (platform : Platform) (drive : Drive) (uid : Uid) : SdkCall → Prop
  | .trashNodes nodes => ∃ node ∈ nodes, drive.isAtOrBelow node.uid uid = true
  | .getFileUploader parent name metadata =>
      metadata.overrideExistingDraftByOtherClient = true ∧
        drive.LiesIn platform uid parent.uid name
  | _ => False

/-- What is taken from the SDK: lookups are answered from the tree, no call makes a draft of
another client, and only those calls take one away. -/
structure SparesDrafts (platform : Platform)
    (sdk : Program.Service SdkCall SdkAnswer Thrown Drive) : Prop where
  lookups : ∀ drive command value final, command.isLookup = true →
    sdk drive command (.ok value) final → AnswersTruly platform drive command value
  makes : ∀ drive command answer final, sdk drive command answer final →
    ∀ uid, final.HoldsDraft uid → drive.HoldsDraft uid
  takes : ∀ drive command answer final, sdk drive command answer final →
    ∀ uid, drive.HoldsDraft uid → ¬final.HoldsDraft uid → Endangers platform drive uid command

section

variable {platform : Platform} {opts : WebdavOptions} {req : Request}
  {sdk : Program.Service SdkCall SdkAnswer Thrown Drive} {drive : Drive} {node : NodeEntity}
  {trace : List ServiceEntry}

/-- A node that is fetched as something else is no draft of another client. -/
theorem not_holdsDraft (fetched : drive.getNode node.uid = some node)
    (committed : node.isDraft = false) : ¬drive.HoldsDraft node.uid := by
  rintro ⟨stored, located, draft, _⟩
  rcases Drive.getNode_eq_some.mp fetched with ⟨found, sameLocated, same⟩
  cases located.symm.trans sameLocated
  have unfinished : node.isDraft = stored.isDraft := by
    rw [← same]
    rfl
  rw [DriveNode.isForeignDraft, ← unfinished, committed] at draft
  cases draft

/-! ## What a lookup takes -/

/-- The node was in the answer to a lookup. -/
def ShownBy (trace : List ServiceEntry) (node : NodeEntity) : Prop :=
  (∃ uid, .exchange (.getNode uid) (.ok node) ∈ trace) ∨
    ∃ parent sought children, .exchange (.iterateFolderChildren parent sought) (.ok children) ∈
      trace ∧ node ∈ children.items

theorem ShownBy.mono {longer : List ServiceEntry} (shown : ShownBy trace node)
    (within : ∀ entry ∈ trace, entry ∈ longer) : ShownBy longer node := by
  rcases shown with ⟨uid, fetched⟩ | ⟨parent, sought, children, listed, member⟩
  · exact .inl ⟨uid, within _ fetched⟩
  · exact .inr ⟨parent, sought, children, within _ listed, member⟩

theorem isDraft_of_stillMatches {name : JsString} {cached : Resolved}
    (fits : stillMatches platform name cached false node = true) : node.isDraft = false := by
  by_contra draft
  cases (fits_of_stillMatches fits).2.2.2 (by simpa using draft)

theorem shown_of_refetch {name : JsString} {cached : Resolved}
    (follows : (refetch platform name cached false).Follows trace (.ok (some node))) :
    node.isDraft = false ∧ ShownBy trace node := by
  rcases Program.follows_tryCatch follows with ⟨_, same, fetching⟩ | ⟨_, _, _, _, _, recovered⟩
  · cases same
    rcases Program.follows_bind fetching with
      ⟨_, equal, _⟩ | ⟨first, second, found, rfl, fetched, taken⟩
    · cases equal
    · cases Program.follows_request fetched
      have kept := (Program.follows_finish taken).2
      simp only [Except.ok.injEq] at kept
      split at kept
      · next fits =>
          cases kept
          exact ⟨isDraft_of_stillMatches fits, .inl ⟨cached.uid, by simp⟩⟩
      · cases kept
  · cases (Program.follows_finish recovered).2

theorem shown_of_resolveCached {path name : JsString}
    (follows : (resolveCached platform path name false).Follows trace (.ok (some node))) :
    node.isDraft = false ∧ ShownBy trace node := by
  rcases Program.follows_bind follows with ⟨_, equal, _⟩ | ⟨first, rest, memory, rfl, _, looked⟩
  · cases equal
  · have within : ∀ entry ∈ rest, entry ∈ first ++ rest := fun _ => List.mem_append_right first
    split at looked
    · cases (Program.follows_finish looked).2
    · split at looked
      · rcases Program.follows_bind looked with
          ⟨_, equal, _⟩ | ⟨fetching, ending, found, rfl, fetched, kept⟩
        · cases equal
        · cases found with
          | none =>
              rcases Program.follows_bind kept with ⟨_, equal, _⟩ | ⟨_, _, _, _, _, ended⟩
              · cases equal
              · cases (Program.follows_finish ended).2
          | some found =>
              rcases Program.follows_finish kept with ⟨rfl, same⟩
              cases same
              rw [List.append_nil] at within ⊢
              exact ⟨(shown_of_refetch fetched).1, (shown_of_refetch fetched).2.mono within⟩
      · cases (Program.follows_finish looked).2

theorem shown_of_resolveIn {parent : NodeEntity} {path name : JsString}
    (follows : (resolveIn platform parent path name false).Follows trace (.ok (some node))) :
    node.isDraft = false ∧ ShownBy trace node := by
  rcases Program.follows_bind follows with
    ⟨_, equal, _⟩ | ⟨first, rest, children, rfl, listed, picked⟩
  · cases equal
  · cases Program.follows_request listed
    rcases Program.follows_bind picked with
      ⟨_, equal, _⟩ | ⟨picking, taking, found, rfl, chosen, taken⟩
    · cases equal
    · cases found with
      | none => cases (Program.follows_finish taken).2
      | some found =>
          have member : found ∈ children.items := by
            unfold firstYielded at chosen
            split at chosen
            · next located =>
                cases (Program.follows_finish chosen).2
                exact List.mem_of_find?_eq_some located
            · split at chosen
              · cases chosen
              · cases (Program.follows_finish chosen).2
          unfold takeChild at taken
          split at taken
          · next ends => cases ends
          · next same =>
              cases same
              split at taken
              · cases (Program.follows_finish taken).2
              · next shown =>
                  split at taken
                  · cases (Program.follows_finish taken).2
                  · rcases Program.follows_bind taken with ⟨_, equal, _⟩ | ⟨_, _, _, _, _, ended⟩
                    · cases equal
                    · cases (Program.follows_finish ended).2
                      have committed : node.isDraft = false := by simpa using shown
                      exact ⟨committed, .inr ⟨parent, some name, children, by simp, member⟩⟩

/-- Below the root a lookup without drafts takes a node that the SDK has shown, and no draft. -/
theorem shown_of_resolve {path : JsString} (inside : isRoot path = false)
    (follows : (resolve platform path false).Follows trace (.ok (some node))) :
    node.isDraft = false ∧ ShownBy trace node := by
  unfold resolve at follows
  split at follows
  · cases names : (segments path).reverse with
    | nil =>
        rw [isRoot_iff.mpr (List.reverse_eq_nil_iff.mp names)] at inside
        cases inside
    | cons name above =>
        rw [names] at follows
        rcases Program.follows_bind follows with
          ⟨_, equal, _⟩ | ⟨first, rest, rootUid, rfl, _, looking⟩
        · cases equal
        · have within : ∀ entry ∈ rest, entry ∈ first ++ rest :=
            fun _ => List.mem_append_right first
          rcases Program.follows_bind looking with
            ⟨_, equal, _⟩ | ⟨cached, missed, hit, rfl, looked, found⟩
          · cases equal
          · cases hit with
            | some hit =>
                rcases Program.follows_finish found with ⟨rfl, same⟩
                cases same
                rw [List.append_nil] at within ⊢
                have shown := shown_of_resolveCached looked
                exact ⟨shown.1, shown.2.mono within⟩
            | none =>
                rcases Program.follows_bind found with
                  ⟨_, equal, _⟩ | ⟨up, down, parent, rfl, _, below⟩
                · cases equal
                · cases parent with
                  | none => cases (Program.follows_finish below).2
                  | some parent =>
                      unfold resolveBelow at below
                      dsimp only at below
                      split at below
                      · cases (Program.follows_finish below).2
                      · have shown := shown_of_resolveIn below
                        refine ⟨shown.1, shown.2.mono fun entry member => within entry ?_⟩
                        exact List.mem_append_right _ (List.mem_append_right _ member)
  · cases follows

theorem shown_of_resolveOrThrow {path : JsString} (inside : isRoot path = false)
    (follows : (resolveOrThrow platform path).Follows trace (.ok node)) :
    node.isDraft = false ∧ ShownBy trace node := by
  rcases Program.follows_bind follows with
    ⟨_, equal, _⟩ | ⟨first, rest, found, rfl, resolved, taken⟩
  · cases equal
  · cases found with
    | none => cases taken
    | some found =>
        rcases Program.follows_finish taken with ⟨rfl, same⟩
        cases same
        rw [List.append_nil]
        exact shown_of_resolve inside resolved

/-! ## What a PUT asks for -/

/-- An uploader that replaces the draft of another client is asked for only by the name of the
path there is consent for. -/
def Consents (opts : WebdavOptions) : SdkCall → Prop
  | .getFileUploader _ name metadata =>
      metadata.overrideExistingDraftByOtherClient = true →
        ∃ path, opts.allowOverrideDraftForPath = some path ∧ name = baseName path
  | _ => True

/-- Rules under which drafts are replaced with consent. -/
def consenting (opts : WebdavOptions) :
    Rules ServiceMemory SdkCall SdkAnswer Thrown Drive :=
  .issuing (Consents opts)

theorem lenient_consenting : Lenient (consenting opts) where
  guarantee _ _ := trivial
  reads := by
    intro now command reads
    cases command with
    | getFileUploader parent name metadata => cases reads
    | _ => trivial

theorem upload_consenting (p : JsString) (parent : NodeEntity) (revisionOfUid : Option Uid)
    (body : BodyStream) :
    Makes (consenting opts)
      (upload platform p parent revisionOfUid body (putOptions opts req)) := by
  apply makes_upload lenient_consenting.tolerant p parent revisionOfUid body _ fun _ => True
  · intro world
    cases revisionOfUid with
    | none =>
        refine Rules.ensures_request.mpr fun _ _ _ => ⟨?_, fun _ _ _ _ _ => trivial⟩
        exact fun overrides => ⟨p, of_decide_eq_true overrides, rfl⟩
    | some uid =>
        exact Rules.ensures_request.mpr fun _ _ _ => ⟨trivial, fun _ _ _ _ _ => trivial⟩
  · exact fun _ _ _ _ => trivial
  · exact fun _ _ _ _ _ _ _ _ => trivial

theorem changes_consenting (req : Request) : ChangesWithin platform opts req (consenting opts) where
  put _ path body := by
    apply makes_put lenient_consenting.tolerant trivial
    intro p parent _
    apply makes_putInto lenient_consenting.tolerant trivial
    · exact fun _ _ _ => upload_consenting p parent _ body
    · exact upload_consenting p parent none body
  mkcol _ path := makes_mkcol lenient_consenting path fun _ _ _ => trivial
  remove _ _ := makes_remove lenient_consenting.tolerant trivial fun _ _ => trivial
  move _ _ _ := makes_move lenient_consenting.tolerant trivial trivial (fun _ _ _ => trivial)
    fun _ _ _ => trivial
  copy _ _ _ := makes_copy lenient_consenting.tolerant trivial trivial fun _ _ _ => trivial

/-! ## Runs -/

/-- A draft lies at the path there is consent for. -/
def Consented (platform : Platform) (opts : WebdavOptions) (drive : Drive) (uid : Uid) : Prop :=
  ∃ path, opts.allowOverrideDraftForPath = some path ∧ drive.LiesAt platform uid path

/-- A collection that is trashed holds no draft of another client without consent, and a folder
in which one is replaced lies where the path with consent has it. -/
def SdkCall.Careful (platform : Platform) (opts : WebdavOptions) (drive : Drive) :
    SdkCall → Prop
  | .trashNodes nodes => ∀ node ∈ nodes, ∀ uid, drive.HoldsDraft uid → uid ≠ node.uid →
      drive.isAtOrBelow node.uid uid = true → Consented platform opts drive uid
  | .getFileUploader parent name metadata =>
      metadata.overrideExistingDraftByOtherClient = true → ∀ uid, drive.HoldsDraft uid →
        drive.LiesIn platform uid parent.uid name →
          ∀ path, opts.allowOverrideDraftForPath = some path →
            Drive.FolderAt platform drive (segments (parentPath path)) parent.uid
  | _ => True

/-- Every call is careful when it is answered. -/
def carefully (platform : Platform) (opts : WebdavOptions) :
    Process.Condition Request ServiceMemory SdkCall SdkAnswer Thrown Drive
  | .answered _ command _, state, _ => command.Careful platform opts state.world.remote
  | _, _, _ => True

section

variable {initial : ServiceWorld}
  {state next : Process.State Request ServiceMemory SdkCall SdkAnswer Thrown Drive}
  {event : Process.Event Request ServiceMemory SdkCall SdkAnswer Thrown}
  {condition : Process.Condition Request ServiceMemory SdkCall SdkAnswer Thrown Drive}

/-- Every draft of another client was there before. -/
def DraftsFrom (earlier later : Drive) : Prop :=
  ∀ uid, later.HoldsDraft uid → earlier.HoldsDraft uid

theorem draftsFrom_step (spares : SparesDrafts platform sdk)
    (step : (requests platform opts sdk nobody).Step event state next) :
    DraftsFrom state.world.remote next.world.remote := by
  intro uid held
  rcases step.remote_cases with ⟨flight, command, answer, _, answered⟩ | ⟨_, acted⟩ | same
  · exact spares.makes _ _ _ _ answered uid held
  · rcases acted with passes | ⟨_, changed⟩
    · rw [← passes.1]
      exact held
    · exact changed.elim
  · rw [← same]
    exact held

/-- What a lookup of an operation in flight has shown as something else is no draft now. -/
theorem not_holdsDraft_of_shown (spares : SparesDrafts platform sdk)
    {flight : Process.Flight Request ServiceMemory SdkCall SdkAnswer Thrown}
    (reachable : (requests platform opts sdk nobody).Reachable condition initial state)
    (member : flight ∈ state.inFlight) (shown : ShownBy flight.met node)
    (committed : node.isDraft = false) : ¬state.world.remote.HoldsDraft node.uid := by
  have since : flight.Since (requests platform opts sdk nobody) DraftsFrom state.world.remote :=
    reachable.since (fun _ _ _ before after uid held => before uid (after uid held))
      (fun _ _ _ step _ => draftsFrom_step spares step) flight member
  intro held
  rcases shown with ⟨uid, fetched⟩ | ⟨parent, sought, children, listed, inside⟩
  · rcases since _ _ fetched with ⟨remote, final, answered, before⟩
    have found : remote.getNode uid = some node := spares.lookups _ _ _ _ rfl answered
    have same := Drive.uid_of_getNode found
    rw [← same] at found
    exact not_holdsDraft found committed (before _ held)
  · rcases since _ _ listed with ⟨remote, final, answered, before⟩
    have truly : children.items <+: remote.children platform parent.uid :=
      (spares.lookups _ _ _ _ rfl answered).1
    have found := (Drive.mem_children.mp (truly.subset inside)).1
    exact not_holdsDraft found committed (before _ held)

/-- A careful step takes a draft of another client only with consent for its path. -/
theorem consented_of_lost (spares : SparesDrafts platform sdk)
    (reachable : (requests platform opts sdk nobody).Reachable condition initial state)
    (step : (requests platform opts sdk nobody).Step event state next)
    (careful : carefully platform opts event state next) {uid : Uid}
    (held : state.world.remote.HoldsDraft uid) (lost : ¬next.world.remote.HoldsDraft uid) :
    Consented platform opts state.world.remote uid := by
  rcases step.remote_cases with ⟨flight, command, answer, rfl, answered⟩ | ⟨_, acted⟩ | same
  · have endangers := spares.takes _ _ _ _ answered uid held lost
    cases command with
    | trashNodes nodes =>
        rcases endangers with ⟨node, member, below⟩
        rcases deletes_of_issues (reachable.issues step) with ⟨inside, target, rfl, deletes⟩
        rcases List.mem_singleton.mp member with rfl
        rcases deletes with ⟨_, start, passing, resolving, met, _, resolved⟩
        have shown := shown_of_resolveOrThrow inside resolved
        have before : ShownBy flight.met node := shown.2.mono fun entry member => by
          rw [met]
          exact List.mem_cons_of_mem _ (List.mem_append_right _ member)
        have other : uid ≠ node.uid := by
          rintro rfl
          exact not_holdsDraft_of_shown spares reachable step.awaits.1 before shown.1 held
        exact careful node member uid held other below
    | getFileUploader parent name metadata =>
        rcases endangers with ⟨overrides, lies⟩
        have consents : Consents opts (.getFileUploader parent name metadata) :=
          (makes_launch lenient_consenting sdk nobody (changes_consenting flight.label)
            initial).issued (reachable.issues step)
        rcases consents overrides with ⟨path, allowed, rfl⟩
        exact ⟨path, allowed, parent.uid, careful overrides uid held lies path allowed, lies⟩
    | _ => exact endangers.elim
  · rcases acted with passes | ⟨_, changed⟩
    · rw [passes.1] at lost
      exact absurd held lost
    · exact changed.elim
  · rw [same] at lost
    exact absurd held lost

/-- A draft of another client has gone in one step of the run, and lay then at the path there is
consent for. -/
def GoesWithConsent (platform : Platform) (opts : WebdavOptions)
    (sdk : Program.Service SdkCall SdkAnswer Thrown Drive) (initial : ServiceWorld)
    (state : Process.State Request ServiceMemory SdkCall SdkAnswer Thrown Drive) (uid : Uid) :
    Prop :=
  ∃ event middle gone,
    (requests platform opts sdk nobody).Reachable (carefully platform opts) initial middle ∧
      (requests platform opts sdk nobody).Step event middle gone ∧
      (requests platform opts sdk nobody).Leads (carefully platform opts) gone state ∧
      middle.world.remote.HoldsDraft uid ∧ ¬gone.world.remote.HoldsDraft uid ∧
      Consented platform opts middle.world.remote uid

/-- In every run of careful steps the drafts of other clients stay, but for those that lay at the
path there is consent for when they went. -/
theorem drafts_stay (spares : SparesDrafts platform sdk)
    (reachable : (requests platform opts sdk nobody).Reachable (carefully platform opts) initial
      state) {uid : Uid} (held : initial.remote.HoldsDraft uid) :
    state.world.remote.HoldsDraft uid ∨
      GoesWithConsent platform opts sdk initial state uid := by
  apply Process.Leads.induct (fun reached => reached.world.remote.HoldsDraft uid ∨
    GoesWithConsent platform opts sdk initial reached uid) (.inl held) _ reachable
  intro event reached next before step careful kept
  rcases kept with still | ⟨earlier, middle, gone, opened, stepped, leads, present, lost, consented⟩
  · by_cases stays : next.world.remote.HoldsDraft uid
    · exact .inl stays
    · have consented := consented_of_lost spares before step careful still stays
      exact .inr ⟨event, reached, next, before, step, .refl, still, stays, consented⟩
  · exact .inr ⟨earlier, middle, gone, opened, stepped, leads.tail ⟨event, step, careful⟩, present,
      lost, consented⟩

end

end

/-! ## A DELETE of a collection -/

/-- A check for careful calls: nothing is trashed that holds a draft of another client. -/
def SdkCall.sparesDrafts (drive : Drive) : SdkCall → Bool
  | .trashNodes nodes => nodes.all fun node => drive.nodes.entries.all fun entry =>
      !(entry.2.isForeignDraft && drive.isAtOrBelow node.uid entry.1)
  | command => !command.changesTree

theorem careful_of_sparesDrafts {platform : Platform} {opts : WebdavOptions} {drive : Drive}
    {command : SdkCall} (spares : command.sparesDrafts drive = true) :
    command.Careful platform opts drive := by
  cases command with
  | trashNodes nodes =>
      intro node member uid held _ below
      rcases held with ⟨stored, located, draft, _⟩
      have entry := (InsertionMap.get_eq_some_iff _ _ _).mp located
      have apart := List.all_eq_true.mp (List.all_eq_true.mp spares node member) _ entry
      rw [draft, below] at apart
      cases apart
  | getFileUploader parent name metadata => cases spares
  | _ => trivial

/-- The check of every call that a state waits for. -/
def sparing (state : Process.State Request ServiceMemory SdkCall SdkAnswer Thrown Drive) : Bool :=
  state.inFlight.all fun flight =>
    match flight.rest with
    | .await command _ => command.sparesDrafts state.world.remote
    | _ => true

theorem carefully_of_sparing {platform : Platform} {opts : WebdavOptions}
    {process : Process Request ServiceMemory SdkCall SdkAnswer Thrown Drive}
    {event : Process.Event Request ServiceMemory SdkCall SdkAnswer Thrown}
    {state next : Process.State Request ServiceMemory SdkCall SdkAnswer Thrown Drive}
    (step : process.Step event state next) (spares : sparing state = true) :
    carefully platform opts event state next := by
  cases event with
  | answered flight command answer =>
      rcases step.awaits with ⟨member, resume, waits⟩
      have checked := List.all_eq_true.mp spares flight member
      rw [waits] at checked
      exact careful_of_sparesDrafts checked
  | _ => trivial

theorem holdsDraft_of_trash {drive : Drive} {target uid : Uid}
    (held : (drive.trash target).HoldsDraft uid) : drive.HoldsDraft uid := by
  rcases held with ⟨stored, located, draft, live⟩
  rw [Drive.get_trash, Option.map_eq_some_iff] at located
  rcases located with ⟨before, located, rfl⟩
  split at live
  · cases live
  · next apart =>
      rw [if_neg apart] at draft
      exact ⟨before, located, draft, live⟩

theorem isAtOrBelow_of_trash {drive : Drive} {target uid : Uid} (held : drive.HoldsDraft uid)
    (lost : ¬(drive.trash target).HoldsDraft uid) : drive.isAtOrBelow target uid = true := by
  by_contra apart
  rcases held with ⟨stored, located, draft, live⟩
  apply lost
  refine ⟨stored, ?_, draft, live⟩
  rw [Drive.get_trash, located, Option.map_some, if_neg apart]

theorem sparesDrafts_trashSdk (platform : Platform) :
    SparesDrafts platform (trashSdk platform) where
  lookups := by
    intro drive command value final lookup answered
    have same : (answerTrash platform drive command).1 = .ok value := congrArg Prod.fst answered
    cases command with
    | getPathNode => exact SdkDouble.getNode_ok same
    | getNode uid => exact SdkDouble.getNode_ok same
    | iterateFolderChildren parent sought =>
        cases same
        exact ⟨List.prefix_rfl, fun _ => rfl⟩
    | _ => cases lookup
  makes := by
    intro drive command answer final answered uid held
    have same : (answerTrash platform drive command).2 = final := congrArg Prod.snd answered
    rw [← same] at held
    rcases @answerTrash_remote platform drive command with kept | ⟨node, _, trashed⟩
    · rw [kept] at held
      exact held
    · rw [trashed] at held
      exact holdsDraft_of_trash held
  takes := by
    intro drive command answer final answered uid held lost
    have same : (answerTrash platform drive command).2 = final := congrArg Prod.snd answered
    rw [← same] at lost
    rcases @answerTrash_remote platform drive command with kept | ⟨node, rfl, trashed⟩
    · rw [kept] at lost
      exact absurd held lost
    · rw [trashed] at lost
      exact ⟨node, List.mem_cons_self, isAtOrBelow_of_trash held lost⟩

/-- A file, and a collection that holds an unfinished upload of another client. -/
def sharedDrive : Drive :=
  .ofNodes 0 [(0, .folder none "root"), (1, .folder (some 0) "c"),
    (2, .file 0 "a" [7] "5d1be7e9dda1ee8896be5b7e34a85ee16452a7b4"), (3, .draft 1 "d" false)]

/-- No path has consent. -/
def strictOptions : WebdavOptions := ⟨false, none, false⟩

def sharedRequests : Process Request ServiceMemory SdkCall SdkAnswer Thrown Drive :=
  requests (.plain []) strictOptions (trashSdk (.plain [])) nobody

def deleteOf (path : JsString) : Request := { deleteRequest with pathname := path }

/-- A DELETE after so many steps. -/
def deletingOf (path : JsString) (steps : Nat) :
    Process.State Request ServiceMemory SdkCall SdkAnswer Thrown Drive :=
  (Process.advance (answerTrash (.plain [])))^[steps]
    ⟨⟨.initial 0, sharedDrive⟩, [⟨deleteOf path, [], sharedRequests.launch (deleteOf path)⟩]⟩

theorem holdsDraft_sharedDrive : sharedDrive.HoldsDraft 3 := ⟨_, rfl, rfl, rfl⟩

theorem liesAt_sharedDrive : sharedDrive.LiesAt (.plain []) 3 "/c/d" :=
  ⟨1, ⟨_, rfl, rfl, rfl⟩, _, rfl, rfl, rfl⟩

theorem deletingOf_reachable
    {condition : Process.Condition Request ServiceMemory SdkCall SdkAnswer Thrown Drive}
    {path : JsString} {steps : Nat}
    (starts : ∀ event state next, sharedRequests.Step event state next → state.inFlight = [] →
      condition event state next)
    (meets : ∀ taken < steps, ∀ event next, sharedRequests.Step event (deletingOf path taken) next →
      condition event (deletingOf path taken) next) :
    sharedRequests.Reachable condition ⟨.initial 0, sharedDrive⟩ (deletingOf path steps) :=
  .head ⟨_, .start (deleteOf path) _ [], starts _ _ _ (.start (deleteOf path) _ []) rfl⟩
    (Process.leads_iterate_of (fun _ _ => rfl) steps _
      fun taken before event => meets taken before event _)

/-- The DELETE of a file keeps to the condition. -/
theorem drafts_stay_file : (deletingOf "/a" 9).world.remote.HoldsDraft 3 ∧
    ¬(deletingOf "/a" 9).world.remote.Live 2 := by
  have spared : ∀ taken < 9, sparing (deletingOf "/a" taken) = true := by decide
  have reachable : sharedRequests.Reachable (carefully (.plain []) strictOptions)
      ⟨.initial 0, sharedDrive⟩ (deletingOf "/a" 9) := by
    apply deletingOf_reachable
    · intro event state next step idle
      exact carefully_of_sparing step (by rw [sparing, idle]; rfl)
    · exact fun taken before event next step => carefully_of_sparing step (spared taken before)
  constructor
  · rcases drafts_stay (sparesDrafts_trashSdk _) reachable holdsDraft_sharedDrive with
      held | ⟨_, _, _, _, _, _, _, _, _, allowed, _⟩
    · exact held
    · cases allowed
  · rintro ⟨stored, located, _, live⟩
    have trashed : (deletingOf "/a" 9).world.remote.nodes.get 2 =
        some { DriveNode.file 0 "a" [7] "5d1be7e9dda1ee8896be5b7e34a85ee16452a7b4" with
          trashed := true } := rfl
    rw [trashed] at located
    cases located
    cases live

/-- The DELETE of a collection takes the draft in it along, without consent for its path. -/
theorem collection_loses_draft : SparesDrafts (.plain []) (trashSdk (.plain [])) ∧
    sharedRequests.Reachable anyStep ⟨.initial 0, sharedDrive⟩ (deletingOf "/c" 9) ∧
    sharedDrive.HoldsDraft 3 ∧ sharedDrive.LiesAt (.plain []) 3 "/c/d" ∧
    strictOptions.allowOverrideDraftForPath ≠ some "/c/d" ∧
    ¬(deletingOf "/c" 9).world.remote.HoldsDraft 3 := by
  refine ⟨sparesDrafts_trashSdk _, ?_, holdsDraft_sharedDrive, liesAt_sharedDrive, nofun, ?_⟩
  · exact deletingOf_reachable (fun _ _ _ _ _ => trivial) fun _ _ _ _ _ => trivial
  · rintro ⟨stored, located, _, live⟩
    have trashed : (deletingOf "/c" 9).world.remote.nodes.get 3 =
        some { DriveNode.draft 1 "d" false with trashed := true } := rfl
    rw [trashed] at located
    cases located
    cases live

end DriveWebdav
