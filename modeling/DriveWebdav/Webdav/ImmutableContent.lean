import DriveWebdav.SdkGateway.Double
import DriveWebdav.Webdav.Concurrent

/-! # Immutable content

With `immutable` set, requests that run side by side leave committed files as they are. Only a
DELETE takes one away. -/

namespace DriveWebdav

/-- A file with a committed revision. -/
def DriveNode.isCommitted (node : DriveNode) : Bool :=
  node.type = .file && node.activeRevision.isSome

/-- A node that is neither trashed nor an unfinished upload. -/
def Drive.Live (drive : Drive) (uid : Uid) : Prop :=
  ∃ stored, drive.nodes.get uid = some stored ∧ stored.isDraft = false ∧ stored.trashed = false

/-- The calls for a new revision of a file. -/
def SdkCall.revises : SdkCall → Bool
  | .getFileRevisionUploader _ _ => true
  | .uploadFromStream (.revision _ _) _ => true
  | .completion ⟨.revision _ _, _⟩ => true
  | _ => false

/-- The committed file still is there, with the same revision. -/
def Drive.Keeps (drive : Drive) (uid : Uid) (stored : DriveNode) : Prop :=
  ∃ kept, drive.nodes.get uid = some kept ∧ kept.isCommitted = true ∧
    kept.activeRevision = stored.activeRevision ∧ kept.bytes = stored.bytes

/-- What is taken from the SDK: new content comes with a new revision only, nodes go to the trash
by `trashNodes` only, together with all that is below them, and an uploader is for what it was
requested for. -/
structure KeepsContent (sdk : Program.Service SdkCall SdkAnswer Thrown Drive) : Prop where
  content : ∀ drive command answer final, sdk drive command answer final →
    command.revises = false → ∀ uid stored, drive.nodes.get uid = some stored →
      stored.isCommitted = true → final.Keeps uid stored
  trashes : ∀ drive command answer final, sdk drive command answer final →
    command.revises = false → ∀ uid, drive.Live uid → ¬final.Live uid →
      ∃ nodes, command = .trashNodes nodes ∧
        ∃ node ∈ nodes, drive.isAtOrBelow node.uid uid = true
  uploader : ∀ drive parent name metadata uploader final,
    sdk drive (.getFileUploader parent name metadata) (.ok uploader) final →
      uploader = .file parent.uid name metadata
  controller : ∀ drive uploader stream controller final,
    sdk drive (.uploadFromStream uploader stream) (.ok controller) final →
      controller.uploader = uploader

abbrev ServiceEntry := Program.Entry ServiceMemory SdkCall SdkAnswer Thrown

/-- The overwrite guard, where there is one, has let a DELETE of the path pass. -/
def GuardPassed (opts : WebdavOptions) (path : JsString) (met : List ServiceEntry) : Prop :=
  if opts.guarded then
    ∃ memory, met = [.access memory] ∧ (memory.guard.isProtected path memory.now).1 = false
  else met = []

/-- A DELETE has passed the guard, and its path has resolved to `node`. -/
def Deletes (platform : Platform) (opts : WebdavOptions) (req : Request)
    (met : List ServiceEntry) (node : NodeEntity) : Prop :=
  Method.parse req.method = .delete ∧ ∃ start passing resolving,
    met = .access start :: (passing ++ resolving) ∧ GuardPassed opts req.path passing ∧
      (resolveOrThrow platform req.path).Follows resolving (.ok node)

section

variable {platform : Platform} {opts : WebdavOptions} {req : Request}
  {sdk : Program.Service SdkCall SdkAnswer Thrown Drive} {others : Drive → Drive → Prop}
  {met : List ServiceEntry} {nodes : List NodeEntity}

/-! ## What requests do not ask for -/

/-- With `immutable`, an existing file is never replaced. -/
theorem putTarget_immutable {putOpts : PutOptions} (immutable : putOpts.immutable = true)
    (existing : Option NodeEntity) (uid : Uid) : putTarget putOpts existing ≠ .revise uid := by
  intro revises
  unfold putTarget at revises
  simp only [immutable, if_true] at revises
  split at revises
  · cases revises
  · split at revises
    · cases revises
    · split at revises
      · split at revises
        · cases revises
        · cases revises
      · cases revises

/-- Requests permit each other everything but a revision. -/
def unrevised (platform : Platform) (opts : WebdavOptions)
    (sdk : Program.Service SdkCall SdkAnswer Thrown Drive) (others : Drive → Drive → Prop) :
    Process.Coexistence (requests platform opts sdk others) (fun _ _ _ => True) where
  invariant _ := True
  interference _ _ _ := True
  permits _ _ command := command.revises = false
  interference_refl _ _ := trivial
  interference_trans _ _ _ _ _ _ := trivial
  answered _ _ _ _ _ _ _ _ _ := ⟨trivial, fun _ _ => trivial⟩
  outside _ _ _ _ _ := ⟨trivial, fun _ _ => trivial⟩

theorem lenient_unrevised (req : Request) :
    Lenient ((unrevised platform opts sdk others).rules req) where
  guarantee _ _ := ⟨trivial, fun _ => trivial⟩
  reads := by
    intro now command reads
    cases command with
    | getFileRevisionUploader uid metadata => cases reads
    | uploadFromStream uploader stream => cases reads
    | completion controller => cases reads
    | _ => rfl

theorem upload_unrevised (keeps : KeepsContent sdk) (p : JsString) (parent : NodeEntity)
    (body : BodyStream) (putOpts : PutOptions) :
    Makes ((unrevised platform opts sdk others).rules req)
      (upload platform p parent none body putOpts) := by
  apply makes_upload (lenient_unrevised req).tolerant p parent none body putOpts
    fun uploader => ∃ folder name metadata, uploader = .file folder name metadata
  · intro world
    apply Rules.ensures_request.mpr
    intro now _ _
    refine ⟨rfl, ?_⟩
    intro answer remote answered uploader same
    rw [same] at answered
    exact ⟨_, _, _, keeps.uploader _ _ _ _ _ _ answered⟩
  · intro now uploader stream new
    rcases new with ⟨folder, name, metadata, rfl⟩
    rfl
  · intro now uploader stream controller remote final new answered
    rcases new with ⟨folder, name, metadata, rfl⟩
    have same := keeps.controller _ _ _ _ _ answered
    rcases controller with ⟨uploader, stream⟩
    cases same
    rfl

theorem changes_unrevised (keeps : KeepsContent sdk) (immutable : opts.immutable = true)
    (req : Request) :
    ChangesWithin platform opts req ((unrevised platform opts sdk others).rules req) where
  put _ path body := by
    apply makes_put (lenient_unrevised req).tolerant trivial
    intro p parent _
    apply makes_putInto (lenient_unrevised req).tolerant trivial
    · intro existing uid target
      exact absurd target (putTarget_immutable immutable existing uid)
    · exact upload_unrevised keeps p parent body _
  mkcol _ path := makes_mkcol (lenient_unrevised req) path fun _ _ _ => rfl
  remove _ _ := makes_remove (lenient_unrevised req).tolerant trivial fun _ _ => rfl
  move _ _ _ := makes_move (lenient_unrevised req).tolerant trivial trivial (fun _ _ _ => rfl)
    fun _ _ _ => rfl
  copy _ _ _ := makes_copy (lenient_unrevised req).tolerant trivial trivial fun _ _ _ => rfl

/-! ## Who trashes -/

/-- Rules under which nothing is trashed. -/
def trashless : Rules ServiceMemory SdkCall SdkAnswer Thrown Drive :=
  .issuing fun command => ∀ nodes, command ≠ .trashNodes nodes

theorem lenient_trashless : Lenient trashless where
  guarantee _ _ := trivial
  reads := by
    intro now command reads nodes same
    rw [same] at reads
    cases reads

theorem changes_trashless (notDelete : Method.parse req.method ≠ .delete) :
    ChangesWithin platform opts req trashless where
  put _ path body := by
    have uploads : ∀ p parent revisionOfUid, Makes trashless
        (upload platform p parent revisionOfUid body (putOptions opts req)) := by
      intro p parent revisionOfUid
      apply makes_upload lenient_trashless.tolerant p parent revisionOfUid body _ fun _ => True
      · intro world
        cases revisionOfUid with
        | none => exact Rules.ensures_request.mpr fun _ _ _ => ⟨nofun, fun _ _ _ _ _ => trivial⟩
        | some uid =>
            exact Rules.ensures_request.mpr fun _ _ _ => ⟨nofun, fun _ _ _ _ _ => trivial⟩
      · exact fun _ _ _ _ => nofun
      · exact fun _ _ _ _ _ _ _ _ => nofun
    apply makes_put lenient_trashless.tolerant trivial
    intro p parent _
    apply makes_putInto lenient_trashless.tolerant trivial
    · exact fun _ _ _ => uploads p parent _
    · exact uploads p parent none
  mkcol _ path := makes_mkcol lenient_trashless path fun _ _ _ => nofun
  remove isDelete := absurd isDelete notDelete
  move _ _ _ := makes_move lenient_trashless.tolerant trivial trivial (fun _ _ _ => nofun)
    fun _ _ _ => nofun
  copy _ _ _ := makes_copy lenient_trashless.tolerant trivial trivial fun _ _ _ => nofun

/-- A request under such rules trashes nothing. -/
theorem Makes.not_trashes {α : Type} {operation : SdkOperation α}
    (makes : Makes trashless operation) : ¬operation.Issues met (.trashNodes nodes) := by
  intro issues
  exact (makes ⟨.initial 0, .ofNodes 0 []⟩).issued issues nodes rfl

/-- The check of the guard is one access to memory, or nothing. -/
theorem guardPassed_of_follows {path : JsString}
    (passed : (checkProtected opts path : SdkOperation Bool).Follows met (.ok false)) :
    GuardPassed opts path met := by
  unfold checkProtected at passed
  unfold GuardPassed
  split
  · next guarded =>
      rw [if_pos guarded] at passed
      cases passed with
      | update memory follows =>
          rcases Program.follows_finish follows with ⟨rfl, same⟩
          exact ⟨memory, rfl, (Except.ok.inj same).symm⟩
  · next unguarded =>
      rw [if_neg unguarded] at passed
      exact (Program.follows_finish passed).1

/-- What is trashed is what the path has resolved to, and no path of the root. -/
theorem resolves_of_issues {path : JsString}
    (issues : (remove platform path).Issues met (.trashNodes nodes)) :
    isRoot (normalize path) = false ∧ ∃ node, nodes = [node] ∧
      (resolveOrThrow platform (normalize path)).Follows met (.ok node) := by
  unfold remove at issues
  dsimp only at issues
  split at issues
  · exact absurd issues Program.not_issues_fail
  · next inside =>
      refine ⟨by simpa using inside, ?_⟩
      rcases Program.issues_bind issues with resolving | ⟨first, second, node, rfl, resolved, rest⟩
      · exact absurd resolving (makes_resolveOrThrow lenient_trashless.tolerant trivial).not_trashes
      · rcases Program.issues_bind rest with trashing | ⟨_, _, results, _, _, after⟩
        · rcases Program.issues_request.mp trashing with ⟨rfl, same⟩
          cases same
          rw [List.append_nil]
          exact ⟨node, rfl, resolved⟩
        · have last : Makes trashless (do
              eachOk results fun error => mapGenericError platform (.sdk error)
              Program.modify (invalidate (normalize path)) : SdkOperation Unit) :=
            (makes_eachOk _ _).bind fun _ => .modify lenient_trashless _
          exact absurd after last.not_trashes

theorem passes_of_issues {path : JsString} (normal : normalize path = path)
    (issues : (handleDelete (sdkGateway platform) opts path).Issues met (.trashNodes nodes)) :
    isRoot path = false ∧ ∃ node passing resolving, nodes = [node] ∧ met = passing ++ resolving ∧
      GuardPassed opts path passing ∧
        (resolveOrThrow platform path).Follows resolving (.ok node) := by
  rcases Program.issues_bind issues with checking | ⟨passing, rest, refused, rfl, checked, removing⟩
  · exact absurd checking (makes_checkProtected lenient_trashless _).not_trashes
  · cases refused with
    | true => exact absurd removing Program.not_issues_finish
    | false =>
        rcases Program.issues_bind removing with removal | ⟨_, _, _, _, _, after⟩
        · rcases resolves_of_issues removal with ⟨inside, node, rfl, resolved⟩
          rw [normal] at inside resolved
          exact ⟨inside, node, passing, rest, rfl, rfl, guardPassed_of_follows checked, resolved⟩
        · have last : Makes trashless (do
              releaseGuard opts path
              pure (davResponse 204 none []) : SdkOperation (Response ReadStream)) :=
            (makes_releaseGuard lenient_trashless path).bind fun _ => .pure _
          exact absurd after last.not_trashes

/-- Only a DELETE trashes, and only what its path has resolved to, which is not the root's. -/
theorem deletes_of_issues
    (issues : ((requests platform opts sdk others).launch req).Issues met (.trashNodes nodes)) :
    isRoot req.path = false ∧ ∃ node, nodes = [node] ∧ Deletes platform opts req met node := by
  have isDelete : Method.parse req.method = .delete := by
    by_contra notDelete
    exact (makes_launch lenient_trashless sdk others (changes_trashless notDelete)).not_trashes
      issues
  rcases Program.issues_bind issues with handling | ⟨_, _, _, _, _, ended⟩
  · rcases Program.issues_bind handling with reading | ⟨first, second, memory, rfl, started, rest⟩
    · exact absurd reading (Makes.read lenient_trashless).not_trashes
    · split at rest
      · exact absurd rest Program.not_issues_finish
      · rcases Program.issues_tryCatch rest with dispatching | ⟨_, _, _, _, _, ended⟩
        · unfold dispatch at dispatching
          rw [isDelete] at dispatching
          rcases passes_of_issues (normalize_normalize _) dispatching with
            ⟨inside, node, passing, resolving, rfl, rfl, passed, resolved⟩
          rcases Program.follows_read started with ⟨start, rfl, _⟩
          exact ⟨inside, node, rfl, isDelete, start, passing, resolving, rfl, passed, resolved⟩
        · exact absurd ended Program.not_issues_finish
  · exact absurd ended Program.not_issues_finish

/-! ## Runs -/

section Runs

variable {initial : ServiceWorld}
  {state next later : Process.State Request ServiceMemory SdkCall SdkAnswer Thrown Drive}
  {event : Process.Event Request ServiceMemory SdkCall SdkAnswer Thrown}

/-- The conditions of a run that may take any step. -/
abbrev anyStep : Process.Condition Request ServiceMemory SdkCall SdkAnswer Thrown Drive :=
  fun _ _ _ => True

/-- What one step does to the tree, a call does that asks for no revision. -/
theorem remote_step (keeps : KeepsContent sdk) (immutable : opts.immutable = true)
    (reachable : (requests platform opts sdk nobody).Reachable anyStep initial state)
    (step : (requests platform opts sdk nobody).Step event state next) :
    next.world.remote = state.world.remote ∨
      ∃ flight command answer, event = .answered flight command answer ∧
        sdk state.world.remote command answer next.world.remote ∧ command.revises = false := by
  rcases step.remote_cases with ⟨flight, command, answer, rfl, answered⟩ | ⟨_, acted⟩ | same
  · have respected : (unrevised platform opts sdk nobody).Respected state :=
      Process.Coexistence.respected_of_reachable
        (fun req world _ => makes_launch (lenient_unrevised req) sdk nobody
          (changes_unrevised keeps immutable req) world) trivial reachable
    exact .inr ⟨flight, command, answer, rfl, answered, respected.permits step⟩
  · rcases acted with passes | ⟨_, changed⟩
    · exact .inl passes.1
    · exact changed.elim
  · exact .inl same

/-- Requests side by side never change a committed file. Only a DELETE that has passed the guard
takes a node away, and only what its path has resolved to, with all that is below. -/
theorem immutable_content (keeps : KeepsContent sdk) (immutable : opts.immutable = true)
    (reachable : (requests platform opts sdk nobody).Reachable anyStep initial state) :
    (∀ later, (requests platform opts sdk nobody).Leads anyStep state later →
      ∀ uid stored, state.world.remote.nodes.get uid = some stored → stored.isCommitted = true →
        later.world.remote.Keeps uid stored) ∧
    ∀ event next, (requests platform opts sdk nobody).Step event state next →
      ∀ uid, state.world.remote.Live uid → ¬next.world.remote.Live uid →
        ∃ flight node answer, event = .answered flight (.trashNodes [node]) answer ∧
          Deletes platform opts flight.label flight.met node ∧
          state.world.remote.isAtOrBelow node.uid uid = true := by
  constructor
  · intro later leads uid stored located committed
    apply leads.induct fun reached => reached.world.remote.Keeps uid stored
    · exact ⟨stored, located, committed, rfl, rfl⟩
    · intro event reached next before step _ kept
      rcases kept with ⟨kept, located, committed, revision, bytes⟩
      rcases remote_step keeps immutable (reachable.leads before) step with
        same | ⟨flight, command, answer, rfl, answered, unrevised⟩
      · rw [same]
        exact ⟨kept, located, committed, revision, bytes⟩
      · rcases keeps.content _ _ _ _ answered unrevised uid kept located committed with
          ⟨last, lastLocated, lastCommitted, lastRevision, lastBytes⟩
        exact ⟨last, lastLocated, lastCommitted, lastRevision.trans revision,
          lastBytes.trans bytes⟩
  · intro event next step uid live dead
    rcases remote_step keeps immutable reachable step with
      same | ⟨flight, command, answer, rfl, answered, unrevised⟩
    · rw [same] at dead
      exact absurd live dead
    · rcases keeps.trashes _ _ _ _ answered unrevised uid live dead with
        ⟨nodes, rfl, node, member, below⟩
      rcases deletes_of_issues (reachable.issues step) with ⟨_, target, rfl, deletes⟩
      rcases List.mem_singleton.mp member with rfl
      exact ⟨flight, node, answer, rfl, deletes, below⟩

end Runs

end

/-! ## A DELETE -/

/-- An SDK that reads and trashes, and knows nothing else. -/
def answerTrash (platform : Platform) (drive : Drive) :
    (command : SdkCall) → Except Thrown (SdkAnswer command) × Drive
  | .getPathNode => (SdkDouble.getNode drive drive.root, drive)
  | .getNode uid => (SdkDouble.getNode drive uid, drive)
  | .iterateFolderChildren parent _ => (.ok ⟨drive.children platform parent.uid, none⟩, drive)
  | .trashNodes [node] => (.ok ⟨[.ok ()], none⟩, drive.trash node.uid)
  | _ => (.error (.sdk ⟨.other, "not answered"⟩), drive)

def trashSdk (platform : Platform) : Program.Service SdkCall SdkAnswer Thrown Drive :=
  fun drive command answer final => answerTrash platform drive command = (answer, final)

/-- Whatever it answers, this SDK leaves the tree or trashes a node. -/
theorem answerTrash_remote {platform : Platform} {drive : Drive} {command : SdkCall} :
    (answerTrash platform drive command).2 = drive ∨
      ∃ node, command = .trashNodes [node] ∧
        (answerTrash platform drive command).2 = drive.trash node.uid := by
  unfold answerTrash
  split
  · exact .inl rfl
  · exact .inl rfl
  · exact .inl rfl
  · next node => exact .inr ⟨node, rfl, rfl⟩
  · exact .inl rfl

theorem keeps_trash {drive : Drive} {target uid : Uid} {stored : DriveNode}
    (located : drive.nodes.get uid = some stored) (committed : stored.isCommitted = true) :
    (drive.trash target).Keeps uid stored := by
  rw [Drive.Keeps, Drive.get_trash, located, Option.map_some]
  split
  · exact ⟨_, rfl, committed, rfl, rfl⟩
  · exact ⟨_, rfl, committed, rfl, rfl⟩

theorem below_of_trash {drive : Drive} {target uid : Uid} (live : drive.Live uid)
    (dead : ¬(drive.trash target).Live uid) : drive.isAtOrBelow target uid = true := by
  by_contra apart
  rcases live with ⟨stored, located, committed, untrashed⟩
  apply dead
  refine ⟨stored, ?_, committed, untrashed⟩
  rw [Drive.get_trash, located, Option.map_some, if_neg apart]

theorem keepsContent_trashSdk (platform : Platform) : KeepsContent (trashSdk platform) where
  content := by
    intro drive command answer final answered _ uid stored located committed
    have same : (answerTrash platform drive command).2 = final := congrArg Prod.snd answered
    rw [← same]
    rcases @answerTrash_remote platform drive command with kept | ⟨node, _, trashed⟩
    · rw [kept]
      exact ⟨stored, located, committed, rfl, rfl⟩
    · rw [trashed]
      exact keeps_trash located committed
  trashes := by
    intro drive command answer final answered _ uid live dead
    have same : (answerTrash platform drive command).2 = final := congrArg Prod.snd answered
    rw [← same] at dead
    rcases @answerTrash_remote platform drive command with kept | ⟨node, rfl, trashed⟩
    · rw [kept] at dead
      exact absurd live dead
    · rw [trashed] at dead
      exact ⟨[node], rfl, node, List.mem_cons_self, below_of_trash live dead⟩
  uploader := by
    intro drive parent name metadata uploader final answered
    cases congrArg Prod.fst answered
  controller := by
    intro drive uploader stream controller final answered
    cases congrArg Prod.fst answered

def immutableOptions : WebdavOptions := ⟨true, none, true⟩

def deleteRequest : Request where
  method := "DELETE"
  pathname := "/a"
  header _ := none
  body := none
  text := none

def fileDrive : Drive :=
  .ofNodes 0 [(0, .folder none "root"),
    (1, .file 0 "a" [7] "5d1be7e9dda1ee8896be5b7e34a85ee16452a7b4")]

def deleteRequests : Process Request ServiceMemory SdkCall SdkAnswer Thrown Drive :=
  requests (.plain []) immutableOptions (trashSdk (.plain [])) nobody

/-- The DELETE, when it is about to trash the file. -/
def deleting : Process.State Request ServiceMemory SdkCall SdkAnswer Thrown Drive :=
  (Process.advance (answerTrash (.plain [])))^[9]
    ⟨⟨.initial 0, fileDrive⟩, [⟨deleteRequest, [], deleteRequests.launch deleteRequest⟩]⟩

theorem deleting_reachable : deleteRequests.Reachable anyStep ⟨.initial 0, fileDrive⟩ deleting :=
  Relation.ReflTransGen.trans (.single ⟨_, .start deleteRequest _ [], trivial⟩)
    (Process.leads_iterate (fun _ _ => rfl) 9 _)

theorem deleting_trashes : ∃ flight node answer,
    deleteRequests.Step (.answered flight (.trashNodes [node]) answer) deleting
      (Process.advance (answerTrash (.plain [])) deleting) ∧
    deleting.world.remote.Live 1 ∧
    ¬(Process.advance (answerTrash (.plain [])) deleting).world.remote.Live 1 := by
  refine ⟨_, _, _, .await deleteRequest _ _ _ _ _ _ [] [] rfl, ⟨_, rfl, rfl, rfl⟩, ?_⟩
  intro live
  rcases live with ⟨stored, located, _, untrashed⟩
  have trashed : (Process.advance (answerTrash (.plain [])) deleting).world.remote.nodes.get 1 =
      some { DriveNode.file 0 "a" [7] "5d1be7e9dda1ee8896be5b7e34a85ee16452a7b4" with
        trashed := true } := rfl
  rw [trashed] at located
  cases located
  cases untrashed

theorem immutable_content_delete : ∃ flight node answer,
    deleteRequests.Step (.answered flight (.trashNodes [node]) answer) deleting
      (Process.advance (answerTrash (.plain [])) deleting) ∧
    Deletes (.plain []) immutableOptions flight.label flight.met node ∧
    fileDrive.isAtOrBelow node.uid 1 = true := by
  rcases deleting_trashes with ⟨flight, node, answer, step, live, dead⟩
  have trashed := (immutable_content (keepsContent_trashSdk _) rfl deleting_reachable).2 _ _ step 1
    live dead
  rcases trashed with ⟨_, _, _, same, deletes, below⟩
  cases same
  exact ⟨flight, node, answer, step, deletes, below⟩

end DriveWebdav
