import DriveWebdav.Foundation.Process
import DriveWebdav.SdkGateway.AnchoredOperations

/-! # The path cache beside other clients

Operations of one gateway run beside each other, and beside other clients that rename, move and
trash nodes. The path cache answers as the tree does, as long as no folder leaves its path while
something rests on it: an entry that has not expired, or an operation that works in the folder. -/

namespace DriveWebdav

/-- What is taken from the SDK: lookups answer from the tree and leave it, no call breaks the
tree or takes anything out of the trash, and a folder is made where it is asked for. -/
structure KeepsTrees (platform : Platform)
    (sdk : Program.Service SdkCall SdkAnswer Thrown Drive) : Prop where
  lookups : ∀ drive command answer final, command.isLookup = true →
    sdk drive command answer final →
      final = drive ∧ ∀ value, answer = .ok value → AnswersTruly platform drive command value
  changes : ∀ drive command answer final, drive.Proper platform →
    sdk drive command answer final → Drive.Becomes platform drive final
  creates : ∀ drive parent name node final, drive.Proper platform →
    sdk drive (.createFolder parent name) (.ok node) final →
      Drive.Creates platform drive final parent.uid name node

/-- The operations of one gateway. Time passes, and other clients change the tree. -/
def sharedGateway (platform : Platform) (sdk : Program.Service SdkCall SdkAnswer Thrown Drive) :
    Process GatewayOperation ServiceMemory SdkCall SdkAnswer Thrown Drive where
  service := sdk
  launch := runOperation platform
  environment world changed :=
    Waits world changed ∨
      changed.memory = world.memory ∧ Drive.Reshapes platform world.remote changed.remote

/-- A folder leaves its path only while no entry that has not expired rests on it there, and no
operation beside the one that moves it works in it. -/
def settled (platform : Platform) :
    Process.Condition GatewayOperation ServiceMemory SdkCall SdkAnswer Thrown Drive :=
  fun event state next =>
    ∀ segs uid, Drive.Leaves platform state.world.remote next.world.remote segs uid →
      (∀ key cached, state.world.memory.resolveCache.get key = some cached →
        state.world.memory.now < cached.expiresAt → cached.place key ≠ (segs, uid)) ∧
      ∀ other, state.Beside event other → ¬other.label.WorksIn segs

variable {platform : Platform} {sdk : Program.Service SdkCall SdkAnswer Thrown Drive}

/-! ## One operation -/

section

variable {rules : Rules ServiceMemory SdkCall SdkAnswer Thrown Drive}

theorem GatewayOperation.worksIn_of_mem {op : GatewayOperation} {folder : List JsString}
    (member : folder ∈ op.folders) : op.WorksIn folder :=
  ⟨folder, member, List.prefix_rfl⟩

theorem makes_upload_of_anchoring {near : List JsString → Prop}
    (anchoring : Anchoring platform rules near) (p : JsString) (parent : NodeEntity)
    (revisionOfUid : Option Uid) (body : BodyStream) (opts : PutOptions) :
    Makes rules (upload platform p parent revisionOfUid body opts) := by
  apply makes_upload anchoring.tolerant p parent revisionOfUid body opts fun _ => True
  · intro world
    cases revisionOfUid with
    | none =>
        exact Rules.ensures_request.mpr fun now _ _ =>
          ⟨anchoring.permits now _, fun _ _ _ _ _ => trivial⟩
    | some uid =>
        exact Rules.ensures_request.mpr fun now _ _ =>
          ⟨anchoring.permits now _, fun _ _ _ _ _ => trivial⟩
  · exact fun now _ _ _ => anchoring.permits now _
  · exact fun now _ _ _ _ _ _ _ => anchoring.permits now _

/-- Every operation keeps the cache anchored, while the folders stay that it works in. -/
theorem makes_runOperation {op : GatewayOperation}
    (anchoring : Anchoring platform rules op.WorksIn)
    (creates : ∀ drive parent name node final, drive.Proper platform →
      rules.service drive (.createFolder parent name) (.ok node) final →
        Drive.Becomes platform drive final ∧
          Drive.Creates platform drive final parent.uid name node) :
    Makes rules (runOperation platform op) := by
  have tolerant := anchoring.tolerant
  have works : ∀ folder ∈ op.folders, op.WorksIn folder :=
    fun _ member => GatewayOperation.worksIn_of_mem member
  have permits : ∀ command now, rules.permits now command :=
    fun command now => anchoring.permits now command
  cases op with
  | stat path =>
      exact (makes_stat tolerant (works _ List.mem_cons_self)).bind fun _ => .pure _
  | list path =>
      have looks : ∀ world, rules.Ensures (list platform path)
          (Looks platform _ world fun _ _ => True) world :=
        fun _ => looks_list anchoring (works _ List.mem_cons_self)
      exact (Looks.makes looks).bind fun _ => .pure _
  | read path range =>
      exact (makes_read tolerant (works _ List.mem_cons_self) range).bind fun _ => .pure _
  | put path body opts =>
      have uploads := makes_upload_of_anchoring anchoring
      have puts : Makes rules (put platform path body opts) := by
        apply makes_put tolerant (works _ List.mem_cons_self)
        intro p parent inside
        apply makes_putInto tolerant inside
        · exact fun _ uid _ => uploads p parent (some uid) body opts
        · exact uploads p parent none body opts
      exact puts.bind fun _ => .pure _
  | mkcol path => exact makes_mkcol_of_creates anchoring (works _ List.mem_cons_self) creates
  | remove path =>
      exact makes_remove tolerant (works _ List.mem_cons_self) fun now _ => permits _ now
  | move src dst =>
      exact makes_move tolerant (works _ List.mem_cons_self)
        (works _ (List.mem_cons_of_mem _ List.mem_cons_self)) (fun now _ _ => permits _ now)
        fun now _ _ => permits _ now
  | copy src dst =>
      exact makes_copy tolerant (works _ List.mem_cons_self)
        (works _ (List.mem_cons_of_mem _ List.mem_cons_self)) fun now _ _ => permits _ now

end

/-! ## Runs -/

section

variable {initial : ServiceWorld}
  {state next : Process.State GatewayOperation ServiceMemory SdkCall SdkAnswer Thrown Drive}
  {event : Process.Event GatewayOperation ServiceMemory SdkCall SdkAnswer Thrown}

/-- Under the condition a change of the tree leaves the cache anchored, and the folders that
operations beside it work in. -/
theorem anchored_of_settled {after : Drive} (anchored : Anchored platform state.world)
    (change : Drive.Becomes platform state.world.remote after)
    (meets : settled platform event state next) (remote : next.world.remote = after) :
    Anchored platform ⟨state.world.memory, after⟩ ∧
      ∀ other, state.Beside event other → ∀ segs uid, other.label.WorksIn segs →
        state.world.remote.Stays platform segs uid → after.Stays platform segs uid := by
  subst remote
  constructor
  · exact anchored.becomes change fun segs uid leaves => (meets segs uid leaves).1
  · intro other beside segs uid works stays
    exact stays.becomes change fun leaves => (meets segs uid leaves).2 other beside works

/-- Operations leave each other, and the other clients leave them, the folders they work in. -/
def anchoredCache (keeps : KeepsTrees platform sdk) :
    Process.Coexistence (sharedGateway platform sdk) (settled platform) where
  invariant := Anchored platform
  interference op world changed := changed.remote.root = world.remote.root ∧
    ∀ segs uid, op.WorksIn segs → world.remote.Stays platform segs uid →
      changed.remote.Stays platform segs uid
  permits _ _ _ := True
  interference_refl _ _ := ⟨rfl, fun _ _ _ stays => stays⟩
  interference_trans _ _ _ _ one two :=
    ⟨two.1.trans one.1, fun segs uid works stays =>
      two.2 segs uid works (one.2 segs uid works stays)⟩
  answered := by
    intro flight command answer state next anchored _ step meets
    cases step with
    | await label met command resume answer remote world before after answered =>
        have change := keeps.changes _ _ _ _ anchored.proper answered
        have kept := anchored_of_settled anchored change meets rfl
        exact ⟨kept.1, fun other beside => ⟨change.root, kept.2 other beside⟩⟩
  outside := by
    intro state next anchored step meets
    cases step with
    | environment world changed inFlight acted =>
        rcases acted with waits | ⟨same, reshapes⟩
        · refine ⟨anchored.waits waits, fun other _ => ?_⟩
          rw [waits.1]
          exact ⟨rfl, fun _ _ _ stays => stays⟩
        · have change := reshapes.becomes
          have kept := anchored_of_settled anchored change meets rfl
          rcases changed with ⟨memory, remote⟩
          cases same
          exact ⟨kept.1, fun other beside => ⟨change.root, kept.2 other beside⟩⟩

theorem anchoring_rules (keeps : KeepsTrees platform sdk) (op : GatewayOperation) :
    Anchoring platform ((anchoredCache keeps).rules op) op.WorksIn where
  invariant _ anchored := anchored
  guarantee world memory anchored := ⟨anchored, fun _ => ⟨rfl, fun _ _ _ stays => stays⟩⟩
  permits _ _ := trivial
  above segs more works := by
    rcases works with ⟨folder, member, begins⟩
    exact ⟨folder, member, (List.prefix_append segs more).trans begins⟩
  root _ _ between := between.1
  stays _ _ between := between.2
  lookups := keeps.lookups

/-- The cache is anchored in every state of a settled run. -/
theorem anchored_of_reachable (keeps : KeepsTrees platform sdk)
    (start : Anchored platform initial)
    (reachable : (sharedGateway platform sdk).Reachable (settled platform) initial state) :
    Anchored platform state.world := by
  have launched : ∀ op world, (anchoredCache keeps).invariant world →
      ((anchoredCache keeps).rules op).Ensures ((sharedGateway platform sdk).launch op)
        (fun _ _ => True) world := by
    intro op world _
    apply makes_runOperation (anchoring_rules keeps op)
    intro drive parent name node final proper made
    exact ⟨keeps.changes _ _ _ _ proper made, keeps.creates _ _ _ _ _ proper made⟩
  exact (Process.Coexistence.respected_of_reachable launched start reachable).1

/-- Memory without what the path cache holds. -/
def ServiceMemory.forgetful (memory : ServiceMemory) : ServiceMemory :=
  { memory with resolveCache := .empty }

/-- In every state of a settled run a path resolves as with an empty cache, to the node that its
names lead to from the root, and a DELETE trashes that node or nothing. -/
theorem resolve_settled {drive : Drive} {now : Nat} (keeps : KeepsTrees platform sdk)
    (proper : drive.Proper platform)
    (reachable : (sharedGateway platform sdk).Reachable (settled platform) ⟨.initial now, drive⟩
      state) :
    (∀ answer, Truthful platform answer → ∀ path includeDrafts,
      (answer.run (resolve platform path includeDrafts) state.world).1 =
        (answer.run (resolve platform path includeDrafts)
          ⟨state.world.memory.forgetful, state.world.remote⟩).1 ∧
      ((segments path).all isSafeSegment = true →
        (answer.run (resolve platform path includeDrafts) state.world).1 =
          .ok (state.world.remote.nodeAt platform path includeDrafts))) ∧
    ∀ answer, Truthful platform answer → Trashes answer → ∀ path, isRoot path = false →
      (answer.run (remove platform path) state.world).2.remote =
        match state.world.remote.nodeAt platform path false with
        | none => state.world.remote
        | some node => state.world.remote.trash node.uid := by
  have anchored := anchored_of_reachable keeps (.initial now proper) reachable
  have hasRoot : state.world.remote.HasRoot := anchored.proper.root
  have forgets : Accurate platform ⟨state.world.memory.forgetful, state.world.remote⟩ :=
    anchored.accurate.of_subset rfl (Nat.le_refl _) nofun
  constructor
  · intro answer truthful path includeDrafts
    by_cases safe : (segments path).all isSafeSegment = true
    · have found : ∀ world : ServiceWorld, world.remote = state.world.remote →
          Accurate platform world → (answer.run (resolve platform path includeDrafts) world).1 =
            .ok (state.world.remote.nodeAt platform path includeDrafts) := by
        intro world same accurate
        rcases truthful.run_resolve hasRoot includeDrafts safe same accurate with ⟨_, ran, _⟩
        rw [ran]
      have here := found state.world rfl anchored.accurate
      have afresh := found ⟨state.world.memory.forgetful, state.world.remote⟩ rfl forgets
      exact ⟨here.trans afresh.symm, fun _ => here⟩
    · rw [resolve, if_neg safe]
      exact ⟨rfl, fun safeToo => absurd safeToo safe⟩
  · intro answer truthful trashes path below
    by_cases safe : (segments path).all isSafeSegment = true
    · have inside : segments path ≠ [] := fun none => by
        rw [isRoot_iff.mpr none] at below
        cases below
      have removed := run_remove truthful trashes hasRoot rfl anchored.accurate inside safe
      cases found : state.world.remote.nodeAt platform path false with
      | none =>
          rw [found] at removed
          rcases removed with ⟨_, _, _, same⟩
          exact same
      | some node =>
          rw [found] at removed
          exact removed.2
    · have refused : resolveOrThrow platform (normalize path) =
          reject (.plain "Invalid path segment" 400) := by
        rw [resolveOrThrow, resolve, segments_normalize, if_neg safe]
        rfl
      rw [remove, isRoot_normalize, below, refused, Drive.nodeAt, if_neg safe]
      rfl

end

/-! ## A listing, and a rename by another client -/

/-- An SDK that reads, and knows nothing else. -/
def readingSdk (platform : Platform) : TreeAnswer
  | drive, .getPathNode => (TreeSdk.getNode drive drive.root, drive)
  | drive, .getNode uid => (TreeSdk.getNode drive uid, drive)
  | drive, .iterateFolderChildren parent _ =>
      (.ok ⟨drive.children platform parent.uid, none⟩, drive)
  | drive, _ => (.error (.sdk ⟨.other, "Not implemented"⟩), drive)

theorem remote_readingSdk (drive : Drive) (command : SdkCall) :
    (readingSdk platform drive command).2 = drive := by
  unfold readingSdk
  split
  · rfl
  · rfl
  · rfl
  · rfl

theorem truthful_readingSdk : Truthful platform (readingSdk platform) where
  lookups drive command _ := remote_readingSdk drive command
  nodes _ _ _ found := TreeSdk.getNode_eq_ok.mp found
  root _ _ found := ⟨TreeSdk.getNode_eq_ok.mpr found, TreeSdk.getNode_eq_ok.mpr found⟩
  pathNode _ _ found := TreeSdk.getNode_eq_ok.mp found
  children _ _ _ := rfl
  failures := by
    intro drive command error fails
    unfold readingSdk at fails
    split at fails
    · rw [TreeSdk.getNode_error fails]
      exact Nat.le_of_ble_eq_true rfl
    · rw [TreeSdk.getNode_error fails]
      exact Nat.le_of_ble_eq_true rfl
    · cases fails
    · cases fails
      exact Nat.le_of_ble_eq_true rfl

theorem keepsTrees_readingSdk : KeepsTrees platform (readingSdk platform).rules.service where
  lookups := truthful_readingSdk.undisturbed.lookups
  changes := by
    intro drive command answer final proper answered
    have same : (readingSdk platform drive command).2 = final := congrArg Prod.snd answered
    rw [remote_readingSdk] at same
    rw [← same]
    exact .refl proper
  creates := by
    intro drive parent name node final _ made
    cases congrArg Prod.fst made

def listedDrive : Drive :=
  .ofNodes 0 [(0, .folder none "root"), (1, .folder (some 0) "a"),
    (2, .file 1 "x" [7] "5d1be7e9dda1ee8896be5b7e34a85ee16452a7b4")]

theorem proper_listedDrive : listedDrive.Proper (.plain []) :=
  ⟨(Drive.isTree_of_entries (by decide) (by decide)).unique, _, rfl, rfl⟩

abbrev listingGateway : Process GatewayOperation ServiceMemory SdkCall SdkAnswer Thrown Drive :=
  sharedGateway (.plain []) (readingSdk (.plain [])).rules.service

/-- A listing of `/a` after so many steps. -/
def listing (steps : Nat) :
    Process.State GatewayOperation ServiceMemory SdkCall SdkAnswer Thrown Drive :=
  (Process.advance (readingSdk (.plain [])))^[steps]
    ⟨⟨.initial 0, listedDrive⟩, [⟨.list "/a", [], listingGateway.launch (.list "/a")⟩]⟩

theorem remote_listing (steps : Nat) : (listing steps).world.remote = listedDrive := by
  induction steps with
  | zero => rfl
  | succ steps induction =>
      rw [listing, Function.iterate_succ_apply', Process.remote_advance remote_readingSdk]
      exact induction

/-- `/a` is listed, and then another client places a node elsewhere. -/
def listedThen (uid parent : Uid) (name : JsString) :
    Process.State GatewayOperation ServiceMemory SdkCall SdkAnswer Thrown Drive :=
  ⟨⟨(listing 10).world.memory, listedDrive.relocate uid parent ⟨true, name⟩⟩, []⟩

theorem listedThen_reachable
    {condition : Process.Condition GatewayOperation ServiceMemory SdkCall SdkAnswer Thrown Drive}
    {uid parent : Uid} {name : JsString}
    (still : ∀ event state next, next.world.remote = state.world.remote →
      condition event state next)
    (changes : condition .outside (listing 10) (listedThen uid parent name))
    (proper : (listedDrive.relocate uid parent ⟨true, name⟩).Proper (.plain []))
    (inUse : ¬listedDrive.Gone parent) :
    listingGateway.Reachable condition ⟨.initial 0, listedDrive⟩ (listedThen uid parent name) := by
  have listed : listingGateway.Reachable condition ⟨.initial 0, listedDrive⟩ (listing 10) := by
    refine .head ⟨_, .start (.list "/a") _ [], still _ _ _ rfl⟩ ?_
    apply Process.leads_iterate_of fun _ _ => rfl
    intro taken _ event _
    exact still _ _ _ (Process.remote_advance remote_readingSdk _)
  have ended : listing 10 = ⟨⟨(listing 10).world.memory, listedDrive⟩, []⟩ := rfl
  have reshapes : Drive.Reshapes (.plain []) listedDrive
      (listedDrive.relocate uid parent ⟨true, name⟩) :=
    .relocated uid parent ⟨true, name⟩ proper fun gone => absurd gone inUse
  refine listed.tail ⟨.outside, ?_, changes⟩
  rw [ended]
  exact .environment _ _ [] (.inr ⟨rfl, reshapes⟩)

theorem not_gone_listedDrive {uid : Uid}
    (live : ∀ stored, listedDrive.nodes.get uid = some stored → stored.trashed = false) :
    ¬listedDrive.Gone uid := by
  rintro ⟨⟨stored, located, trashed⟩, _⟩
  rw [live stored located] at trashed
  cases trashed

/-- The file that was listed has another name now, and the cache does not hide it. -/
theorem resolve_settled_renamed :
    ((listedThen 2 1 "y").world.memory.resolveCache.get "/a/x").isSome = true ∧
    ((TreeSdk.answer (.plain [])).run (resolve (.plain []) "/a/x" false)
      (listedThen 2 1 "y").world).1 = .ok none ∧
    ((TreeSdk.answer (.plain [])).run (remove (.plain []) "/a/x")
      (listedThen 2 1 "y").world).2.remote = listedDrive.relocate 2 1 ⟨true, "y"⟩ := by
  have proper : (listedDrive.relocate 2 1 ⟨true, "y"⟩).Proper (.plain []) :=
    ⟨(Drive.isTree_of_entries (by decide) (by decide)).unique, _, rfl, rfl⟩
  have noFolder : ∀ stored, listedDrive.nodes.get 2 = some stored → stored.type ≠ .folder := by
    intro stored located isFolder
    cases located
    cases isFolder
  have reachable : listingGateway.Reachable (settled (.plain [])) ⟨.initial 0, listedDrive⟩
      (listedThen 2 1 "y") := by
    apply listedThen_reachable _ _ proper
    · apply not_gone_listedDrive
      intro stored located
      cases located
      rfl
    · intro event state next same segs uid leaves
      rw [same] at leaves
      exact absurd leaves Drive.not_leaves_self
    · intro segs uid leaves
      rw [remote_listing] at leaves
      exact absurd leaves (Drive.not_leaves_relocate noFolder proper.unique)
  have resolved := resolve_settled keepsTrees_readingSdk proper_listedDrive reachable
  exact ⟨rfl, (resolved.1 _ TreeSdk.truthful "/a/x" false).2 rfl,
    resolved.2 _ TreeSdk.truthful TreeSdk.trashes "/a/x" rfl⟩

/-- The folder has another name now, and a DELETE of its old path trashes what is in it. -/
theorem remove_trashes_elsewhere :
    KeepsTrees (.plain []) (readingSdk (.plain [])).rules.service ∧
    listedDrive.Proper (.plain []) ∧
    listingGateway.Reachable (fun _ _ _ => True) ⟨.initial 0, listedDrive⟩
      (listedThen 1 0 "b") ∧
    (∃ node, ((TreeSdk.answer (.plain [])).run (resolve (.plain []) "/a/x" false)
      (listedThen 1 0 "b").world).1 = .ok (some node) ∧
      (listedThen 1 0 "b").world.remote.nodeAt (.plain []) "/b/x" false = some node) ∧
    ((TreeSdk.answer (.plain [])).run (resolve (.plain []) "/a/x" false)
      ⟨(listedThen 1 0 "b").world.memory.forgetful, (listedThen 1 0 "b").world.remote⟩).1 =
        .ok none ∧
    (listedThen 1 0 "b").world.remote.nodeAt (.plain []) "/a/x" false = none ∧
    ((TreeSdk.answer (.plain [])).run (remove (.plain []) "/a/x")
      (listedThen 1 0 "b").world).2.remote = (listedThen 1 0 "b").world.remote.trash 2 := by
  have proper : (listedDrive.relocate 1 0 ⟨true, "b"⟩).Proper (.plain []) :=
    ⟨(Drive.isTree_of_entries (by decide) (by decide)).unique, _, rfl, rfl⟩
  refine ⟨keepsTrees_readingSdk, proper_listedDrive, ?_, ⟨_, rfl, rfl⟩, rfl, rfl, rfl⟩
  apply listedThen_reachable (fun _ _ _ _ => trivial) trivial proper
  apply not_gone_listedDrive
  intro stored located
  cases located
  rfl

end DriveWebdav
