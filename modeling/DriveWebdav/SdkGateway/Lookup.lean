import DriveWebdav.Drive
import DriveWebdav.Foundation.Interference
import DriveWebdav.SdkGateway.Resolve

/-! # What resolution finds

A lookup that nobody disturbs, in a tree that is answered about truthfully,
finds what the tree has at the path, if the cache it starts from is accurate. -/

namespace DriveWebdav

/-- The memory of the service, and the tree its gateway gives access to. -/
abbrev ServiceWorld := World ServiceMemory Drive

/-- A lookup is answered from the tree. An iteration that fails has yielded some
of the children before. -/
def AnswersTruly (platform : Platform) (drive : Drive) :
    (command : SdkCall) → SdkAnswer command → Prop
  | .getPathNode, node => drive.getNode drive.root = some node
  | .getNode uid, node => drive.getNode uid = some node
  | .iterateFolderChildren parent _, children =>
      children.items <+: drive.children platform parent.uid ∧
        (children.failure = none → children.items = drive.children platform parent.uid)
  | _, _ => True

/-- Time passes, and nothing else. -/
def Waits (world now : ServiceWorld) : Prop :=
  now.remote = world.remote ∧
    ∃ time, world.memory.now ≤ time ∧ now.memory = { world.memory with now := time }

/-- The tree does not change under a lookup. -/
structure Undisturbed (platform : Platform)
    (rules : Rules ServiceMemory SdkCall SdkAnswer Thrown Drive) : Prop where
  invariant : ∀ world, rules.invariant world
  guarantee : ∀ world changed, rules.guarantee world changed
  permits : ∀ world command, rules.permits world command
  waits : ∀ world now, rules.interference world now → Waits world now
  failures : ∀ drive command error final, rules.service drive command (.error error) final →
    400 ≤ error.status
  lookups : ∀ drive command answer final, command.isLookup = true →
    rules.service drive command answer final →
      final = drive ∧ ∀ value, answer = .ok value → AnswersTruly platform drive command value

/-- The lookups of the root and of children do not fail. -/
structure Reliable (rules : Rules ServiceMemory SdkCall SdkAnswer Thrown Drive)
    (drive : Drive) : Prop where
  root : ∃ node, drive.getNode drive.root = some node ∧ node.type = .folder
  pathNode : ∀ error final, ¬rules.service drive .getPathNode (.error error) final
  rootNode : ∀ error final, ¬rules.service drive (.getNode drive.root) (.error error) final
  children : ∀ parent sought error final,
    ¬rules.service drive (.iterateFolderChildren parent sought) (.error error) final
  complete : ∀ parent sought (yielded : Yielded NodeEntity) final,
    rules.service drive (.iterateFolderChildren parent sought) (.ok yielded) final →
      yielded.failure = none

/-- What a node that still matches its entry has: the name, the parent if one was recorded, and
it is neither trashed nor a draft that was not asked for. -/
theorem fits_of_stillMatches {platform : Platform} {name : JsString} {cached : Resolved}
    {includeDrafts : Bool} {node : NodeEntity}
    (fits : stillMatches platform name cached includeDrafts node = true) :
    platform.getName node = name ∧
      (∀ parent, cached.parentUid = some parent → node.parentUid = some parent) ∧
      node.trashed = false ∧ (node.isDraft = true → includeDrafts = true) := by
  simp only [stillMatches, Bool.and_eq_true, Bool.or_eq_true, decide_eq_true_eq,
    Bool.not_eq_true'] at fits
  rcases fits with ⟨⟨⟨named, parents⟩, live⟩, shown⟩
  refine ⟨named, ?_, live, ?_⟩
  · intro parent recorded
    rcases parents with absent | same
    · rw [recorded] at absent
      cases absent
    · exact same.trans recorded
  · intro draft
    simp only [NodeEntity.isDraft, Bool.and_eq_true, decide_eq_true_eq] at draft
    rcases shown with (drafts | notFile) | revised
    · exact drafts
    · exact absurd draft.1 notFile
    · rw [Option.isNone_iff_eq_none.mp draft.2] at revised
      cases revised

/-- What a lookup would take from memory is what the tree has. -/
structure Accurate (platform : Platform) (world : ServiceWorld) : Prop where
  root : ∀ uid, world.memory.rootUid = some uid → uid = world.remote.root
  entries : ∀ name above cached, (∀ s ∈ name :: above, isSafeSegment s = true) →
    world.memory.resolveCache.get (absolute (name :: above).reverse) = some cached →
    world.memory.now < cached.expiresAt →
    ∀ node includeDrafts, world.remote.getNode cached.uid = some node →
      stillMatches platform name cached includeDrafts node = true →
      world.remote.visit platform (name :: above) includeDrafts = some node

namespace Accurate

variable {platform : Platform} {world : ServiceWorld}

theorem initial (now : Nat) (drive : Drive) :
    Accurate platform ⟨.initial now, drive⟩ where
  root := by
    intro uid known
    cases known
  entries := by
    intro name above cached _ found
    cases found

/-- An accurate memory stays so when entries expire or are dropped. -/
theorem of_subset {memory : ServiceMemory} (accurate : Accurate platform world)
    (root : memory.rootUid = world.memory.rootUid)
    (later : world.memory.now ≤ memory.now)
    (kept : ∀ key cached, memory.resolveCache.get key = some cached →
      world.memory.resolveCache.get key = some cached) :
    Accurate platform ⟨memory, world.remote⟩ where
  root := fun uid known => accurate.root uid (root ▸ known)
  entries := fun name above cached safe found live =>
    accurate.entries name above cached safe (kept _ _ found) (Nat.lt_of_le_of_lt later live)

theorem waits {now : ServiceWorld} (accurate : Accurate platform world)
    (waited : Waits world now) : Accurate platform now := by
  rcases now with ⟨memory, remote⟩
  rcases waited with ⟨rfl, time, later, rfl⟩
  exact accurate.of_subset rfl later fun _ _ found => found

theorem uncached (accurate : Accurate platform world) (path : JsString) :
    Accurate platform ⟨uncache path world.memory, world.remote⟩ :=
  accurate.of_subset rfl (Nat.le_refl _)
    fun _ _ found => InsertionMap.get_of_get_delete found

/-- A child that was just found in its parent may be recorded. -/
theorem cached (accurate : Accurate platform world) {name : JsString} {above : List JsString}
    {node : NodeEntity} {parent : Uid} (safe : ∀ s ∈ name :: above, isSafeSegment s = true)
    (visited : world.remote.visit platform (name :: above) true = some node) :
    Accurate platform ⟨cachePath (absolute (name :: above).reverse) node.uid (some parent)
      world.memory, world.remote⟩ where
  root := accurate.root
  entries := by
    intro otherName otherAbove cached otherSafe found live other includeDrafts fetched fits
    rcases InsertionMap.get_set_eq_some found with ⟨same, rfl⟩ | ⟨_, found⟩
    · have pieces : ∀ {segs : List JsString}, (∀ s ∈ segs, isSafeSegment s = true) →
          segments (absolute segs.reverse) = segs.reverse := fun allSafe =>
        segments_absolute fun s member =>
          isSegment_of_isSafeSegment (allSafe s (List.mem_reverse.mp member))
      have equal := congrArg segments same
      rw [pieces otherSafe, pieces safe, List.reverse_inj] at equal
      cases equal
      rw [Drive.getNode_of_visit visited] at fetched
      cases fetched
      rw [Drive.visit_cons_eq_some] at visited ⊢
      rcases visited with ⟨folder, lies, child, _, untrashed⟩
      exact ⟨folder, lies, child, (fits_of_stillMatches fits).2.2.2, untrashed⟩
    · refine accurate.entries otherName otherAbove cached otherSafe ?_ live other includeDrafts
        fetched fits
      split at found
      · exact InsertionMap.get_of_get_dropOldest found
      · exact found

end Accurate

/-! ## Lookups step by step -/

section Finds

variable {platform : Platform} {rules : Rules ServiceMemory SdkCall SdkAnswer Thrown Drive}
  {drive : Drive} {world : ServiceWorld} {α β : Type}

/-- The tree is as before, the memory accurate and the value found `good`. Only a
lookup that is not reliable throws, and only what is answered as an error. -/
def Finds (platform : Platform) (rules : Rules ServiceMemory SdkCall SdkAnswer Thrown Drive)
    (drive : Drive) (good : α → Prop) (outcome : Except Thrown α) (world : ServiceWorld) : Prop :=
  world.remote = drive ∧ Accurate platform world ∧
    match outcome with
    | .ok value => good value
    | .error error => 400 ≤ error.status ∧ ¬Reliable rules drive

variable {good : α → Prop} {better : β → Prop}

private theorem finds_bind {program : SdkOperation α} {next : α → SdkOperation β}
    (first : rules.Ensures program (Finds platform rules drive good) world)
    (rest : ∀ value reached, reached.remote = drive → Accurate platform reached → good value →
      rules.Ensures (next value) (Finds platform rules drive better) reached) :
    rules.Ensures (program >>= next) (Finds platform rules drive better) world :=
  first.bind (fun _ _ failed => failed)
    fun value reached found => rest value reached found.1 found.2.1 found.2.2

private theorem finds_pure {value : α} (same : world.remote = drive)
    (accurate : Accurate platform world) (fits : good value) :
    rules.Ensures (pure value) (Finds platform rules drive good) world :=
  ⟨same, accurate, fits⟩

private theorem finds_read (undisturbed : Undisturbed platform rules)
    (same : world.remote = drive) (accurate : Accurate platform world) :
    rules.Ensures Program.read (Finds platform rules drive fun memory =>
      ∃ before, before.memory = memory ∧ before.remote = drive ∧ Accurate platform before)
      world := by
  refine Rules.ensures_read.mpr fun now _ between => ⟨undisturbed.guarantee _ _, ?_⟩
  have waited := undisturbed.waits _ _ between
  have kept := accurate.waits waited
  exact ⟨waited.1.trans same, kept, now, rfl, waited.1.trans same, kept⟩

private theorem finds_modify (undisturbed : Undisturbed platform rules)
    {change : ServiceMemory → ServiceMemory}
    (same : world.remote = drive) (accurate : Accurate platform world)
    (keeps : ∀ now : ServiceWorld, now.remote = drive → Accurate platform now →
      Accurate platform ⟨change now.memory, now.remote⟩) :
    rules.Ensures (Program.modify change) (Finds platform rules drive fun _ => True) world := by
  refine Rules.ensures_modify.mpr fun now _ between => ⟨undisturbed.guarantee _ _, ?_⟩
  have waited := undisturbed.waits _ _ between
  exact ⟨waited.1.trans same, keeps now (waited.1.trans same) (accurate.waits waited), trivial⟩

/-- A lookup call answers from the tree; what a failure means is left open. -/
private theorem ensures_lookup (undisturbed : Undisturbed platform rules)
    (same : world.remote = drive) (accurate : Accurate platform world) {command : SdkCall}
    (lookup : command.isLookup = true) :
    rules.Ensures (Program.request command) (fun outcome reached =>
      reached.remote = drive ∧ Accurate platform reached ∧
        (∀ value, outcome = .ok value → AnswersTruly platform drive command value) ∧
        ∃ final, rules.service drive command outcome final) world := by
  refine Rules.ensures_request.mpr fun now _ between => ⟨undisturbed.permits _ _, ?_⟩
  intro answer remote answered
  have waited := undisturbed.waits _ _ between
  have unchanged := undisturbed.lookups _ _ _ _ lookup answered
  rw [waited.1.trans same] at answered unchanged
  rcases unchanged with ⟨rfl, truly⟩
  have kept := accurate.waits waited
  rw [← waited.1.trans same]
  refine ⟨rfl, kept, ?_, ?_⟩
  · rw [waited.1.trans same]
    exact truly
  · rw [waited.1.trans same]
    exact ⟨_, answered⟩

/-- A lookup call of which a reliable service answers every one. -/
private theorem finds_lookup (undisturbed : Undisturbed platform rules)
    (same : world.remote = drive) (accurate : Accurate platform world) {command : SdkCall}
    (lookup : command.isLookup = true)
    (reliable : Reliable rules drive → ∀ error final,
      ¬rules.service drive command (.error error) final) :
    rules.Ensures (Program.request command) (Finds platform rules drive fun value =>
      AnswersTruly platform drive command value ∧
        ∃ final, rules.service drive command (.ok value) final) world := by
  refine (ensures_lookup undisturbed same accurate lookup).mono ?_
  rintro outcome reached ⟨same, accurate, truly, final, answered⟩
  cases outcome with
  | ok value => exact ⟨same, accurate, truly value rfl, final, answered⟩
  | error error => exact ⟨same, accurate, undisturbed.failures _ _ _ _ answered,
      fun holds => reliable holds error final answered⟩

private theorem finds_getRootUid (undisturbed : Undisturbed platform rules)
    (same : world.remote = drive) (accurate : Accurate platform world) :
    rules.Ensures (getRootUid platform)
      (Finds platform rules drive fun uid => uid = drive.root) world := by
  refine finds_bind (finds_read undisturbed same accurate) ?_
  rintro memory reached same accurate ⟨before, rfl, sameBefore, accurateBefore⟩
  cases known : before.memory.rootUid with
  | some rootUid =>
      exact finds_pure same accurate (sameBefore ▸ accurateBefore.root rootUid known)
  | none =>
      refine finds_bind (finds_lookup undisturbed same accurate rfl
        fun reliable => reliable.pathNode) ?_
      rintro node reached same accurate ⟨found, _⟩
      have uid := Drive.uid_of_getNode found
      split
      · next notFolder =>
          refine ⟨same, accurate, by simp [Thrown.status, GatewayError.plain], fun reliable => ?_⟩
          rcases reliable.root with ⟨folder, stored, isFolder⟩
          rw [found] at stored
          cases stored
          exact notFolder isFolder
      · refine finds_bind (finds_modify undisturbed same accurate ?_)
          fun _ reached same accurate _ => finds_pure same accurate uid
        rintro now same accurate
        refine ⟨fun known equal => ?_, accurate.entries⟩
        cases equal
        exact uid.trans (congrArg Drive.root same.symm)

private theorem finds_getRoot (undisturbed : Undisturbed platform rules)
    (same : world.remote = drive) (accurate : Accurate platform world) :
    rules.Ensures (getRoot drive.root)
      (Finds platform rules drive fun found => found = drive.visit platform [] false) world :=
  finds_bind (finds_lookup undisturbed same accurate rfl fun reliable => reliable.rootNode)
    fun _ _ same accurate found => finds_pure same accurate found.1.symm

/-- A cached node that cannot be fetched is no hit. -/
private theorem finds_refetch (undisturbed : Undisturbed platform rules)
    (same : world.remote = drive) (accurate : Accurate platform world) {name : JsString}
    {cached : Resolved} {includeDrafts : Bool} {right : NodeEntity → Prop}
    (fits : ∀ node, drive.getNode cached.uid = some node →
      stillMatches platform name cached includeDrafts node = true → right node) :
    rules.Ensures (refetch platform name cached includeDrafts)
      (Finds platform rules drive fun hit => ∀ node, hit = some node → right node) world := by
  have fetched : rules.Ensures
      (do
        let node ← Program.request (SdkCall.getNode cached.uid)
        pure (if stillMatches platform name cached includeDrafts node then some node else none))
      (fun outcome now => now.remote = drive ∧ Accurate platform now ∧
        ∀ hit, outcome = .ok hit → ∀ node, hit = some node → right node) world := by
    refine (ensures_lookup undisturbed same accurate rfl).bind ?_ ?_
    · exact fun error now failed => ⟨failed.1, failed.2.1, fun _ equal => nomatch equal⟩
    · rintro node now ⟨same, accurate, truly, _⟩
      refine ⟨same, accurate, fun hit equal taken some => ?_⟩
      cases equal
      split at some
      · next still =>
          cases some
          exact fits node (truly node rfl) still
      · cases some
  refine fetched.tryCatch ?_ ?_
  · exact fun hit now served => ⟨served.1, served.2.1, served.2.2 hit rfl⟩
  · exact fun error now failed => finds_pure failed.1 failed.2.1 fun _ equal => nomatch equal

private theorem finds_resolveCached (undisturbed : Undisturbed platform rules)
    (same : world.remote = drive) (accurate : Accurate platform world) {name : JsString}
    {above : List JsString} (includeDrafts : Bool)
    (safe : ∀ s ∈ name :: above, isSafeSegment s = true) :
    rules.Ensures
      (resolveCached platform (absolute (name :: above).reverse) name includeDrafts)
      (Finds platform rules drive fun hit => ∀ node, hit = some node →
        drive.visit platform (name :: above) includeDrafts = some node) world := by
  refine finds_bind (finds_read undisturbed same accurate) ?_
  rintro memory reached same accurate ⟨before, rfl, sameBefore, accurateBefore⟩
  have nothing : ∀ node, (none : Option NodeEntity) = some node →
      drive.visit platform (name :: above) includeDrafts = some node := fun _ absurd => nomatch absurd
  cases found : before.memory.resolveCache.get (absolute (name :: above).reverse) with
  | none => exact finds_pure same accurate nothing
  | some cached =>
      dsimp only
      split
      · next live =>
          have right := accurateBefore.entries name above cached safe found live
          rw [sameBefore] at right
          refine finds_bind (finds_refetch undisturbed same accurate
            fun node fetched fits => right node includeDrafts fetched fits) ?_
          intro hit now same accurate fits
          cases hit with
          | some node => exact finds_pure same accurate fits
          | none =>
              exact finds_bind (finds_modify undisturbed same accurate
                fun now _ accurate => accurate.uncached _)
                fun _ _ same accurate _ => finds_pure same accurate nothing
      · exact finds_pure same accurate nothing

/-- The first item of a name, in a list of which only a beginning was yielded. -/
private theorem find_of_begins {items all : List NodeEntity} {test : NodeEntity → Bool}
    {item : NodeEntity} (beginning : items <+: all) (found : items.find? test = some item) :
    all.find? test = some item := by
  rcases beginning with ⟨rest, rfl⟩
  rw [List.find?_append, found]
  rfl

private theorem finds_resolveIn (undisturbed : Undisturbed platform rules)
    (same : world.remote = drive) (accurate : Accurate platform world) {name : JsString}
    {above : List JsString} {parent : NodeEntity} (includeDrafts : Bool)
    (safe : ∀ s ∈ name :: above, isSafeSegment s = true) (isFolder : parent.type = .folder)
    (walked : drive.visit platform above false = some parent) :
    rules.Ensures
      (resolveIn platform parent (absolute (name :: above).reverse) name includeDrafts)
      (Finds platform rules drive fun found =>
        found = drive.visit platform (name :: above) includeDrafts) world := by
  have visited : drive.visit platform (name :: above) includeDrafts =
      ((drive.children platform parent.uid).find? fun child =>
        platform.getName child = name).bind fun found =>
          if found.isDraft && !includeDrafts then none
          else if found.trashed then none
          else some found := by
    rw [Drive.visit, walked, Option.bind_some, if_neg (by simp [isFolder])]
  refine finds_bind (finds_lookup undisturbed same accurate rfl
    fun reliable => reliable.children _ _) ?_
  rintro children reached same accurate ⟨⟨beginning, complete⟩, final, answered⟩
  refine finds_bind (?_ : rules.Ensures (firstYielded _ children)
    (Finds platform rules drive fun found => found =
      (drive.children platform parent.uid).find? fun child => platform.getName child = name)
    reached) ?_
  · unfold firstYielded
    split
    · next item found =>
        exact finds_pure same accurate (find_of_begins beginning found).symm
    · next absent =>
        cases failure : children.failure with
        | some error =>
            refine ⟨same, accurate, by simp [Thrown.status], fun reliable => ?_⟩
            rw [reliable.complete _ _ _ _ answered] at failure
            cases failure
        | none => exact finds_pure same accurate (complete failure ▸ absent.symm)
  · rintro found reached same accurate rfl
    unfold takeChild
    rw [visited]
    cases named : (drive.children platform parent.uid).find?
        fun child => platform.getName child = name with
    | none => exact finds_pure same accurate rfl
    | some child =>
        simp only [Option.bind_some]
        split
        · exact finds_pure same accurate rfl
        · split
          · exact finds_pure same accurate rfl
          · next live =>
              refine finds_bind (finds_modify undisturbed same accurate
                fun now same accurate => accurate.cached safe ?_)
                fun _ _ same accurate _ => finds_pure same accurate rfl
              rw [same, Drive.visit_cons_eq_some]
              exact ⟨parent.uid, ⟨parent, by simpa using walked, isFolder, rfl⟩, named,
                fun _ => rfl, by simpa using live⟩

/-- Resolution by segments, by induction on them: the parent is what the tree
has above, so the child is what it has below. -/
private theorem finds_resolveSegments (undisturbed : Undisturbed platform rules)
    (segs : List JsString) (includeDrafts : Bool)
    (safe : ∀ s ∈ segs, isSafeSegment s = true)
    (same : world.remote = drive) (accurate : Accurate platform world) :
    rules.Ensures (resolveSegments platform segs includeDrafts)
      (Finds platform rules drive fun found =>
        found = drive.visit platform segs includeDrafts) world := by
  induction segs generalizing includeDrafts world with
  | nil =>
      refine finds_bind (finds_getRootUid undisturbed same accurate) ?_
      rintro _ reached same accurate rfl
      exact finds_getRoot undisturbed same accurate
  | cons name above induction =>
      have safeAbove : ∀ s ∈ above, isSafeSegment s = true :=
        fun s member => safe s (List.mem_cons_of_mem name member)
      refine finds_bind (finds_getRootUid undisturbed same accurate) ?_
      rintro _ reached same accurate rfl
      refine finds_bind (finds_resolveCached undisturbed same accurate includeDrafts safe) ?_
      intro hit reached same accurate served
      cases hit with
      | some node => exact finds_pure same accurate (served node rfl).symm
      | none =>
          have parent : rules.Ensures
              (folderAbove drive.root (resolveSegments platform above false) above)
              (Finds platform rules drive fun found =>
                found = drive.visit platform above false) reached := by
            cases above with
            | nil => exact finds_getRoot undisturbed same accurate
            | cons next rest => exact induction false safeAbove same accurate
          refine finds_bind parent ?_
          rintro found reached same accurate rfl
          cases walked : drive.visit platform above false with
          | none =>
              refine finds_pure same accurate ?_
              rw [Drive.visit, walked, Option.bind_none]
          | some folder =>
              simp only [resolveBelow]
              split
              · next notFolder =>
                  refine finds_pure same accurate ?_
                  rw [Drive.visit, walked, Option.bind_some, if_pos notFolder]
              · next isFolder =>
                  exact finds_resolveIn undisturbed same accurate includeDrafts safe
                    (Decidable.of_not_not isFolder) walked

/-- Undisturbed, and from an accurate memory, a path resolves to what the tree
has there, and fails only if a lookup does. -/
theorem finds_resolve (undisturbed : Undisturbed platform rules) {path : JsString}
    (includeDrafts : Bool) (safe : (segments path).all isSafeSegment = true)
    (same : world.remote = drive) (accurate : Accurate platform world) :
    rules.Ensures (resolve platform path includeDrafts)
      (Finds platform rules drive fun found =>
        found = drive.nodeAt platform path includeDrafts) world := by
  rw [resolve, if_pos safe, Drive.nodeAt, if_pos safe]
  refine finds_resolveSegments undisturbed _ includeDrafts (fun s member => ?_) same accurate
  exact List.all_eq_true.mp safe s (List.mem_reverse.mp member)

/-- The same of any path: one with an invalid segment is refused. -/
theorem ensures_resolve (undisturbed : Undisturbed platform rules) (path : JsString)
    (includeDrafts : Bool) (same : world.remote = drive) (accurate : Accurate platform world) :
    rules.Ensures (resolve platform path includeDrafts) (fun outcome reached =>
      reached.remote = drive ∧ Accurate platform reached ∧
        match outcome with
        | .ok found => found = drive.nodeAt platform path includeDrafts
        | .error error => 400 ≤ error.status) world := by
  by_cases safe : (segments path).all isSafeSegment = true
  · refine (finds_resolve undisturbed includeDrafts safe same accurate).mono ?_
    rintro outcome reached ⟨same, accurate, found⟩
    cases outcome with
    | ok node => exact ⟨same, accurate, found⟩
    | error error => exact ⟨same, accurate, found.1⟩
  · rw [resolve, if_neg safe]
    exact ⟨same, accurate, by simp [Thrown.status, GatewayError.plain]⟩

end Finds

end DriveWebdav
