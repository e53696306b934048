import DriveWebdav.Drive.Places
import DriveWebdav.SdkGateway.Calls
import DriveWebdav.SdkGateway.Lookup

/-! # What cached paths rest on

A hit looks at the node and at its parent, and at nothing above. So an entry of the path cache is
right for as long as the folder it was recorded under stays where it was. -/

namespace DriveWebdav

/-- The folder an entry rests on, and where it is to lie: the recorded parent, or the node itself
where no parent is recorded. -/
def Resolved.place (key : JsString) (cached : Resolved) : List JsString × Uid :=
  match cached.parentUid with
  | some parent => ((segments key).dropLast, parent)
  | none => (segments key, cached.uid)

/-- Every entry that has not expired rests on a folder that stays. -/
structure Anchored (platform : Platform) (world : ServiceWorld) : Prop where
  proper : world.remote.Proper platform
  root : ∀ uid, world.memory.rootUid = some uid → uid = world.remote.root
  entries : ∀ key cached, world.memory.resolveCache.get key = some cached →
    world.memory.now < cached.expiresAt →
      world.remote.Stays platform (cached.place key).1 (cached.place key).2

namespace Anchored

variable {platform : Platform} {world : ServiceWorld} {memory : ServiceMemory} {drive : Drive}

theorem initial (now : Nat) (proper : drive.Proper platform) :
    Anchored platform ⟨.initial now, drive⟩ where
  proper := proper
  root := by
    intro uid known
    cases known
  entries := by
    intro key cached found
    cases found

/-- What an anchored cache would serve is what the tree has at the path. -/
theorem accurate (anchored : Anchored platform world) : Accurate platform world where
  root := anchored.root
  entries := by
    intro name above cached safe found live node includeDrafts fetched fits
    have stays := anchored.entries _ cached found live
    have pieces : segments (absolute (name :: above).reverse) = (name :: above).reverse :=
      segments_absolute fun s member =>
        isSegment_of_isSafeSegment (safe s (List.mem_reverse.mp member))
    have uid := Drive.uid_of_getNode fetched
    rw [← uid] at fetched
    rcases fits_of_stillMatches fits with ⟨rfl, parents, untrashed, committed⟩
    unfold Resolved.place at stays
    cases recorded : cached.parentUid with
    | some parent =>
        rw [recorded] at stays
        rw [pieces, List.reverse_cons, List.dropLast_concat] at stays
        have visited := stays.visit_child anchored.proper.unique fetched
          (parents parent recorded) untrashed committed
        rwa [List.reverse_reverse] at visited
    | none =>
        rw [recorded, ← uid] at stays
        rw [pieces] at stays
        have visited := stays.visit_self fetched untrashed includeDrafts
        rwa [List.reverse_reverse] at visited

/-- Memory may lose entries and gain such as rest on folders that stay. -/
theorem recorded (anchored : Anchored platform world)
    (root : ∀ uid, memory.rootUid = some uid → uid = world.remote.root)
    (later : world.memory.now ≤ memory.now)
    (entries : ∀ key cached, memory.resolveCache.get key = some cached →
      world.memory.resolveCache.get key = some cached ∨
        world.remote.Stays platform (cached.place key).1 (cached.place key).2) :
    Anchored platform ⟨memory, world.remote⟩ where
  proper := anchored.proper
  root := root
  entries := by
    intro key cached found live
    rcases entries key cached found with before | stays
    · exact anchored.entries key cached before (Nat.lt_of_le_of_lt later live)
    · exact stays

theorem fewer (anchored : Anchored platform world) {fewer : ServiceMemory}
    (drops : world.memory.Fewer fewer) : Anchored platform ⟨fewer, world.remote⟩ :=
  anchored.recorded (fun uid known => anchored.root uid (drops.1 ▸ known)) (drops.2.1 ▸ Nat.le_refl _)
    fun key cached found => .inl (drops.2.2 key cached found)

theorem waits {now : ServiceWorld} (anchored : Anchored platform world)
    (waited : Waits world now) : Anchored platform now := by
  rcases now with ⟨memory, remote⟩
  rcases waited with ⟨rfl, time, later, rfl⟩
  exact anchored.recorded anchored.root later fun _ _ found => .inl found

/-- A child may be recorded under a folder that stays. -/
theorem cachePath (anchored : Anchored platform world) {path : JsString} {uid parent : Uid}
    (stays : world.remote.Stays platform (segments path).dropLast parent) :
    Anchored platform ⟨DriveWebdav.cachePath path uid (some parent) world.memory, world.remote⟩ := by
  refine anchored.recorded anchored.root (Nat.le_refl _) ?_
  intro key cached found
  rcases InsertionMap.get_set_eq_some found with ⟨rfl, rfl⟩ | ⟨_, before⟩
  · exact .inr stays
  · split at before
    · exact .inl (InsertionMap.get_of_get_dropOldest before)
    · exact .inl before

/-- A new folder may be recorded without its parent. -/
theorem cacheCreated (anchored : Anchored platform world) {path : JsString} {uid : Uid}
    (stays : world.remote.Stays platform (segments path) uid) :
    Anchored platform ⟨DriveWebdav.cacheCreated path uid world.memory, world.remote⟩ := by
  refine anchored.recorded anchored.root (Nat.le_refl _) ?_
  intro key cached found
  rcases InsertionMap.get_set_eq_some found with ⟨rfl, rfl⟩ | ⟨_, before⟩
  · exact .inr stays
  · exact .inl before

/-- The tree may change in every way that leaves the folders that entries rest on. -/
theorem becomes (anchored : Anchored platform world) {after : Drive}
    (change : Drive.Becomes platform world.remote after)
    (left : ∀ segs uid, Drive.Leaves platform world.remote after segs uid →
      ∀ key cached, world.memory.resolveCache.get key = some cached →
        world.memory.now < cached.expiresAt → cached.place key ≠ (segs, uid)) :
    Anchored platform ⟨world.memory, after⟩ where
  proper := change.proper
  root := fun uid known => (anchored.root uid known).trans change.root.symm
  entries := by
    intro key cached found live
    apply (anchored.entries key cached found live).becomes change
    exact fun leaves => left _ _ leaves key cached found live rfl

end Anchored

/-! ## Lookups that others disturb -/

/-- Rules under which the cache stays anchored: the folders that lie `near` stay under
interference, and lookups answer from the tree. -/
structure Anchoring (platform : Platform)
    (rules : Rules ServiceMemory SdkCall SdkAnswer Thrown Drive) (near : List JsString → Prop) :
    Prop where
  invariant : ∀ world, rules.invariant world → Anchored platform world
  guarantee : ∀ world memory, Anchored platform ⟨memory, world.remote⟩ →
    rules.guarantee world ⟨memory, world.remote⟩
  permits : ∀ world command, rules.permits world command
  above : ∀ segs more, near (segs ++ more) → near segs
  root : ∀ world now, rules.interference world now → now.remote.root = world.remote.root
  stays : ∀ world now, rules.interference world now → ∀ segs uid, near segs →
    world.remote.Stays platform segs uid → now.remote.Stays platform segs uid
  lookups : ∀ drive command answer final, command.isLookup = true →
    rules.service drive command answer final →
      final = drive ∧ ∀ value, answer = .ok value → AnswersTruly platform drive command value

/-- The folders that lie `near` have stayed, and a value that is returned is `good`. -/
def Looks {α : Type} (platform : Platform) (near : List JsString → Prop) (world : ServiceWorld)
    (good : α → ServiceWorld → Prop) (outcome : Except Thrown α) (reached : ServiceWorld) : Prop :=
  (reached.remote.root = world.remote.root ∧ ∀ segs uid, near segs →
    world.remote.Stays platform segs uid → reached.remote.Stays platform segs uid) ∧
  ∀ value, outcome = .ok value → good value reached

/-- A node that was found at the segments: if it is a folder, it stays there. -/
def FoundAt (platform : Platform) (near : List JsString → Prop) (segs : List JsString)
    (found : Option NodeEntity) (reached : ServiceWorld) : Prop :=
  ∀ node, found = some node → node.type = .folder → near segs →
    reached.remote.Stays platform segs node.uid

section

variable {platform : Platform} {rules : Rules ServiceMemory SdkCall SdkAnswer Thrown Drive}
  {near : List JsString → Prop} {world : ServiceWorld} {α β : Type}
  {good : α → ServiceWorld → Prop} {better : β → ServiceWorld → Prop}

theorem looks_pure {value : α} (fits : good value world) :
    rules.Ensures (pure value : SdkOperation α) (Looks platform near world good) world := by
  refine ⟨⟨rfl, fun _ _ _ stays => stays⟩, ?_⟩
  intro returned same
  cases same
  exact fits

/-- Whoever fails leaves the folders and promises no value. -/
theorem looks_fail (error : Thrown) :
    rules.Ensures (.fail error : SdkOperation α) (Looks platform near world good) world :=
  ⟨⟨rfl, fun _ _ _ stays => stays⟩, nofun⟩

theorem looks_bind {program : SdkOperation α} {next : α → SdkOperation β}
    (first : rules.Ensures program (Looks platform near world good) world)
    (rest : ∀ value reached, reached.remote.root = world.remote.root →
      (∀ segs uid, near segs → world.remote.Stays platform segs uid →
        reached.remote.Stays platform segs uid) → good value reached →
      rules.Ensures (next value) (Looks platform near reached better) reached) :
    rules.Ensures (program >>= next) (Looks platform near world better) world := by
  apply first.bind
  · intro error reached looked
    exact ⟨looked.1, nofun⟩
  · intro value reached looked
    have fits := looked.2 value rfl
    apply (rest value reached looked.1.1 looked.1.2 fits).mono
    intro outcome final ended
    refine ⟨⟨ended.1.1.trans looked.1.1, ?_⟩, ended.2⟩
    exact fun segs uid inside stays => ended.1.2 segs uid inside (looked.1.2 segs uid inside stays)

/-- The child that an iteration found has the name, and nothing has been awaited for it. -/
theorem looks_firstYielded (name : JsString) (children : Yielded NodeEntity) :
    rules.Ensures
      (firstYielded (fun child => platform.getName child = name) children :
        SdkOperation (Option NodeEntity))
      (Looks platform near world fun found reached => ∀ node, found = some node →
        reached.remote = world.remote ∧ node ∈ children.items ∧ platform.getName node = name)
      world := by
  unfold firstYielded
  split
  · next item found =>
      have named := List.find?_some found
      apply looks_pure
      intro node same
      cases same
      exact ⟨rfl, List.mem_of_find?_eq_some found, of_decide_eq_true named⟩
  · split
    · exact looks_fail _
    · apply looks_pure
      intro node absent
      cases absent

variable (anchoring : Anchoring platform rules near)
include anchoring

theorem looks_read : rules.Ensures (Program.read : SdkOperation ServiceMemory)
    (Looks platform near world fun memory reached =>
      memory = reached.memory ∧ Anchored platform reached) world := by
  apply Rules.ensures_read.mpr
  intro now holds between
  have anchored := anchoring.invariant now holds
  refine ⟨anchoring.guarantee now now.memory anchored, ⟨?_, ?_⟩, ?_⟩
  · exact anchoring.root world now between
  · exact anchoring.stays world now between
  · intro memory same
    cases same
    exact ⟨rfl, anchored⟩

theorem looks_modify {change : ServiceMemory → ServiceMemory} {fits : ServiceWorld → Prop}
    (keeps : ∀ now : ServiceWorld, Anchored platform now →
      now.remote.root = world.remote.root →
      (∀ segs uid, near segs → world.remote.Stays platform segs uid →
        now.remote.Stays platform segs uid) →
      Anchored platform ⟨change now.memory, now.remote⟩ ∧ fits ⟨change now.memory, now.remote⟩) :
    rules.Ensures (Program.modify change : SdkOperation Unit)
      (Looks platform near world fun _ => fits) world := by
  apply Rules.ensures_modify.mpr
  intro now holds between
  have root := anchoring.root world now between
  have stays := anchoring.stays world now between
  have kept := keeps now (anchoring.invariant now holds) root stays
  exact ⟨anchoring.guarantee now _ kept.1, ⟨root, stays⟩, fun _ _ => kept.2⟩

theorem looks_drop {change : ServiceMemory → ServiceMemory}
    (drops : ∀ memory, ServiceMemory.Fewer memory (change memory)) :
    rules.Ensures (Program.modify change : SdkOperation Unit)
      (Looks platform near world fun _ _ => True) world :=
  looks_modify anchoring fun now anchored _ _ => ⟨anchored.fewer (drops now.memory), trivial⟩

/-- A lookup is answered from the tree as it then is. -/
theorem looks_lookup {command : SdkCall} (lookup : command.isLookup = true) :
    rules.Ensures (Program.request command : SdkOperation _)
      (Looks platform near world fun value reached =>
        reached.remote.Proper platform ∧ AnswersTruly platform reached.remote command value)
      world := by
  apply Rules.ensures_request.mpr
  intro now holds between
  refine ⟨anchoring.permits now command, ?_⟩
  intro answer remote answered
  rcases anchoring.lookups _ _ _ _ lookup answered with ⟨rfl, truly⟩
  refine ⟨⟨anchoring.root world now between, anchoring.stays world now between⟩, ?_⟩
  exact fun value same => ⟨(anchoring.invariant now holds).proper, truly value same⟩

theorem looks_getRootUid : rules.Ensures (getRootUid platform)
    (Looks platform near world fun uid reached => uid = reached.remote.root) world := by
  apply looks_bind (looks_read anchoring)
  rintro memory reached _ _ ⟨rfl, anchored⟩
  cases known : reached.memory.rootUid with
  | some uid => exact looks_pure (anchored.root uid known)
  | none =>
      apply looks_bind (looks_lookup anchoring rfl)
      rintro node looked _ _ ⟨_, found⟩
      have uid := Drive.uid_of_getNode found
      split
      · exact looks_fail _
      · have recorded : rules.Ensures
            (Program.modify fun memory => { memory with rootUid := some node.uid } :
              SdkOperation Unit)
            (Looks platform near looked fun _ now => node.uid = now.remote.root) looked := by
          apply looks_modify anchoring
          intro now anchored root _
          have same : node.uid = now.remote.root := uid.trans root.symm
          refine ⟨anchored.recorded ?_ (Nat.le_refl _) fun _ _ found => .inl found, same⟩
          intro known equal
          cases equal
          exact same
        apply looks_bind recorded
        exact fun _ _ _ _ same => looks_pure same

theorem looks_getRoot {rootUid : Uid} (same : rootUid = world.remote.root) :
    rules.Ensures (getRoot rootUid) (Looks platform near world (FoundAt platform near [])) world := by
  have asked : rules.Ensures (Program.request (SdkCall.getNode rootUid) : SdkOperation _)
      (Looks platform near world fun node now => node.type = .folder →
        now.remote.Stays platform [] node.uid) world := by
    apply Rules.ensures_request.mpr
    intro now holds between
    refine ⟨anchoring.permits now _, ?_⟩
    intro answer remote answered
    rcases anchoring.lookups _ _ _ _ rfl answered with ⟨rfl, truly⟩
    have root := anchoring.root world now between
    refine ⟨⟨root, anchoring.stays world now between⟩, ?_⟩
    intro node returned isFolder
    have found : now.remote.getNode rootUid = some node := truly node returned
    rw [same, ← root] at found
    exact .inl ⟨node, found, isFolder, rfl⟩
  apply looks_bind asked
  intro node reached _ _ stays
  apply looks_pure
  intro found equal isFolder _
  cases equal
  exact stays isFolder

/-- A hit is what the entry rests on, as long as that stays. -/
theorem looks_resolveCached {name : JsString} {above : List JsString} (includeDrafts : Bool)
    (safe : ∀ s ∈ name :: above, isSafeSegment s = true) (within : near above.reverse) :
    rules.Ensures (resolveCached platform (absolute (name :: above).reverse) name includeDrafts)
      (Looks platform near world (FoundAt platform near (name :: above).reverse)) world := by
  have nothing : ∀ now, FoundAt platform near (name :: above).reverse none now := by
    intro now node absent
    cases absent
  have pieces : segments (absolute (name :: above).reverse) = (name :: above).reverse :=
    segments_absolute fun s member =>
      isSegment_of_isSafeSegment (safe s (List.mem_reverse.mp member))
  apply looks_bind (looks_read anchoring)
  rintro memory before _ _ ⟨rfl, anchored⟩
  cases found : before.memory.resolveCache.get (absolute (name :: above).reverse) with
  | none => exact looks_pure (nothing _)
  | some cached =>
      dsimp only
      split
      · next live =>
          have rests := anchored.entries _ cached found live
          have fetched : rules.Ensures (refetch platform name cached includeDrafts)
              (Looks platform near before (FoundAt platform near (name :: above).reverse))
              before := by
            have asked : rules.Ensures
                (do
                  let node ← Program.request (SdkCall.getNode cached.uid)
                  pure (if stillMatches platform name cached includeDrafts node then some node
                    else none))
                (Looks platform near before (FoundAt platform near (name :: above).reverse))
                before := by
              apply looks_bind (looks_lookup anchoring rfl)
              rintro node reached _ stays ⟨proper, answered⟩
              apply looks_pure
              intro hit equal isFolder inside
              split at equal
              · next fits =>
                  cases equal
                  have uid := Drive.uid_of_getNode answered
                  have again : reached.remote.getNode node.uid = some node := by
                    rw [uid]
                    exact answered
                  rcases fits_of_stillMatches fits with ⟨rfl, parents, untrashed, committed⟩
                  unfold Resolved.place at rests
                  cases recorded : cached.parentUid with
                  | some parent =>
                      rw [recorded] at rests
                      dsimp only at rests
                      rw [pieces, List.reverse_cons, List.dropLast_concat] at rests
                      rw [List.reverse_cons]
                      exact (stays _ _ within rests).folder proper.unique again
                        (parents parent recorded) untrashed isFolder
                  | none =>
                      rw [recorded, pieces] at rests
                      rw [uid]
                      exact stays _ _ inside rests
              · cases equal
            apply asked.tryCatch
            · exact fun value reached looked => looked
            · intro error reached looked
              refine ⟨looked.1, ?_⟩
              intro value same
              cases same
              exact nothing _
          apply looks_bind fetched
          intro hit reached _ _ at_
          cases hit with
          | some node => exact looks_pure at_
          | none =>
              apply looks_bind (looks_drop anchoring (ServiceMemory.fewer_uncache _))
              exact fun _ _ _ _ _ => looks_pure (nothing _)
      · exact looks_pure (nothing _)

/-- A child that is found is recorded under a folder that stays. -/
theorem looks_resolveIn {name : JsString} {above : List JsString} {parent : NodeEntity}
    (includeDrafts : Bool) (safe : ∀ s ∈ name :: above, isSafeSegment s = true)
    (within : near above.reverse)
    (stays : world.remote.Stays platform above.reverse parent.uid) :
    rules.Ensures
      (resolveIn platform parent (absolute (name :: above).reverse) name includeDrafts)
      (Looks platform near world (FoundAt platform near (name :: above).reverse)) world := by
  have pieces : segments (absolute (name :: above).reverse) = (name :: above).reverse :=
    segments_absolute fun s member =>
      isSegment_of_isSafeSegment (safe s (List.mem_reverse.mp member))
  have nothing : ∀ now, FoundAt platform near (name :: above).reverse none now := by
    intro now node absent
    cases absent
  apply looks_bind (looks_lookup anchoring rfl)
  rintro children listed _ kept ⟨proper, answered⟩
  have home := kept _ _ within stays
  apply looks_bind (looks_firstYielded name children)
  intro found reached _ _ chosen
  unfold takeChild
  split
  · exact looks_pure (nothing _)
  · next child =>
      rcases chosen child rfl with ⟨same, member, rfl⟩
      split
      · exact looks_pure (nothing _)
      · split
        · exact looks_pure (nothing _)
        · next live =>
            have inside := Drive.mem_children.mp (answered.1.subset member)
            have recorded : rules.Ensures
                (Program.modify (cachePath (absolute (platform.getName child :: above).reverse)
                  child.uid (some parent.uid)) : SdkOperation Unit)
                (Looks platform near reached fun _ => FoundAt platform near
                  (platform.getName child :: above).reverse (some child)) reached := by
              apply looks_modify anchoring
              intro now anchored _ stayed
              rw [same] at stayed
              constructor
              · apply anchored.cachePath
                rw [pieces, List.reverse_cons, List.dropLast_concat]
                exact stayed _ _ within home
              · intro node equal isFolder here
                cases equal
                apply stayed _ _ here
                rw [List.reverse_cons]
                exact home.folder proper.unique inside.1 inside.2.1 (by simpa using live) isFolder
            apply looks_bind recorded
            exact fun _ _ _ _ at_ => looks_pure at_

/-- By induction on the segments: while the folders above stay, what is found below them may
be recorded. -/
theorem looks_resolveSegments (names : List JsString) (includeDrafts : Bool)
    (safe : ∀ s ∈ names, isSafeSegment s = true) (within : near names.reverse.dropLast) :
    rules.Ensures (resolveSegments platform names includeDrafts)
      (Looks platform near world (FoundAt platform near names.reverse)) world := by
  induction names generalizing includeDrafts world with
  | nil =>
      apply looks_bind (looks_getRootUid anchoring)
      exact fun uid reached _ _ same => looks_getRoot anchoring same
  | cons name above induction =>
      have nothing : ∀ now, FoundAt platform near (name :: above).reverse none now := by
        intro now node absent
        cases absent
      rw [List.reverse_cons, List.dropLast_concat] at within
      have safeAbove : ∀ s ∈ above, isSafeSegment s = true :=
        fun s member => safe s (List.mem_cons_of_mem name member)
      apply looks_bind (looks_getRootUid anchoring)
      intro rootUid rooted _ _ root
      apply looks_bind (looks_resolveCached anchoring includeDrafts safe within)
      intro hit missed sameRoot _ served
      cases hit with
      | some node => exact looks_pure served
      | none =>
          have parent : rules.Ensures
              (folderAbove rootUid (resolveSegments platform above false) above)
              (Looks platform near missed (FoundAt platform near above.reverse)) missed := by
            cases above with
            | nil => exact looks_getRoot anchoring (root.trans sameRoot.symm)
            | cons next rest =>
                apply induction false safeAbove
                rw [List.reverse_cons, List.dropLast_concat]
                rw [List.reverse_cons] at within
                exact anchoring.above _ _ within
          apply looks_bind parent
          intro found reached _ _ lies
          unfold resolveBelow
          split
          · exact looks_pure (nothing _)
          · next folder =>
              split
              · exact looks_pure (nothing _)
              · next isFolder =>
                  have stays := lies folder rfl (Decidable.of_not_not isFolder) within
                  exact looks_resolveIn anchoring includeDrafts safe within stays

/-- A path resolves to a folder that stays there, as far as the folders above it do. -/
theorem looks_resolve {path : JsString} (includeDrafts : Bool)
    (within : near (segments path).dropLast) :
    rules.Ensures (resolve platform path includeDrafts)
      (Looks platform near world (FoundAt platform near (segments path))) world := by
  unfold resolve
  split
  · next safe =>
      have names : ∀ s ∈ (segments path).reverse, isSafeSegment s = true :=
        fun s member => List.all_eq_true.mp safe s (List.mem_reverse.mp member)
      rw [← List.reverse_reverse (segments path)] at within
      have looked : rules.Ensures
          (resolveSegments platform (segments path).reverse includeDrafts)
          (Looks platform near world (FoundAt platform near (segments path).reverse.reverse))
          world := looks_resolveSegments anchoring _ includeDrafts names within
      rwa [List.reverse_reverse] at looked
  · exact looks_fail _

end

end DriveWebdav
