import DriveWebdav.SdkGateway.PathViews
import DriveWebdav.SdkGateway.Store

/-! # Lookups in a steady world

Whatever an operation of the gateway only reads, it finds what the tree has, and leaves the memory
right about it. -/

namespace DriveWebdav

variable {platform : Platform} {world : ServiceWorld} {drive : Drive} {α β : Type}

/-! ## Changes that keep a world steady -/

theorem Steady.waits {now : ServiceWorld} (steady : Steady platform world)
    (waited : Waits world now) : Steady platform now where
  anchored := steady.anchored.waits waited
  normal := by
    rcases waited with ⟨_, time, _, same⟩
    rw [same]
    exact steady.normal
  sound := by
    rw [waited.1]
    exact steady.sound

theorem Anchored.spared {spared : List JsString → Prop} {after : Drive} {memory : ServiceMemory}
    (anchored : Anchored platform world) (sound : world.remote.Sound platform)
    (spares : Drive.Spares platform spared world.remote after)
    (above : ∀ q, spared q → spared q.dropLast) (fewer : world.memory.Fewer memory)
    (only : ∀ key cached, memory.resolveCache.get key = some cached → spared (segments key)) :
    Anchored platform ⟨memory, after⟩ where
  proper := spares.sound.proper
  root := by
    intro uid known
    rw [fewer.1] at known
    exact (anchored.root uid known).trans spares.root.symm
  entries := by
    intro key cached found live
    rw [fewer.2.1] at live
    have before := anchored.entries key cached (fewer.2.2 key cached found) live
    rcases before with lies | ⟨⟨stored, located, trashed⟩, _⟩
    · apply Or.inl
      apply spares.folders _ _ _ lies
      unfold Resolved.place
      cases cached.parentUid with
      | none => exact only key cached found
      | some parent => exact above _ (only key cached found)
    · rw [sound.plain.untrashed _ _ located] at trashed
      cases trashed

theorem Steady.spared {spared : List JsString → Prop} {after : Drive} {memory : ServiceMemory}
    (steady : Steady platform world)
    (spares : Drive.Spares platform spared world.remote after)
    (above : ∀ q, spared q → spared q.dropLast) (fewer : world.memory.Fewer memory)
    (only : ∀ key cached, memory.resolveCache.get key = some cached → spared (segments key)) :
    Steady platform ⟨memory, after⟩ where
  anchored := steady.anchored.spared steady.sound spares above fewer only
  normal key cached found := steady.normal key cached (fewer.2.2 key cached found)
  sound := spares.sound

theorem ServiceMemory.Fewer.refl (memory : ServiceMemory) : memory.Fewer memory :=
  ⟨rfl, rfl, fun _ _ found => found⟩

/-- A change that spares every folder leaves the memory right. -/
theorem Steady.becomes {after : Drive} (steady : Steady platform world)
    (spares : Drive.Spares platform (fun _ => True) world.remote after) :
    Steady platform ⟨world.memory, after⟩ :=
  steady.spared spares (fun _ _ => trivial) (.refl _) fun _ _ _ => trivial

theorem Steady.invalidated (steady : Steady platform world) (path : JsString) :
    Steady platform ⟨invalidate path world.memory, world.remote⟩ := by
  have spares : Drive.Spares platform (fun _ => True) world.remote world.remote :=
    steady.sound.spares
  exact steady.spared spares (fun _ _ => trivial) (ServiceMemory.fewer_invalidate path world.memory)
    fun _ _ _ => trivial

/-- A change that takes away what is at a path and below it is right once the path is
invalidated. -/
theorem Steady.without {after : Drive} {path : JsString} (steady : Steady platform world)
    (inside : segments path ≠ [])
    (spares : Drive.Spares platform (fun q => ¬segments path <+: q) world.remote after) :
    Steady platform ⟨invalidate path world.memory, after⟩ := by
  apply steady.spared spares _ (ServiceMemory.fewer_invalidate path world.memory)
  · intro key cached found begins
    rcases (InsertionMap.get_filter _ _ _ _).mp found with ⟨before, kept⟩
    have below := (isAtOrBelow_iff inside (steady.normal key cached before)).mpr begins
    rw [below] at kept
    cases kept
  · exact fun q apart begins => apart (begins.trans (List.dropLast_prefix q))

/-! ## Keys in their normal form -/

/-- Rules under which operations that only read keep the keys of the cache normal. -/
def keyRules (platform : Platform) : Rules ServiceMemory SdkCall SdkAnswer Thrown Drive where
  service := storeService platform
  invariant world := world.memory.Normal
  interference := Waits
  guarantee world changed := changed.remote = world.remote ∧ changed.memory.Normal
  permits _ command := command.changesTree = false
  interference_refl := waits_refl
  interference_trans := waits_trans

theorem ServiceMemory.Normal.fewer {memory fewer : ServiceMemory} (normal : memory.Normal)
    (drops : memory.Fewer fewer) : fewer.Normal :=
  fun key cached found => normal key cached (drops.2.2 key cached found)

theorem ServiceMemory.Normal.cachePath {memory : ServiceMemory} (normal : memory.Normal)
    {path : JsString} (here : normalize path = path) (uid : Uid) (parent : Option Uid) :
    (cachePath path uid parent memory).Normal := by
  intro key cached found
  rcases InsertionMap.get_set_eq_some found with ⟨rfl, _⟩ | ⟨_, before⟩
  · exact here
  · split at before
    · exact normal key cached (InsertionMap.get_of_get_dropOldest before)
    · exact normal key cached before

namespace Makes

theorem drop {change : ServiceMemory → ServiceMemory}
    (drops : ∀ memory, ServiceMemory.Fewer memory (change memory)) :
    Makes (keyRules platform) (Program.modify change : SdkOperation _) :=
  fun _ => Rules.ensures_modify.mpr fun _ normal _ =>
    ⟨⟨rfl, normal.fewer (drops _)⟩, trivial⟩

theorem record {path : JsString} (here : normalize path = path) (uid : Uid)
    (parent : Option Uid) :
    Makes (keyRules platform) (Program.modify (cachePath path uid parent) : SdkOperation _) :=
  fun _ => Rules.ensures_modify.mpr fun _ normal _ =>
    ⟨⟨rfl, normal.cachePath here uid parent⟩, trivial⟩

theorem look : Makes (keyRules platform) (Program.read : SdkOperation _) :=
  fun _ => Rules.ensures_read.mpr fun _ normal _ => ⟨⟨rfl, normal⟩, trivial⟩

theorem ask {command : SdkCall} (reads : command.changesTree = false) :
    Makes (keyRules platform) (Program.request command : SdkOperation _) :=
  Makes.request fun _ => reads

end Makes

theorem normalKeys_getRootUid : Makes (keyRules platform) (getRootUid platform) := by
  apply Makes.look.bind
  intro memory
  split
  · exact .pure _
  · apply (Makes.ask rfl).bind
    intro node
    split
    · exact .reject _
    · have records : Makes (keyRules platform) (Program.modify fun memory : ServiceMemory =>
          { memory with rootUid := some node.uid } : SdkOperation _) :=
        fun _ => Rules.ensures_modify.mpr fun _ normal _ => ⟨⟨rfl, normal⟩, trivial⟩
      exact records.bind fun _ => .pure _

theorem normalKeys_resolveCached (path name : JsString) (includeDrafts : Bool) :
    Makes (keyRules platform) (resolveCached platform path name includeDrafts) := by
  apply Makes.look.bind
  intro memory
  split
  · exact .pure _
  · split
    · apply Makes.bind
      · apply Makes.tryCatch
        · exact (Makes.ask rfl).bind fun _ => .pure _
        · exact fun _ => .pure _
      · intro hit
        cases hit with
        | none =>
            exact (Makes.drop (ServiceMemory.fewer_uncache path)).bind fun _ => .pure _
        | some node => exact .pure _
    · exact .pure _

theorem normalKeys_resolveBelow {path : JsString} (here : normalize path = path)
    (name : JsString) (includeDrafts : Bool) (parent : Option NodeEntity) :
    Makes (keyRules platform) (resolveBelow platform path name includeDrafts parent) := by
  unfold resolveBelow
  split
  · exact .pure _
  · split
    · exact .pure _
    · apply (Makes.ask rfl).bind
      intro children
      apply Makes.bind
      · unfold firstYielded
        split
        · exact .pure _
        · split
          · exact .throw _
          · exact .pure _
      · intro found
        unfold takeChild
        split
        · exact .pure _
        · split
          · exact .pure _
          · split
            · exact .pure _
            · exact (Makes.record here _ _).bind fun _ => .pure _

theorem normalKeys_getRoot (rootUid : Uid) : Makes (keyRules platform) (getRoot rootUid) :=
  (Makes.ask rfl).bind fun _ => .pure _

/-- What is recorded for a list of safe names is recorded under its path. -/
theorem normalKeys_resolveSegments (names : List JsString) (includeDrafts : Bool)
    (safe : ∀ s ∈ names, isSafeSegment s = true) :
    Makes (keyRules platform) (resolveSegments platform names includeDrafts) := by
  induction names generalizing includeDrafts with
  | nil => exact normalKeys_getRootUid.bind fun _ => normalKeys_getRoot _
  | cons name above induction =>
      have here : normalize (absolute (name :: above).reverse) = absolute (name :: above).reverse := by
        rw [normalize, segments_absolute]
        exact fun s member => isSegment_of_isSafeSegment (safe s (List.mem_reverse.mp member))
      apply normalKeys_getRootUid.bind
      intro rootUid
      apply (normalKeys_resolveCached _ _ _).bind
      intro hit
      cases hit with
      | some node => exact .pure _
      | none =>
          apply Makes.bind
          · cases above with
            | nil => exact normalKeys_getRoot _
            | cons next rest =>
                exact induction false fun s member => safe s (List.mem_cons_of_mem name member)
          · exact fun _ => normalKeys_resolveBelow here _ _ _

theorem normalKeys_resolve (path : JsString) (includeDrafts : Bool) :
    Makes (keyRules platform) (resolve platform path includeDrafts) := by
  unfold resolve
  split
  · next safe =>
      exact normalKeys_resolveSegments _ _ fun s member =>
        List.all_eq_true.mp safe s (List.mem_reverse.mp member)
  · exact .reject _

theorem tolerant_keyRules : Tolerant platform (keyRules platform) fun _ => True where
  drops _ _ normal drops := ⟨rfl, normal.fewer drops⟩
  reads _ _ reads := reads
  resolves path includeDrafts _ := normalKeys_resolve path includeDrafts
  normalize _ _ := trivial
  parent _ _ := trivial

theorem normalKeys_listEntries (path : JsString) (parent : Uid) (children : List NodeEntity)
    (seen : List JsString) :
    Makes (keyRules platform) (listEntries platform path parent children seen) := by
  induction children generalizing seen with
  | nil => exact .pure _
  | cons child rest induction =>
      unfold listEntries
      split
      · exact induction seen
      · next entry _ =>
          split
          · exact induction seen
          · have here : normalize (join path entry.name) = join path entry.name :=
              normalize_normalize _
            exact (Makes.record here _ _).bind fun _ => (induction _).bind fun _ => .pure _

theorem normalKeys_list (path : JsString) : Makes (keyRules platform) (list platform path) := by
  apply (makes_mapErrors (makes_resolveOrThrow tolerant_keyRules trivial)).bind
  intro node
  split
  · exact .reject _
  · apply (makes_mapErrors (Makes.ask rfl)).bind
    intro children
    apply (normalKeys_listEntries _ _ _ _).bind
    intro out
    split
    · exact .throw _
    · exact .pure _

/-! ## Operations that read -/

/-- Rules under which the cache stays anchored. -/
def anchorRules (platform : Platform) : Rules ServiceMemory SdkCall SdkAnswer Thrown Drive where
  service := storeService platform
  invariant := Anchored platform
  interference := Waits
  guarantee world changed := changed.remote = world.remote ∧ Anchored platform changed
  permits _ _ := True
  interference_refl := waits_refl
  interference_trans := waits_trans

theorem lookups_storeService {command : SdkCall} {answer : Except Thrown (SdkAnswer command)}
    {final : Drive} (lookup : command.isLookup = true)
    (answered : storeService platform drive command answer final) :
    final = drive ∧ ∀ value, answer = .ok value → AnswersTruly platform drive command value := by
  cases answer with
  | error error =>
      have reads : command.changesTree = false := by
        cases command <;> first | rfl | cases lookup
      have left := answered.2
      rw [reads] at left
      refine ⟨left, fun value same => ?_⟩
      cases same
  | ok value =>
      have truly : final = drive ∧ AnswersTruly platform drive command value := by
        cases command <;> first | exact answered | cases lookup
      refine ⟨truly.1, fun other same => ?_⟩
      cases same
      exact truly.2

theorem remote_of_reads {command : SdkCall} {answer : Except Thrown (SdkAnswer command)}
    {final : Drive} (reads : command.changesTree = false)
    (answered : storeService platform drive command answer final) : final = drive := by
  cases answer with
  | error error =>
      have left := answered.2
      rw [reads] at left
      exact left
  | ok value =>
      cases command <;> first | exact answered.1 | cases reads

theorem anchoring_anchorRules : Anchoring platform (anchorRules platform) fun _ => True where
  invariant _ anchored := anchored
  guarantee _ _ anchored := ⟨rfl, anchored⟩
  permits _ _ := trivial
  above _ _ _ := trivial
  root _ _ waited := by rw [waited.1]
  stays _ _ waited _ _ _ stays := by
    rw [waited.1]
    exact stays
  lookups _ _ _ _ lookup answered := lookups_storeService lookup answered

/-- The world is steady, and the tree is this one. -/
def SteadyAt (platform : Platform) (drive : Drive) (world : ServiceWorld) : Prop :=
  Steady platform world ∧ world.remote = drive

/-- An operation that only reads leaves the tree, and the memory right about it. -/
theorem steady_reads {program : SdkOperation α} (normal : Makes (keyRules platform) program)
    (anchored : Makes (anchorRules platform) program) (steady : SteadyAt platform drive world) :
    (sdkView platform).rules.Ensures program (fun _ reached => SteadyAt platform drive reached)
      world := by
  refine Rules.Ensures.mono (Rules.Ensures.both (SteadyAt platform drive) ?_ ?_ ?_ steady
    (normal world) (anchored world)) fun _ _ ended => ended.2.2
  · rintro before now ⟨steady, same⟩ waited
    have after := Steady.waits steady waited
    exact ⟨⟨after, waited.1.trans same⟩, ⟨after.normal, waited⟩, after.anchored, waited⟩
  · rintro now changed ⟨steady, same⟩ ⟨left, normal⟩ ⟨_, anchored⟩
    refine ⟨trivial, ⟨anchored, normal, ?_⟩, left.trans same⟩
    rw [left]
    exact steady.sound
  · rintro now command ⟨steady, same⟩ reads _
    refine ⟨trivial, fun answer remote answered => ⟨answered, answered, ?_⟩⟩
    have left := remote_of_reads reads answered
    rw [left]
    exact ⟨steady, same⟩

end DriveWebdav
