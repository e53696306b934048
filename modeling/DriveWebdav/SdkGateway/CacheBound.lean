import DriveWebdav.Foundation.Ageing
import DriveWebdav.Foundation.Process
import DriveWebdav.SdkGateway.CacheAccess
import DriveWebdav.SdkGateway.Faults
import DriveWebdav.SdkGateway.Move

/-! # The bound of the path cache

The cache is to hold so many entries and no more, and to drop the ones that were written least
recently. Both rest on every insertion going through the one helper that looks at the size, and
on entries standing in the order in which they were written. -/

namespace DriveWebdav

/-- The operations of one gateway. `none` asks for the quota. Everything but the cache may change
from outside at any time. -/
def operations {Remote : Type} (platform : Platform)
    (sdk : Program.Service SdkCall SdkAnswer Thrown Remote) :
    Process (Option GatewayOperation) ServiceMemory SdkCall SdkAnswer Thrown Remote where
  service := sdk
  launch
    | some op => runOperation platform op
    | none => quota >>= fun _ => pure ()
  environment world changed := changed.memory.resolveCache = world.memory.resolveCache

abbrev Cache := InsertionMap JsString Resolved

/-- What `cachePath` keeps of the cache. -/
def afterEviction (cache : Cache) : Cache :=
  if RESOLVE_CACHE_MAX_ENTRIES ≤ cache.size then
    cache.dropOldest (max 1 (RESOLVE_CACHE_MAX_ENTRIES / 10))
  else cache

/-- An entry is written. -/
inductive Inserts : (ServiceMemory → ServiceMemory) → Prop
  | cached (path : JsString) (uid : Uid) (parent : Option Uid) :
      Inserts (cachePath path uid parent)
  | created (path : JsString) (uid : Uid) : Inserts (cacheCreated path uid)

/-- No entry that is gone had been written later than one that is still there. -/
def EvictsOldest (before after : Cache) : Prop :=
  ∀ path dropped, before.get path = some dropped → after.get path = none →
    ∀ other kept, after.get other = some kept → dropped.expiresAt ≤ kept.expiresAt

/-- An entry that is written anew is not followed by older ones, and a new folder is recorded
only where there is room. -/
structure Orderly (change : ServiceMemory → ServiceMemory) (memory : ServiceMemory) : Prop where
  cached : ∀ path uid parent, change = cachePath path uid parent →
    ∀ entry ∈ (afterEviction memory.resolveCache).after path,
      memory.now + RESOLVE_CACHE_TTL_MS ≤ entry.2.expiresAt
  created : ∀ path uid, change = cacheCreated path uid →
    (memory.resolveCache.size < RESOLVE_CACHE_MAX_ENTRIES ∨
        (memory.resolveCache.get path).isSome) ∧
      ∀ entry ∈ memory.resolveCache.after path,
        memory.now + RESOLVE_CACHE_TTL_MS ≤ entry.2.expiresAt

/-- Every access is orderly, and the clock is not set back. -/
def orderly {Remote : Type} :
    Process.Condition (Option GatewayOperation) ServiceMemory SdkCall SdkAnswer Thrown Remote :=
  fun event state next =>
    match event with
    | .accessed flight => ∀ change resume, flight.rest = .update change resume →
        Orderly change state.world.memory
    | .outside => state.world.memory.now ≤ next.world.memory.now
    | _ => True

/-- The cache is within its bound, and its entries stand in the order of their writing. -/
structure WellKept (memory : ServiceMemory) : Prop where
  bounded : memory.resolveCache.size ≤ RESOLVE_CACHE_MAX_ENTRIES
  chronological : memory.resolveCache.Chronological Resolved.expiresAt
  stamped : memory.resolveCache.StampedUpTo Resolved.expiresAt
    (memory.now + RESOLVE_CACHE_TTL_MS)

section

variable {memory : ServiceMemory} {change : ServiceMemory → ServiceMemory}

theorem afterEviction_sublist (cache : Cache) :
    (afterEviction cache).entries.Sublist cache.entries := by
  unfold afterEviction
  split
  · exact List.drop_sublist _ _
  · exact List.Sublist.refl _

/-- There is room for one more. -/
theorem size_afterEviction {cache : Cache} (bounded : cache.size ≤ RESOLVE_CACHE_MAX_ENTRIES) :
    (afterEviction cache).size < RESOLVE_CACHE_MAX_ENTRIES := by
  unfold afterEviction
  unfold RESOLVE_CACHE_MAX_ENTRIES at bounded ⊢
  split
  · rw [InsertionMap.size_dropOldest]
    omega
  · omega

theorem WellKept.shrunk {fewer : Cache} {now : Nat} {after : ServiceMemory}
    (wellKept : WellKept memory) (sublist : fewer.entries.Sublist memory.resolveCache.entries)
    (cache : after.resolveCache = fewer) (clock : after.now = now) (passed : memory.now ≤ now) :
    WellKept after where
  bounded := by
    rw [cache]
    exact Nat.le_trans sublist.length_le wellKept.bounded
  chronological := by
    rw [cache]
    exact wellKept.chronological.of_sublist sublist
  stamped := by
    rw [cache, clock]
    exact (wellKept.stamped.of_sublist sublist).mono (Nat.add_le_add_right passed _)

/-- One access keeps the cache as it is to be. -/
theorem WellKept.step (wellKept : WellKept memory) (access : CacheAccess change)
    (orderly : Orderly change memory) : WellKept (change memory) := by
  cases access with
  | shrinks fewer clock =>
      exact wellKept.shrunk (fewer memory) rfl (clock memory) (Nat.le_refl _)
  | cached path uid parent =>
      have room := size_afterEviction wellKept.bounded
      have fewer := afterEviction_sublist memory.resolveCache
      have chronological := wellKept.chronological.of_sublist fewer
      have stamped := wellKept.stamped.of_sublist fewer
      refine ⟨?_, ?_, ?_⟩
      · change ((afterEviction memory.resolveCache).set path _).size ≤ _
        rw [InsertionMap.size_set]
        split
        · omega
        · omega
      · exact chronological.set stamped (orderly.cached path uid parent rfl)
      · exact stamped.set (Nat.le_refl _)
  | created path uid =>
      rcases orderly.created path uid rfl with ⟨room, last⟩
      refine ⟨?_, ?_, ?_⟩
      · change (memory.resolveCache.set path _).size ≤ _
        rw [InsertionMap.size_set]
        split
        · exact wellKept.bounded
        · next absent => exact room.resolve_right absent
      · exact wellKept.chronological.set wellKept.stamped last
      · exact wellKept.stamped.set (Nat.le_refl _)

/-- A cache that is kept like this drops its oldest entries. -/
theorem WellKept.evictsOldest (wellKept : WellKept memory) (inserts : Inserts change) :
    EvictsOldest memory.resolveCache (change memory).resolveCache := by
  intro path dropped held gone other kept stays
  cases inserts with
  | cached written uid parent =>
      change ((afterEviction memory.resolveCache).set written _).get path = none at gone
      change ((afterEviction memory.resolveCache).set written _).get other = some kept at stays
      rcases InsertionMap.get_set_eq_some stays with ⟨_, same⟩ | ⟨_, stays⟩
      · rw [same]
        exact wellKept.stamped _ ((InsertionMap.get_eq_some_iff _ _ _).mp held)
      · have different : path ≠ written := by
          rintro rfl
          rw [InsertionMap.get_set_self] at gone
          cases gone
        rw [InsertionMap.get_set_of_ne _ _ different] at gone
        unfold afterEviction at gone stays
        split at gone
        · next full =>
            rw [if_pos full] at stays
            exact wellKept.chronological.dropOldest held gone stays
        · cases held.symm.trans gone
  | created written uid =>
      change (memory.resolveCache.set written _).get path = none at gone
      by_cases same : path = written
      · rw [same, InsertionMap.get_set_self] at gone
        cases gone
      · rw [InsertionMap.get_set_of_ne _ _ same, held] at gone
        cases gone

end

section

variable {Remote : Type} {platform : Platform}
  {sdk : Program.Service SdkCall SdkAnswer Thrown Remote} {now : Nat} {remote : Remote}
  {state : Process.State (Option GatewayOperation) ServiceMemory SdkCall SdkAnswer Thrown Remote}

theorem usesCache_runOperation (platform : Platform) (op : GatewayOperation) :
    UsesCache (runOperation platform op) := by
  cases op with
  | stat path =>
      exact Program.within_bind (usesCache_stat path) fun _ => Program.within_pure _
  | list path =>
      exact Program.within_bind (usesCache_list path) fun _ => Program.within_pure _
  | read path range =>
      exact Program.within_bind (usesCache_read path range) fun _ => Program.within_pure _
  | put path body opts =>
      exact Program.within_bind (usesCache_put path body opts) fun _ => Program.within_pure _
  | mkcol path => exact usesCache_mkcol path
  | remove path => exact usesCache_remove path
  | move src dst => exact usesCache_move src dst
  | copy src dst => exact usesCache_copy src dst

theorem usesCache_launch (label : Option GatewayOperation) :
    UsesCache ((operations platform sdk).launch label) := by
  cases label with
  | none => exact Program.within_bind usesCache_quota fun _ => Program.within_pure _
  | some op => exact usesCache_runOperation platform op

/-- The cache is well kept in every state of an orderly run. -/
theorem wellKept_of_reachable
    (reachable : (operations platform sdk).Reachable orderly ⟨.initial now, remote⟩ state) :
    WellKept state.world.memory := by
  apply Process.Leads.induct (fun state => WellKept state.world.memory) _ _ reachable
  · exact ⟨Nat.zero_le _, List.Pairwise.nil, nofun⟩
  · intro event reached next leads step meets wellKept
    cases event with
    | accessed flight =>
        rcases Process.Reachable.accesses leads usesCache_launch step with
          ⟨change, resume, access, rest, became⟩
        rw [became]
        exact wellKept.step access (meets change resume rest)
    | outside =>
        cases step with
        | environment world changed inFlight acted =>
            apply wellKept.shrunk (List.Sublist.refl _) acted rfl meets
    | started label =>
        cases step with
        | start => exact wellKept
    | ended flight =>
        cases step with
        | finish => exact wellKept
        | fail => exact wellKept
    | answered flight command answer =>
        cases step with
        | await => exact wellKept

/-- In every run in which no entry is written anew before older ones, no folder is recorded
without room for it and the clock is not set back, the cache stays within its bound, and what an
insertion drops is what was written least recently. -/
theorem cache_bounded
    (reachable : (operations platform sdk).Reachable orderly ⟨.initial now, remote⟩ state) :
    state.world.memory.resolveCache.size ≤ RESOLVE_CACHE_MAX_ENTRIES ∧
      ∀ flight next, (operations platform sdk).Step (.accessed flight) state next →
        ∀ change resume, flight.rest = .update change resume → Inserts change →
          EvictsOldest state.world.memory.resolveCache next.world.memory.resolveCache := by
  have wellKept := wellKept_of_reachable reachable
  refine ⟨wellKept.bounded, ?_⟩
  intro flight next step change resume rest inserts
  cases step with
  | update label met accessed resumed world before after =>
      cases rest
      exact wellKept.evictsOldest inserts

end

/-! ## A folder of many files -/

theorem join_injective {path first second : JsString} (left : IsSegment first)
    (right : IsSegment second) (same : join path first = join path second) : first = second := by
  have segs := congrArg segments same
  rw [segments_child left, segments_child right] at segs
  exact List.singleton_inj.mp (List.append_cancel_left segs)

/-- Files named by so many letters. -/
def crowd (files : Nat) : List NodeEntity :=
  (List.range files).map fun index => fileNode (index + 1) 0 (List.replicate (index + 1) 'a')

/-- The SDK of a folder with so many files, into which nothing is moved. -/
def crowdedSdk (files : Nat) : (command : SdkCall) → Except Thrown (SdkAnswer command)
  | .getPathNode => .ok topFolder
  | .getNode _ => .ok topFolder
  | .iterateFolderChildren _ _ => .ok ⟨crowd files, none⟩
  | .createFolder _ name => .ok (folderNode (files + 1) name)
  | _ => .error (.sdk ⟨.other, "Not implemented"⟩)

def crowded (files : Nat) (world : World ServiceMemory Unit) (command : SdkCall) :
    Except Thrown (SdkAnswer command) × World ServiceMemory Unit :=
  (crowdedSdk files command, world)

section

variable {files : Nat}

theorem mem_crowd {child : NodeEntity} (member : child ∈ crowd files) :
    ∃ index, child = fileNode (index + 1) 0 (List.replicate (index + 1) 'a') := by
  rcases List.mem_map.mp member with ⟨index, _, rfl⟩
  exact ⟨index, rfl⟩

theorem length_crowd : (crowd files).length = files := by
  rw [crowd, List.length_map, List.length_range]

theorem isSafeSegment_replicate (index : Nat) :
    isSafeSegment (List.replicate (index + 1) 'a') = true := by
  have only : ∀ character ∈ List.replicate (index + 1) 'a', character = 'a' :=
    fun character member => List.eq_of_mem_replicate member
  have absent : ∀ character, character ≠ 'a' →
      (List.replicate (index + 1) 'a').contains character = false := by
    intro character different
    rw [List.contains_eq_mem, decide_eq_false_iff_not]
    exact fun member => different (only character member)
  have first : (List.replicate (index + 1) 'a').head? = some 'a' := rfl
  rw [isSafeSegment, absent '/' (by decide), absent '\x00' (by decide)]
  rw [if_neg, Bool.or_self, if_neg Bool.false_ne_true]
  simp only [Bool.or_eq_true, decide_eq_true_eq, not_or]
  refine ⟨⟨?_, ?_⟩, ?_⟩
  · rw [List.length_replicate]
    omega
  · intro same
    rw [same] at first
    cases first
  · intro same
    rw [same] at first
    cases first

theorem shown_file (uid parent : Uid) {name : JsString} (safe : isSafeSegment name = true) :
    (toEntry (.plain []) (fileNode uid parent name)).isSome := by
  have named : (Platform.plain []).getName (fileNode uid parent name) = name := rfl
  unfold toEntry
  dsimp only
  rw [named, safe]
  rfl

theorem shown_crowd {child : NodeEntity} (member : child ∈ crowd files) :
    (toEntry (.plain []) child).isSome := by
  rcases mem_crowd member with ⟨index, rfl⟩
  exact shown_file _ _ (isSafeSegment_replicate index)

theorem names_crowd : ((crowd files).map (Platform.plain []).getName).Nodup := by
  rw [crowd, List.map_map]
  apply List.nodup_range.map
  intro first second same
  have lengths := congrArg List.length same
  change (List.replicate (first + 1) 'a').length =
    (List.replicate (second + 1) 'a').length at lengths
  rw [List.length_replicate, List.length_replicate] at lengths
  omega

/-- The newcomer is not one of the crowd. -/
theorem newcomer (index : Nat) : ("x" : JsString) ≠ List.replicate (index + 1) 'a' := by
  intro same
  have first : some 'x' = some 'a' := congrArg List.head? same
  cases first

/-- The memory once the root has been found. -/
def rootedMemory : ServiceMemory := { ServiceMemory.initial 0 with rootUid := some 0 }

theorem run_getRootUid_crowded {memory : ServiceMemory} (root : memory.rootUid = some 0) :
    Program.run (crowded files) (getRootUid (.plain [])) ⟨memory, ()⟩ =
      (.ok 0, ⟨memory, ()⟩) := by
  rw [getRootUid, Program.run_bind, Program.run_read]
  dsimp only
  rw [root]
  rfl

/-- A new folder is recorded, full or not. -/
theorem run_mkcol_crowded {memory : ServiceMemory} (root : memory.rootUid = some 0)
    (absent : memory.resolveCache.get "/x" = none) :
    Program.run (crowded files) (mkcol (.plain []) "/x") ⟨memory, ()⟩ =
      (.ok (), ⟨cacheCreated "/x" (files + 1) memory, ()⟩) := by
  have parent : Program.run (crowded files) (resolve (.plain []) "/" false) ⟨memory, ()⟩ =
      (.ok (some topFolder), ⟨memory, ()⟩) := by
    change Program.run _ (getRootUid _ >>= getRoot) _ = _
    rw [Program.run_bind, run_getRootUid_crowded root]
    rfl
  have cached : Program.run (crowded files) (resolveCached (.plain []) "/x" "x" true)
      ⟨memory, ()⟩ = (.ok none, ⟨memory, ()⟩) := by
    rw [resolveCached, Program.run_bind, Program.run_read]
    dsimp only
    rw [absent]
    rfl
  have stranger : (crowd files).find? (fun child =>
      decide ((Platform.plain []).getName child = "x")) = none := by
    rw [List.find?_eq_none]
    intro child member
    rcases mem_crowd member with ⟨index, rfl⟩
    rw [decide_eq_true_eq]
    exact fun same => newcomer index same.symm
  have below : Program.run (crowded files)
      (resolveBelow (.plain []) "/x" "x" true (some topFolder)) ⟨memory, ()⟩ =
        (.ok none, ⟨memory, ()⟩) := by
    change Program.run _ (firstYielded _ ⟨crowd files, none⟩ >>= takeChild _ _ _) _ = _
    rw [firstYielded]
    dsimp only
    rw [stranger]
    rfl
  have free : Program.run (crowded files) (resolve (.plain []) "/x" true) ⟨memory, ()⟩ =
      (.ok none, ⟨memory, ()⟩) := by
    change Program.run _ (getRootUid _ >>= fun rootUid =>
      resolveCached (.plain []) "/x" "x" true >>= _) _ = _
    rw [Program.run_bind, run_getRootUid_crowded root]
    dsimp only
    rw [Program.run_bind, cached]
    exact below
  change Program.run _ (resolve _ "/" false >>= _) _ = _
  rw [Program.run_bind, parent]
  change Program.run _ (mkcolIn _ "/x" topFolder) _ = _
  rw [mkcolIn, Program.run_bind, free]
  rfl

end

/-- A gateway over the crowded folder, which nobody else touches. -/
def crowdedOperations (files : Nat) :
    Process (Option GatewayOperation) ServiceMemory SdkCall SdkAnswer Thrown Unit :=
  operations (.plain []) fun _ command outcome _ => outcome = crowdedSdk files command

/-- No entry is older than the clock. -/
def Unaged (memory : ServiceMemory) : Prop :=
  ∀ entry ∈ memory.resolveCache.entries, memory.now + RESOLVE_CACHE_TTL_MS ≤ entry.2.expiresAt

theorem cachePath_ne_cacheCreated {path created : JsString} {uid other parent : Uid} :
    cachePath path uid (some parent) ≠ cacheCreated created other := by
  intro same
  have entries := congrArg (fun change => (change (.initial 0)).resolveCache.entries) same
  cases congrArg (List.map fun entry : JsString × Resolved => entry.2.parentUid) entries

theorem mem_of_mem_after {cache : Cache} {path : JsString} {entry : JsString × Resolved}
    (member : entry ∈ cache.after path) : entry ∈ cache.entries :=
  (List.dropWhile_sublist _).subset (List.mem_of_mem_tail member)

/-- Where nothing is older than the clock, an entry may be written. -/
theorem Unaged.orderly {memory : ServiceMemory} (unaged : Unaged memory) (path : JsString)
    (uid parent : Uid) : Orderly (cachePath path uid (some parent)) memory where
  cached := by
    intro other _ _ _ entry member
    exact unaged entry ((afterEviction_sublist _).subset (mem_of_mem_after member))
  created _ _ same := absurd same cachePath_ne_cacheCreated

/-- In an empty cache there is room, and nothing older. -/
theorem Orderly.of_empty {memory : ServiceMemory} (empty : memory.resolveCache.entries = [])
    (change : ServiceMemory → ServiceMemory) : Orderly change memory := by
  have size : memory.resolveCache.size = 0 := congrArg List.length empty
  have kept : (afterEviction memory.resolveCache).entries = [] :=
    List.sublist_nil.mp (empty ▸ afterEviction_sublist memory.resolveCache)
  refine ⟨?_, ?_⟩
  · intro path uid parent _ entry member
    rw [InsertionMap.after, kept] at member
    cases member
  · intro path uid _
    refine ⟨.inl ?_, ?_⟩
    · rw [size]
      exact Nat.le_of_ble_eq_true rfl
    · intro entry member
      rw [InsertionMap.after, empty] at member
      cases member

section

variable {Remote : Type} {platform : Platform} {label : Option GatewayOperation}
  {sdk : Program.Service SdkCall SdkAnswer Thrown Remote} {world : World ServiceMemory Remote}
  {holds : Process.State (Option GatewayOperation) ServiceMemory SdkCall SdkAnswer Thrown Remote →
    Prop}

/-- An orderly access, and what follows it. -/
theorem leads_accessed {change : ServiceMemory → ServiceMemory}
    {resume : ServiceMemory → SdkOperation Unit} (next : ServiceMemory)
    (became : change world.memory = next) (meets : Orderly change world.memory)
    (rest : ∀ met, ∃ state, (operations platform sdk).Leads orderly
      ⟨⟨next, world.remote⟩, [⟨label, met, resume world.memory⟩]⟩ state ∧ holds state)
    (met) :
    ∃ state, (operations platform sdk).Leads orderly
      ⟨world, [⟨label, met, .update change resume⟩]⟩ state ∧ holds state := by
  rcases rest (met ++ [.access world.memory]) with ⟨state, leads, held⟩
  refine ⟨state, .head ⟨_, .update label met change resume world [] [], ?_⟩ ?_, held⟩
  · intro other next same
    cases same
    exact meets
  · rw [became]
    exact leads

/-- An answer that changes nothing, and what follows it. -/
theorem leads_answered {command : SdkCall}
    {resume : Except Thrown (SdkAnswer command) → SdkOperation Unit}
    (answer : Except Thrown (SdkAnswer command))
    (answers : sdk world.remote command answer world.remote)
    (rest : ∀ met, ∃ state, (operations platform sdk).Leads orderly
      ⟨world, [⟨label, met, resume answer⟩]⟩ state ∧ holds state) (met) :
    ∃ state, (operations platform sdk).Leads orderly
      ⟨world, [⟨label, met, .await command resume⟩]⟩ state ∧ holds state := by
  rcases rest (met ++ [.exchange command answer]) with ⟨state, leads, held⟩
  exact ⟨state, .head ⟨_, .await label met command resume answer _ world [] [] answers,
    trivial⟩ leads, held⟩

/-- The entry that a listing writes for a child. -/
def recorded (platform : Platform) (path : JsString) (parent : Uid) (now : Nat)
    (child : NodeEntity) : JsString × Resolved :=
  (join path (platform.getName child), ⟨child.uid, some parent, now + RESOLVE_CACHE_TTL_MS⟩)

theorem listEntries_cons {path : JsString} {parent : Uid} {child : NodeEntity}
    {rest : List NodeEntity} {seen : List JsString} {entry : DriveEntry}
    {goesOn : List DriveEntry → SdkOperation Unit} (listed : toEntry platform child = some entry)
    (known : seen.contains entry.name = false) :
    (listEntries platform path parent (child :: rest) seen >>= goesOn) =
      Program.update (cachePath (join path entry.name) child.uid (some parent)) fun _ =>
        listEntries platform path parent rest (entry.name :: seen) >>=
          fun later => goesOn (entry :: later) := by
  rw [listEntries, listed]
  dsimp only
  rw [known, if_neg Bool.false_ne_true, Program.bind_assoc]
  change Program.update _ (fun _ => _ >>= goesOn) = _
  simp only [Program.bind_assoc]
  rfl

/-- A listing of a folder records one child after the other while there is room. -/
theorem leads_listEntries {path : JsString} {parent : Uid} {children more : List NodeEntity}
    {seen : List JsString} {memory : ServiceMemory} {remote : Remote}
    {goesOn : List DriveEntry → SdkOperation Unit}
    (room : memory.resolveCache.size + children.length ≤ RESOLVE_CACHE_MAX_ENTRIES)
    (unaged : Unaged memory) (shown : ∀ child ∈ children, (toEntry platform child).isSome)
    (unseen : ∀ child ∈ children, platform.getName child ∉ seen)
    (names : (children.map platform.getName).Nodup)
    (fresh : ∀ child ∈ children,
      memory.resolveCache.get (join path (platform.getName child)) = none)
    (rest : ∀ met filled listed, filled.resolveCache.entries = memory.resolveCache.entries ++
        children.map (recorded platform path parent memory.now) →
      filled.rootUid = memory.rootUid → ∃ state,
        (operations platform sdk).Leads orderly ⟨⟨filled, remote⟩, [⟨label, met,
          listEntries platform path parent more
            ((children.map platform.getName).reverse ++ seen) >>=
              fun others => goesOn (listed ++ others)⟩]⟩ state ∧ holds state) (met) :
    ∃ state, (operations platform sdk).Leads orderly ⟨⟨memory, remote⟩, [⟨label, met,
      listEntries platform path parent (children ++ more) seen >>= goesOn⟩]⟩ state ∧
        holds state := by
  induction children generalizing seen memory goesOn met with
  | nil => exact rest met memory [] (List.append_nil _).symm rfl
  | cons child others induction =>
      have segment : ∀ other ∈ child :: others, IsSegment (platform.getName other) := by
        intro other member
        rcases Option.isSome_iff_exists.mp (shown other member) with ⟨entry, listed⟩
        rcases shown_of_toEntry listed with ⟨named, safe, _⟩
        rw [← named]
        exact isSegment_of_isSafeSegment safe
      rcases Option.isSome_iff_exists.mp (shown child List.mem_cons_self) with ⟨entry, listed⟩
      have named := (shown_of_toEntry listed).1
      rw [List.map_cons, List.nodup_cons] at names
      rw [List.length_cons] at room
      have here := fresh child List.mem_cons_self
      have known : seen.contains entry.name = false := by
        rw [named, List.contains_eq_mem, decide_eq_false_iff_not]
        exact unseen child List.mem_cons_self
      have cached : cachePath (join path entry.name) child.uid (some parent) memory =
          { memory with
            resolveCache := memory.resolveCache.set (join path (platform.getName child))
              ⟨child.uid, some parent, memory.now + RESOLVE_CACHE_TTL_MS⟩ } := by
        rw [cachePath, if_neg (by omega), named]
      have entries : (cachePath (join path entry.name) child.uid (some parent)
          memory).resolveCache.entries = memory.resolveCache.entries ++
            [recorded platform path parent memory.now child] := by
        rw [cached]
        exact InsertionMap.entries_set_of_none here _
      have apart : ∀ other ∈ others, platform.getName other ≠ platform.getName child := by
        intro other member same
        exact names.1 (List.mem_map.mpr ⟨other, member, same⟩)
      rw [List.cons_append, listEntries_cons listed known]
      apply leads_accessed (cachePath (join path entry.name) child.uid (some parent) memory) rfl
        (unaged.orderly _ _ _)
      apply induction
      · rw [InsertionMap.size, entries, List.length_append]
        change memory.resolveCache.size + 1 + others.length ≤ _
        omega
      · intro written member
        rw [entries] at member
        rcases List.mem_append.mp member with earlier | last
        · exact unaged written earlier
        · rw [List.mem_singleton.mp last]
          exact Nat.le_refl _
      · exact fun other member => shown other (List.mem_cons_of_mem _ member)
      · intro other member
        rw [List.mem_cons, not_or, named]
        exact ⟨apart other member, unseen other (List.mem_cons_of_mem _ member)⟩
      · exact names.2
      · intro other member
        rw [cached]
        dsimp only
        rw [InsertionMap.get_set_of_ne]
        · exact fresh other (List.mem_cons_of_mem _ member)
        · intro same
          exact apart other member (join_injective (segment other (List.mem_cons_of_mem _ member))
            (segment child List.mem_cons_self) same)
      · intro met filled later written root
        have all : filled.resolveCache.entries = memory.resolveCache.entries ++
            (child :: others).map (recorded platform path parent memory.now) := by
          rw [written, entries, List.append_assoc]
          rfl
        have left := rest met filled (entry :: later) all root
        rw [List.map_cons, List.reverse_cons, List.append_assoc, ← named] at left
        exact left

end

/-- The listing of the folder has recorded so many of its files. -/
theorem leads_list_crowded {files total : Nat} {more : List NodeEntity}
    (room : files ≤ RESOLVE_CACHE_MAX_ENTRIES) (split : crowd total = crowd files ++ more)
    {holds : Process.State (Option GatewayOperation) ServiceMemory SdkCall SdkAnswer Thrown Unit →
      Prop}
    (rest : ∀ met filled listed seen, filled.resolveCache.entries =
        (crowd files).map (recorded (.plain []) "/" 0 0) → filled.rootUid = some 0 →
      (∀ name ∈ seen, name ∈ (crowd files).map (Platform.plain []).getName) →
      ∃ state, (crowdedOperations total).Leads orderly ⟨⟨filled, ()⟩, [⟨some (.list "/"), met,
        listEntries (.plain []) "/" 0 more seen >>= fun others : List DriveEntry =>
          (pure (listed ++ others) : SdkOperation (List DriveEntry)) >>= fun _ => pure ()⟩]⟩ state ∧
        holds state) :
    ∃ state, (crowdedOperations total).Reachable orderly ⟨.initial 0, ()⟩ state ∧ holds state := by
  suffices moves : ∀ met, ∃ state, (crowdedOperations total).Leads orderly
      ⟨⟨.initial 0, ()⟩, [⟨some (.list "/"), met, list (.plain []) "/" >>= fun _ => pure ()⟩]⟩
        state ∧ holds state by
    rcases moves [] with ⟨state, leads, held⟩
    exact ⟨state, .head ⟨_, .start (some (GatewayOperation.list "/")) _ _, trivial⟩ leads, held⟩
  -- the root is asked for and listed
  apply leads_accessed (.initial 0) rfl (.of_empty rfl _)
  apply leads_answered _ rfl
  apply leads_accessed rootedMemory rfl (.of_empty rfl _)
  apply leads_answered _ rfl
  apply leads_answered _ rfl
  intro met
  have listing : (listChildren (.plain []) "/" 0 ⟨crowd total, none⟩ >>= fun _ => pure ()) =
      listEntries (.plain []) "/" 0 (crowd files ++ more) [] >>= fun out : List DriveEntry =>
        (pure out : SdkOperation (List DriveEntry)) >>= fun _ => pure () := by
    rw [← split]
    exact Program.bind_assoc _ _ _
  change ∃ state, (crowdedOperations total).Leads orderly ⟨⟨rootedMemory, ()⟩,
    [⟨some (.list "/"), met, listChildren (.plain []) "/" 0 ⟨crowd total, none⟩ >>= fun _ =>
      pure ()⟩]⟩ state ∧ holds state
  rw [listing]
  apply leads_listEntries
  · rw [length_crowd]
    exact Nat.le_trans (Nat.le_of_eq (Nat.zero_add _)) room
  · intro entry member
    cases member
  · exact fun child member => shown_crowd member
  · exact fun _ _ => List.not_mem_nil
  · exact names_crowd
  · exact fun _ _ => rfl
  · intro met filled listed entries root
    apply rest met filled listed _ entries root
    intro name member
    rw [List.append_nil, List.mem_reverse] at member
    exact member

theorem crowd_succ (files : Nat) : crowd (files + 1) =
    crowd files ++ [fileNode (files + 1) 0 (List.replicate (files + 1) 'a')] := by
  rw [crowd, List.range_succ, List.map_append]
  rfl

/-- The first file is the first that was recorded, and is not recorded again. -/
theorem first_crowd {memory : ServiceMemory} {files : Nat} (entries :
    memory.resolveCache.entries = (crowd (files + 1)).map (recorded (.plain []) "/" 0 0)) :
    memory.resolveCache.get "/a" ≠ none ∧
      ∀ count, (memory.resolveCache.dropOldest (count + 1)).get "/a" = none := by
  have first : ∃ later, memory.resolveCache.entries =
      recorded (.plain []) "/" 0 0 (fileNode 1 0 "a") :: later := by
    rw [entries, crowd, List.range_succ_eq_map, List.map_cons, List.map_cons]
    exact ⟨_, rfl⟩
  rcases first with ⟨later, first⟩
  constructor
  · rw [ne_eq, InsertionMap.get_eq_none_iff, not_not, InsertionMap.keys, first]
    exact List.mem_cons_self
  · intro count
    have distinct := memory.resolveCache.nodup
    rw [first, List.map_cons, List.nodup_cons] at distinct
    rw [InsertionMap.get_eq_none_iff]
    intro member
    rcases List.mem_map.mp member with ⟨entry, kept, same⟩
    change entry ∈ memory.resolveCache.entries.drop (count + 1) at kept
    rw [first, List.drop_succ_cons] at kept
    exact distinct.1 (List.mem_map.mpr ⟨entry, List.mem_of_mem_drop kept, same⟩)

/-- A listing of more files than there is room for drops the first of them. -/
theorem leads_overcrowded {files : Nat} (full : RESOLVE_CACHE_MAX_ENTRIES = files + 1) :
    ∃ state, (crowdedOperations (files + 2)).Reachable orderly ⟨.initial 0, ()⟩ state ∧
      ∃ flight next change resume,
        (crowdedOperations (files + 2)).Step (.accessed flight) state next ∧
        flight.rest = .update change resume ∧ Inserts change ∧
        state.world.memory.resolveCache.size = RESOLVE_CACHE_MAX_ENTRIES ∧
        state.world.memory.resolveCache.get "/a" ≠ none ∧
        next.world.memory.resolveCache.get "/a" = none := by
  apply leads_list_crowded (Nat.le_of_eq full.symm) (crowd_succ (files + 1))
  intro met filled listed seen entries root only
  have safe := isSafeSegment_replicate (files + 1)
  rcases Option.isSome_iff_exists.mp (shown_file (files + 2) 0 safe) with ⟨entry, shown⟩
  have named : entry.name = List.replicate (files + 2) 'a' := (shown_of_toEntry shown).1
  have known : seen.contains entry.name = false := by
    have distinct := @names_crowd (files + 2)
    rw [crowd_succ (files + 1), List.map_append, List.nodup_append] at distinct
    rw [List.contains_eq_mem, decide_eq_false_iff_not]
    intro member
    exact distinct.2.2 _ (only _ member) _ List.mem_cons_self named
  have size : filled.resolveCache.size = files + 1 := by
    rw [InsertionMap.size, entries, List.length_map, length_crowd]
  rcases first_crowd entries with ⟨held, dropped⟩
  rw [listEntries_cons shown known]
  refine ⟨_, .refl, _, _, _, _, .update _ met _ _ ⟨filled, ()⟩ [] [], rfl, .cached _ _ _,
    size.trans full.symm, held, ?_⟩
  change ((afterEviction filled.resolveCache).set (join "/" entry.name) _).get "/a" = none
  rw [InsertionMap.get_set_of_ne, afterEviction, if_pos (Nat.le_of_eq (full.trans size.symm))]
  · exact dropped 1999
  · intro same
    change join "/" "a" = join "/" entry.name at same
    rw [named] at same
    have names := join_injective (isSegment_of_isSafeSegment rfl)
      (isSegment_of_isSafeSegment safe) same
    have lengths := congrArg List.length names
    rw [List.length_replicate] at lengths
    cases lengths

/-- What the listing drops is what was written least recently. -/
theorem recorded_bounded : ∃ state flight next,
    (crowdedOperations (RESOLVE_CACHE_MAX_ENTRIES + 1)).Reachable orderly ⟨.initial 0, ()⟩ state ∧
    (crowdedOperations (RESOLVE_CACHE_MAX_ENTRIES + 1)).Step (.accessed flight) state next ∧
    state.world.memory.resolveCache.size = RESOLVE_CACHE_MAX_ENTRIES ∧
    state.world.memory.resolveCache.get "/a" ≠ none ∧
    next.world.memory.resolveCache.get "/a" = none ∧
    EvictsOldest state.world.memory.resolveCache next.world.memory.resolveCache := by
  rcases @leads_overcrowded (RESOLVE_CACHE_MAX_ENTRIES - 1) rfl with
    ⟨state, reachable, flight, next, change, resume, step, rest, inserts, size, held, dropped⟩
  exact ⟨state, flight, next, reachable, step, size, held, dropped,
    (cache_bounded reachable).2 flight next step change resume rest inserts⟩

/-- A folder created after the listing of its parent is recorded on top of the listing. -/
theorem leads_crowded {files : Nat} (room : files ≤ RESOLVE_CACHE_MAX_ENTRIES) : ∃ state,
    (crowdedOperations files).Reachable (fun _ _ _ => True) ⟨.initial 0, ()⟩ state ∧
    state.world.memory.resolveCache.size = files + 1 := by
  have created : ∀ memory : ServiceMemory, (crowdedOperations files).Leads (fun _ _ _ => True)
      ⟨⟨memory, ()⟩, []⟩
      ⟨(Program.run (crowded files) (mkcol (.plain []) "/x") ⟨memory, ()⟩).2, []⟩ :=
    fun memory => Process.leads_run (fun _ _ => rfl) (fun _ _ => rfl)
      (some (GatewayOperation.mkcol "/x")) ⟨memory, ()⟩
  have listed : ∃ state, (crowdedOperations files).Reachable orderly ⟨.initial 0, ()⟩ state ∧
      ∃ memory : ServiceMemory, state = ⟨⟨memory, ()⟩, []⟩ ∧ memory.rootUid = some 0 ∧
        memory.resolveCache.entries = (crowd files).map (recorded (.plain []) "/" 0 0) := by
    apply leads_list_crowded room (List.append_nil _).symm
    intro met filled listed seen entries root _
    exact ⟨_, .single ⟨_, .finish _ _ _ _ [] [], trivial⟩, filled, rfl, root, entries⟩
  rcases listed with ⟨_, reachable, memory, rfl, root, entries⟩
  have absent : memory.resolveCache.get "/x" = none := by
    rw [InsertionMap.get_eq_none_iff, InsertionMap.keys, entries, List.map_map]
    intro member
    rcases List.mem_map.mp member with ⟨child, member, same⟩
    rcases mem_crowd member with ⟨index, rfl⟩
    change join "/" (List.replicate (index + 1) 'a') = join "/" "x" at same
    exact newcomer index (join_injective (isSegment_of_isSafeSegment rfl)
      (isSegment_of_isSafeSegment (isSafeSegment_replicate index)) same.symm)
  have created := created memory
  rw [run_mkcol_crowded root absent] at created
  refine ⟨_, (Process.Reachable.leads reachable.anyhow created), ?_⟩
  change (memory.resolveCache.set "/x" _).size = _
  rw [InsertionMap.size_set, absent, InsertionMap.size, entries, List.length_map, length_crowd]
  rfl

/-- A listing can fill the cache, and the next folder is recorded beyond the bound. -/
theorem crowded_overflows : ∃ state,
    (crowdedOperations RESOLVE_CACHE_MAX_ENTRIES).Reachable (fun _ _ _ => True)
      ⟨.initial 0, ()⟩ state ∧
    RESOLVE_CACHE_MAX_ENTRIES < state.world.memory.resolveCache.size := by
  rcases leads_crowded (Nat.le_refl RESOLVE_CACHE_MAX_ENTRIES) with ⟨state, reachable, size⟩
  exact ⟨state, reachable, Nat.lt_of_lt_of_eq (Nat.lt_succ_self _) size.symm⟩

end DriveWebdav
