import DriveWebdav.SdkGateway.TreeSdk
import DriveWebdav.Webdav.GatewayCalls

/-! # What is listed, looked up and removed

A folder may hold several nodes of one name, and nodes that are not shown. A listing keeps the
first node of a name that it can show; a lookup takes the first of the name and then asks
whether it can be used. -/

namespace DriveWebdav

section

variable (platform : Platform)

/-- The child that a listing shows under a name. -/
def shownChild (children : List NodeEntity) (name : JsString) : Option NodeEntity :=
  children.find? fun child => (toEntry platform child).any fun entry => entry.name = name

/-- The entries that a listing makes of children, apart from the names it has seen. -/
def shownEntries : List NodeEntity → List JsString → List DriveEntry
  | [], _ => []
  | child :: rest, seen =>
      match toEntry platform child with
      | none => shownEntries rest seen
      | some entry =>
          if seen.contains entry.name then shownEntries rest seen
          else entry :: shownEntries rest (entry.name :: seen)

end

variable {platform : Platform} {children : List NodeEntity} {name : JsString}

/-! ## Entries -/

/-- A node that is shown has a safe name and is neither trashed nor a draft. -/
theorem shown_of_toEntry {node : NodeEntity} {entry : DriveEntry}
    (shown : toEntry platform node = some entry) :
    entry.name = platform.getName node ∧ isSafeSegment entry.name = true ∧
      node.trashed = false ∧ node.isDraft = false := by
  unfold toEntry at shown
  dsimp only at shown
  split at shown
  · cases shown
  · next visible =>
      simp only [Bool.or_eq_true, not_or, Bool.not_eq_true, decide_eq_true_eq,
        Bool.not_eq_false'] at visible
      rcases visible with ⟨⟨⟨_, live⟩, _⟩, safe⟩
      split at shown
      · next isFolder =>
          cases shown
          exact ⟨rfl, safe, live, by simp [NodeEntity.isDraft, isFolder]⟩
      · split at shown
        · cases shown
        · next revision active =>
            split at shown
            · cases shown
            · cases shown
              exact ⟨rfl, safe, live, by simp [NodeEntity.isDraft, active]⟩

theorem shownChild_eq_some_entry {node : NodeEntity}
    (shown : shownChild platform children name = some node) :
    ∃ entry, toEntry platform node = some entry ∧ entry.name = name := by
  have named := List.find?_some shown
  rcases Option.any_eq_true _ _ |>.mp named with ⟨entry, listed, same⟩
  exact ⟨entry, listed, of_decide_eq_true same⟩

/-- The entries of a listing are those of the children it shows. -/
theorem mem_shownEntries (seen : List JsString) (entry : DriveEntry) :
    entry ∈ shownEntries platform children seen ↔
      entry.name ∉ seen ∧
        (shownChild platform children entry.name).bind (toEntry platform) = some entry := by
  induction children generalizing seen with
  | nil => simp [shownEntries, shownChild]
  | cons child rest induction =>
      rw [shownEntries, shownChild]
      cases listed : toEntry platform child with
      | none =>
          rw [List.find?_cons_of_neg (by simp [listed])]
          exact induction seen
      | some first =>
          by_cases same : first.name = entry.name
          · rw [List.find?_cons_of_pos (by simp [listed, same]), Option.bind_some, listed]
            dsimp only
            split
            · next known =>
                rw [List.contains_iff_mem, same] at known
                simp [induction, known]
            · next fresh =>
                rw [List.contains_iff_mem, same] at fresh
                simp [induction, same, fresh, eq_comm]
          · rw [List.find?_cons_of_neg (by simp [listed, same])]
            have other : entry ≠ first := by
              intro equal
              exact same (congrArg DriveEntry.name equal.symm)
            dsimp only
            split
            · exact induction seen
            · simp [induction, other, Ne.symm same, shownChild]

/-- The first child of a name that a lookup takes is also what the listing shows, if it can
be shown. -/
theorem shownChild_of_first {node : NodeEntity} {entry : DriveEntry}
    (first : children.find? (fun child => platform.getName child = name) = some node)
    (shown : toEntry platform node = some entry) : shownChild platform children name = some node := by
  rcases List.find?_eq_some_iff_append.mp first with ⟨named, before, after, rfl, others⟩
  have same : entry.name = name :=
    (shown_of_toEntry shown).1.trans (of_decide_eq_true named)
  apply List.find?_eq_some_iff_append.mpr
  refine ⟨by simp [shown, same], before, after, rfl, ?_⟩
  intro child member
  have different := others child member
  rw [Bool.not_eq_true'] at different ⊢
  cases listed : toEntry platform child with
  | none => rfl
  | some other =>
      rw [Option.any_some, decide_eq_false_iff_not, (shown_of_toEntry listed).1]
      exact of_decide_eq_false different

/-- Nothing is shown under a name that no child has. -/
theorem shownChild_of_absent
    (absent : children.find? (fun child => platform.getName child = name) = none) :
    shownChild platform children name = none := by
  apply List.find?_eq_none.mpr
  intro child member shown
  rcases Option.any_eq_true _ _ |>.mp shown with ⟨entry, listed, same⟩
  apply List.find?_eq_none.mp absent child member
  rw [decide_eq_true_eq, ← (shown_of_toEntry listed).1]
  exact of_decide_eq_true same

theorem shownChild_of_unsafe (bad : isSafeSegment name = false) :
    shownChild platform children name = none := by
  cases shown : shownChild platform children name with
  | none => rfl
  | some node =>
      rcases shownChild_eq_some_entry shown with ⟨entry, listed, same⟩
      rw [← same, (shown_of_toEntry listed).2.1] at bad
      cases bad

/-! ## Operations -/

section

variable {answer : TreeAnswer} {drive : Drive} {world : ServiceWorld} {path : JsString}

theorem run_mapErrors (platform : Platform) {α : Type} {program : SdkOperation α} {value : α}
    {reached : ServiceWorld}
    (ran : answer.run program world = (.ok value, reached)) :
    answer.run (mapErrors platform program) world = (.ok value, reached) := by
  rw [TreeAnswer.run, mapErrors, Program.run_tryCatch]
  rw [TreeAnswer.run] at ran
  rw [ran]

/-- A listing records what it shows, and nothing else happens. -/
theorem run_listEntries (platform : Platform) (answer : TreeAnswer) (path : JsString)
    (children : List NodeEntity) (parent : Uid) (seen : List JsString) (world : ServiceWorld) :
    ∃ memory, answer.run (listEntries platform path parent children seen) world =
      (.ok (shownEntries platform children seen), ⟨memory, world.remote⟩) := by
  induction children generalizing seen world with
  | nil => exact ⟨world.memory, rfl⟩
  | cons child rest induction =>
      rw [listEntries, shownEntries]
      cases toEntry platform child with
      | none => exact induction seen world
      | some entry =>
          dsimp only
          split
          · exact induction seen world
          · rcases induction (entry.name :: seen)
              ⟨cachePath (join path entry.name) child.uid (some parent) world.memory, world.remote⟩
              with ⟨memory, ran⟩
            refine ⟨memory, ?_⟩
            rw [TreeAnswer.run, Program.run_bind, Program.run_modify]
            dsimp only
            rw [TreeAnswer.run] at ran
            rw [Program.run_bind, ran]
            rfl

section

variable (truthful : Truthful platform answer) (hasRoot : drive.HasRoot)
  (same : world.remote = drive) (accurate : Accurate platform world)
include truthful hasRoot same accurate

theorem Truthful.run_stat (safe : (segments path).all isSafeSegment = true) :
    (answer.run (stat platform path) world).1 = .ok (statEntry platform drive path) := by
  rcases truthful.run_resolve hasRoot false safe same accurate with ⟨reached, ran, _, _⟩
  have mapped := run_mapErrors platform ran
  rw [TreeAnswer.run] at mapped ⊢
  rw [stat, Program.run_bind, mapped, statEntry]
  dsimp only
  cases drive.nodeAt platform path false with
  | none => rfl
  | some node =>
      dsimp only
      split
      · rfl
      · rfl

theorem Truthful.run_resolveOrThrow (safe : (segments path).all isSafeSegment = true) :
    ∃ reached, reached.remote = drive ∧ Accurate platform reached ∧
      answer.run (resolveOrThrow platform path) world =
        (match drive.nodeAt platform path false with
          | none => .error (.gateway (.notFound (("Not found: " : JsString) ++ path)))
          | some node => .ok node, reached) := by
  rcases truthful.run_resolve hasRoot false safe same accurate with ⟨reached, ran, kept, still⟩
  refine ⟨reached, kept, still, ?_⟩
  rw [TreeAnswer.run] at ran ⊢
  rw [resolveOrThrow, Program.run_bind, ran]
  dsimp only
  cases drive.nodeAt platform path false with
  | none => rfl
  | some node => rfl

theorem Truthful.run_list {folder : NodeEntity}
    (found : drive.nodeAt platform path false = some folder) (isFolder : folder.type = .folder)
    (safe : (segments path).all isSafeSegment = true) :
    (answer.run (list platform path) world).1 =
      .ok (shownEntries platform (drive.children platform folder.uid) []) := by
  rcases truthful.run_resolveOrThrow hasRoot same accurate safe with ⟨reached, kept, _, ran⟩
  rw [found] at ran
  have mapped := run_mapErrors platform ran
  have listed : ∃ after, answer.run (mapErrors platform
      (Program.request (SdkCall.iterateFolderChildren folder none))) reached =
        (.ok ⟨drive.children platform folder.uid, none⟩, after) := by
    refine ⟨(answer.respond reached (.iterateFolderChildren folder none)).2,
      run_mapErrors platform ?_⟩
    rw [TreeAnswer.run, Program.run_request, TreeAnswer.respond, truthful.children, kept]
  rcases listed with ⟨after, listed⟩
  rcases run_listEntries platform answer path (drive.children platform folder.uid) folder.uid []
    after with ⟨memory, entries⟩
  rw [TreeAnswer.run] at mapped listed entries ⊢
  rw [list, Program.run_bind, mapped]
  dsimp only
  rw [if_neg (not_not_intro isFolder), Program.run_bind, listed]
  dsimp only
  rw [listChildren, Program.run_bind, entries]
  rfl

end

theorem nodeAt_normalize (path : JsString) (includeDrafts : Bool) :
    drive.nodeAt platform (normalize path) includeDrafts =
      drive.nodeAt platform path includeDrafts := by
  rw [Drive.nodeAt, Drive.nodeAt, segments_normalize]

theorem visit_of_nodeAt {includeDrafts : Bool} {node : NodeEntity}
    (found : drive.nodeAt platform path includeDrafts = some node) :
    drive.visit platform (segments path).reverse includeDrafts = some node := by
  rw [Drive.nodeAt, Option.ite_none_right_eq_some] at found
  exact found.2

/-- A removal trashes what a lookup finds. -/
theorem run_remove (truthful : Truthful platform answer) (trashes : Trashes answer)
    (hasRoot : drive.HasRoot) (same : world.remote = drive)
    (accurate : Accurate platform world) (inside : segments path ≠ [])
    (safe : (segments path).all isSafeSegment = true) :
    match drive.nodeAt platform path false with
    | none => ∃ error, (answer.run (remove platform path) world).1 =
          .error error ∧ error.status = 404 ∧
        (answer.run (remove platform path) world).2.remote = drive
    | some node => (answer.run (remove platform path) world).1 = .ok () ∧
        (answer.run (remove platform path) world).2.remote =
          drive.trash node.uid := by
  have notRoot : isRoot (normalize path) = false := by
    rw [isRoot_normalize, ← Bool.not_eq_true, isRoot_iff]
    exact inside
  have normal : (segments (normalize path)).all isSafeSegment = true := by
    rw [segments_normalize]
    exact safe
  rcases truthful.run_resolveOrThrow hasRoot same accurate normal with
    ⟨reached, kept, _, ran⟩
  rw [nodeAt_normalize] at ran
  rw [TreeAnswer.run] at ran ⊢
  rw [remove, if_neg (ne_true_of_eq_false notRoot), Program.run_bind, ran]
  cases found : drive.nodeAt platform path false with
  | none => exact ⟨_, rfl, rfl, kept⟩
  | some node =>
      have there := Drive.getNode_of_visit (visit_of_nodeAt found)
      dsimp only
      rw [Program.run_bind, Program.run_request, TreeAnswer.respond, kept, trashes drive node there]
      exact ⟨rfl, rfl⟩

end

/-! ## Agreement -/

section

variable {answer : TreeAnswer} {drive : Drive} {world : ServiceWorld} {d n : JsString}
  {folder : NodeEntity}

theorem segments_child (segment : IsSegment n) : segments (join d n) = segments d ++ [n] := by
  rw [segments_join, segments_of_isSegment segment]

theorem safe_of_nodeAt {includeDrafts : Bool} {node : NodeEntity}
    (found : drive.nodeAt platform d includeDrafts = some node) :
    (segments d).all isSafeSegment = true := by
  rw [Drive.nodeAt, Option.ite_none_right_eq_some] at found
  exact found.1

/-- What a lookup takes in a folder: the first child of the name, if it is usable. -/
theorem nodeAt_join (found : drive.nodeAt platform d false = some folder)
    (isFolder : folder.type = .folder) (segment : IsSegment n) (safe : isSafeSegment n = true) :
    drive.nodeAt platform (join d n) false =
      ((drive.children platform folder.uid).find? fun child => platform.getName child = n).bind
        fun child => if child.isDraft || child.trashed then none else some child := by
  have above := safe_of_nodeAt found
  rw [Drive.nodeAt, if_pos above] at found
  have whole : (segments (join d n)).all isSafeSegment = true := by
    rw [segments_child segment, List.all_append, above, List.all_cons, safe]
    rfl
  rw [Drive.nodeAt, if_pos whole, segments_child segment, List.reverse_concat, Drive.visit, found,
    Option.bind_some, if_neg (not_not_intro isFolder)]
  congr 1
  funext child
  cases child.isDraft with
  | true => rfl
  | false => rfl

/-- The three operations, each on a gateway of its own, are of one mind about a name. -/
structure Agree (platform : Platform) (answer : TreeAnswer) (world : ServiceWorld)
    (folder : NodeEntity) (d n : JsString) : Prop where
  listed : ∃ entries,
    (answer.run (list platform d) world).1 = .ok entries ∧
      ∀ entry, entry ∈ entries ∧ entry.name = n ↔
        (answer.run (stat platform (join d n)) world).1 = .ok (some entry)
  trashes : ∀ entry,
    (answer.run (stat platform (join d n)) world).1 = .ok (some entry) →
      ∃ node, shownChild platform (world.remote.children platform folder.uid) n = some node ∧
        toEntry platform node = some entry ∧
        (answer.run (remove platform (join d n)) world).1 = .ok () ∧
        (answer.run (remove platform (join d n)) world).2.remote =
          world.remote.trash node.uid
  refuses : (answer.run (stat platform (join d n)) world).1 = .ok none →
    ∃ error, (answer.run (remove platform (join d n)) world).1 =
        .error error ∧ error.status = 404 ∧
      (answer.run (remove platform (join d n)) world).2.remote = world.remote

/-- If the first child of the name cannot be shown, it is a draft or trashed, and no other
child is shown under the name. -/
def FirstTells (platform : Platform) (children : List NodeEntity) (name : JsString) : Prop :=
  ∀ child, children.find? (fun child => platform.getName child = name) = some child →
    toEntry platform child = none →
      (child.isDraft = true ∨ child.trashed = true) ∧ shownChild platform children name = none

/-- What of the entries of a listing has a name. -/
theorem mem_listed_iff {children : List NodeEntity} (entry : DriveEntry) :
    entry ∈ shownEntries platform children [] ∧ entry.name = n ↔
      (shownChild platform children n).bind (toEntry platform) = some entry := by
  rw [mem_shownEntries]
  constructor
  · intro listed
    rw [← listed.2]
    exact listed.1.2
  · intro shown
    have named : entry.name = n := by
      rcases Option.bind_eq_some_iff.mp shown with ⟨node, first, listed⟩
      rcases shownChild_eq_some_entry first with ⟨other, same, name⟩
      cases listed.symm.trans same
      exact name
    rw [named]
    exact ⟨⟨List.not_mem_nil, shown⟩, rfl⟩

theorem statEntry_join (segment : IsSegment n) :
    statEntry platform drive (join d n) =
      (drive.nodeAt platform (join d n) false).bind (toEntry platform) := by
  have inside : isRoot (join d n) = false := by
    rw [← Bool.not_eq_true, isRoot_iff, segments_child segment]
    exact List.concat_ne_nil _ _
  rw [statEntry, inside]
  cases drive.nodeAt platform (join d n) false with
  | none => rfl
  | some node => rfl

/-- A name that no path can have is neither listed nor looked up. -/
theorem agree_of_unsafe (truthful : Truthful platform answer) (hasRoot : world.remote.HasRoot)
    (accurate : Accurate platform world)
    (found : world.remote.nodeAt platform d false = some folder) (isFolder : folder.type = .folder)
    (segment : IsSegment n) (bad : isSafeSegment n = false) :
    Agree platform answer world folder d n := by
  have refused : (answer.run (stat platform (join d n)) world).1 =
      .error (.gateway (.plain "Invalid path segment" 400)) := by
    have whole : ¬(segments (join d n)).all isSafeSegment = true := by
      rw [segments_child segment, List.all_append, List.all_cons, bad]
      simp
    rw [TreeAnswer.run, stat, resolve, if_neg whole]
    rfl
  constructor
  · refine ⟨_, truthful.run_list hasRoot rfl accurate found isFolder
      (safe_of_nodeAt found), ?_⟩
    intro entry
    rw [refused, mem_listed_iff, shownChild_of_unsafe bad]
    simp
  · intro entry stated
    cases refused.symm.trans stated
  · intro stated
    cases refused.symm.trans stated

section Safe

variable (truthful : Truthful platform answer) (trashes : Trashes answer)
  (hasRoot : world.remote.HasRoot) (accurate : Accurate platform world)
  (found : world.remote.nodeAt platform d false = some folder) (segment : IsSegment n)
  (safe : isSafeSegment n = true)
include found segment safe

private theorem safe_join : (segments (join d n)).all isSafeSegment = true := by
  rw [segments_child segment, List.all_append, safe_of_nodeAt found, List.all_cons, safe]
  rfl

include truthful hasRoot accurate

private theorem run_stat_join :
    (answer.run (stat platform (join d n)) world).1 =
      .ok ((world.remote.nodeAt platform (join d n) false).bind (toEntry platform)) := by
  rw [truthful.run_stat hasRoot rfl accurate
    (safe_join found segment safe), statEntry_join segment]

include trashes in
private theorem run_remove_join :
    match world.remote.nodeAt platform (join d n) false with
    | none => ∃ error, (answer.run (remove platform (join d n)) world).1 =
          .error error ∧ error.status = 404 ∧
        (answer.run (remove platform (join d n)) world).2.remote = world.remote
    | some node => (answer.run (remove platform (join d n)) world).1 = .ok () ∧
        (answer.run (remove platform (join d n)) world).2.remote =
          world.remote.trash node.uid := by
  apply run_remove truthful trashes hasRoot rfl accurate
  · rw [segments_child segment]
    exact List.concat_ne_nil _ _
  · exact safe_join found segment safe

/-- Where the operations agree, a listing shows what a lookup finds. -/
theorem Agree.shown_iff (isFolder : folder.type = .folder)
    (agree : Agree platform answer world folder d n) (entry : DriveEntry) :
    (shownChild platform (world.remote.children platform folder.uid) n).bind (toEntry platform) =
        some entry ↔
      (world.remote.nodeAt platform (join d n) false).bind (toEntry platform) = some entry := by
  rcases agree.listed with ⟨entries, ran, iff⟩
  rw [truthful.run_list hasRoot rfl accurate found isFolder (safe_of_nodeAt found)] at ran
  cases ran
  rw [← mem_listed_iff, iff, run_stat_join truthful hasRoot accurate found segment safe]
  rw [Except.ok.injEq]

include trashes in
/-- Where the operations agree, what a lookup finds can be shown. -/
theorem Agree.shows (agree : Agree platform answer world folder d n) {node : NodeEntity}
    (there : world.remote.nodeAt platform (join d n) false = some node) :
    toEntry platform node ≠ none := by
  intro hidden
  have stated := run_stat_join truthful hasRoot accurate found segment safe
  have removed := run_remove_join truthful trashes hasRoot accurate found segment safe
  rw [there] at removed
  rw [there, Option.bind_some, hidden] at stated
  rcases agree.refuses stated with ⟨error, refused, _⟩
  cases removed.1.symm.trans refused

include trashes in
/-- The operations agree if the listing shows what a lookup finds, and nothing else. -/
theorem agree_of_shown (isFolder : folder.type = .folder)
    (shown : shownChild platform (world.remote.children platform folder.uid) n =
      world.remote.nodeAt platform (join d n) false)
    (shows : ∀ node, world.remote.nodeAt platform (join d n) false = some node →
      toEntry platform node ≠ none) : Agree platform answer world folder d n := by
  have stated := run_stat_join truthful hasRoot accurate found segment safe
  have removed := run_remove_join truthful trashes hasRoot accurate found segment safe
  constructor
  · refine ⟨_, truthful.run_list hasRoot rfl accurate found isFolder
      (safe_of_nodeAt found), ?_⟩
    intro entry
    rw [mem_listed_iff, stated, shown]
    rw [Except.ok.injEq]
  · intro entry told
    have bound := Except.ok.inj (stated.symm.trans told)
    rcases Option.bind_eq_some_iff.mp bound with ⟨node, there, listed⟩
    rw [there] at removed
    exact ⟨node, shown.trans there, listed, removed⟩
  · intro told
    have bound := Except.ok.inj (stated.symm.trans told)
    cases there : world.remote.nodeAt platform (join d n) false with
    | none =>
        rw [there] at removed
        exact removed
    | some node =>
        rw [there, Option.bind_some] at bound
        exact absurd bound (shows node there)

end Safe

/-- The three operations agree about a name exactly if the first child that has it tells the
whole story. -/
theorem agree_iff (truthful : Truthful platform answer) (trashes : Trashes answer)
    (hasRoot : world.remote.HasRoot) (accurate : Accurate platform world)
    (found : world.remote.nodeAt platform d false = some folder) (isFolder : folder.type = .folder)
    (segment : IsSegment n) :
    Agree platform answer world folder d n ↔
      (isSafeSegment n = true →
        FirstTells platform (world.remote.children platform folder.uid) n) := by
  constructor
  · intro agree safe child first hidden
    have usable := nodeAt_join found isFolder segment safe
    rw [first, Option.bind_some] at usable
    have draftOrTrashed : (child.isDraft || child.trashed) = true := by
      by_contra visible
      rw [if_neg visible] at usable
      exact agree.shows truthful trashes hasRoot accurate found segment safe usable hidden
    refine ⟨Bool.or_eq_true_iff.mp draftOrTrashed, ?_⟩
    rw [if_pos draftOrTrashed] at usable
    cases shown : shownChild platform (world.remote.children platform folder.uid) n with
    | none => rfl
    | some other =>
        rcases shownChild_eq_some_entry shown with ⟨entry, listed, _⟩
        have iff := agree.shown_iff truthful hasRoot accurate found segment safe isFolder entry
        rw [shown, usable, Option.bind_some] at iff
        cases iff.mp listed
  · intro tells
    cases safe : isSafeSegment n with
    | false => exact agree_of_unsafe truthful hasRoot accurate found isFolder segment safe
    | true =>
        have usable := nodeAt_join found isFolder segment safe
        cases first : (world.remote.children platform folder.uid).find?
            fun child => platform.getName child = n with
        | none =>
            rw [first] at usable
            apply agree_of_shown truthful trashes hasRoot accurate found segment safe isFolder
            · rw [usable]
              exact shownChild_of_absent first
            · intro node there
              cases usable.symm.trans there
        | some child =>
            rw [first, Option.bind_some] at usable
            cases listed : toEntry platform child with
            | none =>
                rcases tells safe child first listed with ⟨hidden, none⟩
                rw [if_pos (Bool.or_eq_true_iff.mpr hidden)] at usable
                apply agree_of_shown truthful trashes hasRoot accurate found segment safe isFolder
                · rw [usable]
                  exact none
                · intro node there
                  cases usable.symm.trans there
            | some entry =>
                rcases shown_of_toEntry listed with ⟨_, _, live, committed⟩
                rw [if_neg (by simp [live, committed])] at usable
                apply agree_of_shown truthful trashes hasRoot accurate found segment safe isFolder
                · rw [usable]
                  exact shownChild_of_first first listed
                · intro node there
                  cases usable.symm.trans there
                  rw [listed]
                  exact Option.some_ne_none entry

end

/-! ## A file of unknown size -/

def topFolder : NodeEntity :=
  ⟨0, none, ⟨true, "my-files"⟩, .folder, false, none, none, ⟨some 0⟩⟩

/-- A tree of one file, of whose revision the size is known or not. -/
def oneFile (claimedSize : Option Nat) : Drive :=
  .ofNodes 0 [(0, .folder none "my-files"),
    (1, { DriveNode.file 0 "a" [104, 105] "" with
      activeRevision := some ⟨claimedSize, none, false, none⟩ })]

theorem sizedFile_agrees :
    Agree (.plain []) (TreeSdk.answer (.plain [])) ⟨.initial 0, oneFile (some 2)⟩ topFolder "/"
      "a" := by
  apply (agree_iff TreeSdk.truthful TreeSdk.trashes ⟨topFolder, rfl, rfl⟩ (.initial 0 _) rfl rfl
    (isSegment_of_isSafeSegment rfl)).mpr
  intro _ child first hidden
  have only : (oneFile (some 2)).children (.plain []) 0 =
      [(DriveNode.entity 1 { DriveNode.file 0 "a" [104, 105] "" with
        activeRevision := some ⟨some 2, none, false, none⟩ })] := rfl
  rw [topFolder, only] at first
  cases first
  cases hidden

/-- Nothing is said to be there, and it is trashed all the same. -/
theorem unsizedFile_disagrees :
    ¬Agree (.plain []) (TreeSdk.answer (.plain [])) ⟨.initial 0, oneFile none⟩ topFolder "/"
      "a" := by
  intro agree
  exact agree.shows TreeSdk.truthful TreeSdk.trashes ⟨topFolder, rfl, rfl⟩ (.initial 0 _) rfl
    (isSegment_of_isSafeSegment rfl) rfl rfl rfl

end DriveWebdav
