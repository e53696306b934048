import DriveWebdav.Drive
import Mathlib.Data.List.Induction

/-! # Relocation

A node that gets another parent and another name takes along everything below it. What a path
leads to afterwards is what another path led to before. -/

namespace DriveWebdav

/-- Of two paths, where a tree had what it has at `path` after the move from one to the other. -/
def origin (source target path : List JsString) : Option (List JsString) :=
  if target <+: path then some (source ++ path.drop target.length)
  else if source <+: path then none
  else some path

def NodeEntity.placed (node : NodeEntity) (parent : Uid) (name : NodeName) : NodeEntity :=
  { node with parentUid := some parent, name := name }

/-- What becomes of a node when that of identity `uid` is placed elsewhere. -/
def NodeEntity.relocated (uid parent : Uid) (name : NodeName) (node : NodeEntity) : NodeEntity :=
  if node.uid = uid then node.placed parent name else node

@[simp] theorem NodeEntity.relocated_uid (uid parent : Uid) (name : NodeName)
    (node : NodeEntity) : (node.relocated uid parent name).uid = node.uid := by
  unfold relocated
  split
  · rfl
  · rfl

@[simp] theorem NodeEntity.relocated_type (uid parent : Uid) (name : NodeName)
    (node : NodeEntity) : (node.relocated uid parent name).type = node.type := by
  unfold relocated
  split
  · rfl
  · rfl

namespace Drive

/-- Change one node. -/
def alter (drive : Drive) (uid : Uid) (change : DriveNode → DriveNode) : Drive where
  root := drive.root
  nodes := drive.nodes.mapValues fun key node => if key = uid then change node else node

def relocate (drive : Drive) (uid parent : Uid) (name : NodeName) : Drive :=
  drive.alter uid fun stored => { stored with parentUid := some parent, name := name }

/-- No way down leads back to the root. -/
def Rooted (platform : Platform) (drive : Drive) : Prop :=
  ∀ segs parent, FolderAt platform drive segs parent →
    ∀ child ∈ drive.children platform parent, child.uid ≠ drive.root

/-- A tree in which no two siblings have one name. -/
structure IsTree (platform : Platform) (drive : Drive) : Prop where
  unique : UniqueNames platform drive
  rooted : Rooted platform drive

/-- What is taken of a folder on the way down. -/
def pick (platform : Platform) (drive : Drive) (name : JsString) (includeDrafts : Bool)
    (parent : NodeEntity) : Option NodeEntity :=
  if parent.type ≠ .folder then none
  else
    ((drive.children platform parent.uid).find? fun child =>
        platform.getName child = name).bind fun found =>
      if found.isDraft && !includeDrafts then none
      else if found.trashed then none
      else some found

variable {platform : Platform} {drive : Drive}

theorem visit_cons (name : JsString) (above : List JsString) (includeDrafts : Bool) :
    drive.visit platform (name :: above) includeDrafts =
      (drive.visit platform above false).bind (drive.pick platform name includeDrafts) := rfl

theorem mem_of_pick {name : JsString} {includeDrafts : Bool} {parent node : NodeEntity}
    (picked : drive.pick platform name includeDrafts parent = some node) :
    parent.type = .folder ∧ node ∈ drive.children platform parent.uid ∧
      platform.getName node = name ∧ node.trashed = false ∧
        (node.isDraft = true → includeDrafts = true) := by
  unfold pick at picked
  split at picked
  · cases picked
  · next isFolder =>
      rcases Option.bind_eq_some_iff.mp picked with ⟨child, found, taken⟩
      split at taken
      · cases taken
      · next visible =>
          split at taken
          · cases taken
          · next live =>
              cases taken
              have named := List.find?_some found
              refine ⟨Decidable.of_not_not isFolder, List.mem_of_find?_eq_some found,
                of_decide_eq_true named, eq_false_of_ne_true live, ?_⟩
              intro draft
              simpa [draft] using visible

/-- What is found without the drafts is found with them. -/
theorem visit_of_committed {names : List JsString} {node : NodeEntity}
    (found : drive.visit platform names false = some node) (includeDrafts : Bool) :
    drive.visit platform names includeDrafts = some node := by
  cases names with
  | nil => exact found
  | cons name above =>
      rw [visit_cons_eq_some] at found ⊢
      rcases found with ⟨parent, lies, named, committed, live⟩
      exact ⟨parent, lies, named, fun draft => absurd (committed draft) Bool.false_ne_true, live⟩

/-- A node other than the root lies in a folder, under its own name. -/
theorem lies_of_visit {segs : List JsString} {includeDrafts : Bool} {node : NodeEntity}
    (found : drive.visit platform segs.reverse includeDrafts = some node) (inside : segs ≠ []) :
    ∃ above folder, segs = above ++ [platform.getName node] ∧
      drive.visit platform above.reverse false = some folder ∧
      node ∈ drive.children platform folder.uid ∧ node.trashed = false ∧
      (node.isDraft = true → includeDrafts = true) := by
  rcases List.eq_nil_or_concat segs with empty | ⟨above, name, rfl⟩
  · exact absurd empty inside
  · rw [List.concat_eq_append, List.reverse_concat, visit_cons] at found
    rcases Option.bind_eq_some_iff.mp found with ⟨folder, up, picked⟩
    rcases mem_of_pick picked with ⟨_, member, named, live, committed⟩
    refine ⟨above, folder, ?_, up, member, live, committed⟩
    rw [List.concat_eq_append, named]

theorem UniqueNames.find?_eq_some_iff (unique : UniqueNames platform drive) {parent : Uid}
    {name : JsString} {node : NodeEntity} :
    (drive.children platform parent).find? (fun child => platform.getName child = name) =
        some node ↔
      node ∈ drive.children platform parent ∧ platform.getName node = name := by
  constructor
  · intro found
    have named := List.find?_some found
    exact ⟨List.mem_of_find?_eq_some found, of_decide_eq_true named⟩
  · intro there
    rw [← there.2]
    exact unique.find_eq_some there.1

/-! ## Paths of a tree -/

/-- No way down leads back to a root without a parent. -/
theorem rooted_of_top
    (top : ∀ stored, drive.nodes.get drive.root = some stored → stored.parentUid = none) :
    Rooted platform drive := by
  intro segs parent _ child member root
  rcases mem_children.mp member with ⟨fetched, inside, _⟩
  rcases getNode_eq_some.mp fetched with ⟨stored, located, same⟩
  rw [root] at located
  rw [← same] at inside
  cases (top stored located).symm.trans inside

/-- A root without a parent, and siblings told apart by their names, make a tree. -/
theorem isTree_of_entries
    (top : ∀ root ∈ drive.nodes.entries, root.1 = drive.root → root.2.parentUid = none)
    (names : ∀ first ∈ drive.nodes.entries, ∀ second ∈ drive.nodes.entries,
      first.2.parentUid = second.2.parentUid →
        platform.showName first.2.name = platform.showName second.2.name → first = second) :
    IsTree platform drive where
  unique := by
    intro parent first inFirst second inSecond named
    rcases mem_children.mp inFirst with ⟨fetched, inside, _⟩
    rcases mem_children.mp inSecond with ⟨fetchedToo, insideToo, _⟩
    rcases getNode_eq_some.mp fetched with ⟨stored, located, same⟩
    rcases getNode_eq_some.mp fetchedToo with ⟨other, locatedToo, sameToo⟩
    rw [InsertionMap.get_eq_some_iff] at located locatedToo
    have parents : stored.parentUid = other.parentUid := by
      rw [← same] at inside
      rw [← sameToo] at insideToo
      exact inside.trans insideToo.symm
    have shown : platform.showName stored.name = platform.showName other.name := by
      rw [← same, ← sameToo] at named
      exact named
    have entries := names _ located _ locatedToo parents shown
    have entities := congrArg (fun entry => entry.2.entity entry.1) entries
    exact same.symm.trans (entities.trans sameToo)
  rooted := rooted_of_top fun stored located =>
    top _ ((InsertionMap.get_eq_some_iff _ _ _).mp located) rfl

namespace Rooted

variable (rooted : Rooted platform drive)
include rooted

theorem ne_root {name : JsString} {above : List JsString} {includeDrafts : Bool}
    {node : NodeEntity} (found : drive.visit platform (name :: above) includeDrafts = some node) :
    node.uid ≠ drive.root := by
  rcases visit_cons_eq_some.mp found with ⟨parent, lies, named, _⟩
  exact rooted _ _ lies _ (List.mem_of_find?_eq_some named)

theorem ne_root_of_inside {segs : List JsString} {includeDrafts : Bool} {node : NodeEntity}
    (found : drive.visit platform segs.reverse includeDrafts = some node) (inside : segs ≠ []) :
    node.uid ≠ drive.root := by
  rcases List.eq_nil_or_concat segs with rfl | ⟨above, last, rfl⟩
  · exact absurd rfl inside
  · rw [List.concat_eq_append, List.reverse_concat] at found
    exact rooted.ne_root found

/-- A node is found at one path only. -/
theorem visit_unique {first second : List JsString} {firstDrafts secondDrafts : Bool}
    {node other : NodeEntity} (found : drive.visit platform first firstDrafts = some node)
    (foundToo : drive.visit platform second secondDrafts = some other)
    (same : node.uid = other.uid) : first = second := by
  induction first generalizing second firstDrafts secondDrafts node other with
  | nil =>
      cases second with
      | nil => rfl
      | cons name above =>
          have atRoot : node.uid = drive.root := uid_of_getNode found
          exact absurd (same.symm.trans atRoot) (rooted.ne_root foundToo)
  | cons name above induction =>
      cases second with
      | nil =>
          have atRoot : other.uid = drive.root := uid_of_getNode foundToo
          exact absurd (same.trans atRoot) (rooted.ne_root found)
      | cons otherName otherAbove =>
          have fetched := getNode_of_visit found
          rw [same, getNode_of_visit foundToo] at fetched
          cases fetched
          rcases Option.bind_eq_some_iff.mp found with ⟨folder, up, picked⟩
          rcases Option.bind_eq_some_iff.mp foundToo with ⟨otherFolder, otherUp, otherPicked⟩
          rcases mem_of_pick picked with ⟨_, inside, named, _⟩
          rcases mem_of_pick otherPicked with ⟨_, otherInside, otherNamed, _⟩
          have folders : folder.uid = otherFolder.uid := by
            have parents := (mem_children.mp inside).2.1.symm.trans (mem_children.mp otherInside).2.1
            exact Option.some.inj parents
          rw [induction up otherUp folders, ← named, otherNamed]

end Rooted

/-! ## Relocation -/

theorem get_alter (uid other : Uid) (change : DriveNode → DriveNode) :
    (drive.alter uid change).nodes.get other =
      (drive.nodes.get other).map fun stored => if other = uid then change stored else stored :=
  InsertionMap.get_mapValues _ _ _

/-- Only what becomes of the node counts. -/
theorem alter_congr {uid : Uid} {change otherwise : DriveNode → DriveNode}
    (same : ∀ stored, drive.nodes.get uid = some stored → change stored = otherwise stored) :
    drive.alter uid change = drive.alter uid otherwise := by
  unfold alter InsertionMap.mapValues
  congr 2
  apply List.map_congr_left
  intro entry member
  dsimp only
  split
  · next here =>
      rw [same entry.2]
      rw [InsertionMap.get_eq_some_iff, ← here]
      exact member
  · rfl

theorem alter_eq_self {uid : Uid} {change : DriveNode → DriveNode}
    (same : ∀ stored, drive.nodes.get uid = some stored → change stored = stored) :
    drive.alter uid change = drive := by
  have changed : drive.alter uid change = drive.alter uid id := alter_congr same
  rw [changed]
  unfold alter InsertionMap.mapValues
  have entries : drive.nodes.entries.map (fun entry =>
      (entry.1, if entry.1 = uid then id entry.2 else entry.2)) = drive.nodes.entries := by
    simp
  congr 2

theorem alter_alter (uid : Uid) (first second : DriveNode → DriveNode) :
    (drive.alter uid first).alter uid second = drive.alter uid (second ∘ first) := by
  unfold alter InsertionMap.mapValues
  congr 2
  rw [List.map_map]
  apply List.map_congr_left
  intro entry _
  dsimp only [Function.comp_apply]
  split
  · rfl
  · rfl

section

variable {node : NodeEntity} {parent : Uid} {name : NodeName}

theorem getNode_relocate (fetched : drive.getNode node.uid = some node) (other : Uid) :
    (drive.relocate node.uid parent name).getNode other =
      if other = node.uid then some (node.placed parent name) else drive.getNode other := by
  rw [getNode, relocate, get_alter]
  split
  · next here =>
      rcases getNode_eq_some.mp fetched with ⟨stored, located, same⟩
      rw [here, located, ← same]
      rfl
  · rw [Option.map_id']
    rfl

theorem getNode_relocate_eq (fetched : drive.getNode node.uid = some node) (other : Uid) :
    (drive.relocate node.uid parent name).getNode other =
      (drive.getNode other).map (NodeEntity.relocated node.uid parent name) := by
  rw [getNode_relocate fetched]
  split
  · next here => rw [here, fetched, Option.map_some, NodeEntity.relocated, if_pos rfl]
  · next different =>
      cases there : drive.getNode other with
      | none => rfl
      | some found =>
          rw [Option.map_some, NodeEntity.relocated, if_neg]
          rw [uid_of_getNode there]
          exact different

theorem mem_children_relocate (fetched : drive.getNode node.uid = some node)
    (live : node.trashed = false) {spot : Uid} {child : NodeEntity} :
    child ∈ (drive.relocate node.uid parent name).children platform spot ↔
      child.uid ≠ node.uid ∧ child ∈ drive.children platform spot ∨
        child = node.placed parent name ∧ spot = parent := by
  rw [mem_children, getNode_relocate fetched]
  split
  · next here =>
      constructor
      · intro there
        have moved := Option.some.inj there.1
        rw [← moved] at there
        exact .inr ⟨moved.symm, (Option.some.inj there.2.1).symm⟩
      · intro there
        rcases there with there | ⟨rfl, rfl⟩
        · exact absurd here there.1
        · exact ⟨rfl, rfl, .inr live⟩
  · next different =>
      rw [← mem_children]
      constructor
      · exact fun there => .inl ⟨different, there⟩
      · intro there
        rcases there with there | ⟨rfl, rfl⟩
        · exact there.2
        · exact absurd rfl different

variable (unique : UniqueNames platform drive) (fetched : drive.getNode node.uid = some node)
  (live : node.trashed = false)
  (free : ∀ child ∈ drive.children platform parent, platform.getName child ≠ platform.showName name)
include unique fetched live free

theorem UniqueNames.relocate :
    UniqueNames platform (drive.relocate node.uid parent name) := by
  intro spot first inFirst second inSecond named
  rcases (mem_children_relocate fetched live).mp inFirst with ⟨_, before⟩ | ⟨rfl, rfl⟩
  · rcases (mem_children_relocate fetched live).mp inSecond with ⟨_, beforeToo⟩ | ⟨rfl, rfl⟩
    · exact unique spot first before second beforeToo named
    · exact absurd named (free first before)
  · rcases (mem_children_relocate fetched live).mp inSecond with ⟨_, before⟩ | ⟨same, _⟩
    · exact absurd named.symm (free second before)
    · exact same.symm

/-- Where the node neither was nor is, a name stands for the child that it stood for. -/
theorem find?_relocate_elsewhere {spot : Uid} {sought : JsString}
    (notHere : ¬(spot = parent ∧ sought = platform.showName name))
    (notThere : ¬(node.parentUid = some spot ∧ platform.getName node = sought)) :
    ((drive.relocate node.uid parent name).children platform spot).find?
        (fun child => platform.getName child = sought) =
      (drive.children platform spot).find? (fun child => platform.getName child = sought) := by
  apply Option.ext
  intro child
  rw [(UniqueNames.relocate unique fetched live free).find?_eq_some_iff, unique.find?_eq_some_iff,
    mem_children_relocate fetched live]
  constructor
  · intro found
    rcases found with ⟨⟨_, inside⟩ | ⟨rfl, rfl⟩, named⟩
    · exact ⟨inside, named⟩
    · exact absurd ⟨rfl, named.symm⟩ notHere
  · intro found
    refine ⟨.inl ⟨?_, found.1⟩, found.2⟩
    intro same
    rcases mem_children.mp found.1 with ⟨again, inside, _⟩
    rw [same, fetched] at again
    cases again
    exact notThere ⟨inside, found.2⟩

theorem find?_relocate_here :
    ((drive.relocate node.uid parent name).children platform parent).find?
        (fun child => platform.getName child = platform.showName name) =
      some (node.placed parent name) := by
  rw [(UniqueNames.relocate unique fetched live free).find?_eq_some_iff]
  exact ⟨(mem_children_relocate fetched live).mpr (.inr ⟨rfl, rfl⟩), rfl⟩

theorem find?_relocate_left {spot : Uid} (inside : node ∈ drive.children platform spot)
    (notHere : ¬(spot = parent ∧ platform.getName node = platform.showName name)) :
    ((drive.relocate node.uid parent name).children platform spot).find?
        (fun child => platform.getName child = platform.getName node) = none := by
  cases found : ((drive.relocate node.uid parent name).children platform spot).find?
      (fun child => platform.getName child = platform.getName node) with
  | none => rfl
  | some child =>
      rw [(UniqueNames.relocate unique fetched live free).find?_eq_some_iff,
        mem_children_relocate fetched live] at found
      rcases found with ⟨⟨different, there⟩ | ⟨rfl, rfl⟩, named⟩
      · exact absurd (congrArg NodeEntity.uid (unique spot child there node inside named)) different
      · exact absurd ⟨rfl, named.symm⟩ notHere

/-! ## What paths lead to afterwards -/

theorem pick_relocate_here {folder : NodeEntity} (same : folder.uid = parent)
    (isFolder : folder.type = .folder) {includeDrafts : Bool}
    (committed : node.isDraft = true → includeDrafts = true) :
    (drive.relocate node.uid parent name).pick platform (platform.showName name) includeDrafts
      folder = some (node.placed parent name) := by
  have visible : (node.isDraft && !includeDrafts) = false := by
    cases draft : node.isDraft with
    | false => rfl
    | true => rw [committed draft]; rfl
  rw [pick, if_neg (not_not_intro isFolder), same,
    find?_relocate_here unique fetched live free, Option.bind_some]
  change (if (node.isDraft && !includeDrafts) = true then none
    else if node.trashed = true then none else some (node.placed parent name)) = _
  rw [visible, live]
  rfl

theorem pick_relocate_left {includeDrafts : Bool} {above : NodeEntity}
    (inside : node ∈ drive.children platform above.uid)
    (notHere : ¬(above.uid = parent ∧ platform.getName node = platform.showName name)) :
    (drive.relocate node.uid parent name).pick platform (platform.getName node) includeDrafts
      (above.relocated node.uid parent name) = none := by
  rw [pick, NodeEntity.relocated_uid,
    find?_relocate_left unique fetched live free inside notHere, Option.bind_none, ite_self]

/-- A name that is not the node's, before or after, is picked as it was. -/
theorem pick_relocate {sought : JsString} {includeDrafts : Bool} {above : NodeEntity}
    (notHere : ¬(above.uid = parent ∧ sought = platform.showName name))
    (notThere : ¬(node.parentUid = some above.uid ∧ platform.getName node = sought)) :
    (drive.relocate node.uid parent name).pick platform sought includeDrafts
        (above.relocated node.uid parent name) =
      (drive.pick platform sought includeDrafts above).map
        (NodeEntity.relocated node.uid parent name) := by
  have kept : ∀ found, drive.pick platform sought includeDrafts above = some found →
      found.uid ≠ node.uid := by
    intro found picked same
    rcases mem_of_pick picked with ⟨_, inside, named, _⟩
    rcases mem_children.mp inside with ⟨again, parents, _⟩
    rw [same, fetched] at again
    cases again
    exact notThere ⟨parents, named⟩
  have equal : (drive.relocate node.uid parent name).pick platform sought includeDrafts
        (above.relocated node.uid parent name) =
      drive.pick platform sought includeDrafts above := by
    rw [pick, pick, NodeEntity.relocated_uid, NodeEntity.relocated_type,
      find?_relocate_elsewhere unique fetched live free notHere notThere]
  rw [equal]
  cases picked : drive.pick platform sought includeDrafts above with
  | none => rfl
  | some found => rw [Option.map_some, NodeEntity.relocated, if_neg (kept found picked)]

end

section

variable {node folder : NodeEntity} {name : NodeName} {source above : List JsString}
  (tree : IsTree platform drive)
  (found : drive.visit platform source.reverse false = some node) (inside : source ≠ [])
  (target : drive.visit platform above.reverse false = some folder)
  (free : ∀ child ∈ drive.children platform folder.uid,
    platform.getName child ≠ platform.showName name)
  (apart : ¬source <+: above ++ [platform.showName name])
include tree found inside target free apart

/-- One name further on the way down, apart from the node's own steps. -/
private theorem visit_relocate_step {old : List JsString} {sought : JsString}
    {includeDrafts : Bool} (notHere : ¬(old = above ∧ sought = platform.showName name))
    (notThere : old ++ [sought] ≠ source) :
    ((drive.visit platform old.reverse false).map
        (NodeEntity.relocated node.uid folder.uid name)).bind
        ((drive.relocate node.uid folder.uid name).pick platform sought includeDrafts) =
      (drive.visit platform (old ++ [sought]).reverse includeDrafts).map
        (NodeEntity.relocated node.uid folder.uid name) := by
  rcases lies_of_visit found inside with ⟨up, home, rfl, upward, within, live, _⟩
  rw [List.reverse_concat, visit_cons]
  cases walked : drive.visit platform old.reverse false with
  | none => rfl
  | some last =>
      apply pick_relocate tree.unique (getNode_of_visit found) live free
      · intro here
        apply notHere
        exact ⟨List.reverse_inj.mp (tree.rooted.visit_unique walked target here.1), here.2⟩
      · intro there
        apply notThere
        have parents := (mem_children.mp within).2.1.symm.trans there.1
        have same := tree.rooted.visit_unique upward walked (Option.some.inj parents)
        rw [← List.reverse_inj.mp same, there.2]

/-- Everything is found where it was, but for what is at the old path or below. -/
theorem visit_relocate (isFolder : folder.type = .folder) (path : List JsString)
    (includeDrafts : Bool) :
    (drive.relocate node.uid folder.uid name).visit platform path.reverse includeDrafts =
      (origin source (above ++ [platform.showName name]) path).bind fun old =>
        (drive.visit platform old.reverse includeDrafts).map
          (NodeEntity.relocated node.uid folder.uid name) := by
  have fetched := getNode_of_visit found
  have notAbove : ¬source <+: above := fun begins => apart (begins.trans (List.prefix_append _ _))
  rcases lies_of_visit found inside with ⟨up, home, shape, upward, within, live, committed⟩
  induction path using List.reverseRecOn generalizing includeDrafts with
  | nil =>
      rw [origin, if_neg (by simp), if_neg (by simpa using inside)]
      exact getNode_relocate_eq fetched drive.root
  | append_singleton path sought induction =>
      rw [List.reverse_concat, visit_cons, induction]
      by_cases taken : above ++ [platform.showName name] <+: path
      · -- below the new path
        have further := taken.trans (List.prefix_append path [sought])
        rw [origin, origin, if_pos taken, if_pos further, Option.bind_some, Option.bind_some,
          List.drop_append_of_le_length taken.length_le, ← List.append_assoc]
        apply visit_relocate_step tree found inside target free apart
        · intro here
          apply notAbove
          rw [← here.1]
          exact List.prefix_append _ _
        · intro short
          have lengths := congrArg List.length short
          simp only [List.length_append, List.length_singleton] at lengths
          omega
      · by_cases here : above ++ [platform.showName name] = path ++ [sought]
        · -- the new path itself
          rcases List.append_inj' here rfl with ⟨rfl, same⟩
          have last := (List.cons.inj same).1
          rw [origin, origin, if_neg taken, if_neg notAbove, ← last, if_pos List.prefix_rfl,
            List.drop_length, List.append_nil, Option.bind_some, Option.bind_some, target,
            visit_of_committed found]
          rw [Option.map_some, Option.bind_some, Option.map_some,
            NodeEntity.relocated, NodeEntity.relocated, if_pos rfl, if_neg]
          · apply pick_relocate_here tree.unique fetched live free rfl isFolder
            exact fun draft => absurd (committed draft) Bool.false_ne_true
          · intro equal
            apply notAbove
            exact ⟨[], by rw [List.append_nil,
              List.reverse_inj.mp (tree.rooted.visit_unique target found equal)]⟩
        · have apartFrom : ¬above ++ [platform.showName name] <+: path ++ [sought] := by
            rw [List.prefix_concat_iff]
            exact fun begins => begins.elim here taken
          rw [origin, origin, if_neg taken, if_neg apartFrom]
          by_cases below : source <+: path
          · -- below the old path
            rw [if_pos below, if_pos (below.trans (List.prefix_append path [sought]))]
            rfl
          · rw [if_neg below, Option.bind_some]
            by_cases left : source = path ++ [sought]
            · -- the old path itself
              rw [if_pos (left ▸ List.prefix_rfl), Option.bind_none]
              rcases List.append_inj' (shape.symm.trans left) rfl with ⟨rfl, same⟩
              rw [← (List.cons.inj same).1, upward, Option.map_some, Option.bind_some]
              apply pick_relocate_left tree.unique fetched live free within
              intro spot
              apply apart
              exact ⟨[], by rw [List.append_nil, shape, spot.2,
                List.reverse_inj.mp (tree.rooted.visit_unique upward target spot.1)]⟩
            · rw [if_neg, Option.bind_some]
              · apply visit_relocate_step tree found inside target free apart
                · intro spot
                  apply here
                  rw [spot.1, spot.2]
                · exact fun same => left same.symm
              · rw [List.prefix_concat_iff]
                exact fun begins => begins.elim left below

end

end Drive

end DriveWebdav
