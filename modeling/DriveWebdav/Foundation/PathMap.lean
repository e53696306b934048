import DriveWebdav.Foundation.Folders
import Mathlib.Data.List.Induction
import Mathlib.Logic.Function.Basic

/-! # Path maps

What lists of names lead to, as a function, and what becomes of it when a branch is cut off or
put somewhere else. Nested folders are read as such maps. -/

namespace DriveWebdav

abbrev PathMap (Name Item : Type) := List Name → Option Item

namespace PathMap

variable {Name Item Other : Type}

/-- What is at a path and below it. -/
def branch (map : PathMap Name Item) (path : List Name) : PathMap Name Item :=
  fun q => map (path ++ q)

/-- An item with nothing below it. -/
def only (item : Item) : PathMap Name Item
  | [] => some item
  | _ :: _ => none

/-- What is left of the items, seen through `see`. -/
def seen (see : Item → Option Other) (map : PathMap Name Item) : PathMap Name Other :=
  fun q => (map q).bind see

/-- Whatever is at a path lies in folders. -/
structure Grounded (folder : Item) (map : PathMap Name Item) : Prop where
  root : map [] = some folder
  above : ∀ path name, map (path ++ [name]) ≠ none → map path = some folder

/-- Nothing lies below what is no folder. -/
theorem Grounded.below {folder : Item} {map : PathMap Name Item} {path : List Name}
    (grounded : Grounded folder map) (noFolder : map path ≠ some folder) (name : Name)
    (more : List Name) : map (path ++ name :: more) = none := by
  by_contra present
  apply noFolder
  induction more using List.reverseRecOn with
  | nil => exact grounded.above path name present
  | append_singleton more last induction =>
      have folderThere := grounded.above (path ++ name :: more) last (by simpa using present)
      apply induction
      rw [folderThere]
      exact Option.some_ne_none _

theorem Grounded.seen {folder : Item} {shown : Other} {map : PathMap Name Item}
    {see : Item → Option Other} (grounded : Grounded folder map) (same : see folder = some shown) :
    Grounded shown (PathMap.seen see map) where
  root := by
    rw [PathMap.seen, grounded.root]
    exact same
  above path name present := by
    rw [PathMap.seen, grounded.above path name]
    · exact same
    · intro none
      apply present
      rw [PathMap.seen, none]
      rfl

theorem seen_only {see : Item → Option Other} {item : Item} {other : Other}
    (same : see item = some other) :
    seen see (only item : PathMap Name Item) = only other := by
  funext q
  cases q with
  | nil => exact same
  | cons name more => rfl

theorem eq_of_only {item other : Item} {q : List Name} (there : only item q = some other) :
    item = other := by
  cases q with
  | nil => exact Option.some.inj there
  | cons name more => cases there

variable [DecidableEq Name]

/-- Without what is at a path and below it. -/
def prune (map : PathMap Name Item) (path : List Name) : PathMap Name Item :=
  fun q => if path <+: q then none else map q

/-- With a branch in the place of what is at a path and below it. -/
def graft (map : PathMap Name Item) (path : List Name) (branch : PathMap Name Item) :
    PathMap Name Item :=
  fun q => if path <+: q then branch (q.drop path.length) else map q

/-- What is at one path and below it, taken to another path. -/
def transplant (map : PathMap Name Item) (source target : List Name) : PathMap Name Item :=
  (map.prune source).graft target (map.branch source)

variable {map : PathMap Name Item} {path source target : List Name} {see : Item → Option Other}

theorem graft_append (branch : PathMap Name Item) (q : List Name) :
    map.graft path branch (path ++ q) = branch q := by
  rw [graft, if_pos (List.prefix_append path q), List.drop_left]

theorem graft_apart (branch : PathMap Name Item) {q : List Name} (apart : ¬path <+: q) :
    map.graft path branch q = map q := if_neg apart

theorem prune_apart {q : List Name} (apart : ¬path <+: q) : map.prune path q = map q :=
  if_neg apart

/-- Where nothing lay below, an item that is put at a path changes that path only. -/
theorem graft_only (item : Item) (nothing : ∀ name more, map (path ++ name :: more) = none) :
    map.graft path (only item) = Function.update map path (some item) := by
  funext q
  by_cases begins : path <+: q
  · rcases begins with ⟨_ | ⟨name, more⟩, rfl⟩
    · rw [graft_append, List.append_nil, Function.update_self]
      rfl
    · rw [graft_append, Function.update_of_ne, nothing]
      · rfl
      · intro same
        exact List.cons_ne_nil name more (List.append_right_eq_self.mp same)
  · rw [graft_apart _ begins, Function.update_of_ne]
    rintro rfl
    exact begins List.prefix_rfl

/-! ## Where items come from -/

theorem of_prune {q : List Name} {item : Item} (there : map.prune path q = some item) :
    map q = some item := by
  unfold prune at there
  split at there
  · cases there
  · exact there

theorem of_graft {branch : PathMap Name Item} {q : List Name} {item : Item}
    (there : map.graft path branch q = some item) :
    (∃ below, branch below = some item) ∨ map q = some item := by
  unfold graft at there
  split at there
  · exact .inl ⟨_, there⟩
  · exact .inr there

theorem of_transplant {q : List Name} {item : Item}
    (there : map.transplant source target q = some item) :
    ∃ earlier, map earlier = some item := by
  rcases of_graft there with ⟨below, there⟩ | there
  · exact ⟨source ++ below, there⟩
  · exact ⟨q, of_prune there⟩

/-! ## Views -/

theorem seen_prune : seen see (map.prune path) = (seen see map).prune path := by
  funext q
  unfold seen prune
  split
  · rfl
  · rfl

theorem seen_graft (branch : PathMap Name Item) :
    seen see (map.graft path branch) = (seen see map).graft path (seen see branch) := by
  funext q
  unfold seen graft
  split
  · rfl
  · rfl

theorem seen_transplant :
    seen see (map.transplant source target) = (seen see map).transplant source target := by
  rw [transplant, transplant, seen_graft, seen_prune]
  rfl

/-! ## Grounded maps -/

namespace Grounded

variable {folder item : Item}

theorem prune (grounded : Grounded folder map) (inside : path ≠ []) :
    Grounded folder (map.prune path) where
  root := by
    rw [prune_apart, grounded.root]
    exact fun begins => inside (List.prefix_nil.mp begins)
  above q name present := by
    by_cases begins : path <+: q ++ [name]
    · exact absurd (if_pos begins) present
    · rw [prune_apart begins] at present
      rw [prune_apart, grounded.above q name present]
      exact fun earlier => begins (earlier.trans (List.prefix_append q [name]))

/-- A branch that is grounded, or a single item, is put into a folder. -/
theorem graft {branch : PathMap Name Item} (grounded : Grounded folder map) (inside : path ≠ [])
    (parent : map path.dropLast = some folder)
    (above : ∀ q name, branch (q ++ [name]) ≠ none → branch q = some folder) :
    Grounded folder (map.graft path branch) where
  root := by
    rw [graft_apart, grounded.root]
    exact fun begins => inside (List.prefix_nil.mp begins)
  above q name present := by
    by_cases begins : path <+: q
    · rcases begins with ⟨more, rfl⟩
      rw [List.append_assoc, graft_append] at present
      rw [graft_append]
      exact above more name present
    · rw [graft_apart _ begins]
      by_cases whole : path <+: q ++ [name]
      · rcases List.prefix_concat_iff.mp whole with same | earlier
        · rw [same, List.dropLast_concat] at parent
          exact parent
        · exact absurd earlier begins
      · rw [graft_apart _ whole] at present
        exact grounded.above q name present

/-- An item is put into a folder, where no folder was. -/
theorem update (grounded : Grounded folder map) (inside : path ≠ [])
    (parent : map path.dropLast = some folder) (noFolder : map path ≠ some folder) :
    Grounded folder (Function.update map path (some item)) := by
  rw [← graft_only item (grounded.below noFolder)]
  apply grounded.graft inside parent
  intro q name present
  cases q with
  | nil => exact absurd rfl present
  | cons first more => exact absurd rfl present

/-- A branch is taken to a free place in a folder that is not in it. -/
theorem transplant (grounded : Grounded folder map) (inside : source ≠ []) (below : target ≠ [])
    (parent : map target.dropLast = some folder) (apart : ¬source <+: target.dropLast) :
    Grounded folder (map.transplant source target) := by
  apply (grounded.prune inside).graft below
  · rw [prune_apart apart]
    exact parent
  · intro q name present
    rw [branch, ← List.append_assoc] at present
    exact grounded.above _ _ present

end Grounded

end PathMap

/-! ## Folders as path maps -/

/-- A node and what is below it. -/
def Node.kindAt {Name Leaf Info : Type} [DecidableEq Name] :
    Node Name Leaf Info → PathMap Name (Kind Leaf)
  | .leaf value => PathMap.only (.leaf value)
  | .folder _ children => children.kindAt

namespace Entries

variable {Name Leaf Info : Type} [DecidableEq Name] {entries children : Entries Name Leaf Info}
  {path : List Name} {name : Name} {node : Node Name Leaf Info}

theorem grounded_kindAt : PathMap.Grounded .folder entries.kindAt where
  root := rfl
  above _ _ present := kindAt_of_append (Option.isSome_iff_ne_none.mpr present)

theorem kindAt_of_get (here : entries.get name = some node) (more : List Name) :
    entries.kindAt (name :: more) = node.kindAt more := by
  cases node with
  | folder info below => exact kindAt_folder here
  | leaf value =>
      rw [kindAt_leaf here]
      cases more with
      | nil => rfl
      | cons first more => rfl

/-- What a node that is found leads to is what its path leads to. -/
theorem kindAt_lookup {info : Info} (found : (Node.folder info entries).lookup path = some node) :
    node.kindAt = PathMap.branch entries.kindAt path := by
  induction path generalizing info entries with
  | nil =>
      cases found
      rfl
  | cons name path induction =>
      rcases Option.bind_eq_some_iff.mp found with ⟨next, here, found⟩
      funext more
      rw [PathMap.branch, List.cons_append, kindAt_of_get here]
      cases next with
      | folder below children => exact congrFun (induction found) more
      | leaf value =>
          cases path with
          | nil =>
              cases found
              rfl
          | cons first path => cases found

/-- A change of what one name of a folder stands for is a change of one branch. -/
theorem kindAt_modify_branch {change : Entries Name Leaf Info → Entries Name Leaf Info}
    {branch : PathMap Name (Kind Leaf)} (found : entries.folderAt path = some children)
    (here : ∀ more, (change children).kindAt (name :: more) = branch more)
    (others : ∀ first more, first ≠ name →
      (change children).kindAt (first :: more) = children.kindAt (first :: more)) :
    (entries.modify change path).kindAt =
      PathMap.graft entries.kindAt (path ++ [name]) branch := by
  funext q
  by_cases begins : path <+: q
  · rcases begins with ⟨_ | ⟨first, more⟩, rfl⟩
    · rw [kindAt_modify_inside found, PathMap.graft_apart, List.append_nil,
        kindAt_of_folderAt found]
      · rfl
      · intro longer
        have lengths := longer.length_le
        simp only [List.length_append, List.length_singleton, List.append_nil] at lengths
        omega
    · rw [kindAt_modify_inside found]
      by_cases same : first = name
      · have whole : path ++ name :: more = path ++ [name] ++ more := by
          rw [List.append_assoc, List.singleton_append]
        rw [same, here, whole, PathMap.graft_append]
      · rw [others first more same, PathMap.graft_apart, kindAt_append found]
        intro longer
        rcases longer with ⟨rest, whole⟩
        rw [List.append_assoc, List.singleton_append] at whole
        exact same (List.cons.inj (List.append_cancel_left whole)).1.symm
  · rw [kindAt_modify_outside begins, PathMap.graft_apart]
    exact fun longer => begins ((List.prefix_append path [name]).trans longer)

/-- A node is put in a folder with all that is below it. -/
theorem kindAt_modify_put (found : entries.folderAt path = some children)
    (node : Node Name Leaf Info) :
    (entries.modify (·.set name node) path).kindAt =
      PathMap.graft entries.kindAt (path ++ [name]) node.kindAt := by
  apply kindAt_modify_branch found
  · exact kindAt_of_get get_set_self
  · exact fun first more different => kindAt_set_of_ne different

/-- An entry is deleted with all that is below it. -/
theorem kindAt_modify_prune (found : entries.folderAt path = some children) :
    (entries.modify (·.delete name) path).kindAt =
      PathMap.prune entries.kindAt (path ++ [name]) := by
  have emptied : (entries.modify (·.delete name) path).kindAt =
      PathMap.graft entries.kindAt (path ++ [name]) fun _ => none := by
    apply kindAt_modify_branch found
    · exact fun more => kindAt_none get_delete_self
    · exact fun first more different => kindAt_delete_of_ne different
  exact emptied

end Entries

end DriveWebdav
