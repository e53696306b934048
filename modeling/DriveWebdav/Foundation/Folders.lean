import Mathlib.Data.List.Basic

/-! # Nested folders

Folders within folders, each a map from names to what it holds that remembers insertion order.
Nothing here fixes what a leaf is or what a folder carries besides its entries. -/

namespace DriveWebdav

/-- The entries of a folder, in order. -/
inductive Entries (Name Leaf Info : Type)
  | nil
  | leaf (name : Name) (value : Leaf) (rest : Entries Name Leaf Info)
  | folder (name : Name) (info : Info) (children rest : Entries Name Leaf Info)
  deriving DecidableEq

/-- What a name stands for in a folder. -/
inductive Node (Name Leaf Info : Type)
  | leaf (value : Leaf)
  | folder (info : Info) (children : Entries Name Leaf Info)

/-- A node without what is below it. -/
inductive Kind (Leaf : Type)
  | leaf (value : Leaf)
  | folder
  deriving DecidableEq

namespace Entries

variable {Name Leaf Info : Type}

def cons (name : Name) : Node Name Leaf Info → Entries Name Leaf Info → Entries Name Leaf Info
  | .leaf value, rest => .leaf name value rest
  | .folder info children, rest => .folder name info children rest

def toList : Entries Name Leaf Info → List (Name × Node Name Leaf Info)
  | .nil => []
  | .leaf name value rest => (name, .leaf value) :: rest.toList
  | .folder name info children rest => (name, .folder info children) :: rest.toList

def names (entries : Entries Name Leaf Info) : List Name := entries.toList.map Prod.fst

/-- No folder has two entries of one name. -/
def Unique : Entries Name Leaf Info → Prop
  | .nil => True
  | .leaf name _ rest => name ∉ rest.names ∧ rest.Unique
  | .folder name _ children rest => name ∉ rest.names ∧ children.Unique ∧ rest.Unique

/-- Every entry at any depth satisfies a condition. -/
def All (holds : Name → Kind Leaf → Prop) : Entries Name Leaf Info → Prop
  | .nil => True
  | .leaf name value rest => holds name (.leaf value) ∧ rest.All holds
  | .folder name _ children rest =>
      holds name .folder ∧ children.All holds ∧ rest.All holds

/-- Every node below a folder, with the names that lead to it from `above`. -/
def contents (above : List Name) : Entries Name Leaf Info → List (List Name × Kind Leaf)
  | .nil => []
  | .leaf name value rest => (above ++ [name], .leaf value) :: rest.contents above
  | .folder name _ children rest =>
      (above ++ [name], .folder) :: (children.contents (above ++ [name]) ++ rest.contents above)

variable [DecidableEq Name]

def get (entries : Entries Name Leaf Info) (name : Name) : Option (Node Name Leaf Info) :=
  match entries with
  | .nil => none
  | .leaf other value rest => if other = name then some (.leaf value) else rest.get name
  | .folder other info children rest =>
      if other = name then some (.folder info children) else rest.get name

/-- A present name keeps its place, a new one goes last. -/
def set (entries : Entries Name Leaf Info) (name : Name) (node : Node Name Leaf Info) :
    Entries Name Leaf Info :=
  match entries with
  | .nil => cons name node .nil
  | .leaf other value rest =>
      if other = name then cons name node rest else .leaf other value (rest.set name node)
  | .folder other info children rest =>
      if other = name then cons name node rest
      else .folder other info children (rest.set name node)

def delete (entries : Entries Name Leaf Info) (name : Name) : Entries Name Leaf Info :=
  match entries with
  | .nil => .nil
  | .leaf other value rest =>
      if other = name then rest.delete name else .leaf other value (rest.delete name)
  | .folder other info children rest =>
      if other = name then rest.delete name
      else .folder other info children (rest.delete name)

/-- The entries of the folder that a list of names leads to. -/
def folderAt (entries : Entries Name Leaf Info) : List Name → Option (Entries Name Leaf Info)
  | [] => some entries
  | name :: path =>
      match entries.get name with
      | some (.folder _ children) => children.folderAt path
      | _ => none

/-- What a list of names leads to. -/
def kindAt (entries : Entries Name Leaf Info) : List Name → Option (Kind Leaf)
  | [] => some .folder
  | name :: path =>
      match entries.get name with
      | some (.folder _ children) => children.kindAt path
      | some (.leaf value) => if path = [] then some (.leaf value) else none
      | none => none

/-- Change the folder that a list of names leads to, if there is one. -/
def modify (change : Entries Name Leaf Info → Entries Name Leaf Info) :
    List Name → Entries Name Leaf Info → Entries Name Leaf Info
  | [], entries => change entries
  | name :: path, entries =>
      match entries.get name with
      | some (.folder info children) => entries.set name (.folder info (children.modify change path))
      | _ => entries

/-- Make the folders that a list of names leads through, as far as they are missing. A leaf in
their place is an error. -/
def ensure (info : Info) : List Name → Entries Name Leaf Info → Option (Entries Name Leaf Info)
  | [], entries => some entries
  | name :: path, entries =>
      match entries.get name with
      | none => (ensure info path .nil).map fun made => entries.set name (.folder info made)
      | some (.folder old children) =>
          (ensure info path children).map fun made => entries.set name (.folder old made)
      | some (.leaf _) => none

end Entries

namespace Node

variable {Name Leaf Info : Type}

def kind : Node Name Leaf Info → Kind Leaf
  | .leaf value => .leaf value
  | .folder _ _ => .folder

def Unique : Node Name Leaf Info → Prop
  | .leaf _ => True
  | .folder _ children => children.Unique

/-- Every entry below a node satisfies a condition. -/
def Below (holds : Name → Kind Leaf → Prop) : Node Name Leaf Info → Prop
  | .leaf _ => True
  | .folder _ children => children.All holds

/-- Follow names from a node downward. -/
def lookup [DecidableEq Name] : Node Name Leaf Info → List Name → Option (Node Name Leaf Info)
  | node, [] => some node
  | .leaf _, _ :: _ => none
  | .folder _ children, name :: path => (children.get name).bind fun next => next.lookup path

end Node

namespace Entries

variable {Name Leaf Info : Type} {entries rest : Entries Name Leaf Info} {name other : Name}
  {node : Node Name Leaf Info} {holds : Name → Kind Leaf → Prop}

/-! ## One folder -/

/-- Induction over the entries of one folder. -/
@[elab_as_elim]
theorem cons_induct {motive : Entries Name Leaf Info → Prop} (nil : motive .nil)
    (cons : ∀ name node rest, motive rest → motive (cons name node rest))
    (entries : Entries Name Leaf Info) : motive entries := by
  induction entries with
  | nil => exact nil
  | leaf name value rest induction => exact cons name (.leaf value) rest induction
  | folder name info children rest _ induction =>
      exact cons name (.folder info children) rest induction

theorem toList_cons : (cons name node rest).toList = (name, node) :: rest.toList := by
  cases node with
  | leaf value => rfl
  | folder info children => rfl

theorem names_cons : (cons name node rest).names = name :: rest.names := by
  cases node with
  | leaf value => rfl
  | folder info children => rfl

theorem unique_cons : (cons name node rest).Unique ↔
    name ∉ rest.names ∧ node.Unique ∧ rest.Unique := by
  cases node with
  | leaf value =>
      change _ ∧ rest.Unique ↔ _ ∧ True ∧ rest.Unique
      rw [true_and]
  | folder info children => exact Iff.rfl

theorem all_cons : (cons name node rest).All holds ↔
    holds name node.kind ∧ node.Below holds ∧ rest.All holds := by
  cases node with
  | leaf value =>
      change _ ∧ rest.All holds ↔ _ ∧ True ∧ rest.All holds
      rw [true_and]
      exact Iff.rfl
  | folder info children => exact Iff.rfl

variable [DecidableEq Name]

theorem get_cons : (cons name node rest).get other =
    if name = other then some node else rest.get other := by
  cases node with
  | leaf value => rfl
  | folder info children => rfl

theorem set_cons {replaced : Node Name Leaf Info} : (cons name replaced rest).set other node =
    if name = other then cons other node rest else cons name replaced (rest.set other node) := by
  cases replaced with
  | leaf value => rfl
  | folder info children => rfl

theorem delete_cons : (cons name node rest).delete other =
    if name = other then rest.delete other else cons name node (rest.delete other) := by
  cases node with
  | leaf value => rfl
  | folder info children => rfl

@[simp] theorem get_set_self : (entries.set name node).get name = some node := by
  induction entries using cons_induct with
  | nil => rw [set, get_cons, if_pos rfl]
  | cons present held rest induction =>
      rw [set_cons]
      split
      · rw [get_cons, if_pos rfl]
      · next different => rw [get_cons, if_neg different, induction]

theorem get_set_of_ne (different : other ≠ name) :
    (entries.set name node).get other = entries.get other := by
  induction entries using cons_induct with
  | nil => rw [set, get_cons, if_neg different.symm]
  | cons present held rest induction =>
      rw [set_cons]
      split
      · next same => rw [get_cons, get_cons, same, if_neg different.symm, if_neg different.symm]
      · rw [get_cons, get_cons, induction]

@[simp] theorem get_delete_self : (entries.delete name).get name = none := by
  induction entries using cons_induct with
  | nil => rfl
  | cons present held rest induction =>
      rw [delete_cons]
      split
      · exact induction
      · next different => rw [get_cons, if_neg different, induction]

theorem get_delete_of_ne (different : other ≠ name) :
    (entries.delete name).get other = entries.get other := by
  induction entries using cons_induct with
  | nil => rfl
  | cons present held rest induction =>
      rw [delete_cons]
      split
      · next same => rw [induction, get_cons, same, if_neg different.symm]
      · rw [get_cons, get_cons, induction]

theorem get_eq_none_iff : entries.get name = none ↔ name ∉ entries.names := by
  induction entries using cons_induct with
  | nil =>
      constructor
      · intro _ member
        cases member
      · intro _
        rfl
  | cons present held rest induction =>
      rw [get_cons, names_cons, List.mem_cons, not_or, ← induction]
      split
      · next same => simp only [same, reduceCtorEq, not_true_eq_false, false_and]
      · next different => simp only [Ne.symm different, not_false_eq_true, true_and]

theorem mem_names_set :
    other ∈ (entries.set name node).names ↔ other = name ∨ other ∈ entries.names := by
  rw [← not_iff_not, not_or, ← get_eq_none_iff, ← get_eq_none_iff]
  by_cases same : other = name
  · simp only [same, get_set_self, reduceCtorEq, not_true_eq_false, false_and]
  · simp only [get_set_of_ne same, same, not_false_eq_true, true_and]

theorem mem_names_delete :
    other ∈ (entries.delete name).names ↔ other ≠ name ∧ other ∈ entries.names := by
  rw [← not_iff_not, not_and_or, ← get_eq_none_iff, ← get_eq_none_iff]
  by_cases same : other = name
  · simp only [same, get_delete_self, ne_eq, not_true_eq_false, not_false_eq_true, true_or]
  · simp only [get_delete_of_ne same, ne_eq, same, not_false_eq_true, not_true_eq_false, false_or]

/-! ## Conditions on all entries -/

theorem Unique.set (unique : entries.Unique) (held : node.Unique) :
    (entries.set name node).Unique := by
  induction entries using cons_induct with
  | nil => exact unique_cons.mpr ⟨List.not_mem_nil, held, trivial⟩
  | cons present replaced rest induction =>
      rcases unique_cons.mp unique with ⟨fresh, before, others⟩
      rw [set_cons]
      split
      · next same => exact unique_cons.mpr ⟨same ▸ fresh, held, others⟩
      · next different =>
          refine unique_cons.mpr ⟨?_, before, induction others⟩
          rw [mem_names_set, not_or]
          exact ⟨different, fresh⟩

theorem Unique.delete (unique : entries.Unique) : (entries.delete name).Unique := by
  induction entries using cons_induct with
  | nil => trivial
  | cons present held rest induction =>
      rcases unique_cons.mp unique with ⟨fresh, before, others⟩
      rw [delete_cons]
      split
      · exact induction others
      · refine unique_cons.mpr ⟨?_, before, induction others⟩
        rw [mem_names_delete]
        exact fun member => fresh member.2

theorem Unique.get (unique : entries.Unique) (found : entries.get name = some node) :
    node.Unique := by
  induction entries using cons_induct with
  | nil => cases found
  | cons present held rest induction =>
      rcases unique_cons.mp unique with ⟨_, before, others⟩
      rw [get_cons] at found
      split at found
      · cases found
        exact before
      · exact induction others found

theorem All.set (all : entries.All holds) (here : holds name node.kind)
    (below : node.Below holds) : (entries.set name node).All holds := by
  induction entries using cons_induct with
  | nil => exact all_cons.mpr ⟨here, below, trivial⟩
  | cons present replaced rest induction =>
      rcases all_cons.mp all with ⟨before, beforeBelow, others⟩
      rw [set_cons]
      split
      · exact all_cons.mpr ⟨here, below, others⟩
      · exact all_cons.mpr ⟨before, beforeBelow, induction others⟩

theorem All.delete (all : entries.All holds) : (entries.delete name).All holds := by
  induction entries using cons_induct with
  | nil => trivial
  | cons present held rest induction =>
      rcases all_cons.mp all with ⟨before, beforeBelow, others⟩
      rw [delete_cons]
      split
      · exact induction others
      · exact all_cons.mpr ⟨before, beforeBelow, induction others⟩

theorem All.get (all : entries.All holds) (found : entries.get name = some node) :
    holds name node.kind ∧ node.Below holds := by
  induction entries using cons_induct with
  | nil => cases found
  | cons present held rest induction =>
      rcases all_cons.mp all with ⟨before, beforeBelow, others⟩
      rw [get_cons] at found
      split at found
      · next same =>
          cases found
          exact ⟨same ▸ before, beforeBelow⟩
      · exact induction others found

/-- Of what a listing shows, only one entry carries a given name. -/
theorem filter_filterMap_toList {Item : Type} (unique : entries.Unique) (name : Name)
    (view : Name → Node Name Leaf Info → Option Item) (key : Item → Name)
    (keyed : ∀ name node item, view name node = some item → key item = name) :
    (entries.toList.filterMap fun child => view child.1 child.2).filter (key · = name) =
      ((entries.get name).bind (view name)).toList := by
  induction entries using cons_induct with
  | nil => rfl
  | cons present held rest induction =>
      rcases unique_cons.mp unique with ⟨fresh, _, others⟩
      have later := induction others
      rw [toList_cons, List.filterMap_cons, get_cons]
      by_cases here : present = name
      · rw [if_pos here, Option.bind_some]
        rw [here] at fresh
        rw [get_eq_none_iff.mpr fresh] at later
        cases shown : view present held with
        | none =>
            rw [here] at shown
            rw [shown]
            exact later
        | some item =>
            have named := (keyed present held item shown).trans here
            rw [here] at shown
            rw [shown]
            change List.filter _ (item :: _) = _
            rw [List.filter_cons, if_pos (decide_eq_true named), later]
            rfl
      · rw [if_neg here]
        cases shown : view present held with
        | none => exact later
        | some item =>
            change List.filter _ (item :: _) = _
            rw [List.filter_cons, keyed present held item shown, if_neg]
            · exact later
            · exact fun same => here (of_decide_eq_true same)

/-! ## Paths -/

variable {path beyond : List Name} {children : Entries Name Leaf Info} {info : Info}
  {change : Entries Name Leaf Info → Entries Name Leaf Info}

section Step

variable {below : Entries Name Leaf Info} {value : Leaf}

theorem kindAt_folder (here : entries.get name = some (.folder info below)) :
    entries.kindAt (name :: path) = below.kindAt path := by
  rw [kindAt, here]

theorem kindAt_leaf (here : entries.get name = some (.leaf value)) :
    entries.kindAt (name :: path) = if path = [] then some (.leaf value) else none := by
  rw [kindAt, here]

theorem kindAt_none (here : entries.get name = none) : entries.kindAt (name :: path) = none := by
  rw [kindAt, here]

theorem folderAt_folder (here : entries.get name = some (.folder info below)) :
    entries.folderAt (name :: path) = below.folderAt path := by
  rw [folderAt, here]

theorem folderAt_cons_eq_some : entries.folderAt (name :: path) = some children ↔
    ∃ info below, entries.get name = some (.folder info below) ∧
      below.folderAt path = some children := by
  rw [folderAt]
  constructor
  · intro found
    split at found
    · next info below here => exact ⟨info, below, here, found⟩
    · cases found
  · intro found
    rcases found with ⟨info, below, here, found⟩
    rw [here]
    exact found

theorem modify_folder (here : entries.get name = some (.folder info below)) :
    entries.modify change (name :: path) =
      entries.set name (.folder info (below.modify change path)) := by
  rw [modify, here]

theorem modify_other (here : ∀ info below, entries.get name ≠ some (.folder info below)) :
    entries.modify change (name :: path) = entries := by
  rw [modify]
  split
  · next info below found => exact absurd found (here info below)
  · rfl

end Step

theorem kindAt_singleton : entries.kindAt [name] = (entries.get name).map Node.kind := by
  rw [kindAt]
  cases entries.get name with
  | none => rfl
  | some node => cases node <;> rfl

theorem kindAt_append (found : entries.folderAt path = some children) :
    entries.kindAt (path ++ beyond) = children.kindAt beyond := by
  induction path generalizing entries with
  | nil =>
      cases found
      rfl
  | cons name path induction =>
      rcases folderAt_cons_eq_some.mp found with ⟨info, below, here, found⟩
      rw [List.cons_append, kindAt_folder here]
      exact induction found

theorem kindAt_of_folderAt (found : entries.folderAt path = some children) :
    entries.kindAt path = some .folder := by
  rw [← List.append_nil path, kindAt_append found]
  rfl

theorem folderAt_of_kindAt (found : entries.kindAt path = some .folder) :
    ∃ children, entries.folderAt path = some children := by
  induction path generalizing entries with
  | nil => exact ⟨entries, rfl⟩
  | cons name path induction =>
      cases here : entries.get name with
      | none =>
          rw [kindAt_none here] at found
          cases found
      | some node =>
          cases node with
          | leaf value =>
              rw [kindAt_leaf here] at found
              simp only [Option.ite_none_right_eq_some, Option.some.injEq, reduceCtorEq,
                and_false] at found
          | folder info below =>
              rw [kindAt_folder here] at found
              rw [folderAt_folder here]
              exact induction found

/-- What leads to a node leads through folders. -/
theorem kindAt_of_append (found : (entries.kindAt (path ++ name :: beyond)).isSome) :
    entries.kindAt path = some .folder := by
  induction path generalizing entries with
  | nil => rfl
  | cons first path induction =>
      rw [List.cons_append] at found
      cases here : entries.get first with
      | none =>
          rw [kindAt_none here] at found
          cases found
      | some node =>
          cases node with
          | leaf value =>
              have more : path ++ name :: beyond ≠ [] :=
                List.append_ne_nil_of_right_ne_nil _ (List.cons_ne_nil _ _)
              rw [kindAt_leaf here, if_neg more] at found
              cases found
          | folder info below =>
              rw [kindAt_folder here] at found ⊢
              exact induction found

theorem folderAt_modify (found : entries.folderAt path = some children) :
    (entries.modify change path).folderAt path = some (change children) := by
  induction path generalizing entries with
  | nil =>
      cases found
      rfl
  | cons name path induction =>
      rcases folderAt_cons_eq_some.mp found with ⟨info, below, here, found⟩
      rw [modify_folder here, folderAt_folder get_set_self]
      exact induction found

theorem kindAt_modify_inside (found : entries.folderAt path = some children) :
    (entries.modify change path).kindAt (path ++ beyond) = (change children).kindAt beyond :=
  kindAt_append (folderAt_modify found)

theorem kindAt_set_of_ne {first : Name} (different : first ≠ name) :
    (entries.set name node).kindAt (first :: beyond) = entries.kindAt (first :: beyond) := by
  rw [kindAt, kindAt, get_set_of_ne different]

theorem kindAt_modify_outside (apart : ¬ path <+: beyond) :
    (entries.modify change path).kindAt beyond = entries.kindAt beyond := by
  induction path generalizing entries beyond with
  | nil => exact absurd List.nil_prefix apart
  | cons name path induction =>
      by_cases here : ∃ info below, entries.get name = some (.folder info below)
      · rcases here with ⟨info, below, here⟩
        rw [modify_folder here]
        cases beyond with
        | nil => rfl
        | cons first beyond =>
            by_cases same : first = name
            · rw [same, kindAt_folder get_set_self, kindAt_folder here]
              apply induction
              rw [same, List.cons_prefix_cons] at apart
              exact fun begins => apart ⟨rfl, begins⟩
            · exact kindAt_set_of_ne same
      · rw [modify_other fun info below found => here ⟨info, below, found⟩]

theorem Unique.folderAt (unique : entries.Unique) (found : entries.folderAt path = some children) :
    children.Unique := by
  induction path generalizing entries with
  | nil =>
      cases found
      exact unique
  | cons name path induction =>
      rcases folderAt_cons_eq_some.mp found with ⟨info, below, here, found⟩
      exact induction (unique.get here) found

theorem Unique.modify (unique : entries.Unique)
    (keeps : ∀ children, entries.folderAt path = some children → children.Unique →
      (change children).Unique) : (entries.modify change path).Unique := by
  induction path generalizing entries with
  | nil => exact keeps entries rfl unique
  | cons name path induction =>
      by_cases here : ∃ info below, entries.get name = some (.folder info below)
      · rcases here with ⟨info, below, here⟩
        rw [modify_folder here]
        apply unique.set
        apply induction (unique.get here)
        intro children found
        apply keeps children
        rw [folderAt_folder here]
        exact found
      · rw [modify_other fun info below found => here ⟨info, below, found⟩]
        exact unique

theorem All.modify (all : entries.All holds)
    (keeps : ∀ children, entries.folderAt path = some children → children.All holds →
      (change children).All holds) : (entries.modify change path).All holds := by
  induction path generalizing entries with
  | nil => exact keeps entries rfl all
  | cons name path induction =>
      by_cases here : ∃ info below, entries.get name = some (.folder info below)
      · rcases here with ⟨info, below, here⟩
        rw [modify_folder here]
        rcases all.get here with ⟨named, inside⟩
        apply all.set
        · exact named
        · apply induction inside
          intro children found
          apply keeps children
          rw [folderAt_folder here]
          exact found
      · rw [modify_other fun info below found => here ⟨info, below, found⟩]
        exact all

/-- Nothing is found below what is not a folder. -/
theorem kindAt_below (notFolder : entries.kindAt path ≠ some .folder) :
    entries.kindAt (path ++ name :: beyond) = none := by
  rw [Option.eq_none_iff_forall_ne_some]
  intro kind found
  apply notFolder
  apply kindAt_of_append
  rw [found]
  rfl

/-- A change of one entry of a folder, which was and becomes no folder, is seen at its path
only. -/
theorem kindAt_modify {now : Option (Kind Leaf)} (found : entries.folderAt path = some children)
    (notFolder : entries.kindAt (path ++ [name]) ≠ some .folder)
    (here : ∀ later, (change children).kindAt (name :: later) = if later = [] then now else none)
    (others : ∀ first later, first ≠ name →
      (change children).kindAt (first :: later) = children.kindAt (first :: later)) :
    (entries.modify change path).kindAt beyond =
      if beyond = path ++ [name] then now else entries.kindAt beyond := by
  by_cases begins : path <+: beyond
  · rcases begins with ⟨later, rfl⟩
    rw [kindAt_modify_inside found]
    cases later with
    | nil =>
        rw [if_neg, List.append_nil, kindAt_of_folderAt found]
        · rfl
        · intro same
          exact absurd (List.append_cancel_left same) (List.cons_ne_nil _ _).symm
    | cons first later =>
        by_cases same : first = name
        · rw [same, here]
          by_cases last : later = []
          · rw [if_pos last, last, if_pos rfl]
          · rw [if_neg last, if_neg]
            · rcases List.exists_cons_of_ne_nil last with ⟨next, more, shape⟩
              rw [shape, ← List.singleton_append, ← List.append_assoc]
              exact (kindAt_below notFolder).symm
            · intro whole
              exact last (List.cons.inj (List.append_cancel_left whole)).2
        · rw [others first later same, if_neg, kindAt_append found]
          intro whole
          exact same (List.cons.inj (List.append_cancel_left whole)).1
  · rw [kindAt_modify_outside begins, if_neg]
    intro whole
    rw [whole] at begins
    exact begins (List.prefix_append path [name])

theorem kindAt_delete_of_ne {first : Name} (different : first ≠ name) :
    (entries.delete name).kindAt (first :: beyond) = entries.kindAt (first :: beyond) := by
  rw [kindAt, kindAt, get_delete_of_ne different]

/-- A leaf that is put in a folder is found there, and all else is found as before. -/
theorem kindAt_modify_set {value : Leaf} (found : entries.folderAt path = some children)
    (notFolder : entries.kindAt (path ++ [name]) ≠ some .folder) :
    (entries.modify (·.set name (.leaf value)) path).kindAt beyond =
      if beyond = path ++ [name] then some (.leaf value) else entries.kindAt beyond := by
  apply kindAt_modify found notFolder
  · intro later
    exact kindAt_leaf get_set_self
  · intro first later different
    exact kindAt_set_of_ne different

/-- The same where the entry is deleted first, and goes last. -/
theorem kindAt_modify_replace {value : Leaf} (found : entries.folderAt path = some children)
    (notFolder : entries.kindAt (path ++ [name]) ≠ some .folder) :
    (entries.modify (fun children => (children.delete name).set name (.leaf value)) path).kindAt
        beyond =
      if beyond = path ++ [name] then some (.leaf value) else entries.kindAt beyond := by
  apply kindAt_modify found notFolder
  · intro later
    exact kindAt_leaf get_set_self
  · intro first later different
    rw [kindAt_set_of_ne different, kindAt_delete_of_ne different]

/-- A leaf that is deleted is gone, and all else is found as before. -/
theorem kindAt_modify_delete (found : entries.folderAt path = some children)
    (notFolder : entries.kindAt (path ++ [name]) ≠ some .folder) :
    (entries.modify (·.delete name) path).kindAt beyond =
      if beyond = path ++ [name] then none else entries.kindAt beyond := by
  apply kindAt_modify found notFolder
  · intro later
    rw [kindAt_none get_delete_self, ite_self]
  · intro first later different
    exact kindAt_delete_of_ne different

/-- A node that is found by its names, and what is known of it without what is below. -/
theorem kind_lookup (info : Info) :
    ((Node.folder info entries).lookup path).map Node.kind = entries.kindAt path := by
  induction path generalizing info entries with
  | nil => rfl
  | cons name path induction =>
      rw [Node.lookup]
      cases here : entries.get name with
      | none =>
          rw [kindAt_none here]
          rfl
      | some node =>
          cases node with
          | leaf value =>
              rw [kindAt_leaf here]
              cases path with
              | nil => rfl
              | cons next path => rfl
          | folder old below =>
              rw [kindAt_folder here]
              exact induction old

theorem lookup_eq_folder {found : Info} : (∃ info, (Node.folder found entries).lookup path =
    some (.folder info children)) ↔ entries.folderAt path = some children := by
  induction path generalizing found entries with
  | nil =>
      constructor
      · intro same
        rcases same with ⟨info, same⟩
        cases same
        rfl
      · intro same
        cases same
        exact ⟨found, rfl⟩
  | cons name path induction =>
      rw [Node.lookup, folderAt]
      cases here : entries.get name with
      | none => simp
      | some node =>
          cases node with
          | leaf value =>
              cases path with
              | nil => simp [Node.lookup]
              | cons next path => simp [Node.lookup]
          | folder old below => exact induction

theorem All.folderAt (all : entries.All holds) (found : entries.folderAt path = some children) :
    children.All holds := by
  induction path generalizing entries with
  | nil =>
      cases found
      exact all
  | cons name path induction =>
      rcases folderAt_cons_eq_some.mp found with ⟨info, below, here, found⟩
      exact induction (all.get here).2 found

theorem All.kindAt {kind : Kind Leaf} (all : entries.All holds)
    (found : entries.kindAt (path ++ [name]) = some kind) : holds name kind := by
  have above : entries.kindAt path = some .folder := by
    apply @kindAt_of_append _ _ _ _ name _ path []
    rw [found]
    rfl
  rcases folderAt_of_kindAt above with ⟨children, located⟩
  rw [kindAt_append located, kindAt_singleton, Option.map_eq_some_iff] at found
  rcases found with ⟨node, here, rfl⟩
  exact ((all.folderAt located).get here).1

theorem Unique.lookup {info : Info} (unique : entries.Unique)
    (found : (Node.folder info entries).lookup path = some node) : node.Unique := by
  induction path generalizing info entries with
  | nil =>
      cases found
      exact unique
  | cons name path induction =>
      rcases Option.bind_eq_some_iff.mp found with ⟨next, here, found⟩
      have held := unique.get here
      cases next with
      | folder old below => exact induction held found
      | leaf value =>
          cases path with
          | nil =>
              cases found
              exact held
          | cons other path => cases found

/-- What is found below a folder is one of the entries at some depth. -/
theorem All.lookup {info : Info} (all : entries.All holds)
    (found : (Node.folder info entries).lookup (name :: path) = some node) :
    (∃ last, holds last node.kind) ∧ node.Below holds := by
  induction path generalizing info entries name with
  | nil =>
      rcases Option.bind_eq_some_iff.mp found with ⟨next, here, found⟩
      cases next with
      | folder old below =>
          cases found
          exact ⟨⟨name, (all.get here).1⟩, (all.get here).2⟩
      | leaf value =>
          cases found
          exact ⟨⟨name, (all.get here).1⟩, (all.get here).2⟩
  | cons other path induction =>
      rcases Option.bind_eq_some_iff.mp found with ⟨next, here, found⟩
      cases next with
      | folder old below => exact induction (all.get here).2 found
      | leaf value => cases found

/-- Every name on the way to a node satisfies what all names do. -/
theorem All.mem {good : Name → Prop} (all : entries.All holds)
    (names : ∀ name kind, holds name kind → good name) (found : (entries.kindAt path).isSome) :
    ∀ name ∈ path, good name := by
  intro name member
  rcases List.append_of_mem member with ⟨before, after, rfl⟩
  have present : (entries.kindAt (before ++ [name])).isSome := by
    cases after with
    | nil => exact found
    | cons next after =>
        rw [List.append_cons] at found
        rw [kindAt_of_append found]
        rfl
  rcases Option.isSome_iff_exists.mp present with ⟨kind, found⟩
  exact names name kind (all.kindAt found)

/-! ## Making folders -/

section Ensure

variable {made : Entries Name Leaf Info}

theorem ensure_none (here : entries.get name = none) : entries.ensure info (name :: path) =
    ((nil : Entries Name Leaf Info).ensure info path).map fun made =>
      entries.set name (.folder info made) := by
  rw [ensure, here]

theorem ensure_folder {old : Info} (here : entries.get name = some (.folder old children)) :
    entries.ensure info (name :: path) =
      (children.ensure info path).map fun made => entries.set name (.folder old made) := by
  rw [ensure, here]

theorem ensure_leaf {value : Leaf} (here : entries.get name = some (.leaf value)) :
    entries.ensure info (name :: path) = none := by
  rw [ensure, here]

theorem kindAt_nil (path : List Name) : (nil : Entries Name Leaf Info).kindAt path =
    if path = [] then some .folder else none := by
  cases path with
  | nil => rfl
  | cons name path => rfl

theorem exists_ensure (info : Info) (clear : ∀ before, before <+: path → ∀ value,
    entries.kindAt before ≠ some (.leaf value)) : ∃ made, entries.ensure info path = some made := by
  induction path generalizing entries with
  | nil => exact ⟨entries, rfl⟩
  | cons name path induction =>
      cases here : entries.get name with
      | none =>
          have made : ∃ made, ensure info path (nil : Entries Name Leaf Info) = some made := by
            apply induction
            intro before _ value found
            rw [kindAt_nil] at found
            split at found
            · cases found
            · cases found
          rcases made with ⟨made, equal⟩
          rw [ensure_none here, equal]
          exact ⟨_, rfl⟩
      | some node =>
          cases node with
          | leaf value =>
              have present : entries.kindAt [name] = some (.leaf value) := by
                rw [kindAt_leaf here, if_pos rfl]
              exact absurd present
                (clear [name] (List.cons_prefix_cons.mpr ⟨rfl, List.nil_prefix⟩) value)
          | folder old children =>
              have made : ∃ made, children.ensure info path = some made := by
                apply induction
                intro before begins value found
                apply clear (name :: before) (List.cons_prefix_cons.mpr ⟨rfl, begins⟩) value
                rw [kindAt_folder here]
                exact found
              rcases made with ⟨made, equal⟩
              rw [ensure_folder here, equal]
              exact ⟨_, rfl⟩

/-- One step of `ensure`: the folder of the first name, old or new, and what is made in it. -/
theorem ensure_cons_eq_some (equal : entries.ensure info (name :: path) = some made) :
    ∃ old children below, children.ensure info path = some below ∧
      made = entries.set name (.folder old below) ∧
      (entries.get name = some (.folder old children) ∨
        entries.get name = none ∧ children = nil) := by
  cases here : entries.get name with
  | none =>
      rw [ensure_none here, Option.map_eq_some_iff] at equal
      rcases equal with ⟨below, equal, rfl⟩
      exact ⟨info, nil, below, equal, rfl, .inr ⟨rfl, rfl⟩⟩
  | some node =>
      cases node with
      | leaf value =>
          rw [ensure_leaf here] at equal
          cases equal
      | folder old children =>
          rw [ensure_folder here, Option.map_eq_some_iff] at equal
          rcases equal with ⟨below, equal, rfl⟩
          exact ⟨old, children, below, equal, rfl, .inl rfl⟩

/-- Making folders changes nothing else. -/
theorem kindAt_ensure (equal : entries.ensure info path = some made) :
    made.kindAt beyond = if beyond <+: path then some .folder else entries.kindAt beyond := by
  induction path generalizing entries made beyond with
  | nil =>
      cases equal
      split
      · next begins =>
          rw [List.prefix_nil.mp begins]
          rfl
      · rfl
  | cons name path induction =>
      rcases ensure_cons_eq_some equal with ⟨old, children, below, inner, rfl, here⟩
      cases beyond with
      | nil => rw [if_pos List.nil_prefix]; rfl
      | cons first beyond =>
          by_cases same : first = name
          · rw [same, kindAt_folder get_set_self, induction inner]
            by_cases begins : beyond <+: path
            · rw [if_pos begins, if_pos (List.cons_prefix_cons.mpr ⟨rfl, begins⟩)]
            · rw [if_neg begins, if_neg fun whole => begins (List.cons_prefix_cons.mp whole).2]
              rcases here with here | ⟨here, rfl⟩
              · rw [kindAt_folder here]
              · rw [kindAt_none here, kindAt_nil, if_neg]
                intro empty
                rw [empty] at begins
                exact begins List.nil_prefix
          · rw [kindAt_set_of_ne same, if_neg]
            intro whole
            exact same (List.cons_prefix_cons.mp whole).1

theorem Unique.ensure (unique : entries.Unique) (equal : entries.ensure info path = some made) :
    made.Unique := by
  induction path generalizing entries made with
  | nil =>
      cases equal
      exact unique
  | cons name path induction =>
      rcases ensure_cons_eq_some equal with ⟨old, children, below, inner, rfl, here⟩
      have before : children.Unique := by
        rcases here with here | ⟨_, rfl⟩
        · exact unique.get here
        · trivial
      apply unique.set
      exact induction before inner

theorem All.ensure (all : entries.All holds) (folders : ∀ name ∈ path, holds name .folder)
    (equal : entries.ensure info path = some made) : made.All holds := by
  induction path generalizing entries made with
  | nil =>
      cases equal
      exact all
  | cons name path induction =>
      rcases ensure_cons_eq_some equal with ⟨old, children, below, inner, rfl, here⟩
      have before : children.All holds := by
        rcases here with here | ⟨_, rfl⟩
        · exact (all.get here).2
        · trivial
      apply all.set
      · exact folders name List.mem_cons_self
      · exact induction before (fun other member => folders other (List.mem_cons_of_mem _ member))
          inner

end Ensure

/-! ## All that is in a folder -/

theorem kindAt_cons_of_ne {first : Name} (different : first ≠ name) :
    (cons name node rest).kindAt (first :: beyond) = rest.kindAt (first :: beyond) := by
  rw [kindAt, kindAt, get_cons, if_neg different.symm]

/-- What is found in a folder is in its first entry or in another one. -/
theorem found_cons (fresh : name ∉ rest.names) {above : List Name} {kind : Kind Leaf} :
    (∃ later, later ≠ [] ∧ path = above ++ later ∧
        (cons name node rest).kindAt later = some kind) ↔
      (∃ more, path = above ++ name :: more ∧
        (cons name node rest).kindAt (name :: more) = some kind) ∨
      ∃ later, later ≠ [] ∧ path = above ++ later ∧ rest.kindAt later = some kind := by
  constructor
  · intro found
    rcases found with ⟨later, nonempty, same, found⟩
    rcases List.exists_cons_of_ne_nil nonempty with ⟨first, more, rfl⟩
    by_cases here : first = name
    · rw [here] at same found
      exact .inl ⟨more, same, found⟩
    · rw [kindAt_cons_of_ne here] at found
      exact .inr ⟨first :: more, nonempty, same, found⟩
  · intro found
    rcases found with ⟨more, same, found⟩ | ⟨later, nonempty, same, found⟩
    · exact ⟨name :: more, List.cons_ne_nil _ _, same, found⟩
    · rcases List.exists_cons_of_ne_nil nonempty with ⟨first, more, rfl⟩
      have here : first ≠ name := by
        intro here
        rw [here, kindAt_none (get_eq_none_iff.mpr fresh)] at found
        cases found
      refine ⟨first :: more, nonempty, same, ?_⟩
      rw [kindAt_cons_of_ne here]
      exact found

/-- `contents` lists exactly what can be found by names. -/
theorem mem_contents (unique : entries.Unique) {above : List Name} {kind : Kind Leaf} :
    (path, kind) ∈ entries.contents above ↔
      ∃ later, later ≠ [] ∧ path = above ++ later ∧ entries.kindAt later = some kind := by
  induction entries generalizing above with
  | nil =>
      constructor
      · intro member
        cases member
      · intro found
        rcases found with ⟨later, nonempty, _, found⟩
        rw [kindAt_nil, if_neg nonempty] at found
        cases found
  | leaf name value rest induction =>
      have here : (leaf name value rest : Entries Name Leaf Info).get name = some (.leaf value) :=
        if_pos rfl
      change _ ↔ ∃ later, later ≠ [] ∧ path = above ++ later ∧
        (cons name (.leaf value) rest : Entries Name Leaf Info).kindAt later = some kind
      rw [found_cons unique.1, contents, List.mem_cons, induction unique.2]
      apply or_congr_left
      constructor
      · intro same
        cases same
        exact ⟨[], rfl, kindAt_leaf here⟩
      · intro found
        rcases found with ⟨more, same, found⟩
        change (leaf name value rest : Entries Name Leaf Info).kindAt (name :: more) = some kind
          at found
        rw [kindAt_leaf here, Option.ite_none_right_eq_some] at found
        rcases found with ⟨rfl, found⟩
        cases found
        rw [same]
  | folder name info children rest induction others =>
      have here : (folder name info children rest : Entries Name Leaf Info).get name =
          some (.folder info children) := if_pos rfl
      change _ ↔ ∃ later, later ≠ [] ∧ path = above ++ later ∧
        (cons name (.folder info children) rest : Entries Name Leaf Info).kindAt later = some kind
      rw [found_cons unique.1, contents, List.mem_cons, List.mem_append, induction unique.2.1,
        others unique.2.2, ← or_assoc]
      apply or_congr_left
      change _ ↔ ∃ more, path = above ++ name :: more ∧
        (folder name info children rest : Entries Name Leaf Info).kindAt (name :: more) = some kind
      constructor
      · intro member
        rcases member with same | ⟨later, nonempty, same, found⟩
        · cases same
          exact ⟨[], rfl, kindAt_folder here⟩
        · rw [List.append_assoc] at same
          exact ⟨later, same, by rw [kindAt_folder here]; exact found⟩
      · intro found
        rcases found with ⟨more, same, found⟩
        rw [kindAt_folder here] at found
        by_cases last : more = []
        · rw [last] at same found
          cases found
          exact .inl (by rw [same])
        · refine .inr ⟨more, last, ?_, found⟩
          rw [same, List.append_assoc]
          rfl

end Entries

end DriveWebdav
