import Mathlib.Data.List.Nodup

/-! # Maps that remember insertion order

The language's `Map`: one value for each key, and a traversal order in which a
key keeps its place when its value is overwritten. -/

namespace DriveWebdav

structure InsertionMap (Key Value : Type) where
  entries : List (Key × Value)
  nodup : (entries.map Prod.fst).Nodup

namespace InsertionMap

variable {Key Value : Type}

def empty : InsertionMap Key Value where
  entries := []
  nodup := .nil

def size (map : InsertionMap Key Value) : Nat := map.entries.length

def keys (map : InsertionMap Key Value) : List Key := map.entries.map Prod.fst

/-- Keep the entries that satisfy `keep`, in order. -/
def filter (keep : Key → Value → Bool) (map : InsertionMap Key Value) :
    InsertionMap Key Value where
  entries := map.entries.filter fun entry => keep entry.1 entry.2
  nodup := map.nodup.sublist (List.Sublist.map Prod.fst List.filter_sublist)

/-- Forget the `count` entries whose keys were inserted first. -/
def dropOldest (count : Nat) (map : InsertionMap Key Value) :
    InsertionMap Key Value where
  entries := map.entries.drop count
  nodup := map.nodup.sublist (List.Sublist.map Prod.fst (List.drop_sublist count _))

/-- Change every value, in place. -/
def mapValues (change : Key → Value → Value) (map : InsertionMap Key Value) :
    InsertionMap Key Value where
  entries := map.entries.map fun entry => (entry.1, change entry.1 entry.2)
  nodup := by
    rw [List.map_map]
    exact map.nodup

variable [DecidableEq Key]

def get (map : InsertionMap Key Value) (key : Key) : Option Value :=
  (map.entries.find? fun entry => entry.1 = key).map Prod.snd

def delete (map : InsertionMap Key Value) (key : Key) : InsertionMap Key Value :=
  map.filter fun other _ => other ≠ key

private def overwrite (key : Key) (value : Value) (entry : Key × Value) : Key × Value :=
  if entry.1 = key then (key, value) else entry

@[simp] private theorem overwrite_fst (key : Key) (value : Value) (entry : Key × Value) :
    (overwrite key value entry).1 = entry.1 := by
  unfold overwrite
  split
  · next same => exact same.symm
  · rfl

/-- A present key keeps its place, a new one goes last. -/
def set (map : InsertionMap Key Value) (key : Key) (value : Value) :
    InsertionMap Key Value :=
  if present : key ∈ map.keys then
    { entries := map.entries.map (overwrite key value)
      nodup := by
        have same : (Prod.fst ∘ overwrite key value : Key × Value → Key) = Prod.fst := by
          funext entry
          simp
        rw [List.map_map, same]
        exact map.nodup }
  else
    { entries := map.entries ++ [(key, value)]
      nodup := by
        rw [List.map_append, List.nodup_append]
        refine ⟨map.nodup, by simp, ?_⟩
        intro first firstMem second secondMem equal
        simp only [List.map_cons, List.map_nil, List.mem_singleton] at secondMem
        exact present (secondMem ▸ equal ▸ firstMem) }

theorem get_eq_some_iff (map : InsertionMap Key Value) (key : Key) (value : Value) :
    map.get key = some value ↔ (key, value) ∈ map.entries := by
  rcases map with ⟨entries, nodup⟩
  simp only [get]
  induction entries with
  | nil => simp
  | cons entry rest induction =>
      have parts := List.nodup_cons.mp nodup
      by_cases same : entry.1 = key
      · have fresh : (key, value) ∉ rest := fun member =>
          parts.1 (same ▸ List.mem_map.mpr ⟨(key, value), member, rfl⟩)
        rcases entry with ⟨first, second⟩
        simp only at same
        subst same
        simp [fresh, eq_comm]
      · have different : (key, value) ≠ entry := fun equal => same (equal ▸ rfl)
        rw [List.find?_cons_of_neg (by simpa using same), induction parts.2]
        simp [different]

theorem get_eq_none_iff (map : InsertionMap Key Value) (key : Key) :
    map.get key = none ↔ key ∉ map.keys := by
  rw [Option.eq_none_iff_forall_ne_some]
  simp only [ne_eq, get_eq_some_iff, keys, List.mem_map, Prod.exists, exists_and_right,
    exists_eq_right, not_exists]

/-- A new key goes last. -/
theorem entries_set_of_none {map : InsertionMap Key Value} {key : Key}
    (fresh : map.get key = none) (value : Value) :
    (map.set key value).entries = map.entries ++ [(key, value)] := by
  rw [set, dif_neg ((get_eq_none_iff map key).mp fresh)]

/-- A key that is present keeps its place. -/
theorem entries_set_of_mem {map : InsertionMap Key Value} {key : Key} {old value : Value}
    {before after : List (Key × Value)} (placed : map.entries = before ++ (key, old) :: after) :
    (map.set key value).entries = before ++ (key, value) :: after := by
  have distinct := map.nodup
  rw [placed, List.map_append, List.map_cons, List.nodup_middle, List.nodup_cons,
    List.mem_append, not_or] at distinct
  have kept : ∀ entries : List (Key × Value), key ∉ entries.map Prod.fst →
      entries.map (overwrite key value) = entries := by
    intro entries absent
    conv_rhs => rw [← List.map_id entries]
    apply List.map_congr_left
    intro entry member
    rw [overwrite, if_neg, id]
    intro same
    exact absent (List.mem_map.mpr ⟨entry, member, same⟩)
  have present : key ∈ map.keys := by
    rw [keys, placed, List.map_append, List.map_cons]
    exact List.mem_append_right _ List.mem_cons_self
  rw [set, dif_pos present]
  dsimp only
  rw [placed, List.map_append, List.map_cons, kept before distinct.1.1, kept after distinct.1.2,
    overwrite, if_pos rfl]

@[simp] theorem get_empty (key : Key) : (empty : InsertionMap Key Value).get key = none := rfl

theorem get_filter (keep : Key → Value → Bool) (map : InsertionMap Key Value)
    (key : Key) (value : Value) :
    (map.filter keep).get key = some value ↔
      map.get key = some value ∧ keep key value = true := by
  simp [get_eq_some_iff, filter]

theorem get_of_get_dropOldest {count : Nat} {map : InsertionMap Key Value} {key : Key}
    {value : Value} (found : (map.dropOldest count).get key = some value) :
    map.get key = some value := by
  rw [get_eq_some_iff] at found ⊢
  exact List.mem_of_mem_drop found

theorem get_mapValues (change : Key → Value → Value) (map : InsertionMap Key Value)
    (key : Key) : (map.mapValues change).get key = (map.get key).map (change key) := by
  apply Option.ext
  intro value
  simp only [get_eq_some_iff, mapValues, List.mem_map, Prod.mk.injEq, Option.map_eq_some_iff]
  constructor
  · rintro ⟨entry, member, rfl, rfl⟩
    exact ⟨entry.2, member, rfl⟩
  · rintro ⟨old, member, rfl⟩
    exact ⟨(key, old), member, rfl, rfl⟩

@[simp] theorem get_delete_self (map : InsertionMap Key Value) (key : Key) :
    (map.delete key).get key = none := by
  rw [Option.eq_none_iff_forall_ne_some]
  intro value found
  simp [delete, get_filter] at found

theorem get_delete_of_ne (map : InsertionMap Key Value) {key other : Key}
    (different : other ≠ key) : (map.delete key).get other = map.get other := by
  apply Option.ext
  intro value
  simp [delete, get_filter, different]

theorem get_of_get_delete {map : InsertionMap Key Value} {key other : Key} {value : Value}
    (found : (map.delete key).get other = some value) : map.get other = some value :=
  ((get_filter _ _ _ _).mp found).1

@[simp] theorem get_set_self (map : InsertionMap Key Value) (key : Key) (value : Value) :
    (map.set key value).get key = some value := by
  rw [get_eq_some_iff, set]
  split
  · next present =>
      rcases List.mem_map.mp present with ⟨entry, member, same⟩
      exact List.mem_map.mpr ⟨entry, member, by simp [overwrite, same]⟩
  · simp

theorem get_set_of_ne (map : InsertionMap Key Value) {key other : Key} (value : Value)
    (different : other ≠ key) : (map.set key value).get other = map.get other := by
  apply Option.ext
  intro found
  simp only [get_eq_some_iff, set]
  split
  · constructor
    · intro member
      rcases List.mem_map.mp member with ⟨entry, inside, equal⟩
      by_cases same : entry.1 = key
      · rw [overwrite, if_pos same] at equal
        exact absurd (congrArg Prod.fst equal).symm different
      · rw [overwrite, if_neg same] at equal
        exact equal ▸ inside
    · intro member
      exact List.mem_map.mpr ⟨(other, found), member, by simp [overwrite, different]⟩
  · simp [different]

/-- What a map holds after `set`, without a case split on the key. -/
theorem get_set_eq_some {map : InsertionMap Key Value} {key other : Key}
    {value found : Value} (holds : (map.set key value).get other = some found) :
    (other = key ∧ found = value) ∨ (other ≠ key ∧ map.get other = some found) := by
  by_cases same : other = key
  · subst same
    rw [get_set_self] at holds
    exact .inl ⟨rfl, (Option.some.inj holds).symm⟩
  · rw [get_set_of_ne map value same] at holds
    exact .inr ⟨same, holds⟩

example : (((empty.set 1 'a').set 2 'b').set 1 'c' : InsertionMap Nat Char).entries =
    [(1, 'c'), (2, 'b')] := by decide

end InsertionMap

end DriveWebdav
