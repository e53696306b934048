import DriveWebdav.Foundation.InsertionMap

/-! # Entries that age

A map whose values carry the moment up to which they count. Where the entries stand in the order
of these moments, dropping the first ones drops the oldest. -/

namespace DriveWebdav

namespace InsertionMap

variable {Key Value : Type}

section

variable (stamp : Value → Nat)

/-- Entries that were inserted later have no earlier stamp. -/
def Chronological (map : InsertionMap Key Value) : Prop :=
  map.entries.Pairwise fun first second => stamp first.2 ≤ stamp second.2

def StampedUpTo (limit : Nat) (map : InsertionMap Key Value) : Prop :=
  ∀ entry ∈ map.entries, stamp entry.2 ≤ limit

end

/-- What was inserted after a key. -/
def after [DecidableEq Key] (map : InsertionMap Key Value) (key : Key) : List (Key × Value) :=
  (map.entries.dropWhile fun entry => entry.1 ≠ key).tail

variable {stamp : Value → Nat} {map smaller : InsertionMap Key Value} {limit : Nat}

theorem Chronological.of_sublist (chronological : map.Chronological stamp)
    (fewer : smaller.entries.Sublist map.entries) : smaller.Chronological stamp :=
  chronological.sublist fewer

theorem StampedUpTo.of_sublist (stamped : map.StampedUpTo stamp limit)
    (fewer : smaller.entries.Sublist map.entries) : smaller.StampedUpTo stamp limit :=
  fun entry member => stamped entry (fewer.subset member)

theorem StampedUpTo.mono {later : Nat} (stamped : map.StampedUpTo stamp limit)
    (passed : limit ≤ later) : map.StampedUpTo stamp later :=
  fun entry member => Nat.le_trans (stamped entry member) passed

theorem size_dropOldest (count : Nat) : (map.dropOldest count).size = map.size - count :=
  List.length_drop

variable [DecidableEq Key] {key : Key} {value : Value}

/-- A key that is present has a place. -/
theorem exists_placed (present : (map.get key).isSome) :
    ∃ before old, map.entries = before ++ (key, old) :: map.after key := by
  rcases Option.isSome_iff_exists.mp present with ⟨old, found⟩
  rw [get_eq_some_iff] at found
  clear present
  unfold after
  rcases map with ⟨entries, distinct⟩
  dsimp only at found ⊢
  induction entries with
  | nil => cases found
  | cons entry rest induction =>
      by_cases here : entry.1 = key
      · refine ⟨[], entry.2, ?_⟩
        rw [List.dropWhile_cons_of_neg (by simpa using here), ← here]
        rfl
      · rcases List.mem_cons.mp found with same | later
        · rw [← same] at here
          exact absurd rfl here
        · rcases induction (List.nodup_cons.mp distinct).2 later with ⟨before, old, placed⟩
          refine ⟨entry :: before, old, ?_⟩
          rw [List.dropWhile_cons_of_pos (by simpa using here), List.cons_append, ← placed]

theorem size_set : (map.set key value).size =
    if (map.get key).isSome then map.size else map.size + 1 := by
  split
  · next present =>
      rcases exists_placed present with ⟨before, old, placed⟩
      rw [size, size, entries_set_of_mem placed, placed, List.length_append, List.length_append]
      rfl
  · next absent =>
      rw [size, entries_set_of_none (Option.not_isSome_iff_eq_none.mp absent), List.length_append]
      rfl

theorem StampedUpTo.set (stamped : map.StampedUpTo stamp limit) (fits : stamp value ≤ limit) :
    (map.set key value).StampedUpTo stamp limit := by
  intro entry member
  have found := (get_eq_some_iff _ _ _).mpr member
  rcases get_set_eq_some found with ⟨_, same⟩ | ⟨_, kept⟩
  · rw [same]
    exact fits
  · exact stamped _ ((get_eq_some_iff _ _ _).mp kept)

/-- The order is kept if nothing that stands after the key is older than its new value. -/
theorem Chronological.set (chronological : map.Chronological stamp)
    (newest : map.StampedUpTo stamp (stamp value))
    (last : ∀ entry ∈ map.after key, stamp value ≤ stamp entry.2) :
    (map.set key value).Chronological stamp := by
  unfold Chronological at chronological ⊢
  cases present : (map.get key).isSome with
  | true =>
      rcases exists_placed present with ⟨before, old, placed⟩
      rw [entries_set_of_mem placed]
      rw [placed] at chronological
      rw [List.pairwise_append, List.pairwise_cons] at chronological ⊢
      rcases chronological with ⟨front, ⟨_, back⟩, across⟩
      refine ⟨front, ⟨last, back⟩, ?_⟩
      intro first early second late
      rcases List.mem_cons.mp late with rfl | late
      · apply newest
        rw [placed]
        exact List.mem_append_left _ early
      · exact across first early second (List.mem_cons_of_mem _ late)
  | false =>
      rw [entries_set_of_none
        (Option.isNone_iff_eq_none.mp (Option.isSome_eq_false_iff.mp present))]
      rw [List.pairwise_append]
      refine ⟨chronological, List.pairwise_singleton _ _, ?_⟩
      intro first early second late
      rw [List.mem_singleton] at late
      rw [late]
      exact newest first early

/-- What is dropped is no younger than what is kept. -/
theorem Chronological.dropOldest (chronological : map.Chronological stamp) {count : Nat}
    {other : Key} {dropped kept : Value} (held : map.get key = some dropped)
    (gone : (map.dropOldest count).get key = none)
    (stays : (map.dropOldest count).get other = some kept) : stamp dropped ≤ stamp kept := by
  unfold Chronological at chronological
  rw [get_eq_some_iff] at held stays
  rw [get_eq_none_iff] at gone
  rw [← List.take_append_drop count map.entries] at held chronological
  rcases List.mem_append.mp held with early | late
  · exact (List.pairwise_append.mp chronological).2.2 _ early _ stays
  · exact absurd (List.mem_map.mpr ⟨_, late, rfl⟩) gone

end InsertionMap

end DriveWebdav
