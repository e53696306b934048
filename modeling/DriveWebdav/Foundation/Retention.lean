import Mathlib.Data.List.Basic

/-! # The last few of a sorted list

What is kept of a list when all but its last elements go. -/

namespace DriveWebdav

namespace Retention

variable {Value : Type} (keep : Nat) {values : List Value} {value kept : Value}

/-- All but the last `keep`. -/
def expired (values : List Value) : List Value := values.take (values.length - keep)

def retained (values : List Value) : List Value := values.drop (values.length - keep)

variable {keep}

theorem expired_append_retained : expired keep values ++ retained keep values = values :=
  List.take_append_drop ..

theorem expired_eq_nil (few : values.length ≤ keep) : expired keep values = [] := by
  rw [expired, Nat.sub_eq_zero_of_le few, List.take_zero]

theorem length_retained_le : (retained keep values).length ≤ keep := by
  rw [retained, List.length_drop]
  omega

theorem length_retained (member : value ∈ expired keep values) :
    (retained keep values).length = keep := by
  have some : 0 < (expired keep values).length := List.length_pos_of_mem member
  rw [expired, List.length_take] at some
  rw [retained, List.length_drop]
  omega

/-- Without a repetition, what is not expired is retained. -/
theorem mem_retained (once : values.Nodup) :
    value ∈ retained keep values ↔ value ∈ values ∧ value ∉ expired keep values := by
  rw [← @expired_append_retained _ keep values] at once
  have apart := (List.nodup_append.mp once).2.2
  constructor
  · intro member
    exact ⟨List.mem_of_mem_drop member, fun gone => apart value gone value member rfl⟩
  · rintro ⟨member, stays⟩
    rw [← @expired_append_retained _ keep values, List.mem_append] at member
    exact member.resolve_left stays

/-- In a sorted list nothing that is retained comes before what is expired. -/
theorem rel_of_expired {before : Value → Value → Prop} (sorted : values.Pairwise before)
    (gone : value ∈ expired keep values) (stays : kept ∈ retained keep values) :
    before value kept := by
  rw [← @expired_append_retained _ keep values, List.pairwise_append] at sorted
  exact sorted.2.2 value gone kept stays

end Retention

end DriveWebdav
