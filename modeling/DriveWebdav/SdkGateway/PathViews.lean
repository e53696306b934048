import DriveWebdav.SdkGateway.Operations

/-! # Paths as text and as segments

The cache and the tests for cycles work on the text of a path, and a lookup on its segments. -/

namespace DriveWebdav

variable {s d : JsString}

/-- What is invalidated along with a path are the paths below it. -/
theorem isAtOrBelow_iff (inside : segments s ≠ []) (normal : normalize d = d) :
    isAtOrBelow s d = true ↔ segments s <+: segments d := by
  have test := @movesInto_iff _ d inside
  rw [normal] at test
  exact test

/-- A move of a collection into itself is turned down before anything is looked up. -/
theorem move_intoItself (platform : Platform) (sInside : segments s ≠ [])
    (into : segments s <+: segments d) :
    move platform s d = reject (.plain "Cannot move a collection into itself" 409) := by
  have dInside : segments d ≠ [] := fun none => sInside (List.prefix_nil.mp (none ▸ into))
  rw [move]
  rw [if_neg, if_pos ((movesInto_iff sInside).mpr into)]
  rw [Bool.or_eq_true, isRoot_normalize, isRoot_normalize, isRoot_iff, isRoot_iff, not_or]
  exact ⟨sInside, dInside⟩

/-- The two views of a path agree: its normal form has the same segments and is put together from
its parent and its name, a safe name adds one segment, and the test of moves and of invalidation
on text is the prefix of the segments. -/
theorem paths_agree :
    (∀ p, normalize (normalize p) = normalize p ∧ segments (normalize p) = segments p) ∧
    (∀ p, isRoot p = false → join (parentPath p) (baseName p) = normalize p) ∧
    (∀ a b, isSafeSegment b = true → segments (join a b) = segments a ++ [b]) ∧
    ∀ s d, normalize s = s → normalize d = d → isRoot s = false → isRoot d = false →
      ((decide (d = s) || (s ++ ['/']).isPrefixOf d) = true ↔ segments s <+: segments d) ∧
      (isAtOrBelow s d = true ↔ segments s <+: segments d) := by
  have inside : ∀ {p}, isRoot p = false → segments p ≠ [] := by
    intro p below none
    rw [isRoot_iff.mpr none] at below
    cases below
  refine ⟨fun p => ⟨normalize_normalize p, segments_normalize p⟩, ?_, ?_, ?_⟩
  · exact fun p below => join_parentPath_baseName (inside below)
  · intro a b safe
    rw [segments_join, segments_of_isSegment (isSegment_of_isSafeSegment safe)]
  · intro s d sNormal dNormal sBelow _
    have test := @movesInto_iff _ d (inside sBelow)
    rw [sNormal, dNormal] at test
    exact ⟨test, isAtOrBelow_iff (inside sBelow) dNormal⟩

/-- A path is not below another one whose name only begins like its own. -/
theorem namesake_apart :
    ¬(isAtOrBelow "/a" "/ab" = true) ∧ isAtOrBelow "/a" "/a/b" = true := by
  have views := paths_agree.2.2.2
  constructor
  · intro below
    have segs := (views "/a" "/ab" (by decide) (by decide) (by decide) (by decide)).2.mp below
    exact absurd segs (by decide)
  · exact (views "/a" "/a/b" (by decide) (by decide) (by decide) (by decide)).2.mpr (by decide)

end DriveWebdav
