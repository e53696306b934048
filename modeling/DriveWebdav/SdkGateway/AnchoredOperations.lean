import DriveWebdav.SdkGateway.CacheAnchors
import DriveWebdav.SdkGateway.Faults
import DriveWebdav.SdkGateway.Visibility

/-! # Operations that keep the cache anchored

An operation records nothing but what it has found or made in a folder, and it is right to do so
while the folders it works in stay. -/

namespace DriveWebdav

variable {platform : Platform} {rules : Rules ServiceMemory SdkCall SdkAnswer Thrown Drive}
  {near : List JsString → Prop} {world : ServiceWorld} {α : Type}
  {good : α → ServiceWorld → Prop}

/-- The deepest folders under which an operation records nodes. -/
def GatewayOperation.folders : GatewayOperation → List (List JsString)
  | .stat path | .read path _ | .put path _ _ | .remove path => [(segments path).dropLast]
  | .list path | .mkcol path => [segments path]
  | .move src dst | .copy src dst => [(segments src).dropLast, (segments dst).dropLast]

/-- The operation works in the folder of the path, or below it. -/
def GatewayOperation.WorksIn (op : GatewayOperation) (segs : List JsString) : Prop :=
  ∃ folder ∈ op.folders, segs <+: folder

theorem looks_mapErrors {operation : SdkOperation α}
    (looks : rules.Ensures operation (Looks platform near world good) world) :
    rules.Ensures (mapErrors platform operation) (Looks platform near world good) world := by
  apply looks.tryCatch
  · exact fun _ _ looked => looked
  · exact fun _ _ looked => ⟨looked.1, nofun⟩

theorem Looks.makes {operation : SdkOperation α}
    (looks : ∀ world, rules.Ensures operation (Looks platform near world good) world) :
    Makes rules operation :=
  fun world => (looks world).mono fun _ _ _ => trivial

section

variable (anchoring : Anchoring platform rules near)
include anchoring

theorem Anchoring.dropLast {segs : List JsString} (within : near segs) : near segs.dropLast := by
  rcases List.eq_nil_or_concat segs with rfl | ⟨above, name, rfl⟩
  · exact within
  · rw [List.concat_eq_append] at within ⊢
    rw [List.dropLast_concat]
    exact anchoring.above above [name] within

theorem Anchoring.tolerant :
    Tolerant platform rules fun path => near (segments path).dropLast where
  drops now fewer holds drops :=
    anchoring.guarantee now fewer ((anchoring.invariant now holds).fewer drops)
  reads now command _ := anchoring.permits now command
  resolves path includeDrafts within :=
    Looks.makes fun _ => looks_resolve anchoring includeDrafts within
  normalize path within := by
    rw [segments_normalize]
    exact within
  parent path within := by
    rw [segments_parentPath]
    exact anchoring.dropLast within

theorem looks_resolveOrThrow {path : JsString} (within : near (segments path)) :
    rules.Ensures (resolveOrThrow platform path) (Looks platform near world fun node reached =>
      node.type = .folder → reached.remote.Stays platform (segments path) node.uid) world := by
  apply looks_bind (looks_resolve anchoring false (anchoring.dropLast within))
  intro found reached _ _ lies
  cases found with
  | none => exact looks_fail _
  | some node => exact looks_pure fun isFolder => lies node rfl isFolder within

/-- The entries of a listing rest on the folder that is listed. -/
theorem looks_listEntries {path : JsString} {parent : Uid} (within : near (segments path))
    (children : List NodeEntity) (seen : List JsString)
    (stays : world.remote.Stays platform (segments path) parent) :
    rules.Ensures (listEntries platform path parent children seen)
      (Looks platform near world fun _ _ => True) world := by
  induction children generalizing seen world with
  | nil => exact looks_pure trivial
  | cons child rest induction =>
      unfold listEntries
      split
      · exact induction seen stays
      · next entry shown =>
          split
          · exact induction seen stays
          · have safe := (shown_of_toEntry shown).2.1
            have recorded : rules.Ensures
                (Program.modify (cachePath (join path entry.name) child.uid (some parent)) :
                  SdkOperation Unit)
                (Looks platform near world fun _ reached =>
                  reached.remote.Stays platform (segments path) parent) world := by
              apply looks_modify anchoring
              intro now anchored _ stayed
              refine ⟨?_, stayed _ _ within stays⟩
              apply anchored.cachePath
              rw [segments_child (isSegment_of_isSafeSegment safe), List.dropLast_concat]
              exact stayed _ _ within stays
            apply looks_bind recorded
            intro _ reached _ _ stillStays
            apply looks_bind (induction _ stillStays)
            exact fun _ _ _ _ _ => looks_pure trivial

theorem looks_list {path : JsString} (within : near (segments path)) :
    rules.Ensures (list platform path) (Looks platform near world fun _ _ => True) world := by
  apply looks_bind (looks_mapErrors (looks_resolveOrThrow anchoring within))
  intro node reached _ _ lies
  split
  · exact looks_fail _
  · next isFolder =>
      have stays := lies (Decidable.of_not_not isFolder)
      apply looks_bind (looks_mapErrors (looks_lookup anchoring rfl))
      intro children listed _ stayed _
      apply looks_bind
        (looks_listEntries anchoring within children.items [] (stayed _ _ within stays))
      intro out ended _ _ _
      split
      · exact looks_fail _
      · exact looks_pure trivial

/-- A new folder is recorded where it was made. -/
theorem looks_mkcolIn {p : JsString} {parent : NodeEntity} (inside : segments p ≠ [])
    (within : near (segments p))
    (creates : ∀ drive parent name node final, drive.Proper platform →
      rules.service drive (.createFolder parent name) (.ok node) final →
        Drive.Becomes platform drive final ∧
          Drive.Creates platform drive final parent.uid name node)
    (stays : world.remote.Stays platform (segments p).dropLast parent.uid) :
    rules.Ensures (mkcolIn platform p parent) (fun _ _ => True) world := by
  have above := anchoring.dropLast within
  have looked : rules.Ensures (resolve platform p true)
      (Looks platform near world (FoundAt platform near (segments p))) world :=
    looks_resolve anchoring true above
  apply looked.bind
  · exact fun _ _ _ => trivial
  · rintro found reached ⟨⟨_, stayed⟩, _⟩
    cases found with
    | some node => trivial
    | none =>
        have home := stayed _ _ above stays
        have made : rules.Ensures
            (Program.request (SdkCall.createFolder parent (baseName p)) : SdkOperation NodeEntity)
            (fun outcome made => ∀ node, outcome = .ok node →
              made.remote.Stays platform (segments p) node.uid) reached := by
          apply Rules.ensures_request.mpr
          intro now holds between
          refine ⟨anchoring.permits now _, ?_⟩
          intro answer remote answered node same
          rw [same] at answered
          have proper := (anchoring.invariant now holds).proper
          rcases creates _ _ _ _ _ proper answered with ⟨change, new⟩
          rw [segments_eq_concat inside, segments_parentPath]
          exact (anchoring.stays _ _ between _ _ above home).created change new
        have recorded : rules.Ensures
            (do
              let created ← Program.request (SdkCall.createFolder parent (baseName p))
              Program.modify (cacheCreated p created.uid) : SdkOperation Unit)
            (fun _ _ => True) reached := by
          apply made.bind
          · exact fun _ _ _ => trivial
          · intro node created lies
            apply Rules.ensures_modify.mpr
            intro now holds between
            refine ⟨anchoring.guarantee now _ ?_, trivial⟩
            apply (anchoring.invariant now holds).cacheCreated
            exact anchoring.stays _ _ between _ _ within (lies node rfl)
        exact recorded.tryCatch (fun _ _ _ => trivial) fun _ _ _ => trivial

theorem makes_mkcol_of_creates {path : JsString} (within : near (segments path))
    (creates : ∀ drive parent name node final, drive.Proper platform →
      rules.service drive (.createFolder parent name) (.ok node) final →
        Drive.Becomes platform drive final ∧
          Drive.Creates platform drive final parent.uid name node) :
    Makes rules (mkcol platform path) := by
  intro world
  unfold mkcol
  dsimp only
  split
  · trivial
  · next notRoot =>
      have inside : segments (normalize path) ≠ [] := fun none => notRoot (isRoot_iff.mpr none)
      split
      · trivial
      · have above := anchoring.dropLast (anchoring.dropLast within)
        rw [← segments_parentPath, ← parentPath_normalize] at above
        have looked : rules.Ensures (resolve platform (parentPath (normalize path)) false)
            (Looks platform near world
              (FoundAt platform near (segments (parentPath (normalize path))))) world :=
          looks_resolve anchoring false above
        apply looked.bind
        · exact fun _ _ _ => trivial
        · rintro found reached ⟨_, lies⟩
          cases found with
          | none => trivial
          | some parent =>
              dsimp only
              split
              · trivial
              · next isFolder =>
                  have stays := lies _ rfl parent rfl (Decidable.of_not_not isFolder)
                  rw [segments_parentPath, segments_normalize] at stays
                  apply looks_mkcolIn anchoring inside _ creates
                  · rw [segments_normalize]
                    exact stays (anchoring.dropLast within)
                  · rw [segments_normalize]
                    exact within

end

end DriveWebdav
