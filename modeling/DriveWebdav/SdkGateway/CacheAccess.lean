import DriveWebdav.SdkGateway.Gateway
import DriveWebdav.SdkGateway.Operations

/-! # How operations use the path cache

Every access of the gateway to its memory takes entries out of the path cache, or adds one. -/

namespace DriveWebdav

/-- What an operation can do to the memory of the service. Only two accesses write an entry. -/
inductive CacheAccess : (ServiceMemory → ServiceMemory) → Prop
  | shrinks {change : ServiceMemory → ServiceMemory}
      (fewer : ∀ memory, (change memory).resolveCache.entries.Sublist memory.resolveCache.entries)
      (clock : ∀ memory, (change memory).now = memory.now) : CacheAccess change
  | cached (path : JsString) (uid : Uid) (parent : Option Uid) :
      CacheAccess (cachePath path uid parent)
  | created (path : JsString) (uid : Uid) : CacheAccess (cacheCreated path uid)

/-- The operation uses the cache in these ways only. -/
abbrev UsesCache {α : Type} (operation : SdkOperation α) : Prop :=
  operation.Within CacheAccess fun _ => True

/-- The operation makes no calls but those of path resolution. -/
abbrev LooksUp {α : Type} (operation : SdkOperation α) : Prop :=
  operation.Within CacheAccess fun command => command.isLookup = true

theorem cacheAccess_id : CacheAccess id := .shrinks (fun _ => List.Sublist.refl _) fun _ => rfl

theorem cacheAccess_invalidate (path : JsString) : CacheAccess (invalidate path) :=
  .shrinks (fun _ => List.filter_sublist) fun _ => rfl

theorem cacheAccess_uncache (path : JsString) : CacheAccess (uncache path) :=
  .shrinks (fun _ => List.filter_sublist) fun _ => rfl

section

variable {platform : Platform} {α : Type}

theorem LooksUp.usesCache {operation : SdkOperation α} (looksUp : LooksUp operation) :
    UsesCache operation :=
  Program.Within.mono looksUp (fun _ accessed => accessed) fun _ _ => trivial

/-! ## Path resolution -/

private theorem looksUp_request {command : SdkCall} (lookup : command.isLookup = true) :
    LooksUp (Program.request command) :=
  Program.within_request lookup

private theorem looksUp_getRootUid : LooksUp (getRootUid platform) := by
  apply Program.within_bind (Program.within_read cacheAccess_id)
  intro memory
  cases memory.rootUid with
  | some rootUid => exact Program.within_pure _
  | none =>
      apply Program.within_bind (looksUp_request rfl)
      intro node
      split
      · exact Program.within_throw _
      · apply Program.within_bind (Program.within_modify _) fun _ => Program.within_pure _
        exact .shrinks (fun _ => List.Sublist.refl _) fun _ => rfl

private theorem looksUp_getRoot (rootUid : Uid) : LooksUp (getRoot rootUid) :=
  Program.within_bind (looksUp_request rfl) fun _ => Program.within_pure _

private theorem looksUp_keepOrUncache (path : JsString) (hit : Option NodeEntity) :
    LooksUp (keepOrUncache path hit) := by
  cases hit with
  | some node => exact Program.within_pure _
  | none =>
      exact Program.within_bind (Program.within_modify (cacheAccess_uncache path))
        fun _ => Program.within_pure _

private theorem looksUp_resolveCached (path name : JsString) (includeDrafts : Bool) :
    LooksUp (resolveCached platform path name includeDrafts) := by
  apply Program.within_bind (Program.within_read cacheAccess_id)
  intro memory
  cases memory.resolveCache.get path with
  | none => exact Program.within_pure _
  | some cached =>
      dsimp only
      split
      · apply Program.within_bind
        · apply Program.within_tryCatch
          · exact Program.within_bind (looksUp_request rfl) fun _ => Program.within_pure _
          · exact fun _ => Program.within_pure _
        · exact looksUp_keepOrUncache path
      · exact Program.within_pure _

private theorem looksUp_resolveBelow (path name : JsString) (includeDrafts : Bool)
    (parent : Option NodeEntity) :
    LooksUp (resolveBelow platform path name includeDrafts parent) := by
  cases parent with
  | none => exact Program.within_pure _
  | some parent =>
      simp only [resolveBelow]
      split
      · exact Program.within_pure _
      · apply Program.within_bind (looksUp_request rfl)
        intro children
        apply Program.within_bind
        · unfold firstYielded
          split
          · exact Program.within_pure _
          · split
            · exact Program.within_throw _
            · exact Program.within_pure _
        · intro found
          cases found with
          | none => exact Program.within_pure _
          | some found =>
              simp only [takeChild]
              split
              · exact Program.within_pure _
              · split
                · exact Program.within_pure _
                · exact Program.within_bind (Program.within_modify (.cached _ _ _))
                    fun _ => Program.within_pure _

private theorem looksUp_resolveSegments (segs : List JsString) (includeDrafts : Bool) :
    LooksUp (resolveSegments platform segs includeDrafts) := by
  induction segs generalizing includeDrafts with
  | nil => exact Program.within_bind looksUp_getRootUid looksUp_getRoot
  | cons name above induction =>
      apply Program.within_bind looksUp_getRootUid
      intro rootUid
      apply Program.within_bind (looksUp_resolveCached _ _ _)
      intro hit
      cases hit with
      | some node => exact Program.within_pure _
      | none =>
          apply Program.within_bind
          · cases above with
            | nil => exact looksUp_getRoot rootUid
            | cons next others => exact induction false
          · exact looksUp_resolveBelow _ _ _

theorem looksUp_resolve (path : JsString) (includeDrafts : Bool) :
    LooksUp (resolve platform path includeDrafts) := by
  unfold resolve
  split
  · exact looksUp_resolveSegments _ _
  · exact Program.within_throw _

theorem looksUp_resolveOrThrow (path : JsString) : LooksUp (resolveOrThrow platform path) := by
  apply Program.within_bind (looksUp_resolve path false)
  intro found
  cases found with
  | none => exact Program.within_throw _
  | some node => exact Program.within_pure _

/-! ## Operations -/

theorem usesCache_request (command : SdkCall) : UsesCache (Program.request command) :=
  Program.within_request trivial

theorem UsesCache.mapErrors {operation : SdkOperation α} (uses : UsesCache operation) :
    UsesCache (mapErrors platform operation) :=
  Program.within_tryCatch uses fun _ => Program.within_throw _

theorem usesCache_eachOk (results : Yielded NodeResult) (thrown : SdkError → Thrown) :
    UsesCache (eachOk results thrown) := by
  unfold eachOk
  split
  · exact Program.within_throw _
  · split
    · exact Program.within_throw _
    · exact Program.within_pure _

theorem usesCache_stat (path : JsString) : UsesCache (stat platform path) := by
  apply Program.within_bind (looksUp_resolve path false).usesCache.mapErrors
  intro found
  cases found with
  | none => exact Program.within_pure _
  | some node =>
      dsimp only
      split
      · exact Program.within_pure _
      · exact Program.within_pure _

theorem usesCache_listEntries (path : JsString) (parent : Uid) (children : List NodeEntity)
    (seen : List JsString) : UsesCache (listEntries platform path parent children seen) := by
  induction children generalizing seen with
  | nil => exact Program.within_pure _
  | cons child rest induction =>
      unfold listEntries
      split
      · exact induction seen
      · split
        · exact induction seen
        · apply Program.within_bind (Program.within_modify (.cached _ _ _))
          intro _
          exact Program.within_bind (induction _) fun _ => Program.within_pure _

theorem usesCache_list (path : JsString) : UsesCache (list platform path) := by
  apply Program.within_bind (looksUp_resolveOrThrow path).usesCache.mapErrors
  intro node
  split
  · exact Program.within_throw _
  · apply Program.within_bind (usesCache_request _).mapErrors
    intro children
    apply Program.within_bind (usesCache_listEntries _ _ _ _)
    intro out
    split
    · exact Program.within_throw _
    · exact Program.within_pure _

theorem usesCache_readWhole (path : JsString) (node : NodeEntity) (rev : Revision)
    (totalSize : Nat) : UsesCache (readWhole platform path node rev totalSize) := by
  apply Program.within_bind (usesCache_request _)
  intro _
  apply Program.within_bind (usesCache_request _).mapErrors
  intro started
  split
  · exact Program.within_pure _
  · split
    · exact Program.within_throw _
    · exact Program.within_pure _

theorem usesCache_readRange (path : JsString) (node : NodeEntity) (rev : Revision)
    (range : ByteRange) (totalSize : Nat) :
    UsesCache (readRange platform path node rev range totalSize) := by
  apply Program.within_bind (usesCache_request _)
  intro _
  apply Program.within_bind
  · apply Program.within_tryCatch
    · exact Program.within_bind (usesCache_request _) fun _ => Program.within_pure _
    · exact fun _ => Program.within_pure _
  · intro seekable
    split
    · split
      · exact Program.within_pure _
      · apply Program.within_bind
        · apply UsesCache.mapErrors
          apply Program.within_bind (usesCache_request _)
          intro _
          apply Program.within_bind (usesCache_request _)
          intro value
          unfold acceptFirst
          split
          · exact Program.within_throw _
          · exact Program.within_throw _
          · exact Program.within_pure _
        · exact fun _ => Program.within_pure _
    · apply Program.within_bind
      · exact Program.within_tryCatch (usesCache_request _) fun _ => Program.within_pure _
      · intro _
        exact Program.within_bind (usesCache_readWhole _ _ _ _) fun _ => Program.within_pure _

theorem usesCache_read (path : JsString) (range : Option ByteRange) :
    UsesCache (read platform path range) := by
  apply Program.within_bind (looksUp_resolveOrThrow path).usesCache
  intro node
  split
  · split
    · exact Program.within_throw _
    · split
      · exact usesCache_readRange _ _ _ _ _
      · exact usesCache_readWhole _ _ _ _
  · exact Program.within_throw _

theorem usesCache_cancelBody : UsesCache cancelBody :=
  Program.within_tryCatch (usesCache_request _) fun _ => Program.within_pure _

theorem usesCache_refusePut (error : GatewayError) : UsesCache (refusePut error : SdkOperation α) :=
  Program.within_bind usesCache_cancelBody fun _ => Program.within_throw _

theorem usesCache_upload (p : JsString) (parent : NodeEntity) (revisionOfUid : Option Uid)
    (body : BodyStream) (opts : PutOptions) :
    UsesCache (upload platform p parent revisionOfUid body opts) := by
  apply Program.within_tryCatch
  · apply Program.within_bind
    · unfold requestUploader
      split
      · exact usesCache_request _
      · exact usesCache_request _
    · intro uploader
      apply Program.within_bind (usesCache_request _)
      intro controller
      apply Program.within_bind (usesCache_request _)
      intro _
      exact Program.within_bind (Program.within_modify (cacheAccess_invalidate p))
        fun _ => Program.within_pure _
  · intro error
    apply Program.within_bind _ fun _ => Program.within_throw _
    apply Program.within_bind
    · exact Program.within_tryCatch (usesCache_request _) fun _ => Program.within_pure _
    · exact fun _ => Program.within_modify (cacheAccess_invalidate p)

theorem usesCache_put (path : JsString) (body : BodyStream) (opts : PutOptions) :
    UsesCache (put platform path body opts) := by
  unfold put
  dsimp only
  split
  · exact usesCache_refusePut _
  · split
    · exact usesCache_refusePut _
    · split
      · exact usesCache_refusePut _
      · apply Program.within_bind
        · apply Program.within_tryCatch (looksUp_resolve _ _).usesCache
          exact fun _ => Program.within_bind usesCache_cancelBody fun _ => Program.within_throw _
        · intro found
          cases found with
          | none => exact usesCache_refusePut _
          | some parent =>
              dsimp only
              split
              · exact usesCache_refusePut _
              · apply Program.within_bind (looksUp_resolve _ _).usesCache
                intro existing
                split
                · exact usesCache_refusePut _
                · exact Program.within_bind usesCache_cancelBody fun _ => Program.within_pure _
                · exact usesCache_refusePut _
                · exact usesCache_upload _ _ _ _ _
                · exact usesCache_upload _ _ _ _ _

theorem usesCache_mkcol (path : JsString) : UsesCache (mkcol platform path) := by
  unfold mkcol
  dsimp only
  split
  · exact Program.within_throw _
  · split
    · exact Program.within_throw _
    · apply Program.within_bind (looksUp_resolve _ _).usesCache
      intro found
      cases found with
      | none => exact Program.within_throw _
      | some parent =>
          dsimp only
          split
          · exact Program.within_throw _
          · apply Program.within_bind (looksUp_resolve _ _).usesCache
            intro existing
            cases existing with
            | some node => exact Program.within_throw _
            | none =>
                apply Program.within_tryCatch
                · apply Program.within_bind (usesCache_request _)
                  exact fun node => Program.within_modify (.created _ _)
                · exact fun _ => Program.within_throw _

theorem usesCache_remove (path : JsString) : UsesCache (remove platform path) := by
  unfold remove
  dsimp only
  split
  · exact Program.within_throw _
  · apply Program.within_bind (looksUp_resolveOrThrow _).usesCache
    intro node
    apply Program.within_bind (usesCache_request _)
    intro results
    apply Program.within_bind (usesCache_eachOk _ _)
    exact fun _ => Program.within_modify (cacheAccess_invalidate _)

theorem usesCache_resolveDestination (d : JsString) :
    UsesCache (resolveDestination platform d) := by
  apply Program.within_bind (looksUp_resolve _ _).usesCache
  intro found
  cases found with
  | none => exact Program.within_throw _
  | some parent =>
      dsimp only
      split
      · exact Program.within_throw _
      · split
        · exact Program.within_throw _
        · apply Program.within_bind (looksUp_resolve _ _).usesCache
          intro existing
          cases existing with
          | some node => exact Program.within_throw _
          | none => exact Program.within_pure _

theorem usesCache_moveNode (s d : JsString) (node dstParent : NodeEntity) :
    UsesCache (moveNode platform s d node dstParent) := by
  apply Program.within_finallyDo
  · apply UsesCache.mapErrors
    apply Program.within_bind
    · unfold relocate
      split
      · exact Program.within_pure _
      · exact Program.within_bind (usesCache_request _) fun _ => usesCache_eachOk _ _
    · intro _
      unfold renameTo
      split
      · exact Program.within_pure _
      · exact Program.within_tryCatch (usesCache_request _) fun _ => Program.within_throw _
  · apply Program.within_modify
    apply CacheAccess.shrinks
    · exact fun _ => List.filter_sublist.trans List.filter_sublist
    · exact fun _ => rfl

theorem usesCache_move (src dst : JsString) : UsesCache (move platform src dst) := by
  unfold move
  dsimp only
  split
  · exact Program.within_throw _
  · split
    · exact Program.within_throw _
    · apply Program.within_bind (looksUp_resolveOrThrow _).usesCache
      intro node
      apply Program.within_bind (usesCache_resolveDestination _)
      exact fun dstParent => usesCache_moveNode _ _ _ _

theorem usesCache_copy (src dst : JsString) : UsesCache (copy platform src dst) := by
  unfold copy
  dsimp only
  apply Program.within_bind (looksUp_resolveOrThrow _).usesCache
  intro node
  split
  · exact Program.within_throw _
  · apply Program.within_bind (usesCache_resolveDestination _)
    intro dstParent
    apply Program.within_finallyDo
    · apply UsesCache.mapErrors
      exact Program.within_bind (usesCache_request _) fun _ => usesCache_eachOk _ _
    · exact Program.within_modify (cacheAccess_invalidate _)

theorem usesCache_quota : UsesCache quota := by
  apply Program.within_tryCatch
  · exact Program.within_bind (usesCache_request _) fun _ => Program.within_pure _
  · exact fun _ => Program.within_pure _

end

end DriveWebdav
