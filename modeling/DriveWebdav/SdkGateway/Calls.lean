import DriveWebdav.Foundation.Interference
import DriveWebdav.Drive
import DriveWebdav.SdkGateway.Gateway

/-! # Which calls the gateway makes

Every operation reads, and a few of them make one kind of call that changes the tree. -/

namespace DriveWebdav

/-- The operation keeps to the rules from any start, and nothing more is asked of it. -/
def Makes {α : Type} (rules : Rules ServiceMemory SdkCall SdkAnswer Thrown Drive)
    (operation : SdkOperation α) : Prop :=
  ∀ world, rules.Ensures operation (fun _ _ => True) world

/-- Rules that ask nothing of the memory and permit every call that only reads. -/
structure Lenient (rules : Rules ServiceMemory SdkCall SdkAnswer Thrown Drive) : Prop where
  guarantee : ∀ now changed, rules.guarantee now changed
  reads : ∀ now command, command.changesTree = false → rules.permits now command

/-- Memory in which entries of the cache may be missing, and nothing else. -/
def ServiceMemory.Fewer (memory fewer : ServiceMemory) : Prop :=
  fewer.rootUid = memory.rootUid ∧ fewer.now = memory.now ∧
    ∀ key cached, fewer.resolveCache.get key = some cached →
      memory.resolveCache.get key = some cached

/-- Rules that permit every call that only reads, let entries of the cache go, and are kept
while paths of some kind are looked up. -/
structure Tolerant (platform : Platform)
    (rules : Rules ServiceMemory SdkCall SdkAnswer Thrown Drive) (near : JsString → Prop) :
    Prop where
  drops : ∀ now fewer, rules.invariant now → now.memory.Fewer fewer →
    rules.guarantee now ⟨fewer, now.remote⟩
  reads : ∀ now command, command.changesTree = false → rules.permits now command
  resolves : ∀ path includeDrafts, near path → Makes rules (resolve platform path includeDrafts)
  normalize : ∀ path, near path → near (normalize path)
  parent : ∀ path, near path → near (parentPath path)

theorem ServiceMemory.fewer_invalidate (path : JsString) (memory : ServiceMemory) :
    memory.Fewer (invalidate path memory) :=
  ⟨rfl, rfl, fun _ _ found => ((InsertionMap.get_filter _ _ _ _).mp found).1⟩

theorem ServiceMemory.fewer_uncache (path : JsString) (memory : ServiceMemory) :
    memory.Fewer (uncache path memory) :=
  ⟨rfl, rfl, fun _ _ found => InsertionMap.get_of_get_delete found⟩

theorem ServiceMemory.Fewer.trans {memory fewer fewest : ServiceMemory}
    (first : memory.Fewer fewer) (second : fewer.Fewer fewest) : memory.Fewer fewest :=
  ⟨second.1.trans first.1, second.2.1.trans first.2.1,
    fun key cached found => first.2.2 key cached (second.2.2 key cached found)⟩

variable {rules : Rules ServiceMemory SdkCall SdkAnswer Thrown Drive} {α β : Type}

namespace Makes

theorem pure (value : α) : Makes rules (Pure.pure value : SdkOperation α) := fun _ => trivial

theorem throw (error : Thrown) : Makes rules (MonadExcept.throw error : SdkOperation α) :=
  fun _ => trivial

theorem reject (error : GatewayError) : Makes rules (reject error : SdkOperation α) :=
  fun _ => trivial

theorem bind {operation : SdkOperation α} {next : α → SdkOperation β}
    (first : Makes rules operation) (rest : ∀ value, Makes rules (next value)) :
    Makes rules (operation >>= next) :=
  fun world => (first world).bind (fun _ _ _ => trivial) fun value reached _ => rest value reached

theorem tryCatch {operation : SdkOperation α} {recover : Thrown → SdkOperation α}
    (first : Makes rules operation) (rest : ∀ error, Makes rules (recover error)) :
    Makes rules (tryCatch operation recover) :=
  fun world => (first world).tryCatch (fun _ _ _ => trivial)
    fun error reached _ => rest error reached

theorem request {command : SdkCall} (permitted : ∀ now, rules.permits now command) :
    Makes rules (Program.request command : SdkOperation _) :=
  fun _ => Rules.ensures_request.mpr fun now _ _ => ⟨permitted now, fun _ _ _ => trivial⟩

theorem finallyDo {operation : SdkOperation α} {cleanup : SdkOperation Unit}
    (first : Makes rules operation) (last : Makes rules cleanup) :
    Makes rules (operation.finallyDo cleanup) := by
  intro world
  apply (first world).andThen
  intro outcome reached _
  apply (last reached).andThen
  intro done final _
  cases done with
  | error error => trivial
  | ok value =>
      cases outcome with
      | ok value => trivial
      | error error => trivial

end Makes

section

variable {platform : Platform}

theorem makes_mapErrors {operation : SdkOperation α} (first : Makes rules operation) :
    Makes rules (mapErrors platform operation) :=
  first.tryCatch fun _ => .throw _

theorem makes_eachOk (results : Yielded NodeResult) (thrown : SdkError → Thrown) :
    Makes rules (eachOk results thrown) := by
  unfold eachOk
  split
  · exact .throw _
  · split
    · exact .throw _
    · exact .pure _

section

variable (lenient : Lenient rules)
include lenient

theorem Makes.read : Makes rules (Program.read : SdkOperation _) :=
  fun _ => Rules.ensures_read.mpr fun now _ _ => ⟨lenient.guarantee now now, trivial⟩

theorem Makes.modify (change : ServiceMemory → ServiceMemory) :
    Makes rules (Program.modify change : SdkOperation _) :=
  fun _ => Rules.ensures_modify.mpr fun now _ _ => ⟨lenient.guarantee now _, trivial⟩

/-- A call that only reads. -/
theorem Makes.lookup {command : SdkCall} (reads : command.changesTree = false) :
    Makes rules (Program.request command : SdkOperation _) :=
  Makes.request fun now => lenient.reads now command reads

/-! ## Lookups -/

theorem makes_getRootUid : Makes rules (getRootUid platform) := by
  apply (Makes.read lenient).bind
  intro memory
  split
  · exact .pure _
  · apply (Makes.lookup lenient rfl).bind
    intro node
    split
    · exact .reject _
    · exact (Makes.modify lenient _).bind fun _ => .pure _

theorem makes_resolveCached (path name : JsString) (includeDrafts : Bool) :
    Makes rules (resolveCached platform path name includeDrafts) := by
  apply (Makes.read lenient).bind
  intro memory
  split
  · exact .pure _
  · split
    · apply Makes.bind
      · apply Makes.tryCatch
        · exact (Makes.lookup lenient rfl).bind fun _ => .pure _
        · exact fun _ => .pure _
      · intro hit
        cases hit with
        | none => exact (Makes.modify lenient _).bind fun _ => .pure _
        | some node => exact .pure _
    · exact .pure _

theorem makes_resolveBelow (path name : JsString) (includeDrafts : Bool)
    (parent : Option NodeEntity) :
    Makes rules (resolveBelow platform path name includeDrafts parent) := by
  unfold resolveBelow
  split
  · exact .pure _
  · split
    · exact .pure _
    · apply (Makes.lookup lenient rfl).bind
      intro children
      apply Makes.bind
      · unfold firstYielded
        split
        · exact .pure _
        · split
          · exact .throw _
          · exact .pure _
      · intro found
        unfold takeChild
        split
        · exact .pure _
        · split
          · exact .pure _
          · split
            · exact .pure _
            · exact (Makes.modify lenient _).bind fun _ => .pure _

theorem makes_getRoot (rootUid : Uid) : Makes rules (getRoot rootUid) :=
  (Makes.lookup lenient rfl).bind fun _ => .pure _

theorem makes_resolveSegments (names : List JsString) (includeDrafts : Bool) :
    Makes rules (resolveSegments platform names includeDrafts) := by
  induction names generalizing includeDrafts with
  | nil => exact (makes_getRootUid lenient).bind fun _ => makes_getRoot lenient _
  | cons name above induction =>
      apply (makes_getRootUid lenient).bind
      intro rootUid
      apply (makes_resolveCached lenient _ _ _).bind
      intro hit
      cases hit with
      | some node => exact .pure _
      | none =>
          apply Makes.bind
          · cases above with
            | nil => exact makes_getRoot lenient _
            | cons _ _ => exact induction false
          · exact fun _ => makes_resolveBelow lenient _ _ _ _

theorem makes_resolve (path : JsString) (includeDrafts : Bool) :
    Makes rules (resolve platform path includeDrafts) := by
  unfold resolve
  split
  · exact makes_resolveSegments lenient _ _
  · exact .reject _

theorem makes_quota : Makes rules quota := by
  apply Makes.tryCatch
  · exact (Makes.lookup lenient rfl).bind fun _ => .pure _
  · exact fun _ => .pure _

theorem Lenient.tolerant : Tolerant platform rules fun _ => True where
  drops now fewer _ _ := lenient.guarantee now ⟨fewer, now.remote⟩
  reads := lenient.reads
  resolves path includeDrafts _ := makes_resolve lenient path includeDrafts
  normalize _ _ := trivial
  parent _ _ := trivial

end

/-! ## Operations that record nothing of their own -/

section

variable {near : JsString → Prop} (tolerant : Tolerant platform rules near)
include tolerant

theorem Tolerant.lookup {command : SdkCall} (reads : command.changesTree = false) :
    Makes rules (Program.request command : SdkOperation _) :=
  Makes.request fun now => tolerant.reads now command reads

theorem Tolerant.modify {change : ServiceMemory → ServiceMemory}
    (drops : ∀ memory, ServiceMemory.Fewer memory (change memory)) :
    Makes rules (Program.modify change : SdkOperation _) :=
  fun _ => Rules.ensures_modify.mpr fun now holds _ =>
    ⟨tolerant.drops now _ holds (drops _), trivial⟩

theorem Tolerant.invalidates (path : JsString) :
    Makes rules (Program.modify (invalidate path) : SdkOperation _) :=
  tolerant.modify (ServiceMemory.fewer_invalidate path)

theorem makes_resolveOrThrow {path : JsString} (within : near path) :
    Makes rules (resolveOrThrow platform path) := by
  apply (tolerant.resolves path false within).bind
  intro found
  cases found with
  | none => exact .reject _
  | some node => exact .pure _

theorem makes_stat {path : JsString} (within : near path) : Makes rules (stat platform path) := by
  apply (makes_mapErrors (tolerant.resolves path false within)).bind
  intro found
  cases found with
  | none => exact .pure _
  | some node =>
      dsimp only
      split
      · exact .pure _
      · exact .pure _

theorem makes_readWhole (path : JsString) (node : NodeEntity) (rev : Revision) (totalSize : Nat) :
    Makes rules (readWhole platform path node rev totalSize) := by
  apply (tolerant.lookup rfl).bind
  intro _
  apply (makes_mapErrors (tolerant.lookup rfl)).bind
  intro started
  split
  · exact .pure _
  · split
    · exact .reject _
    · exact .pure _

theorem makes_readRange (path : JsString) (node : NodeEntity) (rev : Revision) (range : ByteRange)
    (totalSize : Nat) : Makes rules (readRange platform path node rev range totalSize) := by
  apply (tolerant.lookup rfl).bind
  intro _
  apply Makes.bind
  · apply Makes.tryCatch
    · exact (tolerant.lookup rfl).bind fun _ => .pure _
    · exact fun _ => .pure _
  · intro seekable
    split
    · split
      · exact .pure _
      · apply Makes.bind
        · apply makes_mapErrors
          apply (tolerant.lookup rfl).bind
          intro _
          apply (tolerant.lookup rfl).bind
          intro value
          unfold acceptFirst
          split
          · exact .reject _
          · exact .reject _
          · exact .pure _
        · exact fun _ => .pure _
    · apply Makes.bind
      · exact (tolerant.lookup rfl).tryCatch fun _ => .pure _
      · exact fun _ => (makes_readWhole tolerant _ _ _ _).bind fun _ => .pure _

theorem makes_read {path : JsString} (within : near path) (range : Option ByteRange) :
    Makes rules (DriveWebdav.read platform path range) := by
  apply (makes_resolveOrThrow tolerant within).bind
  intro node
  split
  · split
    · exact .reject _
    · split
      · exact makes_readRange tolerant _ _ _ _ _
      · exact makes_readWhole tolerant _ _ _ _
  · exact .reject _

theorem makes_cancelBody : Makes rules cancelBody :=
  (tolerant.lookup rfl).tryCatch fun _ => .pure _

theorem makes_refusePut (error : GatewayError) : Makes rules (refusePut error : SdkOperation α) :=
  (makes_cancelBody tolerant).bind fun _ => .reject _

theorem makes_uploadOf (p : JsString) (parent : NodeEntity) (revisionOfUid : Option Uid)
    (body : BodyStream) (opts : PutOptions)
    (good : Uploader → Prop)
    (requested : ∀ world, rules.Ensures (requestUploader platform p parent revisionOfUid opts)
      (fun outcome _ => ∀ uploader, outcome = .ok uploader → good uploader) world)
    (starts : ∀ now uploader, good uploader →
      rules.permits now (.uploadFromStream uploader (ownedStream body)))
    (completes : ∀ now uploader controller remote final, good uploader →
      rules.service remote (.uploadFromStream uploader (ownedStream body)) (.ok controller) final →
      rules.permits now (.completion controller)) :
    Makes rules (upload platform p parent revisionOfUid body opts) := by
  apply Makes.tryCatch
  · intro world
    apply (requested world).bind
    · exact fun _ _ _ => trivial
    · intro uploader reached isGood
      have isGood := isGood uploader rfl
      have started : rules.Ensures
          (Program.request (SdkCall.uploadFromStream uploader (ownedStream body)))
          (fun outcome _ => ∀ controller, outcome = .ok controller →
            ∀ now, rules.permits now (.completion controller)) reached := by
        apply Rules.ensures_request.mpr
        intro now _ _
        refine ⟨starts now uploader isGood, ?_⟩
        intro answer remote answered controller same now
        rw [same] at answered
        exact completes now uploader controller _ remote isGood answered
      apply started.bind
      · exact fun _ _ _ => trivial
      · intro controller reached completed
        have rest : Makes rules (do
            Program.request (SdkCall.completion controller)
            Program.modify (invalidate p)
            pure (if revisionOfUid.isSome then PutResult.updated else .created) :
              SdkOperation PutResult) :=
          (Makes.request (completed controller rfl)).bind fun _ =>
            (tolerant.invalidates _).bind fun _ => .pure _
        exact rest reached
  · intro error
    apply Makes.bind
    · exact ((tolerant.lookup rfl).tryCatch fun _ => .pure _).bind fun _ => tolerant.invalidates _
    · exact fun _ => .throw _

theorem makes_upload (p : JsString) (parent : NodeEntity) (revisionOfUid : Option Uid)
    (body : BodyStream) (opts : PutOptions)
    (good : Uploader → Prop)
    (requested : ∀ world, rules.Ensures (requestUploader platform p parent revisionOfUid opts)
      (fun outcome _ => ∀ uploader, outcome = .ok uploader → good uploader) world)
    (starts : ∀ now uploader stream, good uploader →
      rules.permits now (.uploadFromStream uploader stream))
    (completes : ∀ now uploader stream controller remote final, good uploader →
      rules.service remote (.uploadFromStream uploader stream) (.ok controller) final →
      rules.permits now (.completion controller)) :
    Makes rules (upload platform p parent revisionOfUid body opts) :=
  makes_uploadOf tolerant p parent revisionOfUid body opts good requested
    (fun now uploader => starts now uploader _)
    fun now uploader controller => completes now uploader _ controller

theorem makes_putInto {p : JsString} (within : near p) (parent : NodeEntity) (body : BodyStream)
    (opts : PutOptions)
    (revises : ∀ existing uid, putTarget opts existing = .revise uid →
      Makes rules (upload platform p parent (some uid) body opts))
    (creates : Makes rules (upload platform p parent none body opts)) :
    Makes rules (putInto platform p parent body opts) := by
  apply (tolerant.resolves p true within).bind
  intro existing
  split
  · exact makes_refusePut tolerant _
  · exact (makes_cancelBody tolerant).bind fun _ => .pure _
  · exact makes_refusePut tolerant _
  · next uid target => exact revises existing uid target
  · exact creates

theorem makes_put {path : JsString} (within : near path) (body : BodyStream) (opts : PutOptions)
    (puts : ∀ p parent, near p → Makes rules (putInto platform p parent body opts)) :
    Makes rules (put platform path body opts) := by
  have inside := tolerant.normalize path within
  unfold put
  dsimp only
  split
  · exact makes_refusePut tolerant _
  · split
    · exact makes_refusePut tolerant _
    · split
      · exact makes_refusePut tolerant _
      · apply Makes.bind
        · apply (tolerant.resolves _ false (tolerant.parent _ inside)).tryCatch
          exact fun _ => (makes_cancelBody tolerant).bind fun _ => .throw _
        · intro found
          split
          · exact makes_refusePut tolerant _
          · split
            · exact makes_refusePut tolerant _
            · exact puts _ _ inside

theorem makes_remove {path : JsString} (within : near path)
    (trashes : ∀ now node, rules.permits now (.trashNodes [node])) :
    Makes rules (remove platform path) := by
  unfold remove
  dsimp only
  split
  · exact .reject _
  · apply (makes_resolveOrThrow tolerant (tolerant.normalize path within)).bind
    intro node
    apply (Makes.request fun now => trashes now node).bind
    exact fun _ => (makes_eachOk _ _).bind fun _ => tolerant.invalidates _

theorem makes_resolveDestination {d : JsString} (within : near d) :
    Makes rules (resolveDestination platform d) := by
  apply (tolerant.resolves _ false (tolerant.parent d within)).bind
  intro found
  split
  · exact .reject _
  · split
    · exact .reject _
    · split
      · exact .reject _
      · apply (tolerant.resolves d true within).bind
        intro existing
        split
        · exact .reject _
        · exact .pure _

theorem makes_move {src dst : JsString} (fromNear : near src) (toNear : near dst)
    (moves : ∀ now node parent, rules.permits now (.moveNodes [node] parent))
    (renames : ∀ now node name, rules.permits now (.renameNode node name)) :
    Makes rules (move platform src dst) := by
  unfold move
  dsimp only
  split
  · exact .reject _
  · split
    · exact .reject _
    · apply (makes_resolveOrThrow tolerant (tolerant.normalize src fromNear)).bind
      intro node
      apply (makes_resolveDestination tolerant (tolerant.normalize dst toNear)).bind
      intro dstParent
      apply Makes.finallyDo
      · apply makes_mapErrors
        apply Makes.bind
        · unfold relocate
          split
          · exact .pure _
          · exact (Makes.request fun now => moves now _ _).bind fun _ => makes_eachOk _ _
        · intro _
          unfold renameTo
          split
          · exact .pure _
          · exact (Makes.request fun now => renames now _ _).tryCatch fun _ => .reject _
      · exact tolerant.modify fun memory =>
          (memory.fewer_invalidate _).trans (ServiceMemory.fewer_invalidate _ _)

theorem makes_copy {src dst : JsString} (fromNear : near src) (toNear : near dst)
    (copies : ∀ now sources parent, rules.permits now (.copyNodes sources parent)) :
    Makes rules (copy platform src dst) := by
  unfold copy
  dsimp only
  apply (makes_resolveOrThrow tolerant (tolerant.normalize src fromNear)).bind
  intro node
  split
  · exact .reject _
  · apply (makes_resolveDestination tolerant (tolerant.normalize dst toNear)).bind
    intro dstParent
    apply Makes.finallyDo
    · apply makes_mapErrors
      exact (Makes.request fun now => copies now _ _).bind fun _ => makes_eachOk _ _
    · exact tolerant.invalidates _

end

/-! ## Operations that record what they find -/

section

variable (lenient : Lenient rules)
include lenient

theorem makes_listEntries (path : JsString) (parent : Uid) (children : List NodeEntity)
    (seen : List JsString) : Makes rules (listEntries platform path parent children seen) := by
  induction children generalizing seen with
  | nil => exact .pure _
  | cons child rest induction =>
      unfold listEntries
      split
      · exact induction seen
      · split
        · exact induction seen
        · exact (Makes.modify lenient _).bind fun _ => (induction _).bind fun _ => .pure _

theorem makes_list (path : JsString) : Makes rules (list platform path) := by
  apply (makes_mapErrors (makes_resolveOrThrow lenient.tolerant trivial)).bind
  intro node
  split
  · exact .reject _
  · apply (makes_mapErrors (Makes.lookup lenient rfl)).bind
    intro children
    apply (makes_listEntries lenient _ _ _ _).bind
    intro out
    split
    · exact .throw _
    · exact .pure _

theorem makes_mkcol (path : JsString)
    (creates : ∀ now parent name, rules.permits now (.createFolder parent name)) :
    Makes rules (mkcol platform path) := by
  unfold mkcol
  dsimp only
  split
  · exact .reject _
  · split
    · exact .reject _
    · apply (makes_resolve lenient _ _).bind
      intro found
      split
      · exact .reject _
      · split
        · exact .reject _
        · apply (makes_resolve lenient _ _).bind
          intro existing
          split
          · exact .reject _
          · apply Makes.tryCatch
            · exact (Makes.request fun now => creates now _ _).bind fun _ => .modify lenient _
            · exact fun _ => .throw _

end

end

end DriveWebdav
