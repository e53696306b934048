import DriveWebdav.Foundation.PathMap
import DriveWebdav.Paths
import DriveWebdav.PutDecision

/-! # The file server

What the service is for, apart from how a store does it: a tree of folders and files that is
changed by one operation after the other. A store serves an operation either by doing to the
tree what the operation says, or by refusing it and leaving the tree as it is. -/

namespace DriveWebdav

/-- What is seen at a path. Unfinished uploads are not seen. -/
inductive Shown
  | folder
  | file (bytes : Bytes)
  deriving DecidableEq

abbrev ShownTree := PathMap JsString Shown

inductive FileOperation
  | mkcol (path : JsString)
  | remove (path : JsString)
  | move (src dst : JsString)
  | copy (src dst : JsString)
  | put (path : JsString) (body : BodyStream) (opts : PutOptions)

/-- An operation that takes nothing away at a path, and puts nothing else in its place. -/
def FileOperation.Leaves (q : List JsString) : FileOperation → Prop
  | .mkcol _ => True
  | .copy _ _ => True
  | .put path _ opts => opts.immutable = true ∨ segments path ≠ q
  | .remove path => ¬segments path <+: q
  | .move src _ => ¬segments src <+: q

/-- How an operation ends. An upload of what is there already changes nothing; a move that fails
halfway leaves the node in its new folder under its old name. -/
inductive Performed
  | refused
  | astray
  | kept
  | done
  deriving DecidableEq

def PutResult.performed : PutResult → Performed
  | .skippedIdentical => .kept
  | _ => .done

/-- The bytes that an upload stands for: those of its body, sent whole and as declared, or others
of the digest and the size that it declares. -/
def BodyStream.Means (digest : Bytes → JsString) (opts : PutOptions) (body : BodyStream)
    (bytes : Bytes) : Prop :=
  body.bytes = some bytes ∧ opts.fits digest bytes = true ∨
    opts.names (some bytes.length) (some (digest bytes)) = true

namespace ShownTree

/-- A path below the root that leads into a folder. -/
def Opens (tree : ShownTree) (path : JsString) : Prop :=
  segments path ≠ [] ∧ tree (segments path).dropLast = some .folder

/-- Nothing is seen at the path, in a folder that is there. -/
def Free (tree : ShownTree) (path : JsString) : Prop :=
  tree.Opens path ∧ tree (segments path) = none

theorem Free.noFolder {tree : ShownTree} {path : JsString} (free : tree.Free path) :
    tree (segments path) ≠ some .folder := by
  rw [free.2]
  exact (Option.some_ne_none _).symm

/-- Two ways to write one path. -/
theorem Free.of_segments {tree : ShownTree} {path other : JsString} (free : tree.Free path)
    (same : segments path = segments other) : tree.Free other := by
  unfold Free Opens at free ⊢
  rwa [same] at free

/-- What it is to serve an operation on a tree: how it may end, and the tree that it leaves. -/
inductive Serves (digest : Bytes → JsString) (tree : ShownTree) :
    FileOperation → Performed → ShownTree → Prop
  | refused (operation) : Serves digest tree operation .refused tree
  | mkcol (path) (free : tree.Free path) :
      Serves digest tree (.mkcol path) .done
        (Function.update tree (segments path) (some .folder))
  | remove (path) (inside : segments path ≠ []) (present : tree (segments path) ≠ none) :
      Serves digest tree (.remove path) .done (tree.prune (segments path))
  | move (src dst) (inside : segments src ≠ []) (present : tree (segments src) ≠ none)
      (free : tree.Free dst) (apart : ¬segments src <+: segments dst) :
      Serves digest tree (.move src dst) .done (tree.transplant (segments src) (segments dst))
  | astray (src dst) (inside : segments src ≠ []) (present : tree (segments src) ≠ none)
      (opens : tree.Opens dst)
      (free : tree (segments (join (parentPath dst) (baseName src))) = none)
      (apart : ¬segments src <+: segments (parentPath dst)) :
      Serves digest tree (.move src dst) .astray
        (tree.transplant (segments src) (segments (join (parentPath dst) (baseName src))))
  | copy (src dst bytes) (present : tree (segments src) = some (.file bytes))
      (free : tree.Free dst) :
      Serves digest tree (.copy src dst) .done
        (Function.update tree (segments dst) (some (.file bytes)))
  | skipped (path body) (opts : PutOptions) (bytes : Bytes)
      (present : tree (segments path) = some (.file bytes))
      (named : opts.names (some bytes.length) (some (digest bytes)) = true) :
      Serves digest tree (.put path body opts) .kept tree
  | stored (path body) (opts : PutOptions) (bytes) (opens : tree.Opens path)
      (noFolder : tree (segments path) ≠ some .folder)
      (immutable : opts.immutable = true → tree (segments path) = none)
      (whole : body.bytes = some bytes) (fits : opts.fits digest bytes = true) :
      Serves digest tree (.put path body opts) .done
        (Function.update tree (segments path) (some (.file bytes)))

/-- Operations served one after the other, with how each of them ended. -/
inductive Run (digest : Bytes → JsString) :
    ShownTree → List (FileOperation × Performed) → ShownTree → Prop
  | nil (tree) : Run digest tree [] tree
  | cons {tree next last : ShownTree} {operation performed log}
      (serves : tree.Serves digest operation performed next) (run : Run digest next log last) :
      Run digest tree ((operation, performed) :: log) last

variable {digest : Bytes → JsString} {tree next last : ShownTree} {operation : FileOperation}
  {performed : Performed} {log more : List (FileOperation × Performed)}

theorem Run.append {between : ShownTree} (first : Run digest tree log between)
    (second : Run digest between more last) : Run digest tree (log ++ more) last := by
  induction first with
  | nil => exact second
  | cons serves _ induction => exact .cons serves (induction second)

/-- Only a move goes astray. -/
theorem Run.move_of_astray (run : Run digest tree log last) (member : (operation, .astray) ∈ log) :
    ∃ src dst, operation = .move src dst := by
  induction run with
  | nil => cases member
  | cons serves _ induction =>
      rcases List.mem_cons.mp member with same | member
      · cases same
        cases serves with
        | astray src dst => exact ⟨src, dst, rfl⟩
      · exact induction member

/-! ## What every run keeps -/

/-- Whatever is seen lies in folders that are seen. -/
theorem Serves.grounded (serves : tree.Serves digest operation performed next)
    (grounded : tree.Grounded .folder) : next.Grounded .folder := by
  cases serves with
  | refused => exact grounded
  | mkcol path free => exact grounded.update free.1.1 free.1.2 free.noFolder
  | remove path inside present => exact grounded.prune inside
  | move src dst inside present free apart =>
      apply grounded.transplant inside free.1.1 free.1.2
      exact fun begins => apart (begins.trans (List.dropLast_prefix _))
  | astray src dst inside present opens free apart =>
      rw [segments_join, segments_of_isSegment (isSegment_baseName inside)]
      apply grounded.transplant inside (List.append_ne_nil_of_right_ne_nil _ (List.cons_ne_nil _ _))
      · rw [List.dropLast_concat, segments_parentPath]
        exact opens.2
      · rw [List.dropLast_concat]
        exact apart
  | copy src dst bytes present free => exact grounded.update free.1.1 free.1.2 free.noFolder
  | skipped => exact grounded
  | stored path body opts bytes opens noFolder =>
      exact grounded.update opens.1 opens.2 noFolder

theorem Run.grounded (run : Run digest tree log last) (grounded : tree.Grounded .folder) :
    last.Grounded .folder := by
  induction run with
  | nil => exact grounded
  | cons serves _ induction => exact induction (serves.grounded grounded)

/-- What is seen at a path stays, whatever is put where nothing was. -/
theorem update_of_free {path q : List JsString} {shown : Shown} {item : Option Shown}
    (absent : tree path = none) (present : tree q = some shown) :
    Function.update tree path item q = some shown := by
  rw [Function.update_of_ne, present]
  rintro rfl
  rw [absent] at present
  cases present

theorem transplant_of_free {source target q : List JsString} {shown : Shown}
    (grounded : tree.Grounded .folder) (absent : tree target = none)
    (present : tree q = some shown) (apart : ¬source <+: q) :
    tree.transplant source target q = some shown := by
  have beside : ¬target <+: q := by
    rintro ⟨more, rfl⟩
    cases more with
    | nil =>
        rw [List.append_nil, absent] at present
        cases present
    | cons name more =>
        rw [grounded.below _ name more] at present
        · cases present
        · rw [absent]
          exact (Option.some_ne_none _).symm
  rw [PathMap.transplant, PathMap.graft_apart _ beside, PathMap.prune_apart apart, present]

theorem Serves.leaves (serves : tree.Serves digest operation performed next)
    (grounded : tree.Grounded .folder) {q : List JsString} {shown : Shown}
    (present : tree q = some shown) (leaves : performed ≠ .refused → operation.Leaves q) :
    next q = some shown := by
  cases serves with
  | refused => exact present
  | mkcol path free => exact update_of_free free.2 present
  | remove path inside there =>
      rw [PathMap.prune_apart (leaves Performed.noConfusion)]
      exact present
  | move src dst inside there free =>
      exact transplant_of_free grounded free.2 present (leaves Performed.noConfusion)
  | astray src dst inside there opens free =>
      exact transplant_of_free grounded free present (leaves Performed.noConfusion)
  | copy src dst bytes there free => exact update_of_free free.2 present
  | skipped => exact present
  | stored path body opts bytes opens noFolder immutable =>
      rcases leaves Performed.noConfusion with kept | elsewhere
      · exact update_of_free (immutable kept) present
      · rw [Function.update_of_ne elsewhere.symm, present]

/-- What is seen at a path is seen there still, unless an operation that was not refused takes it
away or puts something else in its place. -/
theorem Run.leaves (run : Run digest tree log last) (grounded : tree.Grounded .folder)
    {q : List JsString} {shown : Shown} (present : tree q = some shown)
    (leaves : ∀ entry ∈ log, entry.2 ≠ .refused → entry.1.Leaves q) : last q = some shown := by
  induction run with
  | nil => exact present
  | cons serves _ induction =>
      apply induction (serves.grounded grounded)
      · exact serves.leaves grounded present (leaves _ List.mem_cons_self)
      · exact fun entry member => leaves entry (List.mem_cons_of_mem _ member)

/-- An upload that was not refused has left what it means at its path: its body, whole and as
declared, or what was there and has the digest and the size that it declares. -/
theorem Serves.put_present {path : JsString} {body : BodyStream} {opts : PutOptions}
    (serves : tree.Serves digest (.put path body opts) performed next)
    (ended : performed = .kept ∨ performed = .done) :
    ∃ bytes, next (segments path) = some (.file bytes) ∧ body.Means digest opts bytes := by
  cases serves with
  | refused =>
      rcases ended with kept | done
      · cases kept
      · cases done
  | skipped _ _ _ bytes present named => exact ⟨bytes, present, .inr named⟩
  | stored _ _ _ bytes opens noFolder immutable whole fits =>
      exact ⟨bytes, Function.update_self _ _ _, .inl ⟨whole, fits⟩⟩

/-- The bytes are those of a whole body that was uploaded as it was said to be. -/
def Uploaded (digest : Bytes → JsString) (log : List (FileOperation × Performed))
    (bytes : Bytes) : Prop :=
  ∃ path body opts, (FileOperation.put path body opts, Performed.done) ∈ log ∧
    body.bytes = some bytes ∧ opts.fits digest bytes = true

theorem Serves.origin (serves : tree.Serves digest operation performed next)
    {q : List JsString} {bytes : Bytes} (held : next q = some (.file bytes)) :
    (∃ before, tree before = some (.file bytes)) ∨
      Uploaded digest [(operation, performed)] bytes := by
  have updated : ∀ path item, Function.update tree path (some item) q = some (.file bytes) →
      (∃ before, tree before = some (.file bytes)) ∨ item = .file bytes := by
    intro path item held
    by_cases here : q = path
    · rw [here, Function.update_self] at held
      exact .inr (Option.some.inj held)
    · rw [Function.update_of_ne here] at held
      exact .inl ⟨q, held⟩
  cases serves with
  | refused => exact .inl ⟨q, held⟩
  | mkcol path free =>
      rcases updated _ _ held with before | same
      · exact .inl before
      · cases same
  | remove path => exact .inl ⟨q, PathMap.of_prune held⟩
  | move src dst => exact .inl (PathMap.of_transplant held)
  | astray src dst => exact .inl (PathMap.of_transplant held)
  | copy src dst copied present =>
      rcases updated _ _ held with before | same
      · exact .inl before
      · rw [same] at present
        exact .inl ⟨_, present⟩
  | skipped => exact .inl ⟨q, held⟩
  | stored path body opts uploaded opens noFolder immutable whole fits =>
      rcases updated _ _ held with before | same
      · exact .inl before
      · cases same
        exact .inr ⟨path, body, opts, List.mem_cons_self, whole, fits⟩

/-- No content is made up: a file that is seen after a run was seen before it, or it is the whole
body of an upload in it. -/
theorem Run.origin (run : Run digest tree log last) {q : List JsString} {bytes : Bytes}
    (held : last q = some (.file bytes)) :
    (∃ before, tree before = some (.file bytes)) ∨ Uploaded digest log bytes := by
  induction run generalizing q with
  | nil => exact .inl ⟨q, held⟩
  | cons serves _ induction =>
      rcases induction held with ⟨before, present⟩ | ⟨path, body, opts, member, made⟩
      · rcases serves.origin present with before | ⟨path, body, opts, member, made⟩
        · exact .inl before
        · have first := List.mem_singleton.mp member
          exact .inr ⟨path, body, opts, List.mem_cons.mpr (.inl first), made⟩
      · exact .inr ⟨path, body, opts, List.mem_cons_of_mem _ member, made⟩

end ShownTree

end DriveWebdav
