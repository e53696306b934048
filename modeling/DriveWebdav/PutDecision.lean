import DriveWebdav.Gateway

/-! # What an upload comes to

The decision about an upload, apart from any store: from what is found at its path and from
its body. Each gateway is shown to decide this way. -/

namespace DriveWebdav

/-- What an upload finds at its path. `noFolder` is a path without a folder above, `blocked` a
draft that may not be replaced. -/
inductive PutSlot
  | noFolder
  | collection
  | file (size : Option Nat) (sha1 : Option JsString)
  | blocked
  | free
  deriving DecidableEq

/-- What comes of an upload; `broken` where its body breaks off. -/
inductive PutVerdict
  | refused (status : Nat)
  | skipped
  | broken
  | stored (isRevision : Bool) (bytes : Bytes)
  deriving DecidableEq

/-- A size or a digest that is known ahead is that of the body. -/
def PutOptions.fits (digest : Bytes → JsString) (opts : PutOptions) (bytes : Bytes) : Bool :=
  opts.size.all (· = (bytes.length : Int)) && (truthy opts.sha1).all (· = digest bytes)

def judgeBody (digest : Bytes → JsString) (opts : PutOptions) (body : BodyStream)
    (isRevision : Bool) : PutVerdict :=
  match body.bytes with
  | none => .broken
  | some bytes => if opts.fits digest bytes then .stored isRevision bytes else .refused 422

/-- A file with this size and digest already is what is uploaded. -/
def PutOptions.names (opts : PutOptions) (size : Option Nat) (sha1 : Option JsString) : Bool :=
  (truthy opts.sha1).isSome && sha1 = opts.sha1 &&
    (opts.size = none || size.map (fun size => (size : Int)) = opts.size)

def PutSlot.verdict (digest : Bytes → JsString) (opts : PutOptions) (body : BodyStream) :
    PutSlot → PutVerdict
  | .noFolder => .refused 409
  | .collection => .refused 405
  | .file size sha1 =>
      if opts.names size sha1 then .skipped
      else if opts.immutable then .refused 412
      else judgeBody digest opts body true
  | .blocked => .refused 409
  | .free => judgeBody digest opts body false

/-- An operation ends as the verdict says. Of a body that breaks off no more is said than that
the operation fails. -/
def PutVerdict.Shows : PutVerdict → Except Thrown PutResult → Prop
  | .refused status, .error (.gateway error) => error.httpStatus = status
  | .skipped, .ok result => result = .skippedIdentical
  | .broken, .error _ => True
  | .stored isRevision _, .ok result => result = if isRevision then .updated else .created
  | _, _ => False

/-- The committed files, by their paths. -/
abbrev CommittedFiles := List JsString → Option Bytes

/-- What a verdict makes of the committed files. -/
def PutVerdict.leaves (path : List JsString) (files : CommittedFiles) :
    PutVerdict → CommittedFiles
  | .stored _ bytes => Function.update files path (some bytes)
  | _ => files

/-- One operation ends as another does: with the same result, or with an error of the gateway of
the same status. -/
inductive SameOutcome : Except Thrown PutResult → Except Thrown PutResult → Prop
  | result (result : PutResult) : SameOutcome (.ok result) (.ok result)
  | refused (error other : GatewayError) (same : error.httpStatus = other.httpStatus) :
      SameOutcome (.error (.gateway error)) (.error (.gateway other))

/-- Two operations that end as one verdict says end alike, unless the body has broken off. -/
theorem PutVerdict.Shows.sameOutcome {verdict : PutVerdict}
    {first second : Except Thrown PutResult} (shows : verdict.Shows first)
    (showsToo : verdict.Shows second) (whole : verdict ≠ .broken) : SameOutcome first second := by
  cases verdict with
  | refused status =>
      rcases first with (error | error) | result
      · rcases second with (other | other) | result
        · exact .refused error other (shows.trans showsToo.symm)
        · exact showsToo.elim
        · exact showsToo.elim
      · exact shows.elim
      · exact shows.elim
  | skipped =>
      rcases first with error | result
      · exact shows.elim
      · rcases second with error | other
        · exact showsToo.elim
        · have same : result = other := shows.trans showsToo.symm
          rw [same]
          exact .result other
  | broken => exact absurd rfl whole
  | stored isRevision bytes =>
      rcases first with error | result
      · exact shows.elim
      · rcases second with error | other
        · exact showsToo.elim
        · have same : result = other := shows.trans showsToo.symm
          rw [same]
          exact .result other

end DriveWebdav
