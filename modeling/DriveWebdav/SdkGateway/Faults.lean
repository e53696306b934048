import DriveWebdav.Foundation.Trace
import DriveWebdav.SdkGateway.Operations
import DriveWebdav.SdkGateway.Read

/-! # What becomes of SDK errors

Which error an operation rejects with when one of its SDK calls fails. -/

namespace DriveWebdav

/-! ## Calls and the errors they raise -/

/-- The calls that go to the SDK. -/
def SdkCall.counted : SdkCall → Bool
  | .cancelBody | .releaseBody | .getUser => false
  | _ => true

/-- The error that a loop over results throws. -/
def resultsError (results : Yielded NodeResult) : Option SdkError :=
  match results.items.findSome? resultError with
  | some error => some error
  | none => results.failure

/-- The SDK error that an answer hands to the operation. An iteration that found
the child it sought has stopped before any later error. -/
def raisedError (platform : Platform) :
    (command : SdkCall) → Except Thrown (SdkAnswer command) → Option SdkError
  | _, .error (.sdk error) => some error
  | _, .error (.gateway _) => none
  | .iterateFolderChildren _ sought, .ok children =>
      if children.items.any fun child => some (platform.getName child) = sought then none
      else children.failure
  | .trashNodes _, .ok results => resultsError results
  | .moveNodes _ _, .ok results => resultsError results
  | .copyNodes _ _, .ok results => resultsError results
  | _, .ok _ => none

abbrev SdkExchange := Program.Exchange SdkCall SdkAnswer Thrown

abbrev SdkTrace := List (Program.Entry ServiceMemory SdkCall SdkAnswer Thrown)

section Blame

variable {platform : Platform} {α : Type}

private abbrev Blamed (platform : Platform)
    (blame : SdkExchange → SdkError → Thrown → Prop) (program : SdkOperation α) : Prop :=
  Program.Blames SdkCall.counted (raisedError platform) blame program

private abbrev Settled (platform : Platform) (program : SdkOperation α) : Prop :=
  Program.Settles SdkCall.counted (raisedError platform) program

/-- A call of this kind that fails throws the error of the SDK as it is. -/
private def Raw (kind : SdkCall → Prop) (call : SdkExchange) (fault : SdkError)
    (error : Thrown) : Prop :=
  kind call.1 ∧ error = .sdk fault

private abbrev RawLookup : SdkExchange → SdkError → Thrown → Prop :=
  Raw fun command => command.isLookup = true

private theorem raw_of_raised {command : SdkCall} {fault : SdkError} {error : Thrown}
    (raised : raisedError platform command (.error error) = some fault) : error = .sdk fault := by
  cases error with
  | sdk error =>
      cases command <;> cases raised <;> rfl
  | gateway error =>
      cases command <;> cases raised

/-! ## Path resolution -/

private theorem blames_lookup {command : SdkCall} (lookup : command.isLookup = true) :
    Blamed platform RawLookup (Program.request command) :=
  Program.blames_request fun _ _ raised => ⟨lookup, raw_of_raised raised⟩

private theorem settles_getNode (uid : Uid) :
    Settled platform (Program.request (SdkCall.getNode uid)) :=
  Program.settles_request fun _ => rfl

private theorem getRootUid_blames : Blamed platform RawLookup (getRootUid platform) := by
  refine .bind Program.quiet_read.blames (fun _ => .inl (Program.quiet_read.settles _))
    fun memory => ?_
  cases memory.rootUid with
  | some rootUid => exact (Program.quiet_pure rootUid).blames
  | none =>
      refine .bind (blames_lookup rfl)
        (fun _ => .inl (Program.settles_request (fun _ => rfl) _)) fun node => ?_
      split
      · exact (Program.quiet_throw _).blames
      · exact ((Program.quiet_modify _).bind fun _ => Program.quiet_pure _).blames

private theorem getRootUid_settles : Settled platform (getRootUid platform) := by
  refine .bind (fun _ => .inl (Program.quiet_read.settles _)) fun memory => ?_
  cases memory.rootUid with
  | some rootUid => exact (Program.quiet_pure rootUid).settles
  | none =>
      refine .bind (fun _ => .inl (Program.settles_request (fun _ => rfl) _)) fun node => ?_
      split
      · exact (Program.quiet_throw _).settles
      · exact ((Program.quiet_modify _).bind fun _ => Program.quiet_pure _).settles

private theorem getRootUid_fails {trace : SdkTrace} {error : Thrown}
    (follows : (getRootUid platform).Follows trace (.error error)) :
    Program.lastCall SdkCall.counted trace ≠ none := by
  rcases Program.follows_bind follows with ⟨_, _, read⟩ | ⟨first, second, memory, rfl, _, rest⟩
  · exact absurd read (Program.never_read _ _)
  · apply Program.lastCall_append_of_right
    cases known : memory.rootUid with
    | some rootUid =>
        simp only [known] at rest
        cases rest
    | none =>
        simp only [known] at rest
        exact (Program.calls_request rfl).left _ _ rest

private theorem refetch_hit {name : JsString} {cached : Resolved} {includeDrafts : Bool}
    {node : NodeEntity} :
    Program.SettlesWith SdkCall.counted (raisedError platform)
        (refetch platform name cached includeDrafts) (some node) ∧
      Program.CallsWith SdkCall.counted (refetch platform name cached includeDrafts)
        (some node) := by
  constructor
  · refine .tryCatch (.bind fun fetched => .inr ⟨settles_getNode _ _, ?_⟩)
      fun error trace follows => by cases follows
    exact (Program.quiet_pure _).settles _
  · exact fun trace follows => (Program.calls_request rfl).left.tryCatch _ _ follows

private theorem keepOrUncache_never (path : JsString) (hit : Option NodeEntity) :
    Program.NeverThrows (keepOrUncache path hit) := by
  cases hit with
  | some node => exact Program.never_pure _
  | none => exact (Program.never_modify _).bind fun _ => Program.never_pure _

/-- A cached lookup throws nothing, and a hit is its last call. -/
theorem resolveCached_never (path name : JsString) (includeDrafts : Bool) :
    Program.NeverThrows (resolveCached platform path name includeDrafts) := by
  refine Program.never_read.bind fun memory => ?_
  cases memory.resolveCache.get path with
  | none => exact Program.never_pure _
  | some cached =>
      dsimp only
      split
      · exact .bind (.tryCatch fun _ => Program.never_pure _) (keepOrUncache_never path)
      · exact Program.never_pure _

private theorem keepOrUncache_none {path : JsString} {node : NodeEntity} {trace : SdkTrace} :
    ¬(keepOrUncache path none).Follows trace (.ok (some node)) := by
  intro follows
  rcases Program.follows_bind follows with ⟨_, equal, _⟩ | ⟨_, _, _, _, _, ended⟩
  · cases equal
  · cases ended

private theorem resolveCached_hit {path name : JsString} {includeDrafts : Bool}
    {node : NodeEntity} :
    Program.SettlesWith SdkCall.counted (raisedError platform)
        (resolveCached platform path name includeDrafts) (some node) ∧
      Program.CallsWith SdkCall.counted (resolveCached platform path name includeDrafts)
        (some node) := by
  constructor
  · refine .bind fun memory => ?_
    cases memory.resolveCache.get path with
    | none => exact .inl fun trace follows => by cases follows
    | some cached =>
        dsimp only
        split
        · refine .inr ⟨Program.quiet_read.settles _, .bind fun hit => ?_⟩
          cases hit with
          | none => exact .inl fun trace => keepOrUncache_none
          | some found => exact .inr ⟨refetch_hit.1, (Program.quiet_pure _).settles _⟩
        · exact .inl fun trace follows => by cases follows
  · refine .bind fun memory => ?_
    cases memory.resolveCache.get path with
    | none => exact .inl fun trace follows => by cases follows
    | some cached =>
        dsimp only
        split
        · refine .inr (.inr (.bind fun hit => ?_))
          cases hit with
          | none => exact .inl fun trace => keepOrUncache_none
          | some found => exact .inr (.inl refetch_hit.2)
        · exact .inl fun trace follows => by cases follows

private theorem takeChild_quiet (parent : NodeEntity) (path : JsString) (includeDrafts : Bool)
    (found : Option NodeEntity) :
    Program.Quiet SdkCall.counted (takeChild parent path includeDrafts found) := by
  cases found with
  | none => exact Program.quiet_pure _
  | some found =>
      simp only [takeChild]
      split
      · exact Program.quiet_pure _
      · split
        · exact Program.quiet_pure _
        · exact (Program.quiet_modify _).bind fun _ => Program.quiet_pure _

theorem takeChild_never (parent : NodeEntity) (path : JsString) (includeDrafts : Bool)
    (found : Option NodeEntity) :
    Program.NeverThrows (takeChild parent path includeDrafts found) := by
  cases found with
  | none => exact Program.never_pure _
  | some found =>
      simp only [takeChild]
      split
      · exact Program.never_pure _
      · split
        · exact Program.never_pure _
        · exact (Program.never_modify _).bind fun _ => Program.never_pure _

/-- How a loop over children ends: at a child, or with the error or the end of
the iteration. -/
private theorem firstYielded_eq (test : NodeEntity → Bool) (children : Yielded NodeEntity) :
    (∃ found, children.items.any test = true ∧
        firstYielded test children = pure (some found)) ∨
      (children.items.any test = false ∧
        firstYielded test children =
          match children.failure with
          | some error => throw (.sdk error)
          | none => pure none) := by
  unfold firstYielded
  cases found : children.items.find? test with
  | none =>
      right
      refine ⟨?_, rfl⟩
      rw [List.any_eq_false]
      intro item member
      simpa using List.find?_eq_none.mp found item member
  | some item =>
      left
      refine ⟨item, ?_, rfl⟩
      rw [List.any_eq_true]
      exact ⟨item, List.mem_of_find?_eq_some found, List.find?_some found⟩

/-- What a loop over children does with its answer: no further call, and the
error of the iteration if it was reached. -/
theorem loop_quiet (parent : NodeEntity) (path : JsString) (includeDrafts : Bool)
    (test : NodeEntity → Bool) (children : Yielded NodeEntity) :
    Program.Quiet SdkCall.counted
      (firstYielded test children >>= takeChild parent path includeDrafts) := by
  refine Program.Quiet.bind ?_ (takeChild_quiet parent path includeDrafts)
  unfold firstYielded
  split
  · exact Program.quiet_pure _
  · split
    · exact Program.quiet_throw _
    · exact Program.quiet_pure _

theorem loop_outcome {parent : NodeEntity} {path : JsString} {includeDrafts : Bool}
    {test : NodeEntity → Bool} {children : Yielded NodeEntity} {trace : SdkTrace}
    {outcome : Except Thrown (Option NodeEntity)}
    (follows : (firstYielded test children >>=
      takeChild parent path includeDrafts).Follows trace outcome) :
    match outcome with
    | .ok _ => children.items.any test = true ∨ children.failure = none
    | .error error => ∃ fault, children.items.any test = false ∧
        children.failure = some fault ∧ error = .sdk fault := by
  rcases firstYielded_eq test children with
    ⟨found, present, equal⟩ | ⟨absent, equal⟩
  · rw [equal] at follows
    rcases Program.follows_bind follows with ⟨_, _, ended⟩ | ⟨_, _, _, _, _, taken⟩
    · cases ended
    · cases outcome with
      | ok value => exact .inl present
      | error error => exact absurd taken (takeChild_never _ _ _ _ _ _)
  · rw [equal] at follows
    cases failure : children.failure with
    | some fault =>
        rw [failure] at follows
        cases follows
        exact ⟨fault, absent, rfl, rfl⟩
    | none =>
        rw [failure] at follows
        cases follows
        exact .inr rfl

private theorem resolveIn_blames (parent : NodeEntity) (path name : JsString)
    (includeDrafts : Bool) :
    Blamed platform RawLookup (resolveIn platform parent path name includeDrafts) := by
  refine .bind_relayed (blames_lookup rfl) (Program.relays_request rfl)
    (fun children => loop_quiet _ _ _ _ children) fun children trace error fault looped raised => ?_
  rcases loop_outcome looped with ⟨reached, absent, failed, rfl⟩
  simp only [raisedError, Option.some.injEq, absent, failed] at raised
  cases raised
  exact ⟨rfl, rfl⟩

private theorem resolveIn_settles (parent : NodeEntity) (path name : JsString)
    (includeDrafts : Bool) :
    Settled platform (resolveIn platform parent path name includeDrafts) := by
  refine .bind_relayed (Program.relays_request rfl)
    (fun children => loop_quiet _ _ _ _ children) fun children trace value looped => ?_
  rcases loop_outcome looped with present | ended
  · simp [raisedError, present]
  · simp [raisedError, ended]

private theorem resolveBelow_blames (path name : JsString) (includeDrafts : Bool)
    (parent : Option NodeEntity) :
    Blamed platform RawLookup (resolveBelow platform path name includeDrafts parent) ∧
      Settled platform (resolveBelow platform path name includeDrafts parent) := by
  cases parent with
  | none => exact ⟨(Program.quiet_pure _).blames, (Program.quiet_pure _).settles⟩
  | some parent =>
      simp only [resolveBelow]
      split
      · exact ⟨(Program.quiet_pure _).blames, (Program.quiet_pure _).settles⟩
      · exact ⟨resolveIn_blames _ _ _ _, resolveIn_settles _ _ _ _⟩

private theorem getRoot_blames (rootUid : Uid) :
    Blamed platform RawLookup (getRoot rootUid) ∧ Settled platform (getRoot rootUid) :=
  ⟨.bind (blames_lookup rfl) (fun _ => .inl (settles_getNode _ _))
      fun _ => (Program.quiet_pure _).blames,
    .bind (fun _ => .inl (settles_getNode _ _)) fun _ => (Program.quiet_pure _).settles⟩

/-- The three facts about path resolution, by induction on the segments. -/
private theorem resolveSegments_blames (segs : List JsString) (includeDrafts : Bool) :
    Blamed platform RawLookup (resolveSegments platform segs includeDrafts) ∧
      Settled platform (resolveSegments platform segs includeDrafts) ∧
      Program.Calls SdkCall.counted (resolveSegments platform segs includeDrafts) := by
  induction segs generalizing includeDrafts with
  | nil =>
      refine ⟨.bind getRootUid_blames (fun _ => .inl (getRootUid_settles _))
          fun rootUid => (getRoot_blames rootUid).1,
        .bind (fun _ => .inl (getRootUid_settles _)) fun rootUid => (getRoot_blames rootUid).2,
        .bind (fun _ _ => getRootUid_fails) fun _ => .inr (Program.calls_request rfl).left⟩
  | cons name above induction =>
      have parent : ∀ rootUid,
          Blamed platform RawLookup
            (folderAbove rootUid (resolveSegments platform above false) above) ∧
          Settled platform
            (folderAbove rootUid (resolveSegments platform above false) above) ∧
          Program.Calls SdkCall.counted
            (folderAbove rootUid (resolveSegments platform above false) above) := by
        intro rootUid
        cases above with
        | nil =>
            exact ⟨(getRoot_blames rootUid).1, (getRoot_blames rootUid).2,
              (Program.calls_request rfl).left⟩
        | cons next rest => exact induction false
      refine ⟨.bind getRootUid_blames (fun _ => .inl (getRootUid_settles _)) fun rootUid => ?_,
        .bind (fun _ => .inl (getRootUid_settles _)) fun rootUid => ?_,
        .bind (fun _ _ => getRootUid_fails) fun rootUid => .inr ?_⟩
      · refine .bind (resolveCached_never _ _ _).blames (fun hit => ?_) fun hit => ?_
        · cases hit with
          | some node => exact .inl resolveCached_hit.1
          | none => exact .inr (parent rootUid).2.2.left
        · cases hit with
          | some node => exact (Program.quiet_pure _).blames
          | none =>
              exact .bind (parent rootUid).1 (fun _ => .inl ((parent rootUid).2.1 _))
                fun found => (resolveBelow_blames _ _ _ found).1
      · refine .bind (fun hit => ?_) fun hit => ?_
        · cases hit with
          | some node => exact .inl resolveCached_hit.1
          | none => exact .inr (parent rootUid).2.2.left
        · cases hit with
          | some node => exact (Program.quiet_pure _).settles
          | none =>
              exact .bind (fun _ => .inl ((parent rootUid).2.1 _))
                fun found => (resolveBelow_blames _ _ _ found).2
      · refine .bind (fun _ _ follows => absurd follows (resolveCached_never _ _ _ _ _))
          fun hit => ?_
        cases hit with
        | some node => exact .inl resolveCached_hit.2
        | none => exact .inr (parent rootUid).2.2.left

theorem resolve_blames (path : JsString) (includeDrafts : Bool) :
    Blamed platform RawLookup (resolve platform path includeDrafts) := by
  unfold resolve
  split
  · exact (resolveSegments_blames _ _).1
  · exact (Program.quiet_throw _).blames

theorem resolve_settles (path : JsString) (includeDrafts : Bool) :
    Settled platform (resolve platform path includeDrafts) := by
  unfold resolve
  split
  · exact (resolveSegments_blames _ _).2.1
  · exact (Program.quiet_throw _).settles

theorem resolveOrThrow_blames (path : JsString) :
    Blamed platform RawLookup (resolveOrThrow platform path) := by
  refine (resolve_blames path false).bind_quiet (resolve_settles path false) fun found => ?_
  cases found with
  | none => exact Program.quiet_throw _
  | some node => exact Program.quiet_pure node

theorem resolveOrThrow_settles (path : JsString) :
    Settled platform (resolveOrThrow platform path) := by
  refine (resolve_settles path false).bind_quiet fun found => ?_
  cases found with
  | none => exact Program.quiet_throw _
  | some node => exact Program.quiet_pure node

end Blame

/-! ## Which errors are translated -/

/-- The operations of the gateway. -/
inductive GatewayOperation
  | stat (path : JsString)
  | list (path : JsString)
  | read (path : JsString) (range : Option ByteRange)
  | put (path : JsString) (body : BodyStream) (opts : PutOptions)
  | mkcol (path : JsString)
  | remove (path : JsString)
  | move (src dst : JsString)
  | copy (src dst : JsString)

/-- Run an operation for its outcome only. -/
def runOperation (platform : Platform) : GatewayOperation → SdkOperation Unit
  | .stat path => stat platform path >>= fun _ => pure ()
  | .list path => list platform path >>= fun _ => pure ()
  | .read path range => read platform path range >>= fun _ => pure ()
  | .put path body opts => put platform path body opts >>= fun _ => pure ()
  | .mkcol path => mkcol platform path
  | .remove path => remove platform path
  | .move src dst => move platform src dst
  | .copy src dst => copy platform src dst

/-- The status a client is to see for each class of SDK error. -/
def SdkErrorClass.httpStatus : SdkErrorClass → Nat
  | .abort => 499
  | .rateLimited => 429
  | .connection => 503
  | .server => 502
  | .integrity | .nodeWithSameNameExists _ | .validation => 422
  | .other => 500

/-- What an operation may answer in its own way: a name that is taken, for `put`
and `mkcol`, and a move that was made in part. -/
def GatewayOperation.MayAnswer (fault : SdkError) (error : GatewayError) :
    GatewayOperation → Prop
  | .put _ _ _ =>
      (∃ unfinished, fault.errorClass = .nodeWithSameNameExists unfinished) ∧
        (error.httpStatus = 409 ∨ error.httpStatus = 412)
  | .mkcol _ =>
      (∃ unfinished, fault.errorClass = .nodeWithSameNameExists unfinished) ∧
        error.httpStatus = 405
  | .move src dst =>
      error = partiallyMoved (normalize dst)
        (join (parentPath (normalize dst)) (baseName (normalize src)))
  | _ => False

/-- The operation rejects with the gateway error that the SDK error calls for. -/
def RejectsMapped (op : GatewayOperation) (fault : SdkError) (thrown : Thrown) : Prop :=
  ∃ error, thrown = .gateway error ∧
    (error.httpStatus = fault.errorClass.httpStatus ∨ op.MayAnswer fault error)

/-- The generic translation knows `IntegrityError` only as a `ValidationError`. -/
def GenericFits (platform : Platform) (fault : SdkError) : Prop :=
  fault.errorClass = .integrity → platform.integrityIsValidation = true

/-- Whether the operation looks paths up with its errors translated. `inParent`
tells whether the lookup is the one for the parent of an upload. -/
def GatewayOperation.MapsLookup (inParent : Prop) : GatewayOperation → Prop
  | .stat _ | .list _ => True
  | .put _ _ _ => inParent
  | _ => False

/-- Whether an SDK error raised at this call is translated as it should be. -/
def GatewayOperation.MapsCall (platform : Platform) (inParent : Prop) (op : GatewayOperation)
    (fault : SdkError) : SdkExchange → Prop
  | ⟨.getPathNode, _⟩ | ⟨.getNode _, _⟩ | ⟨.iterateFolderChildren _ _, _⟩ =>
      op.MapsLookup inParent ∧ GenericFits platform fault
  | ⟨.getFileDownloader _, _⟩ => False
  | ⟨.trashNodes _, .error _⟩ => False
  | ⟨.trashNodes _, .ok results⟩ =>
      (∃ error, .error error ∈ results.items) ∧ GenericFits platform fault
  | ⟨.getFileUploader _ _ _, _⟩ | ⟨.getFileRevisionUploader _ _, _⟩
  | ⟨.uploadFromStream _ _, _⟩ | ⟨.completion _, _⟩ | ⟨.renameNode _ _, _⟩ => True
  | _ => GenericFits platform fault

section Operations

variable {platform : Platform} {op : GatewayOperation} {inParent : Prop} {fault : SdkError}

private theorem raw_not_mapped : ¬RejectsMapped op fault (.sdk fault) := by
  rintro ⟨error, equal, _⟩
  cases equal

/-- The generic translation gives every class its status, `IntegrityError` apart. -/
private theorem generic_mapped_iff :
    RejectsMapped op fault (mapGenericError platform (.sdk fault)) ↔
      GenericFits platform fault := by
  constructor
  · rintro ⟨error, equal, fits⟩ integrity
    by_contra differs
    simp only [mapGenericError, mapSdkError, integrity, differs, if_false,
      Thrown.gateway.injEq] at equal
    cases equal
    rcases fits with status | exception
    · simp [GatewayError.plain, SdkErrorClass.httpStatus, integrity] at status
    · cases op <;> simp [GatewayOperation.MayAnswer, integrity, GatewayError.plain,
        partiallyMoved] at exception
  · intro fits
    refine ⟨_, rfl, .inl ?_⟩
    unfold mapSdkError
    cases known : fault.errorClass with
    | integrity => simp [fits known, GatewayError.plain, SdkErrorClass.httpStatus]
    | _ => rfl

private theorem mapUploadError_mapped (p path : JsString) (body : BodyStream) (opts : PutOptions) :
    RejectsMapped (.put path body opts) fault (mapUploadError platform p (.sdk fault)) := by
  rcases fault with ⟨errorClass, message⟩
  cases errorClass with
  | nodeWithSameNameExists unfinished =>
      cases unfinished with
      | true => exact ⟨_, rfl, .inr ⟨⟨_, rfl⟩, .inl rfl⟩⟩
      | false => exact ⟨_, rfl, .inr ⟨⟨_, rfl⟩, .inr rfl⟩⟩
  | integrity => exact ⟨_, rfl, .inl rfl⟩
  | _ => exact generic_mapped_iff.mpr fun integrity => nomatch integrity

private theorem createFolderError_mapped_iff (p path : JsString) :
    RejectsMapped (.mkcol path) fault (createFolderError platform p (.sdk fault)) ↔
      GenericFits platform fault := by
  rcases fault with ⟨errorClass, message⟩
  cases errorClass with
  | nodeWithSameNameExists unfinished =>
      exact iff_of_true ⟨_, rfl, .inr ⟨⟨_, rfl⟩, rfl⟩⟩ fun integrity => nomatch integrity
  | _ => exact generic_mapped_iff

/-! ## What the operations throw -/

/-- The SDK error of a call and what is thrown for it fit together. -/
private def Verdict (platform : Platform) (op : GatewayOperation) (inParent : Prop)
    (call : SdkExchange) (fault : SdkError) (thrown : Thrown) : Prop :=
  RejectsMapped op fault thrown ↔ op.MapsCall platform inParent fault call

private abbrev Judged {α : Type} (platform : Platform) (op : GatewayOperation)
    (inParent : Prop) (program : SdkOperation α) : Prop :=
  Blamed platform (Verdict platform op inParent) program

private theorem mapsCall_of_lookup {call : SdkExchange} (lookup : call.1.isLookup = true) :
    op.MapsCall platform inParent fault call ↔
      op.MapsLookup inParent ∧ GenericFits platform fault := by
  rcases call with ⟨command, answer⟩
  cases command <;> first | exact Iff.rfl | cases lookup

private theorem verdict_of_raw {call : SdkExchange} {error : Thrown}
    (raw : RawLookup call fault error) (unmapped : ¬op.MapsLookup inParent) :
    Verdict platform op inParent call fault error := by
  rcases raw with ⟨lookup, rfl⟩
  exact iff_of_false raw_not_mapped fun maps =>
    unmapped ((mapsCall_of_lookup lookup).mp maps).1

private theorem verdict_of_mapped {call : SdkExchange} {error : Thrown}
    (raw : RawLookup call fault error) (mapped : op.MapsLookup inParent) :
    Verdict platform op inParent call fault (mapGenericError platform error) := by
  rcases raw with ⟨lookup, rfl⟩
  exact generic_mapped_iff.trans
    ((and_iff_right mapped).symm.trans (mapsCall_of_lookup lookup).symm)

section Wrapped

variable {α : Type} {program : SdkOperation α}
  {blame weaker : SdkExchange → SdkError → Thrown → Prop}

private theorem converted_blames {convert : Thrown → Thrown}
    (blames : Blamed platform blame program)
    (implies : ∀ call fault error, blame call fault error → weaker call fault (convert error)) :
    Blamed platform weaker (tryCatch program fun error => throw (convert error)) :=
  blames.mapError (fun _ => Program.quiet_pure ()) (fun _ => Program.never_pure ()) implies

private theorem mapErrors_blames (blames : Blamed platform blame program)
    (implies : ∀ call fault error, blame call fault error →
      weaker call fault (mapGenericError platform error)) :
    Blamed platform weaker (mapErrors platform program) :=
  converted_blames blames implies

private theorem mapErrors_settles (settles : Settled platform program) :
    Settled platform (mapErrors platform program) := by
  intro value trace follows call last
  rcases Program.follows_tryCatch follows with ⟨_, equal, ended⟩ | ⟨_, _, _, _, _, thrown⟩
  · cases equal
    exact settles value trace ended call last
  · cases thrown

end Wrapped

private theorem cancelBody_quiet : Program.Quiet SdkCall.counted cancelBody :=
  .tryCatch (Program.quiet_request rfl) fun _ => Program.quiet_pure _

private theorem cancelBody_never : Program.NeverThrows cancelBody :=
  .tryCatch fun _ => Program.never_pure _

private theorem refusePut_quiet {α : Type} (error : GatewayError) :
    Program.Quiet SdkCall.counted (refusePut error : SdkOperation α) :=
  cancelBody_quiet.bind fun _ => Program.quiet_throw _

theorem eachOk_quiet (results : Yielded NodeResult) (thrown : SdkError → Thrown) :
    Program.Quiet SdkCall.counted (eachOk results thrown) := by
  unfold eachOk
  split
  · exact Program.quiet_throw _
  · split
    · exact Program.quiet_throw _
    · exact Program.quiet_pure _

theorem eachOk_ok {results : Yielded NodeResult} {thrown : SdkError → Thrown}
    {trace : SdkTrace} (follows : (eachOk results thrown).Follows trace (.ok ())) :
    resultsError results = none := by
  unfold eachOk at follows
  unfold resultsError
  cases found : results.items.findSome? resultError with
  | some error =>
      rw [found] at follows
      cases follows
  | none =>
      rw [found] at follows
      cases failure : results.failure with
      | some error =>
          simp only [failure] at follows
          cases follows
      | none => rfl

/-- A result that is not `ok` is thrown through `thrown`, the error of the
iteration as it is. -/
theorem eachOk_error {results : Yielded NodeResult} {thrown : SdkError → Thrown}
    {trace : SdkTrace} {error : Thrown}
    (follows : (eachOk results thrown).Follows trace (.error error))
    (raised : resultsError results = some fault) :
    ((∃ failed, .error failed ∈ results.items) ∧ error = thrown fault) ∨
      ((¬∃ failed, .error failed ∈ results.items) ∧ error = .sdk fault) := by
  unfold eachOk at follows
  unfold resultsError at raised
  cases found : results.items.findSome? resultError with
  | some failed =>
      left
      rw [found] at follows raised
      cases raised
      cases follows
      rcases List.exists_of_findSome?_eq_some found with ⟨result, member, failing⟩
      cases result with
      | ok value => cases failing
      | error other => exact ⟨⟨other, member⟩, rfl⟩
  | none =>
      right
      rw [found] at follows raised
      simp only [raised] at follows
      cases follows
      refine ⟨?_, rfl⟩
      rintro ⟨failed, member⟩
      have absent := List.findSome?_eq_none_iff.mp found _ member
      cases absent

private theorem stat_judged (path : JsString) :
    Judged platform (.stat path) inParent (stat platform path) := by
  refine .bind_quiet (mapErrors_blames (resolve_blames path false)
    fun _ _ _ raw => verdict_of_mapped raw trivial) (mapErrors_settles (resolve_settles path false))
    fun found => ?_
  cases found with
  | none => exact Program.quiet_pure _
  | some node =>
      dsimp only
      split
      · exact Program.quiet_pure _
      · exact Program.quiet_pure _

private theorem listEntries_quiet (path : JsString) (parent : Uid) (children : List NodeEntity)
    (seen : List JsString) :
    Program.Quiet SdkCall.counted (listEntries platform path parent children seen) ∧
      Program.NeverThrows (listEntries platform path parent children seen) := by
  induction children generalizing seen with
  | nil => exact ⟨Program.quiet_pure _, Program.never_pure _⟩
  | cons child rest induction =>
      simp only [listEntries]
      split
      · exact induction seen
      · split
        · exact induction seen
        · exact ⟨(Program.quiet_modify _).bind fun _ =>
              (induction _).1.bind fun _ => Program.quiet_pure _,
            (Program.never_modify _).bind fun _ =>
              (induction _).2.bind fun _ => Program.never_pure _⟩

private theorem listChildren_quiet (path : JsString) (parent : Uid)
    (children : Yielded NodeEntity) :
    Program.Quiet SdkCall.counted (listChildren platform path parent children) := by
  refine (listEntries_quiet path parent children.items []).1.bind fun out => ?_
  cases children.failure with
  | some error => exact Program.quiet_throw _
  | none => exact Program.quiet_pure _

private theorem list_judged (path : JsString) :
    Judged platform (.list path) inParent (list platform path) := by
  refine .bind (mapErrors_blames (resolveOrThrow_blames path)
    fun _ _ _ raw => verdict_of_mapped raw trivial)
    (fun node => .inl (mapErrors_settles (resolveOrThrow_settles path) node)) fun node => ?_
  split
  · exact (Program.quiet_throw _).blames
  · refine .bind_relayed (mapErrors_blames (blames_lookup rfl)
      fun _ _ _ raw => verdict_of_mapped raw trivial) (Program.relays_request rfl).mapError
      (fun children => listChildren_quiet _ _ children)
      fun children trace error fault listed raised => ?_
    have failed : children.failure = some fault := by simpa [raisedError] using raised
    rcases Program.follows_bind listed with ⟨_, _, stopped⟩ | ⟨_, _, out, _, _, ended⟩
    · exact absurd stopped ((listEntries_quiet _ _ _ _).2 _ _)
    · rw [failed] at ended
      cases ended
      exact verdict_of_mapped ⟨rfl, rfl⟩ trivial

/-- A command whose answers raise nothing by themselves. -/
private theorem settles_call {command : SdkCall}
    (silent : ∀ answer, raisedError platform command (.ok answer) = none) :
    Settled platform (Program.request command) :=
  Program.settles_request silent

/-- A call whose errors are thrown as they are. -/
private theorem blames_raw {command : SdkCall}
    {blame : SdkExchange → SdkError → Thrown → Prop}
    (implies : ∀ fault, blame ⟨command, .error (.sdk fault)⟩ fault (.sdk fault)) :
    Blamed platform blame (Program.request command) :=
  Program.blames_request fun fault error raised => by
    cases raw_of_raised raised
    exact implies fault

private theorem blames_kind {command : SdkCall} (kind : SdkCall → Prop) (issued : kind command) :
    Blamed platform (Raw kind) (Program.request command) :=
  blames_raw fun _ => ⟨issued, rfl⟩

/-- A call whose errors go through the generic translation. -/
private theorem mapErrors_request {command : SdkCall}
    (generic : ∀ fault answer, op.MapsCall platform inParent fault ⟨command, answer⟩ ↔
      GenericFits platform fault) :
    Judged platform op inParent (mapErrors platform (Program.request command)) := by
  refine mapErrors_blames (blames_kind (· = command) rfl) ?_
  rintro ⟨_, answer⟩ fault error ⟨rfl, rfl⟩
  exact generic_mapped_iff.trans (generic fault answer).symm

private theorem readWhole_judged (path : JsString) (node : NodeEntity) (rev : Revision)
    (totalSize : Nat) :
    Judged platform op inParent (readWhole platform path node rev totalSize) := by
  refine .bind (blames_raw fun fault => iff_of_false raw_not_mapped id)
    (fun _ => .inl (settles_call (fun _ => rfl) _)) fun _ => ?_
  refine .bind_quiet (mapErrors_request fun fault answer => Iff.rfl)
    (mapErrors_settles (settles_call fun _ => rfl)) fun started => ?_
  cases started with
  | chunk => exact Program.quiet_pure _
  | complete produced actual =>
      dsimp only
      split
      · exact Program.quiet_throw _
      · exact Program.quiet_pure _

private theorem readRangeByFullRead_judged (path : JsString) (node : NodeEntity)
    (rev : Revision) (start wanted totalSize : Nat) :
    Judged platform op inParent
      (readRangeByFullRead platform path node rev start wanted totalSize) :=
  (readWhole_judged path node rev totalSize).bind_never fun _ => Program.never_pure _

private theorem firstSeekableChunk_blames (path : JsString) (start wanted : Nat) :
    Blamed platform (Raw fun issued =>
        issued = .seek start ∨ issued = .readSeekable (min SEEK_READ_CHUNK wanted))
      (firstSeekableChunk path start wanted) ∧
      Settled platform (firstSeekableChunk path start wanted) := by
  have quiet : ∀ value, Program.Quiet SdkCall.counted (acceptFirst path start wanted value) := by
    intro value
    unfold acceptFirst
    split
    · exact Program.quiet_throw _
    · exact Program.quiet_throw _
    · exact Program.quiet_pure _
  constructor
  · exact .bind (blames_raw fun fault => ⟨.inl rfl, rfl⟩)
      (fun _ => .inl (settles_call (fun _ => rfl) _))
      fun _ => .bind_quiet (blames_raw fun fault => ⟨.inr rfl, rfl⟩)
        (settles_call fun _ => rfl) quiet
  · exact .bind (fun _ => .inl (settles_call (fun _ => rfl) _))
      fun _ => .bind_quiet (settles_call fun _ => rfl) quiet

private theorem readRange_judged (path : JsString) (node : NodeEntity) (rev : Revision)
    (range : ByteRange) (totalSize : Nat) :
    Judged platform op inParent (readRange platform path node rev range totalSize) := by
  refine .bind (blames_raw fun fault => iff_of_false raw_not_mapped id)
    (fun _ => .inl (settles_call (fun _ => rfl) _)) fun _ => ?_
  refine .bind (Program.NeverThrows.tryCatch fun _ => Program.never_pure _).blames
    (fun seekable => ?_) fun seekable => ?_
  · cases seekable with
    | true =>
        refine .inl (.tryCatch (.bind fun _ => .inr ⟨settles_call (fun _ => rfl) _, ?_⟩)
          fun error trace follows => nomatch follows)
        exact (Program.quiet_pure _).settles _
    | false => exact .inr (Program.calls_request rfl).tryCatch.left
  · cases seekable with
    | true =>
        simp only [if_true]
        split
        · exact (Program.quiet_pure _).blames
        · refine .bind_never (mapErrors_blames (firstSeekableChunk_blames _ _ _).1 ?_)
            fun _ => Program.never_pure _
          rintro ⟨command, answer⟩ fault error ⟨rfl | rfl, rfl⟩
          · exact generic_mapped_iff
          · exact generic_mapped_iff
    | false =>
        simp only [Bool.false_eq_true, if_false]
        exact .bind (Program.NeverThrows.tryCatch fun _ => Program.never_pure _).blames
          (fun _ => .inr (Program.calls_request rfl).left.left)
          fun _ => readRangeByFullRead_judged _ _ _ _ _ _

private theorem read_judged (path : JsString) (range : Option ByteRange) :
    Judged platform (.read path range) inParent (read platform path range) := by
  refine .bind ((resolveOrThrow_blames path).mono fun _ _ _ raw => verdict_of_raw raw id)
    (fun node => .inl (resolveOrThrow_settles path node)) fun node => ?_
  split
  · split
    · exact (Program.quiet_throw _).blames
    · split
      · exact readRange_judged _ _ _ _ _
      · exact readWhole_judged _ _ _ _
  · exact (Program.quiet_throw _).blames

theorem resolveDestination_blames (d : JsString) :
    Blamed platform RawLookup (resolveDestination platform d) ∧
      Settled platform (resolveDestination platform d) := by
  constructor
  · refine .bind (resolve_blames _ _) (fun found => .inl (resolve_settles _ _ found))
      fun found => ?_
    split
    · exact (Program.quiet_throw _).blames
    · split
      · exact (Program.quiet_throw _).blames
      · split
        · exact (Program.quiet_throw _).blames
        · apply (resolve_blames _ _).bind_quiet (resolve_settles _ _)
          intro taken
          cases taken with
          | some node => exact Program.quiet_throw _
          | none => exact Program.quiet_pure _
  · refine .bind (fun found => .inl (resolve_settles _ _ found)) fun found => ?_
    split
    · exact (Program.quiet_throw _).settles
    · split
      · exact (Program.quiet_throw _).settles
      · split
        · exact (Program.quiet_throw _).settles
        · apply (resolve_settles _ _).bind_quiet
          intro taken
          cases taken with
          | some node => exact Program.quiet_throw _
          | none => exact Program.quiet_pure _

private theorem remove_judged (path : JsString) :
    Judged platform (.remove path) inParent (remove platform path) := by
  unfold remove
  dsimp only
  split
  · exact (Program.quiet_throw _).blames
  · refine .bind ((resolveOrThrow_blames _).mono fun _ _ _ raw => verdict_of_raw raw id)
      (fun node => .inl (resolveOrThrow_settles _ node)) fun node => ?_
    refine .bind_relayed (blames_raw fun fault => iff_of_false raw_not_mapped id)
      (Program.relays_request rfl)
      (fun results => (eachOk_quiet _ _).bind fun _ => Program.quiet_modify _)
      fun results trace error fault looped raised => ?_
    rcases Program.follows_bind looped with ⟨_, equal, stopped⟩ | ⟨_, _, _, _, _, ended⟩
    · cases equal
      rcases eachOk_error stopped raised with ⟨failed, rfl⟩ | ⟨none, rfl⟩
      · exact generic_mapped_iff.trans (and_iff_right failed).symm
      · exact iff_of_false raw_not_mapped fun maps => none maps.1
    · exact absurd ended (Program.never_modify _ _ _)

private theorem mkcol_judged (path : JsString) :
    Judged platform (.mkcol path) inParent (mkcol platform path) := by
  have raw : ∀ (path' : JsString) (includeDrafts : Bool),
      Judged platform (.mkcol path) inParent (resolve platform path' includeDrafts) :=
    fun path' includeDrafts => (resolve_blames _ _).mono fun _ _ _ raw => verdict_of_raw raw id
  unfold mkcol
  dsimp only
  split
  · exact (Program.quiet_throw _).blames
  · split
    · exact (Program.quiet_throw _).blames
    · refine .bind (raw _ _) (fun found => .inl (resolve_settles _ _ found)) fun found => ?_
      split
      · exact (Program.quiet_throw _).blames
      · split
        · exact (Program.quiet_throw _).blames
        · refine .bind (raw _ _) (fun found => .inl (resolve_settles _ _ found)) fun found => ?_
          split
          · exact (Program.quiet_throw _).blames
          · refine converted_blames (.bind_never
              (blames_kind (fun issued => ∃ parent name, issued = .createFolder parent name)
                ⟨_, _, rfl⟩) fun created => Program.never_modify _) ?_
            rintro ⟨_, answer⟩ fault error ⟨⟨parent, name, rfl⟩, rfl⟩
            exact createFolderError_mapped_iff _ _

/-- The two calls of a move: a relocation whose errors are thrown as they are, and
a renaming that answers them in its own way. -/
private def MoveBlame (s d : JsString) (call : SdkExchange) (fault : SdkError)
    (error : Thrown) : Prop :=
  (∃ nodes parent, call.1 = .moveNodes nodes parent ∧ error = .sdk fault) ∨
    ∃ node name, call.1 = .renameNode node name ∧
      error = .gateway (partiallyMoved d (join (parentPath d) (baseName s)))

private theorem eachOk_raw {results : Yielded NodeResult} {trace : SdkTrace} {error : Thrown}
    (follows : (eachOk results .sdk).Follows trace (.error error))
    (raised : resultsError results = some fault) : error = .sdk fault := by
  rcases eachOk_error follows raised with ⟨_, equal⟩ | ⟨_, equal⟩
  · exact equal
  · exact equal

private theorem relocate_blames (s d : JsString) (node dstParent : NodeEntity) :
    Blamed platform (MoveBlame s d) (relocate s d node dstParent) ∧
      Settled platform (relocate s d node dstParent) := by
  unfold relocate
  split
  · exact ⟨(Program.quiet_pure _).blames, (Program.quiet_pure _).settles⟩
  · constructor
    · exact .bind_relayed (blames_raw fun fault => .inl ⟨_, _, rfl, rfl⟩)
        (Program.relays_request rfl) (fun results => eachOk_quiet _ _)
        fun results trace error fault looped raised =>
          .inl ⟨_, _, rfl, eachOk_raw looped raised⟩
    · exact .bind_relayed (Program.relays_request rfl) (fun results => eachOk_quiet _ _)
        fun results trace value looped => eachOk_ok looped

private theorem renameTo_blames (s d : JsString) (node : NodeEntity) :
    Blamed platform (MoveBlame s d) (renameTo s d node) := by
  unfold renameTo
  split
  · exact (Program.quiet_pure _).blames
  · refine converted_blames
      (blames_kind (fun issued => ∃ node name, issued = .renameNode node name) ⟨_, _, rfl⟩) ?_
    rintro call fault error ⟨⟨node, name, called⟩, _⟩
    exact .inr ⟨node, name, called, rfl⟩

private theorem moveNode_judged (src dst : JsString) (node dstParent : NodeEntity) :
    Judged platform (.move src dst) inParent
      (moveNode platform (normalize src) (normalize dst) node dstParent) := by
  refine .finallyDo (mapErrors_blames (.bind (relocate_blames _ _ _ _).1
      (fun value => .inl ((relocate_blames _ _ _ _).2 value)) fun _ => renameTo_blames _ _ _) ?_)
    (Program.quiet_modify _) (Program.never_modify _)
  rintro ⟨command, answer⟩ fault error (⟨nodes, parent, rfl, rfl⟩ | ⟨node, name, rfl, rfl⟩)
  · exact generic_mapped_iff
  · exact iff_of_true ⟨_, rfl, .inr rfl⟩ trivial

private theorem move_judged (src dst : JsString) :
    Judged platform (.move src dst) inParent (move platform src dst) := by
  unfold move
  dsimp only
  split
  · exact (Program.quiet_throw _).blames
  · split
    · exact (Program.quiet_throw _).blames
    · exact .bind ((resolveOrThrow_blames _).mono fun _ _ _ raw => verdict_of_raw raw id)
        (fun node => .inl (resolveOrThrow_settles _ node)) fun node =>
          .bind ((resolveDestination_blames _).1.mono fun _ _ _ raw => verdict_of_raw raw id)
            (fun parent => .inl ((resolveDestination_blames _).2 parent))
            fun parent => moveNode_judged _ _ _ _

private theorem copyNode_judged (d : JsString) (node dstParent : NodeEntity)
    {src dst : JsString} :
    Judged platform (.copy src dst) inParent (copyNode platform d node dstParent) := by
  refine .finallyDo (mapErrors_blames (.bind_relayed
      (blames_kind (fun issued => ∃ sources parent, issued = .copyNodes sources parent)
        ⟨_, _, rfl⟩)
      (Program.relays_request rfl) (fun results => eachOk_quiet _ _)
      fun results trace error fault looped raised =>
        ⟨⟨_, _, rfl⟩, eachOk_raw looped raised⟩) ?_)
    (Program.quiet_modify _) (Program.never_modify _)
  rintro ⟨command, answer⟩ fault error ⟨⟨sources, parent, rfl⟩, rfl⟩
  exact generic_mapped_iff

private theorem copy_judged (src dst : JsString) :
    Judged platform (.copy src dst) inParent (copy platform src dst) := by
  refine .bind ((resolveOrThrow_blames _).mono fun _ _ _ raw => verdict_of_raw raw id)
    (fun node => .inl (resolveOrThrow_settles _ node)) fun node => ?_
  split
  · exact (Program.quiet_throw _).blames
  · exact .bind ((resolveDestination_blames _).1.mono fun _ _ _ raw => verdict_of_raw raw id)
      (fun parent => .inl ((resolveDestination_blames _).2 parent))
      fun parent => copyNode_judged _ _ _

/-- The calls of an upload. -/
private def IsUpload : SdkCall → Prop
  | .getFileUploader _ _ _ | .getFileRevisionUploader _ _ | .uploadFromStream _ _
  | .completion _ => True
  | _ => False

private theorem requestUploader_blames (platform : Platform) (p : JsString)
    (parent : NodeEntity) (revisionOfUid : Option Uid) (opts : PutOptions) :
    Blamed platform (Raw IsUpload) (requestUploader platform p parent revisionOfUid opts) ∧
      Settled platform (requestUploader platform p parent revisionOfUid opts) := by
  cases revisionOfUid with
  | none => exact ⟨blames_kind IsUpload trivial, settles_call fun _ => rfl⟩
  | some uid => exact ⟨blames_kind IsUpload trivial, settles_call fun _ => rfl⟩

private theorem upload_judged (p path : JsString) (parent : NodeEntity)
    (revisionOfUid : Option Uid) (body other : BodyStream) (opts options : PutOptions) :
    Judged platform (.put path other options) inParent
      (upload platform p parent revisionOfUid body opts) := by
  have uploader := requestUploader_blames platform p parent revisionOfUid opts
  refine Program.Blames.mapError (.bind uploader.1 (fun value => .inl (uploader.2 value))
    fun _ => .bind (blames_kind IsUpload trivial) (fun _ => .inl (settles_call (fun _ => rfl) _))
      fun _ => .bind_never (blames_kind IsUpload trivial)
        fun _ => (Program.never_modify _).bind fun _ => Program.never_pure _)
    (fun _ => Program.Quiet.bind (.tryCatch (Program.quiet_request rfl)
      fun _ => Program.quiet_pure _) fun _ => Program.quiet_modify _)
    (fun _ => Program.NeverThrows.bind (.tryCatch fun _ => Program.never_pure _)
      fun _ => Program.never_modify _) ?_
  rintro ⟨command, answer⟩ fault error ⟨uploading, rfl⟩
  refine iff_of_true (mapUploadError_mapped _ _ _ _) ?_
  cases command <;> trivial

private theorem putInto_judged (path : JsString) (parent : NodeEntity) (body : BodyStream)
    (opts : PutOptions) :
    Judged platform (.put path body opts) False
      (putInto platform (normalize path) parent body opts) := by
  refine .bind ((resolve_blames _ _).mono fun _ _ _ raw => verdict_of_raw raw id)
    (fun found => .inl (resolve_settles _ _ found)) fun found => ?_
  split
  · exact (refusePut_quiet _).blames
  · exact (cancelBody_quiet.bind fun _ => Program.quiet_pure _).blames
  · exact (refusePut_quiet _).blames
  · exact upload_judged _ _ _ _ _ _ _ _
  · exact upload_judged _ _ _ _ _ _ _ _

private theorem resolveParent_judged (path : JsString) (body : BodyStream) (opts : PutOptions) :
    Judged platform (.put path body opts) True (resolveParent platform (normalize path)) := by
  refine (resolve_blames _ _).mapError (fun _ => cancelBody_quiet) (fun _ => cancelBody_never) ?_
  intro call fault error raw
  exact verdict_of_mapped raw trivial

/-- The last call was made by the lookup of the parent of an upload. -/
def FailsInParent (platform : Platform) (trace : SdkTrace) : GatewayOperation → Prop
  | .put path _ _ =>
      ∃ first second outcome, trace = first ++ second ∧
        (resolve platform (parentPath (normalize path)) false).Follows first outcome ∧
        Program.lastCall SdkCall.counted second = none
  | _ => False

/-- A lookup that a longer trace begins with is the only one it begins with. -/
private theorem resolve_begins {path : JsString} {first second other rest : SdkTrace}
    {outcome result : Except Thrown (Option NodeEntity)}
    (left : (resolve platform path false).Follows first outcome)
    (right : (resolve platform path false).Follows other result)
    (same : first ++ second = other ++ rest) : first = other ∧ second = rest := by
  rcases List.append_eq_append_iff.mp same with ⟨between, rfl, rfl⟩ | ⟨between, rfl, rfl⟩
  · rcases left.eq_of_append right with ⟨rfl, _⟩
    exact ⟨(List.append_nil _).symm, rfl⟩
  · rcases right.eq_of_append left with ⟨rfl, _⟩
    exact ⟨List.append_nil _, rfl⟩

private theorem put_judged {path : JsString} {body : BodyStream} {opts : PutOptions}
    {trace : SdkTrace} {thrown : Thrown} {call : SdkExchange}
    (follows : (put platform path body opts).Follows trace (.error thrown))
    (last : Program.lastCall SdkCall.counted trace = some call)
    (raised : raisedError platform call.1 call.2 = some fault) :
    Verdict platform (.put path body opts) (FailsInParent platform trace (.put path body opts))
      call fault thrown := by
  unfold put at follows
  dsimp only at follows
  have refused : ∀ error : GatewayError,
      ¬(refusePut error : SdkOperation PutResult).Follows trace (.error thrown) := by
    intro error refused
    rw [refusePut_quiet error _ _ refused] at last
    cases last
  split at follows
  · exact absurd follows (refused _)
  split at follows
  · exact absurd follows (refused _)
  split at follows
  · exact absurd follows (refused _)
  rcases Program.follows_bind follows with ⟨_, equal, stopped⟩ | ⟨first, second, found, rfl, one, two⟩
  · cases equal
    have verdict := resolveParent_judged path body opts _ _ stopped call fault last raised
    rcases Program.follows_tryCatch stopped with ⟨_, equal, _⟩ | ⟨before, after, error, rfl, looked, let_go⟩
    · cases equal
    · have silent := (cancelBody_quiet.bind fun _ => Program.quiet_throw _) _ _ let_go
      have inParent : FailsInParent platform (before ++ after) (.put path body opts) :=
        ⟨before, after, _, rfl, looked, silent⟩
      rwa [eq_true inParent]
  · have looked : (resolve platform (parentPath (normalize path)) false).Follows first (.ok found) := by
      rcases Program.follows_tryCatch one with ⟨_, equal, ended⟩ | ⟨_, _, _, _, _, let_go⟩
      · cases equal
        exact ended
      · rcases Program.follows_bind let_go with ⟨_, equal, _⟩ | ⟨_, _, _, _, _, ended⟩
        · cases equal
        · cases ended
    have outside : ¬FailsInParent platform (first ++ second) (.put path body opts) := by
      rintro ⟨other, rest, outcome, same, lookup, silent⟩
      rcases resolve_begins looked lookup same with ⟨rfl, rfl⟩
      rw [Program.lastCall_append, silent] at last
      rw [resolve_settles _ _ _ _ looked call last] at raised
      cases raised
    have called : Program.lastCall SdkCall.counted second = some call := by
      rw [Program.lastCall_append] at last
      cases silent : Program.lastCall SdkCall.counted second with
      | some other => simpa [silent] using last
      | none =>
          rw [silent] at last
          rw [resolve_settles _ _ _ _ looked call last] at raised
          cases raised
    rw [eq_false outside]
    cases found with
    | none => exact (refusePut_quiet _).blames _ _ two call fault called raised
    | some parent =>
        dsimp only at two
        split at two
        · exact (refusePut_quiet _).blames _ _ two call fault called raised
        · exact putInto_judged path parent body opts _ _ two call fault called raised

/-- An operation that an SDK error made reject answers with the gateway error of
its class exactly where the call that failed is one whose errors are translated.
-/
theorem rejectsMapped_iff {op : GatewayOperation} {trace : SdkTrace} {thrown : Thrown}
    {call : SdkExchange} {fault : SdkError}
    (rejected : (runOperation platform op).Follows trace (.error thrown))
    (last : Program.lastCall SdkCall.counted trace = some call)
    (raised : raisedError platform call.1 call.2 = some fault) :
    RejectsMapped op fault thrown ↔
      op.MapsCall platform (FailsInParent platform trace op) fault call := by
  have outcome : ∀ {α : Type} {program : SdkOperation α},
      (program >>= fun _ => pure ()).Follows trace (.error thrown) →
        program.Follows trace (.error thrown) := by
    intro α program follows
    rcases Program.follows_bind follows with ⟨_, equal, stopped⟩ | ⟨_, _, _, _, _, ended⟩
    · cases equal
      exact stopped
    · cases ended
  cases op with
  | stat path => exact stat_judged path _ _ (outcome rejected) call fault last raised
  | list path => exact list_judged path _ _ (outcome rejected) call fault last raised
  | read path range => exact read_judged path range _ _ (outcome rejected) call fault last raised
  | put path body opts => exact put_judged (outcome rejected) last raised
  | mkcol path => exact mkcol_judged path _ _ rejected call fault last raised
  | remove path => exact remove_judged path _ _ rejected call fault last raised
  | move src dst => exact move_judged src dst _ _ rejected call fault last raised
  | copy src dst => exact copy_judged src dst _ _ rejected call fault last raised

end Operations

private def rateLimit : SdkError := ⟨.rateLimited, "Too many requests"⟩

/-- The first call of a fresh service is refused for its rate. -/
private def rateLimited : SdkTrace :=
  [.access (.initial 0), .exchange .getPathNode (.error (.sdk rateLimit))]

/-- A DELETE that meets a rate limit in its lookup rejects with the bare error,
which is answered as an internal error. -/
theorem rateLimitedRemove_unmapped :
    (runOperation (.plain []) (.remove "/a.txt")).Follows rateLimited (.error (.sdk rateLimit)) ∧
      Program.lastCall SdkCall.counted rateLimited =
        some ⟨.getPathNode, .error (.sdk rateLimit)⟩ ∧
      raisedError (.plain []) .getPathNode (.error (.sdk rateLimit)) = some rateLimit ∧
      ¬RejectsMapped (.remove "/a.txt") rateLimit (.sdk rateLimit) := by
  refine ⟨?_, rfl, rfl, raw_not_mapped⟩
  exact .update _ (.await _ (.fail _))

/-- The same lookup made by a PROPFIND answers 429. -/
theorem rateLimitedStat_mapped :
    RejectsMapped (.stat "/a.txt") rateLimit (.gateway (mapSdkError (.plain []) rateLimit)) :=
  (@rejectsMapped_iff (.plain []) (.stat "/a.txt") rateLimited _
    ⟨.getPathNode, .error (.sdk rateLimit)⟩ _
    (.update _ (.await _ (.fail _))) rfl rfl).mpr ⟨trivial, fun integrity => nomatch integrity⟩

end DriveWebdav
