import DriveWebdav.MockGateway.Upload

/-! # Reading from the gateway in memory

What `read` hands out, and the gateway as the WebDAV layer sees it. -/

namespace DriveWebdav

namespace MockGateway

/-- A stream of `data`, in pieces as large as the source's. With `cut`, it fails after
them. -/
def streamOf (cut : Bool) (data : Bytes) : BodyStream :=
  if data = [] then
    if cut then .failed else .done
  else .value (data.take 65536) (streamOf cut (data.drop 65536))
termination_by data.length
decreasing_by
  have inhabited := List.length_pos_of_ne_nil ‹_›
  rw [List.length_drop]
  omega

/-- A stream that is not cut yields its bytes. -/
theorem bytes_streamOf (data : Bytes) : (streamOf false data).bytes = some data := by
  fun_induction streamOf false data with
  | case1 cut => cases cut
  | case2 => rfl
  | case3 data inhabited induction =>
      rw [BodyStream.bytes, induction, Option.map_some, List.take_append_drop]

/-- What of a content is read: all of it, or `subarray(start, end + 1)`. -/
def sliceOf (data : Bytes) (range : Option ByteRange) : Bytes :=
  match range with
  | none => data
  | some range => (data.take (min (range.stop + 1) data.length)).drop range.start

def read (path : JsString) (range : Option ByteRange) : MockOperation (ReadResult BodyStream) :=
  let p := normalize path
  ticked "read" fun gateway =>
    match gateway.lookup p with
    | some (.leaf (.file file)) =>
        let slice := sliceOf file.data range
        let drop := gateway.faults.dropGetAfterBytes
        let gateway :=
          { gateway with faults := { gateway.faults with dropGetAfterBytes := none } }
        if drop = some 0 then
          (.error (.gateway (.plain "Simulated failure before any data was sent" 502)), gateway)
        else
          let limit := min (drop.getD slice.length) slice.length
          (.ok ⟨streamOf (decide (limit < slice.length)) (slice.take limit), slice.length,
            file.data.length⟩, gateway)
    | _ => (.error (.gateway .notFoundDefault), gateway)

/-- A call of the gateway. -/
inductive Call
  | stat (path : JsString)
  | list (path : JsString)
  | read (path : JsString) (range : Option ByteRange)
  | put (path : JsString) (body : BodyStream) (opts : PutOptions)
  | mkcol (path : JsString)
  | remove (path : JsString)
  | move (src dst : JsString)
  | copy (src dst : JsString)
  | quota

abbrev Call.Answer : Call → Type
  | .stat _ => Option DriveEntry
  | .list _ => List DriveEntry
  | .read _ _ => ReadResult BodyStream
  | .put _ _ _ => PutResult
  | .quota => Quota
  | _ => Unit

/-- The gateway in memory, as the gateway of the WebDAV layer. -/
def asDriveGateway : DriveGateway Call Call.Answer BodyStream where
  stat path := Program.request (Call.stat path)
  list path := Program.request (Call.list path)
  read path range := Program.request (Call.read path range)
  put path body opts := Program.request (Call.put path body opts)
  mkcol path := Program.request (Call.mkcol path)
  remove path := Program.request (Call.remove path)
  move src dst := Program.request (Call.move src dst)
  copy src dst := Program.request (Call.copy src dst)
  quota := Program.request Call.quota

/-- How the gateway answers a call. What it does to make, remove, move and copy
entries is left to `others`. -/
def perform (digest : Bytes → JsString) (now : Date)
    (others : (call : Call) → MockOperation call.Answer) :
    (call : Call) → MockOperation call.Answer
  | .stat path => stat path
  | .list path => list path
  | .read path range => read path range
  | .put path body opts => put digest now path body opts
  | call => others call

abbrev StoreWorld := World ServiceMemory MockGateway

def answer (digest : Bytes → JsString) (now : Date)
    (others : (call : Call) → MockOperation call.Answer) (world : StoreWorld) (call : Call) :
    Except Thrown call.Answer × StoreWorld :=
  match perform digest now others call world.remote with
  | (outcome, gateway) => (outcome, ⟨world.memory, gateway⟩)

/-! ## Files that can be read -/

variable {gateway : MockGateway} {path : JsString} {file : MockFile}

/-- A file is at the path, and nothing stands in the way of reading it: no failure is set
for it. -/
structure Readable (gateway : MockGateway) (path : JsString) (file : MockFile) : Prop where
  found : gateway.fileAt path = some file
  stats : gateway.fails "stat" = false
  reads : gateway.fails "read" = false
  whole : gateway.faults.dropGetAfterBytes = none

theorem Readable.lookup (readable : Readable gateway path file) :
    gateway.lookup (normalize path) = some (.leaf (.file file)) := by
  have kind : (gateway.rootNode.lookup (segments path)).map Node.kind =
      gateway.kindOf path := Entries.kind_lookup _
  have found := readable.found
  rw [fileAt, ← kind] at found
  rw [MockGateway.lookup, segments_normalize]
  cases here : gateway.rootNode.lookup (segments path) with
  | none => simp [here] at found
  | some node =>
      cases node with
      | folder info children => simp [here, Node.kind] at found
      | leaf leaf =>
          cases leaf with
          | draft draft => simp [here, Node.kind] at found
          | file held => simpa [here, Node.kind] using found

theorem Readable.stat (readable : Readable gateway path file) :
    stat path gateway =
      (.ok (some ⟨baseName path, false, file.data.length, file.mtime,
        some (gateway.reportedSha1 (normalize path) file)⟩), gateway) := by
  simp only [MockGateway.stat, ticked_of_not_fails readable.stats, readable.lookup,
    Option.bind_some, toEntry, baseName_normalize]

/-- What a read of the file hands out. -/
theorem Readable.read (readable : Readable gateway path file) (range : Option ByteRange) :
    ∃ result, (read path range gateway).1 = .ok result ∧
      result.stream.bytes = some (sliceOf file.data range) ∧
      result.size = (sliceOf file.data range).length ∧
      result.totalSize = file.data.length := by
  simp only [MockGateway.read, ticked_of_not_fails readable.reads, readable.lookup,
    readable.whole]
  refine ⟨_, rfl, ?_, rfl, rfl⟩
  simp only [Option.getD_none, Nat.min_self, Nat.lt_irrefl, decide_false, List.take_length]
  exact bytes_streamOf _

end MockGateway

end DriveWebdav
