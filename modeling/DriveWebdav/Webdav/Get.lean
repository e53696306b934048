import DriveWebdav.MockGateway.Read
import DriveWebdav.Webdav.Handlers
import DriveWebdav.Webdav.RangeHeader

/-! # GET of a range

What a GET answers for each `Range` header, over the gateway in memory. -/

namespace DriveWebdav

/-- The value of a header of a response. -/
def Response.header {Stream : Type} (response : Response Stream) (name : JsString) :
    Option JsString :=
  (response.headers.find? fun header => header.1 = name).map Prod.snd

namespace Response

variable (response : Response BodyStream)

/-- The body is these bytes, all of them. -/
def Delivers (bytes : Bytes) : Prop :=
  ∃ stream, response.body = .stream stream ∧ stream.bytes = some bytes

structure IsWhole (content : Bytes) : Prop where
  status : response.status = 200
  body : response.Delivers content

/-- The part from `first` to `last`, both included. -/
structure IsPart (content : Bytes) (first last : Nat) : Prop where
  status : response.status = 206
  range : response.header "Content-Range" = some (contentRange first last content.length)
  length : response.header "Content-Length" = some (JsString.decimalNat (last - first + 1))
  body : response.Delivers ((content.drop first).take (last - first + 1))

structure IsUnsatisfiable (size : Nat) : Prop where
  status : response.status = 416
  range : response.header "Content-Range" =
    some (("bytes */" : JsString) ++ JsString.decimalNat size)

/-- What a GET is to answer to a `Range` header: a form is answered with the positions
that it selects, if it selects any, and anything else is ignored. -/
structure AnswersRange (content : Bytes) (value : JsString) : Prop where
  part : ∀ form : RangeForm, value = form.text → ∀ first last,
    IsLeast {p | form.Selects content.length p} first →
    IsGreatest {p | form.Selects content.length p} last → response.IsPart content first last
  unsatisfiable : ∀ form : RangeForm, value = form.text →
    (∀ p, ¬form.Selects content.length p) → response.IsUnsatisfiable content.length
  ignored : (∀ form : RangeForm, value ≠ form.text) → response.IsWhole content

end Response

/-- Header values that are taken for a range though they are none: `bytes=-` without any
digit, and what is a range only once white space around it is trimmed. -/
def Misread (value : JsString) : Prop :=
  value.trim = ("bytes=-" : JsString) ∨
    value.trim ≠ value ∧ ∃ form : RangeForm, value.trim = form.text

/-! ## What is answered to a parsed range -/

/-- The response to what the parser made of a header. -/
def Responds (content : Bytes) (response : Response BodyStream) : RangeResult → Prop
  | .none => response.IsWhole content
  | .unsatisfiable => response.IsUnsatisfiable content.length
  | .range range =>
      response.status = 206 ∧
      response.header "Content-Range" =
        some (contentRange range.start range.stop content.length) ∧
      response.header "Content-Length" =
        some (JsString.decimalNat (MockGateway.sliceOf content (some range)).length) ∧
      response.Delivers (MockGateway.sliceOf content (some range))

variable {content : Bytes} {response : Response BodyStream} {form : RangeForm} {value : JsString}

theorem sliceOf_eq {range : ByteRange} (ordered : range.start ≤ range.stop)
    (inside : range.stop < content.length) :
    MockGateway.sliceOf content (some range) =
      (content.drop range.start).take (range.stop - range.start + 1) := by
  have clamped : min (range.stop + 1) content.length = range.stop + 1 := by omega
  have wanted : range.stop + 1 - range.start = range.stop - range.start + 1 := by omega
  rw [MockGateway.sliceOf, clamped, List.drop_take, wanted]

theorem Responds.isPart {range : ByteRange}
    (responds : Responds content response (.range range)) (ordered : range.start ≤ range.stop)
    (inside : range.stop < content.length) :
    response.IsPart content range.start range.stop := by
  rcases responds with ⟨status, contentRange, contentLength, delivers⟩
  rw [sliceOf_eq ordered inside] at contentLength delivers
  have length : ((content.drop range.start).take (range.stop - range.start + 1)).length =
      range.stop - range.start + 1 := by
    rw [List.length_take, List.length_drop]
    omega
  rw [length] at contentLength
  exact ⟨status, contentRange, contentLength, delivers⟩

theorem Responds.status_ne {result : RangeResult} (responds : Responds content response result)
    (read : result ≠ .none) : response.status ≠ 200 := by
  intro ok
  cases result with
  | none => exact read rfl
  | unsatisfiable => cases ok.symm.trans responds.status
  | range range => cases ok.symm.trans responds.1

theorem RangeForm.Reads.ne_none {size : Nat} {result : RangeResult}
    (reads : form.Reads size result) : result ≠ .none := by
  intro ignored
  rw [ignored] at reads
  cases reads

/-- A range that is read as it is meant is answered as it is meant. -/
theorem Responds.of_reads {result : RangeResult} {first last : Nat}
    (responds : Responds content response result) (reads : form.Reads content.length result)
    (least : IsLeast {p | form.Selects content.length p} first)
    (greatest : IsGreatest {p | form.Selects content.length p} last) :
    response.IsPart content first last := by
  cases reads with
  | unsatisfiable none => exact absurd least.1 (none first)
  | range range begins ends =>
      have start := begins.unique least
      have stop := ends.unique greatest
      have ordered : range.start ≤ range.stop := begins.2 ends.1
      have inside : range.stop < content.length := ends.1.1
      rw [← start, ← stop]
      exact responds.isPart ordered inside

theorem Misread.unformed (misread : Misread value) (form : RangeForm) : value ≠ form.text := by
  intro written
  have trimmed : value.trim = value := by
    rw [written, form.trim_text]
  rcases misread with bare | ⟨padded, _⟩
  · exact form.text_ne_bare (written.symm.trans (trimmed.symm.trans bare))
  · exact padded trimmed

theorem Misread.parseRange_ne_none (misread : Misread value) (size : Nat) :
    parseRange (some value) size ≠ .none := by
  rcases misread with bare | ⟨_, form, written⟩
  · exact parseRange_bare bare size
  · exact (form.reads_parseRange written size).ne_none

/-- What the parser makes of a header is as it should be exactly if the header is not
misread. -/
theorem Responds.answers_iff
    (responds : Responds content response (parseRange (some value) content.length)) :
    response.AnswersRange content value ↔ ¬Misread value := by
  constructor
  · intro answers misread
    exact responds.status_ne (misread.parseRange_ne_none _)
      (answers.ignored misread.unformed).status
  · intro understood
    constructor
    · intro form written first last least greatest
      have trimmed : value.trim = form.text := by rw [written, form.trim_text]
      exact responds.of_reads (form.reads_parseRange trimmed _) least greatest
    · intro form written none
      have trimmed : value.trim = form.text := by rw [written, form.trim_text]
      have reads := form.reads_parseRange trimmed content.length
      cases result : parseRange (some value) content.length with
      | none => exact absurd result reads.ne_none
      | unsatisfiable =>
          rw [result] at responds
          exact responds
      | range range =>
          rw [result] at reads
          cases reads with
          | range _ begins _ => exact absurd begins.1 (none range.start)
    · intro unformed
      have ignored : parseRange (some value) content.length = .none := by
        apply parseRange_other
        · intro form written
          by_cases trimmed : value.trim = value
          · exact unformed form (trimmed.symm.trans written)
          · exact understood (.inr ⟨trimmed, form, written⟩)
        · intro bare
          exact understood (.inl bare)
      rw [ignored] at responds
      exact responds

/-! ## The handler -/

/-- The headers that every GET of a file has. -/
def commonHeaders (mtime : Date) (sha1 : Option JsString) : List (JsString × JsString) :=
  (("Accept-Ranges" : JsString), ("bytes" : JsString)) ::
    (("Last-Modified" : JsString), mtime.toUTCString) ::
    (("Content-Type" : JsString), ("application/octet-stream" : JsString)) :: sha1Header sha1

/-- They come before those that say what is sent. -/
theorem find?_commonHeaders {name : JsString} (mtime : Date) (sha1 : Option JsString)
    (rest : List (JsString × JsString))
    (other : name ∉ (["Accept-Ranges", "Last-Modified", "Content-Type", "OC-Checksum"] :
      List String).map String.toList) :
    (commonHeaders mtime sha1 ++ rest).find? (fun header => header.1 = name) =
      rest.find? fun header => header.1 = name := by
  rw [List.map_cons, List.map_cons, List.map_cons, List.map_singleton] at other
  simp only [List.mem_cons, List.not_mem_nil, or_false, not_or] at other
  rcases other with ⟨ranges, modified, type, checksum⟩
  rw [List.find?_append, List.find?_eq_none.mpr, Option.none_or]
  intro header member
  rw [decide_eq_true_eq]
  intro same
  rw [commonHeaders, List.mem_cons, List.mem_cons, List.mem_cons] at member
  rcases member with rfl | rfl | rfl | member
  · exact ranges same.symm
  · exact modified same.symm
  · exact type same.symm
  · unfold sha1Header at member
    split at member
    · cases member
    · rw [List.mem_singleton] at member
      rw [member] at same
      exact checksum same.symm

section Headers

variable {Stream : Type} {response : Response Stream} {mtime : Date} {sha1 : Option JsString}
  {size : Nat} {rest : List (JsString × JsString)}

theorem header_contentLength
    (headers : response.headers =
      commonHeaders mtime sha1 ++ (("Content-Length" : JsString), JsString.decimalNat size) :: rest) :
    response.header "Content-Length" = some (JsString.decimalNat size) := by
  rw [Response.header, headers, find?_commonHeaders _ _ _ (by decide),
    List.find?_cons_of_pos (by simp), Option.map_some]

theorem header_contentRange {value : JsString}
    (headers : response.headers =
      commonHeaders mtime sha1 ++ (("Content-Length" : JsString), JsString.decimalNat size) ::
        (("Content-Range" : JsString), value) :: rest) :
    response.header "Content-Range" = some value := by
  rw [Response.header, headers, find?_commonHeaders _ _ _ (by decide),
    List.find?_cons_of_neg (by simp), List.find?_cons_of_pos (by simp), Option.map_some]

/-- The checksum is announced if there is one. -/
theorem header_checksum (headers : response.headers = commonHeaders mtime sha1 ++ rest)
    (other : ∀ header ∈ rest, header.1 ≠ ("OC-Checksum" : JsString)) :
    response.header "OC-Checksum" =
      (truthy sha1).map fun digest => ("SHA1:" : JsString) ++ digest := by
  have none : rest.find? (fun header => header.1 = ("OC-Checksum" : JsString)) = none := by
    apply List.find?_eq_none.mpr
    intro header member
    rw [decide_eq_true_eq]
    exact other header member
  rw [Response.header, headers, commonHeaders, List.cons_append, List.cons_append,
    List.cons_append, List.find?_cons_of_neg (by simp), List.find?_cons_of_neg (by simp),
    List.find?_cons_of_neg (by simp), List.find?_append, none, sha1Header]
  cases truthy sha1 with
  | none => rfl
  | some digest =>
      dsimp only
      rw [List.find?_cons_of_pos (by simp), Option.some_or, Option.map_some, Option.map_some]

end Headers

section Run

variable {gateway : MockGateway} {path : JsString} {file : MockFile}
  (digest : Bytes → JsString) (now : Date)
  (others : (call : MockGateway.Call) → MockOperation call.Answer)
  (memory : ServiceMemory) (req : Request)

/-- What a GET comes to when nothing else happens meanwhile. -/
def getOutcome (gateway : MockGateway) (path : JsString) :
    Except Thrown (Response BodyStream) :=
  ((handleGet MockGateway.asDriveGateway req path false).run
    (MockGateway.answer digest now others) ⟨memory, gateway⟩).1

private theorem run_statOrThrow (readable : gateway.Readable path file) :
    (statOrThrow MockGateway.asDriveGateway path).run (MockGateway.answer digest now others)
        ⟨memory, gateway⟩ =
      (.ok ⟨baseName path, false, file.data.length, file.mtime,
        some (gateway.reportedSha1 (normalize path) file)⟩, ⟨memory, gateway⟩) := by
  simp only [statOrThrow, MockGateway.asDriveGateway, Program.run_bind, Program.run_request,
    MockGateway.answer, MockGateway.perform, readable.stat, Program.run_pure]

private theorem run_read {range : Option ByteRange} {result : ReadResult BodyStream}
    (ran : (MockGateway.read path range gateway).1 = .ok result) :
    (MockGateway.asDriveGateway.read path range).run (MockGateway.answer digest now others)
        ⟨memory, gateway⟩ =
      (.ok result, ⟨memory, (MockGateway.read path range gateway).2⟩) := by
  simp only [MockGateway.asDriveGateway, Program.run_request, MockGateway.answer,
    MockGateway.perform, ran]

/-- A GET of a file answers what the parser made of its header. -/
theorem responds_handleGet (readable : gateway.Readable path file) :
    ∃ response, getOutcome digest now others memory req gateway path = .ok response ∧
      Responds file.data response (parseRange (req.header "Range") file.data.length) := by
  rw [getOutcome, handleGet, Program.run_bind, run_statOrThrow digest now others memory readable]
  dsimp only
  rw [if_neg Bool.false_ne_true]
  cases parsed : parseRange (req.header "Range") file.data.length with
  | none =>
      rcases readable.read none with ⟨result, ran, bytes, _, _⟩
      dsimp only
      rw [if_neg Bool.false_ne_true, Program.run_bind,
        run_read digest now others memory ran]
      exact ⟨_, rfl, rfl, _, rfl, bytes⟩
  | unsatisfiable => exact ⟨_, rfl, rfl, rfl⟩
  | range range =>
      rcases readable.read (some range) with ⟨result, ran, bytes, size, total⟩
      dsimp only
      rw [if_neg Bool.false_ne_true, Program.run_bind,
        run_read digest now others memory ran]
      refine ⟨_, rfl, rfl, ?_, ?_, _, rfl, bytes⟩
      · rw [← total]
        exact header_contentRange (List.append_assoc _ _ _)
      · rw [← size]
        exact header_contentLength (List.append_assoc _ _ _)

/-- A GET of a file answers its `Range` header as it is to, exactly if the header is not
misread. -/
theorem answersRange_iff (readable : gateway.Readable path file) {value : JsString}
    (asked : req.header "Range" = some value) :
    (∃ response, getOutcome digest now others memory req gateway path = .ok response ∧
      response.AnswersRange file.data value) ↔ ¬Misread value := by
  rcases responds_handleGet digest now others memory req readable with ⟨response, ran, responds⟩
  rw [asked] at responds
  rw [ran, ← responds.answers_iff]
  constructor
  · intro answered
    rcases answered with ⟨same, equal, answers⟩
    cases equal
    exact answers
  · intro answers
    exact ⟨response, rfl, answers⟩

end Run

/-! ## A store of one file -/

def shortFile : MockFile := ⟨[7, 8, 9], "short", ⟨some 0⟩, 1⟩

def shortStore : MockGateway :=
  ⟨"webdav", .cons "short.bin" (.leaf (.file shortFile)) .nil, .none, 3⟩

theorem readable_shortStore : shortStore.Readable "/short.bin" shortFile := by
  constructor <;> rfl

/-- A GET with a `Range` header. -/
def rangeRequest (value : JsString) : Request :=
  ⟨"GET", "/short.bin", fun name => if name = "Range" then some value else none, none, none⟩

def shortOutcome (value : JsString) : Except Thrown (Response BodyStream) :=
  getOutcome (fun _ => "short") ⟨some 0⟩ (fun _ gateway => (.error MockGateway.transientFailure, gateway))
    (ServiceMemory.initial 0) (rangeRequest value) shortStore "/short.bin"

theorem suffix_answersRange : ∃ response, shortOutcome "bytes=-2" = .ok response ∧
    response.AnswersRange shortFile.data "bytes=-2" := by
  apply (answersRange_iff _ _ _ _ _ readable_shortStore rfl).mpr
  intro misread
  rcases misread with bare | padded
  · exact absurd bare (by decide)
  · exact padded.1 (by decide)

/-- A range without digits is not ignored. -/
theorem bare_range_not_ignored : ¬∃ response, shortOutcome "bytes=-" = .ok response ∧
    response.AnswersRange shortFile.data "bytes=-" := by
  intro answered
  rcases answered with ⟨response, ran, answers⟩
  have answered : ∃ sent, shortOutcome "bytes=-" = .ok sent ∧
      Responds shortFile.data sent (parseRange (some "bytes=-") shortFile.data.length) :=
    responds_handleGet _ _ _ _ _ readable_shortStore
  rcases answered with ⟨sent, same, responds⟩
  cases ran.symm.trans same
  exact responds.answers_iff.mp answers (.inl (by decide))

end DriveWebdav
