import DriveWebdav.SdkGateway.Gateway
import DriveWebdav.SdkGateway.RangedContent
import DriveWebdav.Webdav.Get

/-! # GET of a file that changes

A GET looks its path up twice, for what it announces and for what it sends. Between the two
lookups the file may have got another revision. -/

namespace DriveWebdav

/-- The digest under which a revision is listed. -/
def Revision.reportedSha1 (rev : Revision) : Option JsString :=
  (rev.claimedSha1.map JsString.toLowerCase).filter isSha1

/-- A body that arrives in full from the stream of a read. -/
inductive Sends (platform : Platform) (path : JsString) (rev : Revision) (content : Bytes) :
    ReadStream → Bytes → Prop
  | empty : Sends platform path rev content .empty []
  | whole {node : NodeEntity} {events : List WholeRead.Event} {final : WholeRead}
      (ran : (WholeRead.machine platform path rev content.length).play WholeRead.start events =
        some final) (ends : final.EndsCleanly) :
      Sends platform path rev content (.whole node content.length)
        (final.stream.drain (final.stream.queue.length + 1)).delivered.flatten
  | seekable {node : NodeEntity} {first : Nat} {range : ByteRange} {clientAborted : Bool}
      {events : List RangedRead.Event} {final : RangedRead}
      (ran : (RangedRead.machine platform path rev range content.length).play
        (RangedRead.start clientAborted) events = some final)
      (serves : RangedRead.Serves content range events) (ends : final.EndsCleanly) :
      Sends platform path rev content
        (.seekable node range.start (wantedBytes range content.length) first) final.delivered
  | skipping {node : NodeEntity} {range : ByteRange} {clientAborted : Bool}
      {events : List RangedRead.Event} {final : RangedRead}
      (ran : (RangedRead.machine platform path rev range content.length).play
        (RangedRead.start clientAborted) events = some final)
      (serves : RangedRead.Serves content range events) (ends : final.EndsCleanly) :
      Sends platform path rev content
        (.skipping node range.start (wantedBytes range content.length) content.length)
        final.delivered

theorem Sends.length_eq {platform : Platform} {path : JsString} {rev : Revision}
    {content body : Bytes} {stream : ReadStream}
    (sends : Sends platform path rev content stream body) : body.length = stream.length := by
  cases sends with
  | empty => rfl
  | whole ran ends => exact WholeRead.length_of_endsCleanly ran ends
  | seekable ran serves ends =>
      rw [RangedRead.delivered_of_endsCleanly ran serves ends, ByteRange.length_slice]
      rfl
  | skipping ran serves ends =>
      rw [RangedRead.delivered_of_endsCleanly ran serves ends, ByteRange.length_slice]
      rfl

/-- A response whose body comes from `content` agrees with itself. -/
structure Response.Consistent (platform : Platform) (path : JsString) (rev : Revision)
    (content : Bytes) (response : Response ReadStream) : Prop where
  length : ∀ stream body, response.body = .stream stream →
    Sends platform path rev content stream body →
    response.header "Content-Length" = some (JsString.decimalNat body.length)
  range : response.status = 206 → ∃ first last size,
    response.header "Content-Range" = some (contentRange first last size) ∧
      first ≤ last ∧ last < size ∧
      response.header "Content-Length" = some (JsString.decimalNat (last - first + 1))
  checksum : ∀ value, response.header "OC-Checksum" = some value →
    value = ("SHA1:" : JsString) ++ platform.sha1 content

/-- A GET that finds `first` when it asks what there is, and `second` when it reads. -/
def Got (platform : Platform) (req : Request) (path : JsString) (first second : NodeEntity)
    (response : Response ReadStream) : Prop :=
  ∃ looked opened served,
    (mapErrors platform (resolve platform path false)).Follows looked (.ok (some first)) ∧
    (resolveOrThrow platform path).Follows opened (.ok second) ∧
    (handleGet (sdkGateway platform) req path false).Follows (looked ++ (opened ++ served))
      (.ok response)

section

variable {platform : Platform} {req : Request} {path : JsString} {first second : NodeEntity}
  {response : Response ReadStream} {trace : SdkTrace} {old new : Revision} {size : Nat} {content : Bytes}

/-! ## What is announced -/

/-- A file that is listed is listed with the size and the digest of its revision. -/
theorem toEntry_file {entry : DriveEntry} (listed : toEntry platform first = some entry)
    (file : entry.isDir = false) : ∃ rev, first.activeRevision = some rev ∧
      rev.claimedSize = some entry.size ∧ entry.sha1 = rev.reportedSha1 := by
  unfold toEntry at listed
  dsimp only at listed
  split at listed
  · cases listed
  · split at listed
    · cases listed
      cases file
    · split at listed
      · cases listed
      · next rev active =>
          split at listed
          · cases listed
          · next size claimed =>
              cases listed
              exact ⟨rev, active, claimed, rfl⟩

theorem truthy_reportedSha1 (rev : Revision) : truthy rev.reportedSha1 = rev.reportedSha1 := by
  cases reported : rev.reportedSha1 with
  | none => rfl
  | some digest =>
      cases digest with
      | nil =>
          rw [Revision.reportedSha1, Option.filter_eq_some_iff] at reported
          cases reported.2
      | cons character rest => rfl

/-! ## What is sent -/

/-- How a GET goes on for a file that is there. -/
inductive Answered (platform : Platform) (req : Request) (path : JsString) (entry : DriveEntry)
    (trace : SdkTrace) (response : Response ReadStream) : Prop
  | part (range : ByteRange) (result : ReadResult ReadStream)
      (asked : parseRange (req.header "Range") entry.size = .range range)
      (reads : (read platform path (some range)).Follows trace (.ok result))
      (status : response.status = 206)
      (headers : response.headers = commonHeaders entry.mtime entry.sha1 ++
        [(("Content-Length" : JsString), JsString.decimalNat result.size),
          (("Content-Range" : JsString), contentRange range.start range.stop result.totalSize)])
      (body : response.body = .stream result.stream)
  | whole (result : ReadResult ReadStream)
      (asked : parseRange (req.header "Range") entry.size = .none)
      (reads : (read platform path none).Follows trace (.ok result))
      (status : response.status = 200)
      (headers : response.headers = commonHeaders entry.mtime entry.sha1 ++
        [(("Content-Length" : JsString), JsString.decimalNat result.size)])
      (body : response.body = .stream result.stream)

/-- The answer of a GET is a success. -/
def Response.Succeeds (response : Response ReadStream) : Prop :=
  response.status = 200 ∨ response.status = 206

private theorem not_succeeds_davResponse {status : Nat} {headers : List (JsString × JsString)}
    (failed : 206 < status) : ¬(davResponse status none headers).Succeeds := by
  intro succeeds
  rcases succeeds with ok | part
  · exact absurd ok (by simp only [davResponse]; omega)
  · exact absurd part (by simp only [davResponse]; omega)

private theorem answered_of_resume {looked : SdkTrace}
    (found : (mapErrors platform (resolve platform path false)).Follows looked
      (.ok (some first)))
    (follows : (handleGet (sdkGateway platform) req path false).Follows (looked ++ trace)
      (.ok response)) (succeeds : response.Succeeds) :
    ∃ entry, toEntry platform first = some entry ∧ entry.isDir = false ∧
      Answered platform req path entry trace response := by
  simp only [handleGet, statOrThrow, sdkGateway, stat, Program.bind_bind] at follows
  have rest := found.resume_bind follows
  dsimp only at rest
  by_cases root : isRoot path = true
  · rw [if_pos root] at rest
    cases rest
    exact absurd succeeds (not_succeeds_davResponse (by decide))
  · rw [if_neg root] at rest
    cases listed : toEntry platform first with
    | none =>
        rw [listed] at rest
        cases rest
    | some entry =>
        rw [listed] at rest
        refine ⟨entry, rfl, ?_⟩
        change (if entry.isDir = true then _ else _ : SdkOperation (Response ReadStream)).Follows _ _
          at rest
        cases directory : entry.isDir with
        | true =>
            rw [if_pos directory] at rest
            cases rest
            exact absurd succeeds (not_succeeds_davResponse (by decide))
        | false =>
            rw [if_neg (ne_true_of_eq_false directory)] at rest
            refine ⟨rfl, ?_⟩
            cases asked : parseRange (req.header "Range") entry.size with
            | unsatisfiable =>
                rw [asked] at rest
                cases rest
                exact absurd succeeds (not_succeeds_davResponse (by decide))
            | range range =>
                rw [asked] at rest
                rcases Program.follows_bind rest with ⟨_, equal, _⟩ | ⟨_, _, result, rfl, reads, ended⟩
                · cases equal
                · cases ended
                  rw [List.append_nil]
                  exact .part range result asked reads rfl (List.append_assoc _ _ _) rfl
            | none =>
                rw [asked] at rest
                rcases Program.follows_bind rest with ⟨_, equal, _⟩ | ⟨_, _, result, rfl, reads, ended⟩
                · cases equal
                · cases ended
                  rw [List.append_nil]
                  exact .whole result asked reads rfl rfl rfl

/-- What the second lookup found is what is read. -/
private theorem reads_of_resume {opened served : SdkTrace} {range : Option ByteRange}
    {result : ReadResult ReadStream}
    (opens : (resolveOrThrow platform path).Follows opened (.ok second))
    (reads : (read platform path range).Follows (opened ++ served) (.ok result))
    (active : second.activeRevision = some new) (size : new.claimedSize = some content.length) :
    (match range with
      | some range => readRange platform path second new range content.length
      | none => readWhole platform path second new content.length).Follows served
        (.ok result) := by
  have rest := opens.resume_bind reads
  cases type : second.type with
  | file =>
      simp only [type, active, size] at rest
      exact rest
  | folder =>
      simp only [type] at rest
      cases rest
  | other =>
      simp only [type] at rest
      cases rest

theorem wantedBytes_of_inside {range : ByteRange} {size : Nat} (ordered : range.start ≤ range.stop)
    (inside : range.stop < size) : wantedBytes range size = range.stop - range.start + 1 := by
  rw [wantedBytes, if_neg (by omega)]
  omega

/-- The digest that is announced is that of what is read. -/
private theorem checksum_iff {mtime : Date} {rest : List (JsString × JsString)} (rev : Revision)
    (digest : JsString) (headers : response.headers = commonHeaders mtime rev.reportedSha1 ++ rest)
    (other : ∀ header ∈ rest, header.1 ≠ ("OC-Checksum" : JsString)) :
    (∀ value, response.header "OC-Checksum" = some value →
      value = ("SHA1:" : JsString) ++ digest) ↔
      ∀ sha1, rev.reportedSha1 = some sha1 → sha1 = digest := by
  rw [header_checksum headers other, truthy_reportedSha1]
  constructor
  · intro announced sha1 reported
    rw [reported] at announced
    exact List.append_cancel_left (announced _ rfl)
  · intro right value announced
    rcases Option.map_eq_some_iff.mp announced with ⟨sha1, reported, rfl⟩
    rw [right sha1 reported]

/-- The length that is announced is that of what is sent. -/
private theorem length_of_sent {result : ReadResult ReadStream} {mtime : Date}
    {sha1 : Option JsString} {rest : List (JsString × JsString)}
    (headers : response.headers = commonHeaders mtime sha1 ++
      (("Content-Length" : JsString), JsString.decimalNat result.size) :: rest)
    (body : response.body = .stream result.stream) (length : result.stream.length = result.size)
    (stream : ReadStream) (bytes : Bytes) (streamed : response.body = .stream stream)
    (sends : Sends platform path new content stream bytes) :
    response.header "Content-Length" = some (JsString.decimalNat bytes.length) := by
  cases body.symm.trans streamed
  rw [sends.length_eq, length]
  exact header_contentLength headers

/-- Every GET that succeeds has found a file twice. -/
theorem exists_got (follows : (handleGet (sdkGateway platform) req path false).Follows trace
    (.ok response)) (succeeds : response.Succeeds) :
    ∃ first second, Got platform req path first second response ∧
      (∃ old size, first.activeRevision = some old ∧ old.claimedSize = some size) ∧
      ∃ new size, second.activeRevision = some new ∧ new.claimedSize = some size := by
  have whole := follows
  simp only [handleGet, statOrThrow, sdkGateway, stat, Program.bind_bind] at whole
  rcases Program.follows_bind whole with ⟨_, equal, _⟩ | ⟨looked, rest, found, rfl, looks, goes⟩
  · cases equal
  cases found with
  | none => cases goes
  | some first =>
      rcases answered_of_resume looks follows succeeds with ⟨entry, shown, file, answered⟩
      rcases toEntry_file shown file with ⟨old, active, claimed, _⟩
      have opens : ∃ range result, (read platform path range).Follows rest (.ok result) := by
        cases answered with
        | part range result _ reads => exact ⟨some range, result, reads⟩
        | whole result _ reads => exact ⟨none, result, reads⟩
      rcases opens with ⟨range, result, reads⟩
      rcases Program.follows_bind reads with ⟨_, equal, _⟩ | ⟨opened, served, second, rfl, opens, ends⟩
      · cases equal
      refine ⟨first, second, ⟨looked, opened, served, looks, opens, follows⟩,
        ⟨old, _, active, claimed⟩, ?_⟩
      split at ends
      · next new _ active =>
          split at ends
          · cases ends
          · next size claimed => exact ⟨new, size, active, claimed⟩
      · cases ends

/-- A successful GET is consistent exactly if the part that was asked for lies in what is
read, and the digest that was announced is that of what is read. -/
theorem consistent_iff (got : Got platform req path first second response)
    (succeeds : response.Succeeds) (before : first.activeRevision = some old)
    (listed : old.claimedSize = some size)
    (after : second.activeRevision = some new) (served : new.claimedSize = some content.length) :
    response.Consistent platform path new content ↔
      (∀ range, parseRange (req.header "Range") size = .range range →
        range.stop < content.length) ∧
      ∀ digest, old.reportedSha1 = some digest → digest = platform.sha1 content := by
  rcases got with ⟨looked, opened, sent, found, opens, follows⟩
  rcases answered_of_resume found follows succeeds with ⟨entry, shown, file, answered⟩
  rcases toEntry_file shown file with ⟨rev, active, claimed, sha1⟩
  cases before.symm.trans active
  cases listed.symm.trans claimed
  cases answered with
  | part range result asked reads status headers body =>
      rw [sha1] at headers
      rcases readRange_reports (reads_of_resume opens reads after served) with
        ⟨wanted, total, length⟩
      rw [total] at headers
      have checksum := checksum_iff old (platform.sha1 content) headers (by simp)
      have part := header_contentRange headers
      have ordered := (parseRange_inside asked).1
      constructor
      · intro consistent
        refine ⟨?_, checksum.mp consistent.checksum⟩
        intro same parsed
        cases asked.symm.trans parsed
        rcases consistent.range status with ⟨begins, ends, size, text, _, inside, _⟩
        rcases contentRange_inj (Option.some.inj (part.symm.trans text)) with ⟨_, last, all⟩
        rw [last, all]
        exact inside
      · rintro ⟨inside, digest⟩
        constructor
        · exact length_of_sent headers body (length.trans wanted.symm)
        · intro _
          refine ⟨range.start, range.stop, content.length, part, ordered, inside range asked, ?_⟩
          rw [← wantedBytes_of_inside ordered (inside range asked), ← wanted]
          exact header_contentLength headers
        · exact checksum.mpr digest
  | whole result asked reads status headers body =>
      rw [sha1] at headers
      have sent := readWhole_reports (reads_of_resume opens reads after served)
      have checksum := checksum_iff old (platform.sha1 content) headers (by simp)
      constructor
      · intro consistent
        refine ⟨?_, checksum.mp consistent.checksum⟩
        intro range parsed
        cases asked.symm.trans parsed
      · rintro ⟨_, digest⟩
        constructor
        · apply length_of_sent headers body
          rw [sent]
          rfl
        · intro part
          cases status.symm.trans part
        · exact checksum.mpr digest

end

/-! ## A file that shrinks -/

def cachedFile : ServiceMemory :=
  { ServiceMemory.initial 0 with
    rootUid := some 0
    resolveCache := InsertionMap.empty.set "/a" ⟨5, none, 1000⟩ }

def sizedRevision (size : Nat) : Revision := ⟨some size, none, false, none⟩

def fileOf (size : Nat) : NodeEntity :=
  ⟨5, some 0, ⟨true, "a"⟩, .file, false, some (sizedRevision size), none, ⟨some 0⟩⟩

/-- A lookup that finds a cached file again. -/
def lookupOf (size : Nat) : SdkTrace :=
  [.access cachedFile, .access cachedFile, .exchange (.getNode 5) (.ok (fileOf size))]

/-- One byte is read from where the range begins. -/
def readOf (size : Nat) : SdkTrace :=
  [.exchange (.getFileDownloader (fileOf size)) (.ok ()),
    .exchange (.getSeekableStream (fileOf size)) (.ok ()), .exchange (.seek 1) (.ok ()),
    .exchange (.readSeekable (min SEEK_READ_CHUNK (wantedBytes ⟨1, 3⟩ size))) (.ok (some 1))]

def partResponse (size : Nat) : Response ReadStream :=
  ⟨206, commonHeaders ⟨some 0⟩ none ++
    [(("Content-Length" : JsString), JsString.decimalNat (wantedBytes ⟨1, 3⟩ size)),
      (("Content-Range" : JsString), contentRange 1 3 size)],
    .stream (.seekable (fileOf size) 1 (wantedBytes ⟨1, 3⟩ size) 1)⟩

theorem got_kept : Got (.plain []) (rangeRequest "bytes=1-3") "/a" (fileOf 5) (fileOf 5)
    (partResponse 5) := by
  refine ⟨lookupOf 5, lookupOf 5, readOf 5, ?_, ?_, ?_⟩
  · exact .update _ (.update _ (.await _ (.finish _)))
  · exact .update _ (.update _ (.await _ (.finish _)))
  · exact .update _ (.update _ (.await _ (.update _ (.update _ (.await _
      (.await _ (.await _ (.await _ (.await _ (.finish _))))))))))

theorem keptGet_consistent : (partResponse 5).Consistent (.plain []) "/a" (sizedRevision 5)
    [104, 101, 108, 108, 111] := by
  apply (consistent_iff got_kept (.inr rfl) rfl rfl rfl rfl).mpr
  constructor
  · intro range parsed
    exact (parseRange_inside parsed).2
  · intro digest reported
    cases reported

/-- The file has been replaced by a shorter one between the two lookups. -/
theorem shrunkGet_inconsistent :
    Got (.plain []) (rangeRequest "bytes=1-3") "/a" (fileOf 5) (fileOf 2) (partResponse 2) ∧
      ¬(partResponse 2).Consistent (.plain []) "/a" (sizedRevision 2) [104, 105] := by
  constructor
  · refine ⟨lookupOf 5, lookupOf 2, readOf 2, ?_, ?_, ?_⟩
    · exact .update _ (.update _ (.await _ (.finish _)))
    · exact .update _ (.update _ (.await _ (.finish _)))
    · exact .update _ (.update _ (.await _ (.update _ (.update _ (.await _
        (.await _ (.await _ (.await _ (.await _ (.finish _))))))))))
  · intro consistent
    rcases consistent.range rfl with ⟨begins, ends, size, text, _, inside, _⟩
    have part := header_contentRange (show (partResponse 2).headers = _ from rfl)
    rcases contentRange_inj (Option.some.inj (part.symm.trans text)) with ⟨_, rfl, rfl⟩
    exact absurd inside (by decide)

end DriveWebdav
