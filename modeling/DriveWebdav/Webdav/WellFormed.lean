import DriveWebdav.SdkGateway.Gateway
import DriveWebdav.Webdav.ListingXml
import Mathlib.Data.List.Forall2

/-! # The XML answers are well formed

A listing of any entries can be parsed, and describes the entries, unless a name holds a
character that XML cannot carry. The same goes for the message of an error. -/

namespace DriveWebdav

open Xml

/-! ## A whole listing -/

/-- An entry that a listing can describe, at a path of safe segments. -/
structure Listable (listed : JsString × DriveEntry) : Prop where
  path : ∃ segs, listed.1 = absolute segs ∧ ∀ s ∈ segs, isSafeSegment s = true
  sha1 : ∀ digest, listed.2.sha1 = some digest → isSha1 digest = true

/-- The responses of a listing. -/
def responsesOf (listed : List (JsString × DriveEntry)) : List JsString :=
  listed.map fun entry => responseXml (hrefFor entry.1) entry.2

def seenAll (listed : List (JsString × DriveEntry)) : List ListedResponse :=
  listed.map fun entry => seen (advertisedHref entry.1 entry.2.isDir) entry.2

theorem Listable.reads {listed : JsString × DriveEntry} (listable : Listable listed)
    (legal : ∀ character ∈ listed.2.name, isChar character = true) :
    ∃ response, Writes (responseXml (hrefFor listed.1) listed.2)
        (.element "d:response" [] response) ∧
      readResponse response = some (seen (advertisedHref listed.1 listed.2.isDir) listed.2) := by
  rcases listable.path with ⟨segs, located, safe⟩
  have pieces : ∀ s ∈ segs, IsSegment s :=
    fun s member => isSegment_of_isSafeSegment (safe s member)
  rw [located, hrefFor_absolute pieces]
  apply response_reads _ (xmlEscape_advertisedHref pieces _) legal listable.sha1
  exact plain_of_all (all_plain_advertisedHref pieces _)

/-- Reading the responses one by one: each adds itself to those before it. -/
theorem responses_read {first : JsString × DriveEntry} {listed : List (JsString × DriveEntry)}
    (text : JsString) (frame : Frame) (stack : List Frame)
    (listable : ∀ entry ∈ first :: listed, Listable entry)
    (legal : ∀ entry ∈ first :: listed, ∀ character ∈ entry.2.name, isChar character = true) :
    ∃ children responses, (inside text frame stack false).read
        (("\n " : JsString).intercalate (responsesOf (first :: listed))) =
        some (inside [] { frame with children } stack false) ∧
      childrenOf "d:response" children = childrenOf "d:response" frame.children ++ responses ∧
      responses.mapM readResponse = some (seenAll (first :: listed)) := by
  induction listed generalizing first frame text with
  | nil =>
      rcases (listable first List.mem_cons_self).reads (legal first List.mem_cons_self) with
        ⟨response, reads, described⟩
      refine ⟨addText text frame.children ++ [.element "d:response" [] response], [response], ?_, ?_,
        ?_⟩
      · rw [responsesOf, List.map_singleton, List.intercalate_singleton]
        exact reads text frame stack
      · rw [childrenOf_append, childrenOf_addText]
        rfl
      · simp only [List.mapM_cons, described, List.mapM_nil]
        rfl
  | cons second listed induction =>
      rcases (listable first List.mem_cons_self).reads (legal first List.mem_cons_self) with
        ⟨response, reads, described⟩
      have separated : ∀ frame : Frame, (inside [] frame stack false).read "\n " =
          some (inside "\n " frame stack false) := fun frame => rfl
      have later := induction "\n " { frame with
          children := addText text frame.children ++ [.element "d:response" [] response] }
        (fun entry member => listable entry (List.mem_cons_of_mem _ member))
        (fun entry member => legal entry (List.mem_cons_of_mem _ member))
      rcases later with ⟨children, responses, rest, present, describes⟩
      refine ⟨children, response :: responses, ?_, ?_, ?_⟩
      · rw [responsesOf, List.map_cons, List.map_cons, List.intercalate_cons_cons]
        exact State.read_append_of_eq
          (State.read_append_of_eq (reads text frame stack) (separated _)) rest
      · rw [present, childrenOf_append, childrenOf_addText, List.append_assoc]
        rfl
      · rw [List.mapM_cons, described, describes]
        rfl

private def namespaces : List (JsString × JsString) :=
  [("xmlns:d", "DAV:"), ("xmlns:oc", "http://owncloud.org/ns"),
    ("xmlns:nc", "http://nextcloud.org/ns")]

private theorem afterDeclaration_multistatus (responses : List JsString) :
    afterDeclaration (multistatus responses) =
      ("\n<d:multistatus xmlns:d=\"DAV:\" " : JsString) ++
        ("xmlns:oc=\"http://owncloud.org/ns\" " : JsString) ++
        ("xmlns:nc=\"http://nextcloud.org/ns\">\n " : JsString) ++
        ("\n " : JsString).intercalate responses ++ ("\n</d:multistatus" : JsString) ++
        (">\n" : JsString) := by
  unfold multistatus
  rw [List.append_assoc _ ("\n</d:multistatus" : JsString) (">\n" : JsString)]
  rfl

theorem parse_multistatus {first : JsString × DriveEntry} {listed : List (JsString × DriveEntry)}
    (listable : ∀ entry ∈ first :: listed, Listable entry)
    (legal : ∀ entry ∈ first :: listed, ∀ character ∈ entry.2.name, isChar character = true) :
    ∃ root, parse (multistatus (responsesOf (first :: listed))) = some root ∧
      readListing root = some (seenAll (first :: listed)) := by
  have opened : State.read ⟨.content [], [], none, false⟩
      "\n<d:multistatus xmlns:d=\"DAV:\" " = some
        ⟨.attributes "d:multistatus" (namespaces.take 1), [], none, false⟩ := rfl
  have named : State.read ⟨.attributes "d:multistatus" (namespaces.take 1), [], none, false⟩
      "xmlns:oc=\"http://owncloud.org/ns\" " = some
        ⟨.attributes "d:multistatus" (namespaces.take 2), [], none, false⟩ := rfl
  have spaced : State.read ⟨.attributes "d:multistatus" (namespaces.take 2), [], none, false⟩
      "xmlns:nc=\"http://nextcloud.org/ns\">\n " =
      some (inside "\n " ⟨"d:multistatus", namespaces, []⟩ [] false) := rfl
  rcases responses_read "\n " ⟨"d:multistatus", namespaces, []⟩ [] listable legal with
    ⟨children, responses, reads, present, described⟩
  let root := XmlNode.element "d:multistatus" namespaces (children ++ [.text "\n"])
  have ending : (inside [] ⟨"d:multistatus", namespaces, children⟩ [] false).read
      "\n</d:multistatus" =
      some ⟨.endName "d:multistatus", [⟨"d:multistatus", namespaces, children ++ [.text "\n"]⟩],
        none, false⟩ := rfl
  have closed : State.read ⟨.endName "d:multistatus",
      [⟨"d:multistatus", namespaces, children ++ [.text "\n"]⟩], none, false⟩ ">\n" =
      some ⟨.content "\n", [], some root, false⟩ := rfl
  have started := State.read_append_of_eq (State.read_append_of_eq opened named) spaced
  have whole := State.read_append_of_eq (State.read_append_of_eq
    (State.read_append_of_eq started reads) ending) closed
  refine ⟨root, ?_, ?_⟩
  · rw [parse, afterDeclaration_multistatus, whole]
    rfl
  · have isName : childrenOf "d:response" (children ++ [.text "\n"]) = responses := by
      rw [childrenOf_append, present]
      exact List.append_nil responses
    rw [readListing, isName, described]
    rfl

theorem mem_intercalate {separator piece : JsString} {pieces : List JsString}
    (present : piece ∈ pieces) {character : Char} (member : character ∈ piece) :
    character ∈ separator.intercalate pieces := by
  induction pieces with
  | nil => cases present
  | cons first pieces induction =>
      cases pieces with
      | nil =>
          rw [List.intercalate_singleton, ← List.mem_singleton.mp present]
          exact member
      | cons second pieces =>
          rw [List.intercalate_cons_cons]
          rcases List.mem_cons.mp present with rfl | present
          · exact List.mem_append_left _ (List.mem_append_left _ member)
          · exact List.mem_append_right _ (induction present)

/-- A listing that can be parsed has no name with a character that documents cannot hold. -/
theorem isChar_of_listing {listed : List (JsString × DriveEntry)} {root : XmlNode}
    (parsed : parse (multistatus (responsesOf listed)) = some root)
    {entry : JsString × DriveEntry} (present : entry ∈ listed) {character : Char}
    (member : character ∈ entry.2.name) : isChar character = true := by
  rw [← Bool.not_eq_false]
  intro illegal
  have escaped : character ∈ xmlEscape entry.2.name :=
    mem_escaped (fun _ => xmlEntity_plain) illegal member
  have inResponse : character ∈ responseXml (hrefFor entry.1) entry.2 := by
    unfold responseXml
    iterate 10 apply List.mem_append_left
    exact List.mem_append_right _ escaped
  have inListing : character ∈ afterDeclaration (multistatus (responsesOf listed)) := by
    rw [afterDeclaration_multistatus]
    iterate 2 apply List.mem_append_left
    exact List.mem_append_right _
      (mem_intercalate (List.mem_map_of_mem present) inResponse)
  rw [isChar_of_parse parsed inListing] at illegal
  cases illegal

/-- What is seen of an entry describes it, when its name has no carriage return. -/
theorem describes_seen_iff {listed : JsString × DriveEntry} (listable : Listable listed) :
    Describes listed (seen (advertisedHref listed.1 listed.2.isDir) listed.2) ↔
      '\r' ∉ listed.2.name := by
  constructor
  · intro describes
    rw [← describes.displayname]
    exact noReturn_lines false _
  · intro noReturn
    refine ⟨lines_of_noReturn noReturn, ?_, rfl, rfl, rfl⟩
    rcases listable.path with ⟨segs, located, safe⟩
    have pieces : ∀ s ∈ segs, IsSegment s :=
      fun s member => isSegment_of_isSafeSegment (safe s member)
    change decodeURIComponent (advertisedHref listed.1 listed.2.isDir) = _
    rw [located]
    by_cases inside : segs = []
    · rw [inside, advertisedHref_root]
      cases listed.2.isDir <;> rfl
    · rw [decodeURIComponent_advertisedHref pieces inside, not_endsWith_slash pieces inside,
        Bool.not_false, Bool.and_true]

theorem listingBody_eq (path : JsString) (self : DriveEntry) (children : List DriveEntry) :
    listingBody path self children = multistatus (responsesOf (listedEntries path self children)) := by
  rw [listingBody, responsesOf, listedEntries, List.map_cons, List.map_map]
  rfl

/-- The directory of a listing is named by the path of the request; what is in it, by the
store. -/
structure ListableDirectory (path : JsString) (folder : DriveEntry) (children : List DriveEntry) :
    Prop where
  path : ∃ segs, path = absolute segs ∧ ∀ s ∈ segs, isSafeSegment s = true
  names : ∀ child ∈ children, isSafeSegment child.name = true
  sha1 : ∀ entry ∈ folder :: children, ∀ digest, entry.sha1 = some digest → isSha1 digest = true

theorem ListableDirectory.listable {path : JsString} {self : DriveEntry}
    {children : List DriveEntry} (directory : ListableDirectory path self children) :
    ∀ listed ∈ listedEntries path self children, Listable listed := by
  intro listed member
  rcases List.mem_cons.mp member with rfl | member
  · exact ⟨directory.path, directory.sha1 self List.mem_cons_self⟩
  · rcases List.mem_map.mp member with ⟨child, present, rfl⟩
    refine ⟨?_, directory.sha1 child (List.mem_cons_of_mem _ present)⟩
    rcases directory.path with ⟨segs, located, safe⟩
    have named := directory.names child present
    refine ⟨segs ++ [child.name], ?_, ?_⟩
    · change absolute (segments (path ++ '/' :: child.name)) = _
      rw [segments_append_slash, located,
        segments_absolute fun s member => isSegment_of_isSafeSegment (safe s member),
        segments_of_isSegment (isSegment_of_isSafeSegment named)]
    · intro s member
      rcases List.mem_append.mp member with member | member
      · exact safe s member
      · rw [List.mem_singleton.mp member]
        exact named

theorem mem_listedEntries_name {path : JsString} {self entry : DriveEntry}
    {children : List DriveEntry} : entry ∈ self :: children ↔
      ∃ listed ∈ listedEntries path self children, listed.2 = entry := by
  have same : (listedEntries path self children).map Prod.snd = self :: children := by
    rw [listedEntries, List.map_cons, List.map_map]
    exact congrArg (self :: ·) (List.map_id children)
  rw [← same, List.mem_map]

theorem listingReads_of_legal {path : JsString} {self : DriveEntry} {children : List DriveEntry}
    (directory : ListableDirectory path self children)
    (legal : ∀ listed ∈ listedEntries path self children, ∀ character ∈ listed.2.name,
      isChar character = true) :
    ListingReads path self children ↔ ∀ listed ∈ listedEntries path self children,
      '\r' ∉ listed.2.name := by
  have listable := directory.listable
  rcases parse_multistatus listable legal with ⟨root, parsed, read⟩
  have whole : ListingReads path self children ↔ List.Forall₂ Describes
      (listedEntries path self children) (seenAll (listedEntries path self children)) := by
    rw [ListingReads, listingBody_eq]
    constructor
    · intro reads
      rcases reads with ⟨other, responses, parsedOther, readOther, describes⟩
      rw [Option.some.inj (parsedOther.symm.trans parsed)] at readOther
      rw [Option.some.inj (readOther.symm.trans read)] at describes
      exact describes
    · intro describes
      exact ⟨root, _, parsed, read, describes⟩
  rw [whole, seenAll, List.forall₂_map_right_iff, List.forall₂_same]
  exact forall₂_congr fun listed among => describes_seen_iff (listable listed among)

theorem listingReads_iff {path : JsString} {self : DriveEntry} {children : List DriveEntry}
    (directory : ListableDirectory path self children) :
    ListingReads path self children ↔ ∀ entry ∈ self :: children, isXmlText entry.name := by
  constructor
  · intro reads
    have legal : ∀ listed ∈ listedEntries path self children, ∀ character ∈ listed.2.name,
        isChar character = true := by
      rcases reads with ⟨root, responses, parsed, read, describes⟩
      rw [listingBody_eq] at parsed
      intro listed present character member
      exact isChar_of_listing parsed present member
    have noReturn := (listingReads_of_legal directory legal).mp reads
    intro entry present character member
    rcases mem_listedEntries_name.mp present with ⟨listed, among, rfl⟩
    refine ⟨legal listed among character member, ?_⟩
    intro isReturn
    rw [isReturn] at member
    exact noReturn listed among member
  · intro texts
    have named : ∀ listed ∈ listedEntries path self children, isXmlText listed.2.name :=
      fun listed among => texts listed.2 (mem_listedEntries_name.mpr ⟨listed, among, rfl⟩)
    apply (listingReads_of_legal directory ?_).mpr
    · intro listed among isReturn
      exact (named listed among _ isReturn).2 rfl
    · intro listed among character member
      exact (named listed among character member).1

/-! ## The body of an error -/

theorem parse_errorBody {message : JsString}
    (legal : ∀ character ∈ message, isChar character = true) :
    parse (errorBody message) = some (.element "d:error" [("xmlns:d", "DAV:")]
      [.element "d:message" [] (addText (lines false message) [])]) := by
  have written : afterDeclaration (errorBody message) =
      ("<d:error xmlns:d=\"DAV:\"><d:message>" : JsString) ++ message.flatMap xmlTextEntity ++
        ("</d:message></d:error>" : JsString) := rfl
  have opened : State.read ⟨.content [], [], none, false⟩
      "<d:error xmlns:d=\"DAV:\"><d:message>" = some (inside [] ⟨"d:message", [], []⟩
        [⟨"d:error", [("xmlns:d", "DAV:")], []⟩] false) := rfl
  have escaped : ∃ after, (inside [] ⟨"d:message", [], []⟩
      [⟨"d:error", [("xmlns:d", "DAV:")], []⟩] false).read (message.flatMap xmlTextEntity) =
      some (inside ([] ++ lines false message) ⟨"d:message", [], []⟩
        [⟨"d:error", [("xmlns:d", "DAV:")], []⟩] after) :=
    read_escaped readsBack_xmlTextEntity rfl legal
  rcases escaped with ⟨after, escaped⟩
  have closed : (inside ([] ++ lines false message) ⟨"d:message", [], []⟩
      [⟨"d:error", [("xmlns:d", "DAV:")], []⟩] after).read "</d:message></d:error>" =
      some ⟨.content [], [], some (.element "d:error" [("xmlns:d", "DAV:")]
        [.element "d:message" [] (addText (lines false message) [])]), false⟩ := rfl
  have whole := State.read_append_of_eq (State.read_append_of_eq opened escaped) closed
  rw [parse, written, whole]
  rfl

theorem isChar_of_errorBody {message : JsString} {root : XmlNode}
    (parsed : parse (errorBody message) = some root) {character : Char}
    (member : character ∈ message) : isChar character = true := by
  rw [← Bool.not_eq_false]
  intro illegal
  have escaped : character ∈ xmlText message :=
    mem_escaped (fun _ kept => xmlTextEntity_plain fun markup =>
      kept (List.mem_append_left ['"'] markup)) illegal member
  have inBody : character ∈ afterDeclaration (errorBody message) := by
    change character ∈ ("<d:error xmlns:d=\"DAV:\"><d:message>" : JsString) ++
      (xmlText message ++ ("</d:message></d:error>" : JsString))
    exact List.mem_append_right _ (List.mem_append_left _ escaped)
  rw [isChar_of_parse parsed inBody] at illegal
  cases illegal

theorem errorReads_iff (message : JsString) : ErrorReads message ↔ isXmlText message := by
  constructor
  · intro reads
    rcases reads with ⟨attributes, children, parsed, said⟩
    have legal : ∀ character ∈ message, isChar character = true :=
      fun character member => isChar_of_errorBody parsed member
    rw [parse_errorBody legal] at parsed
    cases parsed
    have same : lines false message = message := by
      rw [← textOf_addText (lines false message)]
      exact Option.some.inj said
    intro character member
    refine ⟨legal character member, ?_⟩
    intro isReturn
    rw [isReturn, ← same] at member
    exact noReturn_lines false message member
  · intro readable
    have noReturn : '\r' ∉ message := fun member => (readable _ member).2 rfl
    refine ⟨_, _, parse_errorBody fun character member => (readable character member).1, ?_⟩
    change some (textOf (addText (lines false message) [])) = some message
    rw [textOf_addText, lines_of_noReturn noReturn]

/-! ## The answers -/

/-- A listing of depth 1, and no question for the quota. -/
structure AsksListing (req : Request) : Prop where
  depth : req.header "Depth" = some "1"
  noQuota : JsString.includes (req.text.getD []) "quota-available-bytes" = false

/-- A listing reads as its entries exactly when every name is a text that XML can hold. The
same condition on its message decides about an error. -/
theorem davBodies_read_iff {Command : Type} {Answer : Command → Type} {Stream : Type}
    (gw : DriveGateway Command Answer Stream) :
    (∀ (req : Request) (path : JsString), AsksListing req →
      handlePropfind gw req path = statOrThrow gw path >>= fun self =>
        if self.isDir then
          gw.list path >>= fun children =>
            pure (davResponse 207 (some (listingBody path self children)) xmlHeaders)
        else pure (davResponse 207 (some (multistatus [responseXml (hrefFor path) self]))
          xmlHeaders)) ∧
    (∀ path self children, ListableDirectory path self children →
      (ListingReads path self children ↔ ∀ entry ∈ self :: children, isXmlText entry.name)) ∧
    ∀ error : GatewayError,
      (errorToResponse (.gateway error) : Response Stream).body = .text (errorBody error.message) ∧
      (ErrorReads error.message ↔ isXmlText error.message) := by
  refine ⟨?_, ?_, ?_⟩
  · intro req path asks
    exact handlePropfind_listing gw req path asks.noQuota asks.depth
  · intro path self children directory
    exact listingReads_iff directory
  · intro error
    exact ⟨errorToResponse_body error, errorReads_iff error.message⟩

def epoch : Date := ⟨some 0⟩

def rootEntry : DriveEntry := ⟨[], true, 0, epoch, none⟩

def fileNamed (name : JsString) : DriveEntry := ⟨name, false, 5, epoch, none⟩

/-- A store with one file in its root. -/
theorem oneFile_listable {name : JsString} (safe : isSafeSegment name = true) :
    ListableDirectory ['/'] rootEntry [fileNamed name] where
  path := ⟨[], rfl, fun s member => absurd member List.not_mem_nil⟩
  names := by
    intro child member
    rw [List.mem_singleton.mp member]
    exact safe
  sha1 := by
    intro entry member digest known
    simp only [List.mem_cons, List.not_mem_nil, or_false] at member
    rcases member with rfl | rfl
    · cases known
    · cases known

def listRequest : Request where
  method := "PROPFIND"
  pathname := "/"
  header := fun name => if name = ("Depth" : JsString) then some "1" else none
  body := none
  text := none

theorem markupName_reads :
    handlePropfind (sdkGateway (.plain [])) listRequest ['/'] =
      (statOrThrow (sdkGateway (.plain [])) ['/'] >>= fun self =>
        if self.isDir then
          (sdkGateway (.plain [])).list ['/'] >>= fun children =>
            pure (davResponse 207 (some (listingBody ['/'] self children)) xmlHeaders)
        else pure (davResponse 207 (some (multistatus [responseXml (hrefFor ['/']) self]))
          xmlHeaders)) ∧
    ListingReads ['/'] rootEntry [fileNamed "]]>&amp;<a href=\"x\">\t100%\n"] := by
  have answers := davBodies_read_iff (sdkGateway (.plain []))
  constructor
  · exact answers.1 listRequest ['/'] ⟨rfl, by decide⟩
  · apply (answers.2.1 ['/'] rootEntry _ (oneFile_listable (by decide))).mpr
    intro entry member
    simp only [List.mem_cons, List.not_mem_nil, or_false] at member
    rcases member with rfl | rfl
    · intro character inside
      cases inside
    · have legal : ∀ character ∈ ("]]>&amp;<a href=\"x\">\t100%\n" : JsString),
          isChar character = true := List.all_eq_true.mp rfl
      have noReturn : '\r' ∉ ("]]>&amp;<a href=\"x\">\t100%\n" : JsString) := by decide
      intro character inside
      refine ⟨legal character inside, ?_⟩
      intro isReturn
      rw [isReturn] at inside
      exact noReturn inside

/-- A name with a control character passes the check of names and spoils the listing. -/
theorem controlName_spoils : isSafeSegment ['\x01'] = true ∧
    ListableDirectory ['/'] rootEntry [fileNamed ['\x01']] ∧
    ¬ ListingReads ['/'] rootEntry [fileNamed ['\x01']] := by
  have listable : ListableDirectory ['/'] rootEntry [fileNamed ['\x01']] :=
    oneFile_listable (by decide)
  refine ⟨by decide, listable, ?_⟩
  intro reads
  have text := (listingReads_iff listable).mp reads (fileNamed ['\x01'])
    (List.mem_cons_of_mem _ List.mem_cons_self) '\x01' List.mem_cons_self
  exact absurd text.1 (by decide)

end DriveWebdav
