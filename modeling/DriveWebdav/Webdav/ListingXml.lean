import DriveWebdav.Foundation.Xml
import DriveWebdav.SdkGateway.Resolve
import DriveWebdav.Webdav.Href

/-! # Reading the XML answers

What a client that parses a listing, or the body of an error, gets to see. -/

namespace DriveWebdav

open Xml

/-- A text that a document can hold, and that is read back as it is. -/
def isXmlText (text : JsString) : Prop := ∀ character ∈ text, isChar character = true ∧ character ≠ '\r'

/-! ## What is to be read -/

/-- A response of a listing, as a client reads it. -/
structure ListedResponse where
  href : JsString
  displayname : JsString
  isCollection : Bool
  contentLength : Option JsString
  checksum : Option JsString
  deriving DecidableEq

def readResponse (response : List XmlNode) : Option ListedResponse := do
  let href ← childOf "d:href" response
  let propstat ← childOf "d:propstat" response
  let prop ← childOf "d:prop" propstat
  let displayname ← childOf "d:displayname" prop
  let resourcetype ← childOf "d:resourcetype" prop
  let checksums ← childOf "oc:checksums" prop
  return {
    href := textOf href
    displayname := textOf displayname
    isCollection := (childOf "d:collection" resourcetype).isSome
    contentLength := (childOf "d:getcontentlength" prop).map textOf
    checksum := (childOf "oc:checksum" checksums).map textOf }

def readListing : XmlNode → Option (List ListedResponse)
  | .element name _ children =>
      if name = ("d:multistatus" : JsString) then
        (childrenOf "d:response" children).mapM readResponse
      else none
  | .text _ => none

/-- A response says of an entry what it is. -/
structure Describes (entry : JsString × DriveEntry) (response : ListedResponse) : Prop where
  displayname : response.displayname = entry.2.name
  href : decodeURIComponent response.href = some (entry.1 ++
    slashFor (entry.2.isDir && !entry.1.endsWith ['/']))
  isCollection : response.isCollection = entry.2.isDir
  contentLength : response.contentLength =
    if entry.2.isDir then none else some (JsString.decimalNat entry.2.size)
  checksum : response.checksum =
    if entry.2.isDir then none else entry.2.sha1.map (("SHA1:" : JsString) ++ ·)

/-- The body of the answer to a listing of depth 1. -/
def listingBody (path : JsString) (self : DriveEntry) (children : List DriveEntry) : JsString :=
  multistatus (responseXml (hrefFor path) self ::
    children.map fun child => responseXml (hrefFor (join path child.name)) child)

/-- The entries of a listing, each with its path. -/
def listedEntries (path : JsString) (self : DriveEntry) (children : List DriveEntry) :
    List (JsString × DriveEntry) :=
  (path, self) :: children.map fun child => (join path child.name, child)

/-- The listing is well formed and describes its entries in order. -/
def ListingReads (path : JsString) (self : DriveEntry) (children : List DriveEntry) : Prop :=
  ∃ root responses, parse (listingBody path self children) = some root ∧
    readListing root = some responses ∧
    List.Forall₂ Describes (listedEntries path self children) responses

def errorBody (message : JsString) : JsString :=
  ("<?xml version=\"1.0\"?><d:error xmlns:d=\"DAV:\"><d:message>" : JsString) ++
    xmlText message ++ ("</d:message></d:error>" : JsString)

/-- The body of an error is well formed and holds the message. -/
def ErrorReads (message : JsString) : Prop :=
  ∃ attributes children, parse (errorBody message) =
      some (.element "d:error" attributes children) ∧
    (childOf "d:message" children).map textOf = some message

section

variable {Command : Type} {Answer : Command → Type} {Stream : Type}

/-- What a listing is answered with. -/
theorem handlePropfind_listing (gw : DriveGateway Command Answer Stream) (req : Request)
    (path : JsString) (plain : JsString.includes (req.text.getD []) "quota-available-bytes" = false)
    (depth : req.header "Depth" = some ("1" : JsString)) :
    handlePropfind gw req path = statOrThrow gw path >>= fun self =>
      if self.isDir then
        gw.list path >>= fun children =>
          pure (davResponse 207 (some (listingBody path self children)) xmlHeaders)
      else pure (davResponse 207 (some (multistatus [responseXml (hrefFor path) self])) xmlHeaders) := by
  have asked : handlePropfind gw req path =
      if JsString.includes (req.text.getD []) "quota-available-bytes" then
        gw.quota >>= fun q =>
          pure (davResponse 207 (some (quotaMultistatus path q.used q.available)) xmlHeaders)
      else
        statOrThrow gw path >>= fun self =>
          if (req.header "Depth").getD "infinity" ≠ ("0" : JsString) && self.isDir then
            gw.list path >>= fun children =>
              pure (davResponse 207 (some (listingBody path self children)) xmlHeaders)
          else
            pure (davResponse 207 (some (multistatus [responseXml (hrefFor path) self]))
              xmlHeaders) := rfl
  rw [asked, plain, depth]
  rfl

theorem errorToResponse_body (error : GatewayError) :
    (errorToResponse (.gateway error) : Response Stream).body =
      .text (errorBody error.message) := rfl

end

/-! ## Escaped text -/

variable {frame : Frame} {stack : List Frame} {text more : JsString} {afterReturn : Bool}
  {character : Char}

/-- What is written for a character is read back as that character. -/
def ReadsBack (escape : Char → JsString) : Prop :=
  ∀ character text frame stack afterReturn, isChar character = true →
    (character = '\n' && afterReturn) = false →
    (inside text frame stack afterReturn).read (escape character) =
      some (inside (text ++ [if character = '\r' then '\n' else character]) frame stack
        (character = '\r'))

theorem readsBack_self (legal : isChar character = true)
    (counts : (character = '\n' && afterReturn) = false)
    (plain : character ∉ ['&', '<', '>']) :
    (inside text frame stack afterReturn).read [character] =
      some (inside (text ++ [if character = '\r' then '\n' else character]) frame stack
        (character = '\r')) := by
  simp only [List.mem_cons, List.not_mem_nil, or_false, not_or] at plain
  rcases plain with ⟨notAmp, notLt, notGt⟩
  by_cases isReturn : character = '\r'
  · rw [isReturn]
    rfl
  · simp only [State.read, State.step, legal, counts, inside, State.advance, notLt, notAmp, notGt,
      isReturn, Bool.false_eq_true, decide_false, Bool.false_and, if_true, if_false, State.enter,
      Option.bind_some]

theorem readsBack_xmlEntity : ReadsBack xmlEntity := by
  intro character text frame stack afterReturn legal counts
  by_cases special : character ∈ ['&', '<', '>', '"']
  · simp only [List.mem_cons, List.not_mem_nil, or_false] at special
    rcases special with rfl | rfl | rfl | rfl
    · rfl
    · rfl
    · rfl
    · rfl
  · rw [xmlEntity_plain special]
    apply readsBack_self legal counts
    intro member
    exact special (List.mem_append_left ['"'] member)

/-- `xmlText` leaves quotes alone. -/
def xmlTextEntity (character : Char) : JsString :=
  (([('&', "&amp;"), ('<', "&lt;"), ('>', "&gt;")] : List (Char × JsString)).lookup
    character).getD [character]

theorem xmlTextEntity_plain (plain : character ∉ ['&', '<', '>']) :
    xmlTextEntity character = [character] := by
  simp only [List.mem_cons, List.not_mem_nil, or_false, not_or] at plain
  rcases plain with ⟨notAmp, notLt, notGt⟩
  simp only [xmlTextEntity, List.lookup_cons, List.lookup_nil, beq_eq_false_iff_ne.mpr notAmp,
    beq_eq_false_iff_ne.mpr notLt, beq_eq_false_iff_ne.mpr notGt, Option.getD_none]

theorem readsBack_xmlTextEntity : ReadsBack xmlTextEntity := by
  intro character text frame stack afterReturn legal counts
  by_cases special : character ∈ ['&', '<', '>']
  · simp only [List.mem_cons, List.not_mem_nil, or_false] at special
    rcases special with rfl | rfl | rfl
    · rfl
    · rfl
    · rfl
  · rw [xmlTextEntity_plain special]
    exact readsBack_self legal counts special

theorem read_escaped {escape : Char → JsString} (back : ReadsBack escape)
    (feed : escape '\n' = ['\n']) (legal : ∀ character ∈ more, isChar character = true) :
    ∃ after, (inside text frame stack afterReturn).read (more.flatMap escape) =
      some (inside (text ++ lines afterReturn more) frame stack after) := by
  induction more generalizing text afterReturn with
  | nil =>
      rw [List.flatMap_nil, lines, List.append_nil]
      exact ⟨afterReturn, rfl⟩
  | cons character more induction =>
      have others : ∀ other ∈ more, isChar other = true :=
        fun other member => legal other (List.mem_cons_of_mem _ member)
      rw [List.flatMap_cons, lines]
      cases counts : character = '\n' && afterReturn with
      | true =>
          simp only [Bool.and_eq_true, decide_eq_true_eq] at counts
          rcases counts with ⟨rfl, rfl⟩
          have later : ∃ after, (inside text frame stack false).read (more.flatMap escape) =
              some (inside (text ++ lines false more) frame stack after) := induction others
          rcases later with ⟨after, rest⟩
          rw [feed]
          exact ⟨after, State.read_append_of_eq rfl rest⟩
      | false =>
          have first := back character text frame stack afterReturn
            (legal character List.mem_cons_self) counts
          let written := if character = '\r' then '\n' else character
          have later : ∃ after, (inside (text ++ [written]) frame stack (character = '\r')).read
              (more.flatMap escape) =
              some (inside (text ++ [written] ++ lines (character = '\r') more) frame stack after) :=
            induction others
          rcases later with ⟨after, rest⟩
          rw [List.append_assoc] at rest
          exact ⟨after, State.read_append_of_eq first rest⟩

/-- What a document cannot hold is written as it is. -/
theorem mem_escaped {escape : Char → JsString} {character : Char} {text : JsString}
    (kept : ∀ character, character ∉ ['&', '<', '>', '"'] → escape character = [character])
    (illegal : isChar character = false) (member : character ∈ text) :
    character ∈ text.flatMap escape := by
  have markup : ∀ special ∈ ['&', '<', '>', '"'], isChar special = true := List.all_eq_true.mp rfl
  apply List.mem_flatMap.mpr
  refine ⟨character, member, ?_⟩
  rw [kept character]
  · exact List.mem_singleton_self character
  · intro special
    rw [markup character special] at illegal
    cases illegal

/-! ## Text that needs no escaping -/

theorem plain_of_all {text : JsString} (all : text.all isPlain = true) :
    ∀ character ∈ text, isPlain character = true := List.all_eq_true.mp all

theorem isPlain_of_code {character : Char} (low : 0x20 ≤ character.toNat)
    (high : character.toNat ≤ 0x7E) (notMarkup : character ∉ ['<', '&', '>']) :
    isPlain character = true := by
  simp only [List.mem_cons, List.not_mem_nil, or_false, not_or] at notMarkup
  have notReturn : character ≠ '\r' := by
    intro same
    rw [same] at low
    exact absurd low (by decide)
  have legal : isChar character = true := by
    unfold isChar
    simp only [Bool.or_eq_true, Bool.and_eq_true, decide_eq_true_eq]
    omega
  simp only [isPlain, legal, notMarkup, notReturn, ne_eq, not_false_eq_true, decide_true,
    Bool.and_self]

/-- Digits and letters are plain. -/
theorem isPlain_of_range {character : Char} (range : 48 ≤ character.toNat ∧ character.toNat ≤ 57 ∨
    65 ≤ character.toNat ∧ character.toNat ≤ 90 ∨ 97 ≤ character.toNat ∧ character.toNat ≤ 122) :
    isPlain character = true := by
  apply isPlain_of_code
  · omega
  · omega
  · intro markup
    have outside : ∀ character ∈ ['<', '&', '>'], character.toNat < 48 ∨
        57 < character.toNat ∧ character.toNat < 65 := by
      simp only [List.mem_cons, List.not_mem_nil, or_false, forall_eq_or_imp, forall_eq]
      decide
    have far := outside character markup
    omega

theorem all_plain_getD {words : List JsString} (all : ∀ word ∈ words, word.all isPlain = true)
    (index : Nat) : (words.getD index []).all isPlain = true := by
  rw [List.getD_eq_getElem?_getD]
  cases found : words[index]? with
  | none => rfl
  | some word => exact all word (List.mem_of_getElem? found)

theorem all_plain_decimalNat (value : Nat) : (JsString.decimalNat value).all isPlain = true := by
  apply List.all_eq_true.mpr
  intro character member
  have digit := Nat.isDigit_of_mem_toDigits (by decide) (by decide) member
  simp only [Char.isDigit, Bool.and_eq_true, decide_eq_true_eq, ge_iff_le, UInt32.le_iff_toNat_le]
    at digit
  exact isPlain_of_range (.inl digit)

theorem all_plain_padStart {text : JsString} (all : text.all isPlain = true) (width : Nat) :
    (JsString.padStart width text).all isPlain = true := by
  rw [JsString.padStart, List.all_append, all, Bool.and_true, List.all_eq_true]
  intro character member
  rw [List.eq_of_mem_replicate member]
  rfl

theorem all_plain_toUTCString (date : Date) : date.toUTCString.all isPlain = true := by
  unfold Date.toUTCString
  split
  · rfl
  · have digits : ∀ width value,
        (JsString.padStart width (JsString.decimalNat value)).all isPlain = true :=
      fun width value => all_plain_padStart (all_plain_decimalNat value) width
    simp only [List.all_append, Bool.and_eq_true, digits, and_true]
    refine ⟨⟨⟨⟨⟨⟨⟨⟨⟨?_, rfl⟩, rfl⟩, ?_⟩, rfl⟩, ?_⟩, rfl⟩, rfl⟩, rfl⟩, rfl⟩
    · exact all_plain_getD (by decide) _
    · exact all_plain_getD (by decide) _
    · split
      · rfl
      · rfl

theorem all_plain_sha1 {digest : JsString} (hex : isSha1 digest = true) :
    digest.all isPlain = true := by
  simp only [isSha1, Bool.and_eq_true, List.all_eq_true, Bool.or_eq_true, decide_eq_true_eq,
    JsString.isDigit] at hex
  apply List.all_eq_true.mpr
  intro character member
  apply isPlain_of_range
  have range := hex.2 character member
  omega

theorem isPlain_of_unreserved {character : Char} (unreserved : isUnreserved character = true) :
    isPlain character = true := by
  have marks : ∀ mark ∈ ("-_.!~*'()" : JsString), isPlain mark = true := List.all_eq_true.mp rfl
  simp only [isUnreserved, Bool.or_eq_true, List.contains_iff_mem] at unreserved
  rcases unreserved with alphanumeric | mark
  · apply isPlain_of_range
    rcases (Bool.or_eq_true _ _).mp alphanumeric with letter | digit
    · rcases (Bool.or_eq_true _ _).mp letter with upper | lower
      · have bounds : 'A'.val ≤ character.val ∧ character.val ≤ 'Z'.val := of_decide_eq_true upper
        exact .inr (.inl bounds)
      · have bounds := (Bool.and_eq_true _ _).mp lower
        exact .inr (.inr ⟨of_decide_eq_true bounds.1, of_decide_eq_true bounds.2⟩)
    · have bounds := (Bool.and_eq_true _ _).mp digit
      exact .inl ⟨of_decide_eq_true bounds.1, of_decide_eq_true bounds.2⟩
  · exact marks character mark

theorem all_plain_advertisedHref {segs : List JsString} (pieces : ∀ s ∈ segs, IsSegment s)
    (isDir : Bool) : (advertisedHref (absolute segs) isDir).all isPlain = true := by
  by_cases inside : segs = []
  · rw [inside, advertisedHref_root]
    rfl
  · rw [advertisedHref_absolute pieces inside, List.all_append, Bool.and_eq_true]
    constructor
    · apply List.all_eq_true.mpr
      intro character member
      rcases List.mem_flatMap.mp member with ⟨s, _, member⟩
      rcases List.mem_cons.mp member with rfl | member
      · rfl
      · rcases unreserved_of_mem_encode member with unreserved | rfl
        · exact isPlain_of_unreserved unreserved
        · rfl
    · cases isDir with
      | false => rfl
      | true => rfl

/-! ## One response -/

private def leaf (name text : JsString) : XmlNode := .element name [] (addText text [])

/-- The properties that are written before the length. -/
private def datedNodes (name date : JsString) : List XmlNode :=
  [.text "\n    ", leaf "d:displayname" name, .text "\n    ", leaf "d:getlastmodified" date]

private def lengthNodes (entry : DriveEntry) : List XmlNode :=
  if entry.isDir then [.text "\n    \n    "]
  else [.text "\n    ", leaf "d:getcontentlength" (JsString.decimalNat entry.size), .text "\n    "]

private def checksumNodes (entry : DriveEntry) : List XmlNode :=
  match entry.isDir, entry.sha1 with
  | false, some digest => [.element "oc:checksum" [] [.text (("SHA1:" : JsString) ++ digest)]]
  | _, _ => []

private def propNodes (name : JsString) (entry : DriveEntry) : List XmlNode :=
  datedNodes name (httpDate entry.mtime) ++ lengthNodes entry ++
    [.element "d:resourcetype" [] (if entry.isDir then [.element "d:collection" [] []] else [])] ++
    [.text "\n    ", .element "oc:checksums" [] (checksumNodes entry),
      .text "\n    ", leaf "oc:permissions" "RDNVW", .text "\n   "]

private def hrefNodes (href : JsString) : List XmlNode :=
  [.text "\n  ", leaf "d:href" href, .text "\n  "]

private def responseNodes (href name : JsString) (entry : DriveEntry) : List XmlNode :=
  hrefNodes href ++
    [.element "d:propstat" [] [.text "\n   ", .element "d:prop" [] (propNodes name entry),
      .text "\n   ", leaf "d:status" "HTTP/1.1 200 OK", .text "\n  "],
    .text "\n "]

/-- What the response of an entry reads as. -/
def seen (href : JsString) (entry : DriveEntry) : ListedResponse where
  href := href
  displayname := lines false entry.name
  isCollection := entry.isDir
  contentLength := if entry.isDir then none else some (JsString.decimalNat entry.size)
  checksum := if entry.isDir then none else entry.sha1.map (("SHA1:" : JsString) ++ ·)

private theorem readResponse_nodes (href : JsString) (entry : DriveEntry) :
    readResponse (responseNodes href (lines false entry.name) entry) = some (seen href entry) := by
  rcases entry with ⟨name, isDir, size, mtime, sha1⟩
  have located := textOf_addText href
  have named := textOf_addText (lines false name)
  have sized := textOf_addText (JsString.decimalNat size)
  cases isDir with
  | true =>
      change some (ListedResponse.mk (textOf (addText href []))
        (textOf (addText (lines false name) [])) true none none) = _
      rw [located, named]
      rfl
  | false =>
      cases sha1 with
      | none =>
          change some (ListedResponse.mk (textOf (addText href []))
            (textOf (addText (lines false name) [])) false
            (some (textOf (addText (JsString.decimalNat size) []))) none) = _
          rw [located, named, sized]
          rfl
      | some digest =>
          change some (ListedResponse.mk (textOf (addText href []))
            (textOf (addText (lines false name) [])) false
            (some (textOf (addText (JsString.decimalNat size) [])))
            (some (("SHA1:" : JsString) ++ digest ++ []))) = _
          rw [located, named, sized, List.append_nil]
          rfl

private def datedXml (href : JsString) (entry : DriveEntry) : JsString :=
  ("<d:response>\n  <d:href>" : JsString) ++ href ++
    ("</d:href>\n  <d:propstat>\n   <d:prop>\n    <d:displayname>" : JsString) ++
    xmlEscape entry.name ++
    ("</d:displayname>\n    <d:getlastmodified>" : JsString) ++ httpDate entry.mtime ++
    ("</d:getlastmodified>\n    " : JsString)

private def lengthXml (entry : DriveEntry) : JsString :=
  if entry.isDir then ""
  else ("<d:getcontentlength>" : JsString) ++ JsString.decimalNat entry.size ++
    ("</d:getcontentlength>" : JsString)

private def checksumXml (entry : DriveEntry) : JsString :=
  match entry.isDir, entry.sha1 with
  | false, some (first :: digest) =>
      ("<oc:checksums><oc:checksum>SHA1:" : JsString) ++ (first :: digest) ++
        ("</oc:checksum></oc:checksums>" : JsString)
  | _, _ => "<oc:checksums/>"

private theorem append_pairs (a b c d e f g h : JsString) :
    a ++ b ++ c ++ d ++ e ++ f ++ g ++ h = a ++ (b ++ c) ++ (d ++ e) ++ (f ++ g) ++ h := by
  simp only [List.append_assoc]

private theorem responseXml_pieces (path : JsString) (entry : DriveEntry) :
    responseXml path entry = datedXml (xmlEscape (advertisedHref path entry.isDir)) entry ++
      (lengthXml entry ++ ("\n    <d:resourcetype>" : JsString)) ++
      ((if entry.isDir then ("<d:collection/>" : JsString) else ("" : JsString)) ++
        ("</d:resourcetype>\n    " : JsString)) ++
      (checksumXml entry ++
        ("\n    <oc:permissions>RDNVW</oc:permissions>\n   </d:prop>\n" : JsString)) ++
      ("   <d:status>HTTP/1.1 200 OK</d:status>\n  </d:propstat>\n </d:response>" : JsString) := by
  unfold responseXml
  exact append_pairs ..

private def hrefFrame (href : JsString) : Frame := ⟨"d:response", [], hrefNodes href⟩

private def propstatFrame : Frame := ⟨"d:propstat", [], [.text "\n   "]⟩

private theorem read_dated {href : JsString} {entry : DriveEntry}
    (plain : ∀ character ∈ href, isPlain character = true)
    (legal : ∀ character ∈ entry.name, isChar character = true) :
    (inside text frame stack false).read (datedXml href entry) =
      some (inside "\n    "
        ⟨"d:prop", [], datedNodes (lines false entry.name) (httpDate entry.mtime)⟩
        (propstatFrame :: hrefFrame href ::
          { frame with children := addText text frame.children } :: stack) false) := by
  let outer := { frame with children := addText text frame.children } :: stack
  have opened : (inside text frame stack false).read "<d:response>\n  <d:href>" =
      some (inside [] ⟨"d:href", [], []⟩ (⟨"d:response", [], [.text "\n  "]⟩ :: outer) false) :=
    rfl
  have located := State.read_append_of_eq opened (read_plain plain)
  have between : (inside ([] ++ href) ⟨"d:href", [], []⟩
      (⟨"d:response", [], [.text "\n  "]⟩ :: outer) false).read
        "</d:href>\n  <d:propstat>\n   <d:prop>\n    <d:displayname>" =
      some (inside [] ⟨"d:displayname", [], []⟩ (⟨"d:prop", [], [.text "\n    "]⟩ ::
        propstatFrame :: hrefFrame href :: outer) false) := rfl
  have naming := State.read_append_of_eq located between
  have escaped : ∃ after, (inside [] ⟨"d:displayname", [], []⟩
      (⟨"d:prop", [], [.text "\n    "]⟩ :: propstatFrame :: hrefFrame href :: outer) false).read
        (xmlEscape entry.name) =
      some (inside ([] ++ lines false entry.name) ⟨"d:displayname", [], []⟩
        (⟨"d:prop", [], [.text "\n    "]⟩ :: propstatFrame :: hrefFrame href :: outer) after) :=
    read_escaped readsBack_xmlEntity rfl legal
  rcases escaped with ⟨after, escaped⟩
  have named := State.read_append_of_eq naming escaped
  have dating : (inside ([] ++ lines false entry.name) ⟨"d:displayname", [], []⟩
      (⟨"d:prop", [], [.text "\n    "]⟩ :: propstatFrame :: hrefFrame href :: outer) after).read
        "</d:displayname>\n    <d:getlastmodified>" =
      some (inside [] ⟨"d:getlastmodified", [], []⟩ (⟨"d:prop", [], [.text "\n    ",
        leaf "d:displayname" (lines false entry.name), .text "\n    "]⟩ ::
        propstatFrame :: hrefFrame href :: outer) false) := rfl
  have dated := State.read_append_of_eq (State.read_append_of_eq named dating)
    (read_plain (plain_of_all (all_plain_toUTCString entry.mtime)))
  exact State.read_append_of_eq dated rfl

/-- Inside the properties. -/
private def inProp (text : JsString) (nodes : List XmlNode) (href : JsString) (outer : List Frame) :
    State :=
  inside text ⟨"d:prop", [], nodes⟩ (propstatFrame :: hrefFrame href :: outer) false

private theorem read_length {entry : DriveEntry} {name href : JsString} {outer : List Frame} :
    (inProp "\n    " (datedNodes name (httpDate entry.mtime)) href outer).read
      (lengthXml entry ++ ("\n    <d:resourcetype>" : JsString)) =
      some (inside [] ⟨"d:resourcetype", [], []⟩ (⟨"d:prop", [],
        datedNodes name (httpDate entry.mtime) ++ lengthNodes entry⟩ ::
        propstatFrame :: hrefFrame href :: outer) false) := by
  rcases entry with ⟨title, isDir, size, mtime, sha1⟩
  cases isDir with
  | true => rfl
  | false =>
      have opened : (inProp "\n    " (datedNodes name (httpDate mtime)) href outer).read
          "<d:getcontentlength>" =
          some (inside [] ⟨"d:getcontentlength", [], []⟩ (⟨"d:prop", [],
            datedNodes name (httpDate mtime) ++ [.text "\n    "]⟩ ::
            propstatFrame :: hrefFrame href :: outer) false) := rfl
      have sized := State.read_append_of_eq opened
        (read_plain (plain_of_all (all_plain_decimalNat size)))
      exact State.read_append_of_eq (State.read_append_of_eq sized rfl) rfl

private theorem read_type (isDir : Bool) {nodes : List XmlNode} {href : JsString}
    {outer : List Frame} :
    (inside [] ⟨"d:resourcetype", [], []⟩ (⟨"d:prop", [], nodes⟩ ::
      propstatFrame :: hrefFrame href :: outer) false).read
      ((if isDir then ("<d:collection/>" : JsString) else ("" : JsString)) ++
        ("</d:resourcetype>\n    " : JsString)) =
      some (inProp "\n    " (nodes ++ [.element "d:resourcetype" []
        (if isDir then [.element "d:collection" [] []] else [])]) href outer) := by
  cases isDir with
  | true => rfl
  | false => rfl

private theorem read_checksum {entry : DriveEntry} {nodes : List XmlNode} {href : JsString}
    {outer : List Frame} (hex : ∀ digest, entry.sha1 = some digest → isSha1 digest = true) :
    (inProp "\n    " nodes href outer).read (checksumXml entry ++
      ("\n    <oc:permissions>RDNVW</oc:permissions>\n   </d:prop>\n" : JsString)) =
      some (inside "\n" ⟨"d:propstat", [], [.text "\n   ", .element "d:prop" [] (nodes ++
        [.text "\n    ", .element "oc:checksums" [] (checksumNodes entry), .text "\n    ",
          leaf "oc:permissions" "RDNVW", .text "\n   "])]⟩ (hrefFrame href :: outer) false) := by
  have summed : (inProp "\n    " nodes href outer).read (checksumXml entry) =
      some (inProp [] (nodes ++ [.text "\n    ", .element "oc:checksums" [] (checksumNodes entry)])
        href outer) := by
    rw [List.append_cons]
    rcases entry with ⟨title, isDir, size, mtime, sha1⟩
    cases isDir with
    | true => cases sha1 <;> rfl
    | false =>
        cases sha1 with
        | none => rfl
        | some digest =>
            have plain := plain_of_all (all_plain_sha1 (hex digest rfl))
            cases digest with
            | nil => exact absurd (hex [] rfl) (by decide)
            | cons first digest =>
                have opened : (inProp "\n    " nodes href outer).read
                    "<oc:checksums><oc:checksum>SHA1:" =
                    some (inside "SHA1:" ⟨"oc:checksum", [], []⟩ (⟨"oc:checksums", [], []⟩ ::
                      ⟨"d:prop", [], nodes ++ [.text "\n    "]⟩ ::
                      propstatFrame :: hrefFrame href :: outer) false) := rfl
                exact State.read_append_of_eq (State.read_append_of_eq opened (read_plain plain)) rfl
  have shape : nodes ++ [.text "\n    ", .element "oc:checksums" [] (checksumNodes entry),
      .text "\n    ", leaf "oc:permissions" "RDNVW", .text "\n   "] =
      nodes ++ [.text "\n    ", .element "oc:checksums" [] (checksumNodes entry)] ++
        [.text "\n    "] ++ [leaf "oc:permissions" "RDNVW"] ++ [.text "\n   "] := by
    simp only [List.append_assoc, List.cons_append, List.nil_append]
  rw [shape]
  exact State.read_append_of_eq summed rfl

private theorem read_status {nodes : List XmlNode} {href : JsString} :
    (inside "\n" ⟨"d:propstat", [], [.text "\n   ", .element "d:prop" [] nodes]⟩
      (hrefFrame href :: frame :: stack) false).read
      "   <d:status>HTTP/1.1 200 OK</d:status>\n  </d:propstat>\n </d:response>" =
      some (inside [] { frame with children := frame.children ++ [.element "d:response" []
        (hrefNodes href ++ [.element "d:propstat" [] [.text "\n   ", .element "d:prop" [] nodes,
          .text "\n   ", leaf "d:status" "HTTP/1.1 200 OK", .text "\n  "], .text "\n "])] }
        stack false) := by
  have said : (inside "\n" ⟨"d:propstat", [], [.text "\n   ", .element "d:prop" [] nodes]⟩
      (hrefFrame href :: frame :: stack) false).read
      "   <d:status>HTTP/1.1 200 OK</d:status>" =
      some (inside [] ⟨"d:propstat", [], [.text "\n   ", .element "d:prop" [] nodes, .text "\n   ",
        leaf "d:status" "HTTP/1.1 200 OK"]⟩ (hrefFrame href :: frame :: stack) false) := rfl
  have closed : (inside [] ⟨"d:propstat", [], [.text "\n   ", .element "d:prop" [] nodes,
      .text "\n   ", leaf "d:status" "HTTP/1.1 200 OK"]⟩ (hrefFrame href :: frame :: stack)
      false).read "\n  </d:propstat>\n </d:response>" = some _ := rfl
  exact State.read_append_of_eq said closed

private theorem read_response {path : JsString} {entry : DriveEntry}
    (plain : ∀ character ∈ advertisedHref path entry.isDir, isPlain character = true)
    (same : xmlEscape (advertisedHref path entry.isDir) = advertisedHref path entry.isDir)
    (legal : ∀ character ∈ entry.name, isChar character = true)
    (hex : ∀ digest, entry.sha1 = some digest → isSha1 digest = true) :
    Writes (responseXml path entry) (.element "d:response" [] (responseNodes
      (advertisedHref path entry.isDir) (lines false entry.name) entry)) := by
  intro text frame stack
  rw [responseXml_pieces, same]
  have dated : (inside text frame stack false).read
      (datedXml (advertisedHref path entry.isDir) entry) = _ := read_dated plain legal
  have typed := State.read_append_of_eq (State.read_append_of_eq dated read_length)
    (read_type entry.isDir)
  have summed := State.read_append_of_eq typed (read_checksum hex)
  exact State.read_append_of_eq summed read_status

theorem response_reads {path : JsString} {entry : DriveEntry}
    (plain : ∀ character ∈ advertisedHref path entry.isDir, isPlain character = true)
    (same : xmlEscape (advertisedHref path entry.isDir) = advertisedHref path entry.isDir)
    (legal : ∀ character ∈ entry.name, isChar character = true)
    (hex : ∀ digest, entry.sha1 = some digest → isSha1 digest = true) :
    ∃ response, Writes (responseXml path entry) (.element "d:response" [] response) ∧
      readResponse response = some (seen (advertisedHref path entry.isDir) entry) :=
  ⟨_, read_response plain same legal hex, readResponse_nodes _ _⟩

end DriveWebdav
