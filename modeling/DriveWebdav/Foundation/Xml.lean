import DriveWebdav.Foundation.Text

/-! # XML documents

A reader for the part of XML 1.0 that has elements, attributes, character data and
references to the predefined entities. A document that is not well formed is rejected, and
so is one outside this part. Line ends are normalized as they are read. -/

namespace DriveWebdav

inductive XmlNode
  | element (name : JsString) (attributes : List (JsString × JsString)) (children : List XmlNode)
  | text (value : JsString)

namespace Xml

/-- The characters that a document may hold. -/
def isChar (character : Char) : Bool :=
  let code := character.toNat
  code = 0x09 || code = 0x0A || code = 0x0D || (0x20 ≤ code && code ≤ 0xD7FF) ||
    (0xE000 ≤ code && code ≤ 0xFFFD) || 0x10000 ≤ code

def isSpace (character : Char) : Bool :=
  character = ' ' || character = '\t' || character = '\n'

def isNameStart (character : Char) : Bool :=
  character.isAlpha || character = '_' || character = ':'

def isNameChar (character : Char) : Bool :=
  isNameStart character || character.isDigit || character = '-' || character = '.'

/-- The predefined entities. -/
def entity (name : JsString) : Option Char :=
  if name = ("amp" : JsString) then some '&'
  else if name = ("lt" : JsString) then some '<'
  else if name = ("gt" : JsString) then some '>'
  else if name = ("quot" : JsString) then some '"'
  else if name = ("apos" : JsString) then some '\''
  else none

/-- A run of text becomes a node, unless it is empty. -/
def addText (text : JsString) (children : List XmlNode) : List XmlNode :=
  if text = [] then children else children ++ [.text text]

/-- An element that has been opened and not closed. -/
structure Frame where
  name : JsString
  attributes : List (JsString × JsString)
  children : List XmlNode

/-- What has been read of the markup at hand. -/
inductive Mode
  | content (text : JsString)
  | reference (text name : JsString)
  | tag
  | startName (name : JsString)
  | attributes (name : JsString) (attributes : List (JsString × JsString))
  | attributeName (name : JsString) (attributes : List (JsString × JsString)) (key : JsString)
  | attributeQuote (name : JsString) (attributes : List (JsString × JsString)) (key : JsString)
  | attributeValue (name : JsString) (attributes : List (JsString × JsString)) (key : JsString)
      (quote : Char) (value : JsString)
  | attributeEnd (name : JsString) (attributes : List (JsString × JsString))
  | emptyTag (name : JsString) (attributes : List (JsString × JsString))
  | endName (name : JsString)

structure State where
  mode : Mode
  stack : List Frame
  root : Option XmlNode
  afterReturn : Bool

namespace State

def enter (mode : Mode) (state : State) : State := { state with mode }

/-- Outside the root there is only white space. -/
def flush (text : JsString) (state : State) : Option State :=
  match state.stack with
  | [] => if text.all isSpace then some state else none
  | frame :: stack =>
      some { state with stack := { frame with children := addText text frame.children } :: stack }

def push (name : JsString) (attributes : List (JsString × JsString)) (state : State) :
    Option State :=
  match state.stack, state.root with
  | [], some _ => none
  | stack, _ => some { state with mode := .content [], stack := ⟨name, attributes, []⟩ :: stack }

/-- An element is complete. -/
def add (node : XmlNode) (state : State) : Option State :=
  match state.stack, state.root with
  | [], some _ => none
  | [], none => some { state with mode := .content [], root := some node }
  | frame :: stack, _ =>
      some { state with
        mode := .content []
        stack := { frame with children := frame.children ++ [node] } :: stack }

def pop (name : JsString) (state : State) : Option State :=
  match state.stack with
  | [] => none
  | frame :: stack =>
      if frame.name = name then
        { state with stack }.add (.element name frame.attributes frame.children)
      else none

/-- After the name of an element or an attribute. -/
def inTag (name : JsString) (attributes : List (JsString × JsString)) (character : Char)
    (state : State) : Option State :=
  if character = '>' then state.push name attributes
  else if character = '/' then some (state.enter (.emptyTag name attributes))
  else if isSpace character then some (state.enter (.attributes name attributes))
  else none

def advance (character : Char) (state : State) : Option State :=
  match state.mode with
  | .content text =>
      if character = '<' then (state.flush text).map (·.enter .tag)
      else if character = '&' then
        if state.stack.isEmpty then none else some (state.enter (.reference text []))
      else if character = '>' && text.endsWith (("]]" : JsString)) then none
      else some (state.enter (.content (text ++ [character])))
  | .reference text name =>
      if character = ';' then
        (entity name).map fun named => state.enter (.content (text ++ [named]))
      else some (state.enter (.reference text (name ++ [character])))
  | .tag =>
      if character = '/' then some (state.enter (.endName []))
      else if isNameStart character then some (state.enter (.startName [character]))
      else none
  | .startName name =>
      if isNameChar character then some (state.enter (.startName (name ++ [character])))
      else state.inTag name [] character
  | .attributes name attributes =>
      if isNameStart character then
        some (state.enter (.attributeName name attributes [character]))
      else state.inTag name attributes character
  | .attributeName name attributes key =>
      if isNameChar character then
        some (state.enter (.attributeName name attributes (key ++ [character])))
      else if character = '=' then some (state.enter (.attributeQuote name attributes key))
      else none
  | .attributeQuote name attributes key =>
      if character = '"' || character = '\'' then
        some (state.enter (.attributeValue name attributes key character []))
      else none
  | .attributeValue name attributes key quote value =>
      if character = quote then
        if key ∈ attributes.map Prod.fst then none
        else some (state.enter (.attributeEnd name (attributes ++ [(key, value)])))
      else if character = '<' || character = '&' then none
      else some (state.enter
        (.attributeValue name attributes key quote (value ++ [character])))
  | .attributeEnd name attributes => state.inTag name attributes character
  | .emptyTag name attributes =>
      if character = '>' then state.add (.element name attributes []) else none
  | .endName name =>
      if character = '>' then state.pop name
      else if isNameChar character then some (state.enter (.endName (name ++ [character])))
      else none

/-- A carriage return counts as a line feed, together with a line feed after it. -/
def step (character : Char) (state : State) : Option State :=
  if isChar character then
    if character = '\n' && state.afterReturn then some { state with afterReturn := false }
    else
      advance (if character = '\r' then '\n' else character)
        { state with afterReturn := character = '\r' }
  else none

def read (state : State) : JsString → Option State
  | [] => some state
  | character :: rest => (state.step character).bind fun next => next.read rest

end State

def declarations : List JsString :=
  ["<?xml version=\"1.0\" encoding=\"utf-8\"?>", "<?xml version=\"1.0\"?>"]

/-- What follows the XML declaration. -/
def afterDeclaration (text : JsString) : JsString :=
  match declarations.find? fun declaration => declaration.isPrefixOf text with
  | some declaration => text.drop declaration.length
  | none => text

/-- The document element of a well-formed document. -/
def parse (text : JsString) : Option XmlNode :=
  match State.read ⟨.content [], [], none, false⟩ (afterDeclaration text) with
  | some ⟨.content text, [], some root, _⟩ => if text.all isSpace then some root else none
  | _ => none

/-- The character data right below an element. -/
def textOf (children : List XmlNode) : JsString :=
  children.flatMap fun child =>
    match child with
    | .text value => value
    | .element _ _ _ => []

/-- The children of the first element of a name. -/
def childOf (name : JsString) (children : List XmlNode) : Option (List XmlNode) :=
  children.findSome? fun child =>
    match child with
    | .element other _ below => if other = name then some below else none
    | .text _ => none

/-- The children of every element of a name. -/
def childrenOf (name : JsString) (children : List XmlNode) : List (List XmlNode) :=
  children.filterMap fun child =>
    match child with
    | .element other _ below => if other = name then some below else none
    | .text _ => none

/-! ## Reading text -/

theorem State.read_append (state : State) (first second : JsString) :
    state.read (first ++ second) = (state.read first).bind fun next => next.read second := by
  induction first generalizing state with
  | nil => rfl
  | cons character first induction =>
      simp only [List.cons_append, State.read]
      cases state.step character with
      | none => rfl
      | some next => exact induction next

theorem State.read_append_of_eq {state middle final : State} {first second : JsString}
    (left : state.read first = some middle) (right : middle.read second = some final) :
    state.read (first ++ second) = some final := by
  rw [State.read_append, left]
  exact right

/-- A document that is read has only characters that documents may hold. -/
theorem State.isChar_of_read {state final : State} {text : JsString}
    (reads : state.read text = some final) {character : Char} (member : character ∈ text) :
    isChar character = true := by
  induction text generalizing state with
  | nil => cases member
  | cons first text induction =>
      simp only [State.read, Option.bind_eq_some_iff] at reads
      rcases reads with ⟨next, stepped, reads⟩
      rcases List.mem_cons.mp member with rfl | member
      · simp only [State.step, Option.ite_none_right_eq_some] at stepped
        exact stepped.1
      · exact induction reads member

theorem isChar_of_parse {text : JsString} {root : XmlNode} (parsed : parse text = some root)
    {character : Char} (member : character ∈ afterDeclaration text) : isChar character = true := by
  rw [parse] at parsed
  split at parsed
  · next reads => exact State.isChar_of_read reads member
  · cases parsed

/-- In the content of an element. -/
def inside (text : JsString) (frame : Frame) (stack : List Frame) (afterReturn : Bool) : State :=
  ⟨.content text, frame :: stack, none, afterReturn⟩

/-- A text with its line ends normalized. -/
def lines : Bool → JsString → JsString
  | _, [] => []
  | afterReturn, character :: rest =>
      if character = '\n' && afterReturn then lines false rest
      else (if character = '\r' then '\n' else character) :: lines (character = '\r') rest

theorem lines_of_noReturn {text : JsString} (none : '\r' ∉ text) : lines false text = text := by
  induction text with
  | nil => rfl
  | cons character text induction =>
      have different : character ≠ '\r' := fun same => none (by rw [same]; exact List.mem_cons_self)
      have rest := induction fun member => none (List.mem_cons_of_mem _ member)
      rw [lines, Bool.and_false, if_neg Bool.false_ne_true, if_neg different,
        decide_eq_false different, rest]

theorem noReturn_lines (afterReturn : Bool) (text : JsString) : '\r' ∉ lines afterReturn text := by
  induction text generalizing afterReturn with
  | nil => exact List.not_mem_nil
  | cons character text induction =>
      rw [lines]
      split
      · exact induction false
      · intro member
        rcases List.mem_cons.mp member with same | member
        · split at same
          · cases same
          · next different => exact different same.symm
        · exact induction _ member

/-- The characters that stand for themselves in content. -/
def isPlain (character : Char) : Bool :=
  isChar character && character ≠ '<' && character ≠ '&' && character ≠ '>' && character ≠ '\r'

variable {frame : Frame} {stack : List Frame} {text more : JsString} {afterReturn : Bool}
  {character : Char}

theorem read_plain (plain : ∀ character ∈ more, isPlain character = true) :
    (inside text frame stack false).read more = some (inside (text ++ more) frame stack false) := by
  induction more generalizing text with
  | nil =>
      rw [List.append_nil]
      rfl
  | cons character more induction =>
      have here := plain character List.mem_cons_self
      simp only [isPlain, Bool.and_eq_true, decide_eq_true_eq, ne_eq] at here
      rcases here with ⟨⟨⟨⟨legal, notLt⟩, notAmp⟩, notGt⟩, notReturn⟩
      have stepped : (inside text frame stack false).step character =
          some (inside (text ++ [character]) frame stack false) := by
        simp only [State.step, legal, inside, State.advance, notLt, notAmp, notGt, notReturn,
          Bool.and_false, Bool.false_eq_true, decide_false, Bool.false_and, if_true, if_false,
          State.enter]
      rw [State.read, stepped]
      have rest : (inside (text ++ [character]) frame stack false).read more =
          some (inside (text ++ [character] ++ more) frame stack false) :=
        induction fun other member => plain other (List.mem_cons_of_mem _ member)
      rw [List.append_assoc] at rest
      exact rest

/-- Wherever a piece of markup stands in content, it adds one node. -/
def Writes (markup : JsString) (node : XmlNode) : Prop :=
  ∀ text frame stack, (inside text frame stack false).read markup =
    some (inside [] { frame with children := addText text frame.children ++ [node] } stack false)

theorem childrenOf_addText (name text : JsString) (children : List XmlNode) :
    childrenOf name (addText text children) = childrenOf name children := by
  unfold addText
  split
  · rfl
  · rw [childrenOf, List.filterMap_append]
    exact List.append_nil _

theorem childrenOf_append (name : JsString) (first second : List XmlNode) :
    childrenOf name (first ++ second) = childrenOf name first ++ childrenOf name second :=
  List.filterMap_append

theorem textOf_addText (text : JsString) : textOf (addText text []) = text := by
  unfold addText
  split
  · next empty => exact empty.symm
  · exact List.append_nil text

end Xml

end DriveWebdav
