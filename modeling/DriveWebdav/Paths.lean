import DriveWebdav.Foundation.Text
import Mathlib.Data.List.Basic

/-! # Paths

The path helpers of the WebDAV layer. A path is text; what it means is its list
of segments, and `absolute` writes such a list back as text. -/

namespace DriveWebdav

/-- Split a path into its segments. Empty segments and `.` are dropped. -/
def segments (p : JsString) : List JsString :=
  (p.splitOn '/').filter fun s => decide (0 < s.length) && decide (s ≠ ['.'])

/-- A leading slash before segments joined by slashes. -/
def absolute (segs : List JsString) : JsString :=
  '/' :: ['/'].intercalate segs

def normalize (p : JsString) : JsString := absolute (segments p)

def isRoot (p : JsString) : Bool := (segments p).length = 0

def baseName (p : JsString) : JsString := (segments p).getLastD []

def parentPath (p : JsString) : JsString :=
  if (segments p).length = 0 then ['/'] else absolute (segments p).dropLast

def join (a b : JsString) : JsString := normalize (a ++ '/' :: b)

def isSafeSegment (name : JsString) : Bool :=
  if name.length = 0 || decide (name = ['.']) || decide (name = ['.', '.']) then
    false
  else if name.contains '/' || name.contains '\x00' then
    false
  else true

/-! ## Percent escapes -/

def hexValue (character : Char) : Option Nat :=
  let code := character.toNat
  if 0x30 ≤ code && code ≤ 0x39 then some (code - 0x30)
  else if 0x41 ≤ code && code ≤ 0x46 then some (code - 0x37)
  else if 0x61 ≤ code && code ≤ 0x66 then some (code - 0x57)
  else none

/-- Characters that stand for themselves, and bytes written as escapes. -/
def unescape : JsString → Option (List (Char ⊕ Nat))
  | [] => some []
  | '%' :: first :: second :: rest => do
      let high ← hexValue first
      let low ← hexValue second
      let others ← unescape rest
      return .inr (16 * high + low) :: others
  | '%' :: _ => none
  | character :: rest => do
      let others ← unescape rest
      return .inl character :: others

/-- How many continuation bytes follow a leading byte, and the bits it holds. -/
def leadingByte (byte : Nat) : Option (Nat × Nat) :=
  if byte < 0x80 then some (0, byte)
  else if 0xC0 ≤ byte && byte < 0xE0 then some (1, byte - 0xC0)
  else if 0xE0 ≤ byte && byte < 0xF0 then some (2, byte - 0xE0)
  else if 0xF0 ≤ byte && byte < 0xF8 then some (3, byte - 0xF0)
  else none

/-- The character of a code point that is encoded in `continuations + 1` bytes,
unless the encoding is overlong or the code point is no scalar value. -/
def scalar (continuations code : Nat) : Option Char :=
  let shortest := if code < 0x80 then 0 else if code < 0x800 then 1
    else if code < 0x10000 then 2 else 3
  if shortest = continuations && (code < 0xD800 || 0xDFFF < code) && code < 0x110000 then
    some (Char.ofNat code)
  else none

/-- Decode the escaped bytes as UTF-8. `pending` is a character whose
continuation bytes are still to come: its length, the number of bytes missing
and the bits read so far. -/
def decodeBytes : Option (Nat × Nat × Nat) → List (Char ⊕ Nat) → Option JsString
  | none, [] => some []
  | none, .inl character :: rest => do
      let others ← decodeBytes none rest
      return character :: others
  | none, .inr byte :: rest => do
      match ← leadingByte byte with
      | (0, code) =>
          let character ← scalar 0 code
          let others ← decodeBytes none rest
          return character :: others
      | (continuations, bits) =>
          decodeBytes (some (continuations, continuations, bits)) rest
  | some (continuations, missing, bits), .inr byte :: rest =>
      if 0x80 ≤ byte && byte < 0xC0 then
        let code := 64 * bits + (byte - 0x80)
        if missing ≤ 1 then do
          let character ← scalar continuations code
          let others ← decodeBytes none rest
          return character :: others
        else decodeBytes (some (continuations, missing - 1, code)) rest
      else none
  | some _, _ => none

/-- `decodeURIComponent`, which throws on a malformed escape. -/
def decodeURIComponent (p : JsString) : Option JsString :=
  (unescape p).bind (decodeBytes none)

/-- Decode a request path. What does not decode passes through unchanged. -/
def decode (p : JsString) : JsString := (decodeURIComponent p).getD p

/-- The bytes of a character in UTF-8. -/
def utf8 (character : Char) : List Nat :=
  let code := character.toNat
  if code < 0x80 then [code]
  else if code < 0x800 then [0xC0 + code / 64, 0x80 + code % 64]
  else if code < 0x10000 then
    [0xE0 + code / 4096, 0x80 + code / 64 % 64, 0x80 + code % 64]
  else
    [0xF0 + code / 262144, 0x80 + code / 4096 % 64, 0x80 + code / 64 % 64,
      0x80 + code % 64]

def hexDigit (value : Nat) : Char :=
  if value < 10 then Char.ofNat (0x30 + value) else Char.ofNat (0x37 + value)

def isUnreserved (character : Char) : Bool :=
  character.isAlphanum || ("-_.!~*'()" : JsString).contains character

def encodeURIComponent (s : JsString) : JsString :=
  s.flatMap fun character =>
    if isUnreserved character then [character]
    else (utf8 character).flatMap fun byte =>
      ['%', hexDigit (byte / 16), hexDigit (byte % 16)]

/-- Percent-encode a path for an href. The root is written `/`. -/
def encodeHref (p : JsString) : JsString :=
  let encoded := (segments p).flatMap fun s => '/' :: encodeURIComponent s
  if encoded = [] then ['/'] else encoded ++ (if p.endsWith ['/'] then ['/'] else [])

example : decode "/a%20b/%C3%A9%F0%9F%98%80" = ("/a b/é😀" : JsString) := by decide

example : encodeHref "/a b/é😀/" = ("/a%20b/%C3%A9%F0%9F%98%80/" : JsString) := by decide

/-! ## What a path means -/

/-- The pieces that `segments` yields. -/
structure IsSegment (s : JsString) : Prop where
  nonempty : s ≠ []
  notDot : s ≠ ['.']
  noSlash : '/' ∉ s

theorem isSegment_of_isSafeSegment {name : JsString} (safe : isSafeSegment name = true) :
    IsSegment name := by
  unfold isSafeSegment at safe
  split at safe
  · cases safe
  · next short =>
      split at safe
      · cases safe
      · next clean =>
          simp only [Bool.or_eq_true, decide_eq_true_eq, not_or] at short
          simp only [Bool.or_eq_true, List.contains_iff_mem, not_or] at clean
          exact ⟨fun empty => short.1.1 (by simp [empty]), short.1.2, clean.1⟩

private theorem not_mem_of_mem_splitOn {separator : Char} {text piece : JsString}
    (member : piece ∈ text.splitOn separator) : separator ∉ piece := by
  induction text generalizing piece with
  | nil =>
      simp only [List.splitOn_nil, List.mem_singleton] at member
      simp [member]
  | cons head rest induction =>
      rw [List.splitOn_cons_eq_if_modifyHead] at member
      cases pieces : rest.splitOn separator with
      | nil => exact absurd pieces (List.splitOn_ne_nil _ _)
      | cons first others =>
          simp only [pieces, List.modifyHead_cons] at member induction
          split at member
          · rcases List.mem_cons.mp member with rfl | member
            · simp
            · exact induction member
          · next different =>
              rcases List.mem_cons.mp member with rfl | member
              · have tail := induction (List.mem_cons_self (a := first))
                simp only [beq_iff_eq] at different
                simpa [List.mem_cons, tail] using fun same => different same.symm
              · exact induction (List.mem_cons_of_mem _ member)

theorem isSegment_of_mem_segments {p s : JsString} (member : s ∈ segments p) :
    IsSegment s := by
  simp only [segments, List.mem_filter, Bool.and_eq_true, decide_eq_true_eq] at member
  exact ⟨List.ne_nil_of_length_pos member.2.1, member.2.2,
    not_mem_of_mem_splitOn member.1⟩

private theorem segments_intercalate {segs : List JsString}
    (pieces : ∀ s ∈ segs, IsSegment s) :
    segments (['/'].intercalate segs) = segs := by
  cases segs with
  | nil => rfl
  | cons first rest =>
      rw [segments, List.splitOn_intercalate '/' (fun s member => (pieces s member).noSlash)
        (List.cons_ne_nil first rest)]
      apply List.filter_eq_self.mpr
      intro s member
      have piece := pieces s member
      simp [piece.notDot, List.length_pos_iff, piece.nonempty]

private theorem segments_slash (p : JsString) : segments ('/' :: p) = segments p := by
  have split := List.splitOn_append_cons_self (a := '/') [] p
  simp only [List.nil_append] at split
  simp [segments, split]

@[simp] theorem segments_root : segments ['/'] = [] := by decide

theorem segments_absolute {segs : List JsString} (pieces : ∀ s ∈ segs, IsSegment s) :
    segments (absolute segs) = segs := by
  rw [absolute, segments_slash, segments_intercalate pieces]

@[simp] theorem segments_normalize (p : JsString) : segments (normalize p) = segments p :=
  segments_absolute fun _ => isSegment_of_mem_segments

@[simp] theorem normalize_normalize (p : JsString) : normalize (normalize p) = normalize p := by
  rw [normalize, segments_normalize, normalize]

theorem normalize_eq_iff {p q : JsString} :
    normalize p = normalize q ↔ segments p = segments q := by
  constructor
  · intro equal
    rw [← segments_normalize p, equal, segments_normalize]
  · intro equal
    rw [normalize, equal, normalize]

theorem isRoot_iff {p : JsString} : isRoot p = true ↔ segments p = [] := by
  simp [isRoot]

@[simp] theorem isRoot_normalize (p : JsString) : isRoot (normalize p) = isRoot p := by
  simp [isRoot]

@[simp] theorem baseName_normalize (p : JsString) : baseName (normalize p) = baseName p := by
  simp [baseName]

theorem parentPath_eq (p : JsString) : parentPath p = absolute (segments p).dropLast := by
  unfold parentPath
  split
  · next none => simp [List.length_eq_zero_iff.mp none, absolute]
  · rfl

@[simp] theorem segments_parentPath (p : JsString) :
    segments (parentPath p) = (segments p).dropLast := by
  rw [parentPath_eq]
  exact segments_absolute fun s member =>
    isSegment_of_mem_segments (List.dropLast_subset _ member)

@[simp] theorem parentPath_normalize (p : JsString) :
    parentPath (normalize p) = parentPath p := by
  simp [parentPath_eq]

@[simp] theorem normalize_parentPath (p : JsString) :
    normalize (parentPath p) = parentPath p := by
  rw [normalize, segments_parentPath, ← parentPath_eq]

/-- A path below the root is its parent's path and its own name. -/
theorem segments_eq_concat {p : JsString} (inside : segments p ≠ []) :
    segments p = segments (parentPath p) ++ [baseName p] := by
  rw [segments_parentPath, baseName, List.getLastD_eq_getLast?,
    List.getLast?_eq_some_getLast inside, Option.getD_some, List.dropLast_concat_getLast]

theorem isSegment_baseName {p : JsString} (inside : segments p ≠ []) :
    IsSegment (baseName p) :=
  isSegment_of_mem_segments (p := p) (by rw [segments_eq_concat inside]; simp)

theorem segments_append_slash (a b : JsString) :
    segments (a ++ '/' :: b) = segments a ++ segments b := by
  simp [segments, List.splitOn_append_cons_self, List.filter_append]

theorem segments_of_isSegment {s : JsString} (piece : IsSegment s) : segments s = [s] := by
  have single : segments (['/'].intercalate [s]) = [s] :=
    segments_intercalate (by simpa using piece)
  simpa using single

theorem segments_join (a b : JsString) :
    segments (join a b) = segments a ++ segments b := by
  rw [join, segments_normalize, segments_append_slash]

/-- A path below the root is its name in its parent. -/
theorem join_parentPath_baseName {p : JsString} (inside : segments p ≠ []) :
    join (parentPath p) (baseName p) = normalize p := by
  have named := segments_of_isSegment (isSegment_baseName inside)
  rw [join, normalize_eq_iff, segments_append_slash, named]
  exact (segments_eq_concat inside).symm

/-! ## One path below another -/

theorem absolute_eq_flatMap {segs : List JsString} (inside : segs ≠ []) :
    absolute segs = segs.flatMap ('/' :: ·) := by
  induction segs with
  | nil => exact absurd rfl inside
  | cons first rest induction =>
      cases rest with
      | nil => simp [absolute]
      | cons second others =>
          have later := induction (List.cons_ne_nil _ _)
          simp only [absolute, List.flatMap_cons] at later ⊢
          rw [List.intercalate_cons_cons, ← later]
          simp

/-- A segment ends at the first slash, so two paths agree segment by segment. -/
private theorem segment_begins {s t rest : JsString} {more : List JsString}
    (sNoSlash : '/' ∉ s) (tNoSlash : '/' ∉ t) :
    s ++ '/' :: rest <+: t ++ more.flatMap ('/' :: ·) ↔
      s = t ∧ '/' :: rest <+: more.flatMap ('/' :: ·) := by
  induction s generalizing t with
  | nil =>
      cases t with
      | nil => simp
      | cons head t =>
          have different : head ≠ '/' := fun same => tNoSlash (by simp [same])
          simp [List.cons_prefix_cons, different.symm]
  | cons head s induction =>
      have headDifferent : head ≠ '/' := fun same => sNoSlash (by simp [same])
      have sRest : '/' ∉ s := fun member => sNoSlash (List.mem_cons_of_mem _ member)
      cases t with
      | nil => cases more <;> simp [List.cons_prefix_cons, headDifferent]
      | cons other t =>
          have tRest : '/' ∉ t := fun member => tNoSlash (List.mem_cons_of_mem _ member)
          simp [List.cons_prefix_cons, induction sRest tRest, and_assoc]

private theorem below_flatMap {outer inner : List JsString}
    (outerNoSlash : ∀ s ∈ outer, '/' ∉ s) (innerNoSlash : ∀ s ∈ inner, '/' ∉ s) :
    outer.flatMap ('/' :: ·) ++ ['/'] <+: inner.flatMap ('/' :: ·) ↔
      outer <+: inner ∧ outer ≠ inner := by
  induction outer generalizing inner with
  | nil => cases inner <;> simp [List.cons_prefix_cons]
  | cons s outer induction =>
      cases inner with
      | nil => simp
      | cons t inner =>
          have later := @induction inner
            (fun other member => outerNoSlash other (List.mem_cons_of_mem _ member))
            (fun other member => innerNoSlash other (List.mem_cons_of_mem _ member))
          have starts : ∃ rest, outer.flatMap ('/' :: ·) ++ ['/'] = '/' :: rest := by
            cases outer <;> simp
          rcases starts with ⟨rest, starts⟩
          have head := @segment_begins s t rest inner
            (outerNoSlash s (by simp)) (innerNoSlash t (by simp))
          simp only [List.flatMap_cons, List.cons_append, List.append_assoc,
            List.cons_prefix_cons, true_and]
          rw [starts, head, ← starts, later]
          constructor
          · rintro ⟨rfl, isPrefix, different⟩
            exact ⟨⟨rfl, isPrefix⟩, fun equal => different (List.cons.inj equal).2⟩
          · rintro ⟨⟨rfl, isPrefix⟩, different⟩
            exact ⟨rfl, isPrefix, fun equal => different (by rw [equal])⟩

/-- The textual test `d.startsWith(s + '/')` on normalized paths, the root aside. -/
theorem startsWith_slash_iff {s d : JsString} (inside : segments s ≠ []) :
    normalize s ++ ['/'] <+: normalize d ↔
      segments s <+: segments d ∧ segments s ≠ segments d := by
  have sNoSlash : ∀ piece ∈ segments s, '/' ∉ piece :=
    fun piece member => (isSegment_of_mem_segments member).noSlash
  have dNoSlash : ∀ piece ∈ segments d, '/' ∉ piece :=
    fun piece member => (isSegment_of_mem_segments member).noSlash
  cases none : segments d with
  | nil =>
      rw [normalize, normalize, none, absolute_eq_flatMap inside]
      rcases List.exists_cons_of_ne_nil inside with ⟨first, rest, shape⟩
      simp only [shape, List.flatMap_cons, absolute, List.intercalate_nil]
      constructor
      · intro isPrefix
        have short := isPrefix.length_le
        simp at short
      · intro isPrefix
        simp at isPrefix
  | cons first rest =>
      have dInside : segments d ≠ [] := by simp [none]
      rw [normalize, normalize, absolute_eq_flatMap inside, absolute_eq_flatMap dInside,
        below_flatMap sNoSlash dNoSlash, none]

/-- The test for a path that is another one or lies below it. -/
theorem movesInto_iff {s d : JsString} (inside : segments s ≠ []) :
    (decide (normalize d = normalize s) ||
        (normalize s ++ ['/']).isPrefixOf (normalize d)) = true ↔ segments s <+: segments d := by
  rw [Bool.or_eq_true, decide_eq_true_eq, List.isPrefixOf_iff_prefix,
    startsWith_slash_iff inside, normalize_eq_iff]
  constructor
  · intro into
    rcases into with equal | ⟨below, _⟩
    · exact ⟨[], by rw [List.append_nil, equal]⟩
    · exact below
  · intro below
    by_cases equal : segments d = segments s
    · exact .inl equal
    · exact .inr ⟨below, fun same => equal same.symm⟩

end DriveWebdav
