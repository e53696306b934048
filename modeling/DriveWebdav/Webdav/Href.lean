import DriveWebdav.Webdav.Handlers

/-! # Hrefs

The href that a listing advertises for a path leads back to that path, whether it is
requested or named as a destination. -/

namespace DriveWebdav

variable {character : Char} {text rest : JsString}

/-! ## Escapes are read back -/

theorem hexValue_hexDigit {value : Nat} (small : value < 16) :
    hexValue (hexDigit value) = some value := by
  have all : ∀ value : Fin 16, hexValue (hexDigit value) = some value.val := by decide
  exact all ⟨value, small⟩

theorem unescape_plain (plain : character ≠ '%') :
    unescape (character :: rest) = (unescape rest).map (.inl character :: ·) := by
  rw [unescape]
  · cases unescape rest <;> rfl
  · intro first second others equal
    exact absurd equal plain
  · intro equal
    exact absurd equal plain

theorem unescape_escape {byte : Nat} (small : byte < 256) :
    unescape ('%' :: hexDigit (byte / 16) :: hexDigit (byte % 16) :: rest) =
      (unescape rest).map (.inr byte :: ·) := by
  have whole : 16 * (byte / 16) + byte % 16 = byte := by omega
  rw [unescape, hexValue_hexDigit (by omega), hexValue_hexDigit (by omega)]
  cases unescape rest with
  | none => rfl
  | some others =>
      change some (_ :: others) = _
      rw [whole]
      rfl

theorem unescape_escapes {bytes : List Nat} (small : ∀ byte ∈ bytes, byte < 256) :
    unescape (bytes.flatMap (fun byte => ['%', hexDigit (byte / 16), hexDigit (byte % 16)]) ++ rest) =
      (unescape rest).map (bytes.map .inr ++ ·) := by
  induction bytes with
  | nil => simp
  | cons byte bytes induction =>
      simp only [List.flatMap_cons, List.cons_append, List.nil_append]
      rw [unescape_escape (small byte List.mem_cons_self),
        induction fun other member => small other (List.mem_cons_of_mem _ member), Option.map_map]
      rfl

theorem isScalar (character : Char) : (character.toNat < 0xD800 ∨ 0xDFFF < character.toNat) ∧
    character.toNat < 0x110000 := by
  have valid := character.valid
  simp only [UInt32.isValidChar, Nat.isValidChar] at valid
  change _ ∨ _ at valid
  have same : character.val.toNat = character.toNat := rfl
  omega

theorem utf8_small (byte : Nat) (member : byte ∈ utf8 character) : byte < 256 := by
  have bound := isScalar character
  unfold utf8 at member
  simp only at member
  split at member
  · simp only [List.mem_singleton] at member
    omega
  · split at member
    · simp only [List.mem_cons, List.not_mem_nil, or_false] at member
      omega
    · split at member
      · simp only [List.mem_cons, List.not_mem_nil, or_false] at member
        omega
      · simp only [List.mem_cons, List.not_mem_nil, or_false] at member
        omega

theorem scalar_toNat {continuations : Nat}
    (shortest : (if character.toNat < 0x80 then 0 else if character.toNat < 0x800 then 1
      else if character.toNat < 0x10000 then 2 else 3) = continuations) :
    scalar continuations character.toNat = some character := by
  have bound := isScalar character
  unfold scalar
  rw [shortest]
  have valid : (decide (continuations = continuations) &&
      (decide (character.toNat < 0xD800) || decide (0xDFFF < character.toNat)) &&
      decide (character.toNat < 0x110000)) = true := by
    simp only [decide_true, Bool.true_and, Bool.and_eq_true, Bool.or_eq_true, decide_eq_true_eq]
    exact bound
  rw [if_pos valid, Char.ofNat_toNat]

variable {others : List (Char ⊕ Nat)}

/-- One continuation byte: the code so far takes six more bits. -/
theorem decodeBytes_continue {continuations missing bits low : Nat} (small : low < 64)
    (more : 1 < missing) :
    decodeBytes (some (continuations, missing, bits)) (.inr (0x80 + low) :: others) =
      decodeBytes (some (continuations, missing - 1, 64 * bits + low)) others := by
  rw [decodeBytes, if_pos, if_neg]
  · rw [Nat.add_sub_cancel_left]
  · omega
  · simp only [Bool.and_eq_true, decide_eq_true_eq]
    omega

theorem decodeBytes_last {continuations bits low : Nat} (small : low < 64)
    (complete : scalar continuations (64 * bits + low) = some character) :
    decodeBytes (some (continuations, 1, bits)) (.inr (0x80 + low) :: others) =
      (decodeBytes none others).map (character :: ·) := by
  rw [decodeBytes, if_pos, if_pos (Nat.le_refl 1), Nat.add_sub_cancel_left, complete]
  · cases decodeBytes none others <;> rfl
  · simp only [Bool.and_eq_true, decide_eq_true_eq]
    omega

theorem decodeBytes_lead {byte continuations bits : Nat}
    (lead : leadingByte byte = some (continuations + 1, bits)) :
    decodeBytes none (.inr byte :: others) =
      decodeBytes (some (continuations + 1, continuations + 1, bits)) others := by
  rw [decodeBytes, lead]
  rfl

/-- The bytes of a character decode to it. -/
theorem decodeBytes_utf8 : decodeBytes none ((utf8 character).map .inr ++ others) =
    (decodeBytes none others).map (character :: ·) := by
  unfold utf8
  simp only
  by_cases one : character.toNat < 0x80
  · rw [if_pos one]
    have lead : leadingByte character.toNat = some (0, character.toNat) := if_pos one
    have complete : scalar 0 character.toNat = some character :=
      scalar_toNat (by rw [if_pos one])
    simp only [List.map_cons, List.map_nil, List.cons_append, List.nil_append]
    rw [decodeBytes, lead]
    change (scalar 0 character.toNat).bind _ = _
    rw [complete]
    cases decodeBytes none others <;> rfl
  · rw [if_neg one]
    by_cases two : character.toNat < 0x800
    · rw [if_pos two]
      have lead : leadingByte (0xC0 + character.toNat / 64) =
          some (1, character.toNat / 64) := by
        rw [leadingByte, if_neg (by omega), if_pos, Nat.add_sub_cancel_left]
        simp only [Bool.and_eq_true, decide_eq_true_eq]
        omega
      have code : 64 * (character.toNat / 64) + character.toNat % 64 = character.toNat := by omega
      simp only [List.map_cons, List.map_nil, List.cons_append, List.nil_append]
      rw [decodeBytes_lead lead, decodeBytes_last (by omega)]
      rw [code]
      exact scalar_toNat (by rw [if_neg one, if_pos two])
    · rw [if_neg two]
      by_cases three : character.toNat < 0x10000
      · rw [if_pos three]
        have lead : leadingByte (0xE0 + character.toNat / 4096) =
            some (2, character.toNat / 4096) := by
          rw [leadingByte, if_neg (by omega), if_neg, if_pos, Nat.add_sub_cancel_left]
          · simp only [Bool.and_eq_true, decide_eq_true_eq]
            omega
          · simp only [Bool.and_eq_true, decide_eq_true_eq]
            omega
        have code : 64 * (64 * (character.toNat / 4096) + character.toNat / 64 % 64) +
            character.toNat % 64 = character.toNat := by omega
        simp only [List.map_cons, List.map_nil, List.cons_append, List.nil_append]
        rw [decodeBytes_lead lead, decodeBytes_continue (by omega) (by omega),
          decodeBytes_last (by omega)]
        rw [code]
        exact scalar_toNat (by rw [if_neg one, if_neg two, if_pos three])
      · rw [if_neg three]
        have bound := isScalar character
        have lead : leadingByte (0xF0 + character.toNat / 262144) =
            some (3, character.toNat / 262144) := by
          rw [leadingByte, if_neg (by omega), if_neg, if_neg, if_pos, Nat.add_sub_cancel_left]
          · simp only [Bool.and_eq_true, decide_eq_true_eq]
            omega
          · simp only [Bool.and_eq_true, decide_eq_true_eq]
            omega
          · simp only [Bool.and_eq_true, decide_eq_true_eq]
            omega
        have code : 64 * (64 * (64 * (character.toNat / 262144) + character.toNat / 4096 % 64) +
            character.toNat / 64 % 64) + character.toNat % 64 = character.toNat := by omega
        simp only [List.map_cons, List.map_nil, List.cons_append, List.nil_append]
        rw [decodeBytes_lead lead, decodeBytes_continue (by omega) (by omega),
          decodeBytes_continue (by omega) (by omega), decodeBytes_last (by omega)]
        rw [code]
        exact scalar_toNat (by rw [if_neg one, if_neg two, if_neg three])

theorem decodeURIComponent_plain (plain : character ≠ '%') :
    decodeURIComponent (character :: rest) =
      (decodeURIComponent rest).map (character :: ·) := by
  rw [decodeURIComponent, unescape_plain plain, decodeURIComponent]
  cases unescape rest with
  | none => rfl
  | some others =>
      change decodeBytes none (.inl character :: others) =
        (decodeBytes none others).map (character :: ·)
      rw [decodeBytes]
      cases decodeBytes none others <;> rfl

theorem decodeURIComponent_escapes :
    decodeURIComponent ((utf8 character).flatMap
        (fun byte => ['%', hexDigit (byte / 16), hexDigit (byte % 16)]) ++ rest) =
      (decodeURIComponent rest).map (character :: ·) := by
  rw [decodeURIComponent, unescape_escapes utf8_small, decodeURIComponent]
  cases unescape rest with
  | none => rfl
  | some others => exact decodeBytes_utf8

theorem decodeURIComponent_encode (text rest : JsString) :
    decodeURIComponent (encodeURIComponent text ++ rest) =
      (decodeURIComponent rest).map (text ++ ·) := by
  induction text with
  | nil => simp [encodeURIComponent]
  | cons character text induction =>
      have later : decodeURIComponent (encodeURIComponent text ++ rest) =
          (decodeURIComponent rest).map (text ++ ·) := induction
      have encoded : encodeURIComponent (character :: text) =
          (if isUnreserved character then [character]
            else (utf8 character).flatMap fun byte =>
              ['%', hexDigit (byte / 16), hexDigit (byte % 16)]) ++ encodeURIComponent text := rfl
      rw [encoded, List.append_assoc]
      split
      · next unreserved =>
          have plain : character ≠ '%' := by
            intro same
            rw [same] at unreserved
            exact absurd unreserved (by decide)
          rw [List.cons_append, List.nil_append, decodeURIComponent_plain plain, later,
            Option.map_map]
          rfl
      · rw [decodeURIComponent_escapes, later, Option.map_map]
        rfl

/-! ## The href of a path -/

/-- The href of a path, as a listing writes it: a directory ends with a slash. -/
def advertisedHref (path : JsString) (isDir : Bool) : JsString :=
  encodeHref (if isDir && !path.endsWith ['/'] then path ++ ['/'] else path)

theorem decodeURIComponent_segments (segs : List JsString) (rest : JsString) :
    decodeURIComponent ((segs.flatMap fun s => '/' :: encodeURIComponent s) ++ rest) =
      (decodeURIComponent rest).map (segs.flatMap ('/' :: ·) ++ ·) := by
  induction segs with
  | nil => simp
  | cons s segs induction =>
      rw [List.flatMap_cons, List.append_assoc, List.cons_append,
        decodeURIComponent_plain (by decide), decodeURIComponent_encode, induction,
        Option.map_map, Option.map_map]
      congr 1
      funext text
      simp

/-- The slash that an href ends with beyond its last segment. -/
def slashFor (isDir : Bool) : JsString := if isDir then ['/'] else []

theorem encodeHref_inside {p : JsString} (inside : segments p ≠ []) :
    encodeHref p = ((segments p).flatMap fun s => '/' :: encodeURIComponent s) ++
      slashFor (p.endsWith ['/']) := by
  unfold encodeHref
  rcases List.exists_cons_of_ne_nil inside with ⟨first, rest, shape⟩
  rw [shape]
  rw [if_neg (by simp)]
  rfl

theorem endsWith_slash_append (p : JsString) : JsString.endsWith (p ++ ['/']) ['/'] = true :=
  List.isSuffixOf_iff_suffix.mpr ⟨p, rfl⟩

theorem not_endsWith_slash {segs : List JsString} (pieces : ∀ s ∈ segs, IsSegment s)
    (inside : segs ≠ []) : JsString.endsWith (absolute segs) ['/'] = false := by
  rw [← Bool.not_eq_true]
  intro ends
  rcases List.isSuffixOf_iff_suffix.mp ends with ⟨front, same⟩
  rw [absolute_eq_flatMap inside, ← List.dropLast_concat_getLast inside, List.flatMap_append,
    List.flatMap_singleton] at same
  have last := pieces _ (List.getLast_mem inside)
  have equal := congrArg List.getLast? same
  rw [List.getLast?_append_of_ne_nil _ (List.cons_ne_nil _ _),
    List.getLast?_append_of_ne_nil _ (List.cons_ne_nil _ _),
    List.getLast?_cons_of_ne_nil last.nonempty] at equal
  exact last.noSlash (List.mem_of_getLast? equal.symm)

/-- What an advertised href looks like: the segments escaped one by one. -/
theorem advertisedHref_absolute {segs : List JsString} (pieces : ∀ s ∈ segs, IsSegment s)
    (inside : segs ≠ []) (isDir : Bool) : advertisedHref (absolute segs) isDir =
      (segs.flatMap fun s => '/' :: encodeURIComponent s) ++ slashFor isDir := by
  have same : segments (absolute segs) = segs := segments_absolute pieces
  rw [advertisedHref, not_endsWith_slash pieces inside]
  cases isDir with
  | false =>
      simp only [Bool.false_and, Bool.false_eq_true, if_false]
      rw [encodeHref_inside (by rw [same]; exact inside), same, not_endsWith_slash pieces inside]
  | true =>
      have slashed : segments (absolute segs ++ ['/']) = segs := by
        rw [segments_append_slash, same]
        exact List.append_nil segs
      simp only [Bool.not_false, Bool.and_self, if_true]
      rw [encodeHref_inside (by rw [slashed]; exact inside), slashed, endsWith_slash_append]

/-- An advertised href decodes to its path, with a slash after a directory. -/
theorem decodeURIComponent_advertisedHref {segs : List JsString}
    (pieces : ∀ s ∈ segs, IsSegment s) (inside : segs ≠ []) (isDir : Bool) :
    decodeURIComponent (advertisedHref (absolute segs) isDir) =
      some (absolute segs ++ slashFor isDir) := by
  have last : decodeURIComponent (slashFor isDir) = some (slashFor isDir) := by
    cases isDir <;> decide
  rw [advertisedHref_absolute pieces inside, decodeURIComponent_segments, last,
    absolute_eq_flatMap inside]
  rfl

theorem advertisedHref_root (isDir : Bool) : advertisedHref (absolute []) isDir = ['/'] := by
  cases isDir <;> decide

theorem normalize_decode_advertisedHref {segs : List JsString}
    (pieces : ∀ s ∈ segs, IsSegment s) (isDir : Bool) :
    normalize (decode (advertisedHref (absolute segs) isDir)) = absolute segs := by
  by_cases inside : segs = []
  · rw [inside, advertisedHref_root]
    decide
  · rw [decode, decodeURIComponent_advertisedHref pieces inside, Option.getD_some, normalize]
    cases isDir with
    | false =>
        rw [slashFor, if_neg Bool.false_ne_true, List.append_nil, segments_absolute pieces]
    | true =>
        rw [slashFor, if_pos rfl, segments_append_slash, segments_absolute pieces]
        exact congrArg absolute (List.append_nil segs)

/-! ## What a URL parser leaves alone -/

/-- A path segment of escapes and characters that stand for themselves. -/
def isPlainPiece : JsString → Bool
  | [] => true
  | '%' :: high :: low :: rest =>
      (hexValue high).isSome && (hexValue low).isSome && isPlainPiece rest
  | character :: rest => isUnreserved character && isPlainPiece rest

/-- The segments that a URL parser removes, or that remove the one before. -/
def dotSegments : List JsString :=
  [".", "%2e", "%2E", "..", ".%2e", ".%2E", "%2e.", "%2E.", "%2e%2e", "%2e%2E", "%2E%2e",
    "%2E%2E"]

/-- A path of plain segments without dot segments; after a last slash it is empty. -/
def IsPlainPath (path : JsString) : Prop :=
  ∃ pieces : List JsString, pieces ≠ [] ∧ path = pieces.flatMap ('/' :: ·) ∧
    ∀ piece ∈ pieces, isPlainPiece piece = true ∧ piece ∉ dotSegments

/-- `new URL` keeps a plain path after the origin as it is, and throws where there is no
origin. -/
structure ParsesUrls (platform : Platform) (origin : JsString) : Prop where
  keeps : ∀ path, IsPlainPath path → platform.urlPathname (origin ++ path) = some path
  relative : ∀ path, IsPlainPath path → platform.urlPathname path = none

theorem hexDigit_unreserved {value : Nat} (small : value < 16) :
    isUnreserved (hexDigit value) = true := by
  have all : ∀ value : Fin 16, isUnreserved (hexDigit value) = true := by decide
  exact all ⟨value, small⟩

theorem isPlainPiece_escapes {bytes : List Nat} (small : ∀ byte ∈ bytes, byte < 256) :
    isPlainPiece (bytes.flatMap (fun byte => ['%', hexDigit (byte / 16), hexDigit (byte % 16)]) ++
      rest) = isPlainPiece rest := by
  induction bytes with
  | nil => rfl
  | cons byte bytes induction =>
      have below := small byte List.mem_cons_self
      simp only [List.flatMap_cons, List.cons_append, List.nil_append]
      rw [isPlainPiece, hexValue_hexDigit (by omega), hexValue_hexDigit (by omega)]
      exact induction fun other member => small other (List.mem_cons_of_mem _ member)

theorem isPlainPiece_encode (text : JsString) : isPlainPiece (encodeURIComponent text) = true := by
  induction text with
  | nil => rfl
  | cons character text induction =>
      have encoded : encodeURIComponent (character :: text) =
          (if isUnreserved character then [character]
            else (utf8 character).flatMap fun byte =>
              ['%', hexDigit (byte / 16), hexDigit (byte % 16)]) ++ encodeURIComponent text := rfl
      rw [encoded]
      split
      · next unreserved =>
          rw [List.cons_append, List.nil_append, isPlainPiece]
          · rw [unreserved, induction]
            rfl
          · intro high low others same
            rw [same] at unreserved
            exact absurd unreserved (by decide)
      · rw [isPlainPiece_escapes utf8_small]
        exact induction

/-- A safe segment is never escaped into a dot segment. -/
theorem encode_not_dot {s : JsString} (safe : isSafeSegment s = true) :
    encodeURIComponent s ∉ dotSegments := by
  intro member
  have dots : ∀ piece ∈ dotSegments, decodeURIComponent piece = some ['.'] ∨
      decodeURIComponent piece = some ['.', '.'] := by decide
  have decoded := decodeURIComponent_encode s []
  rw [List.append_nil] at decoded
  have same : (decodeURIComponent []).map (s ++ ·) = some s := by
    change some (s ++ []) = some s
    rw [List.append_nil]
  rw [same] at decoded
  rcases dots _ member with dot | dot
  · rw [decoded] at dot
    cases dot
    exact absurd safe (by decide)
  · rw [decoded] at dot
    cases dot
    exact absurd safe (by decide)

theorem isPlainPath_advertisedHref {segs : List JsString}
    (safe : ∀ s ∈ segs, isSafeSegment s = true) (isDir : Bool) :
    IsPlainPath (advertisedHref (absolute segs) isDir) := by
  have pieces : ∀ s ∈ segs, IsSegment s :=
    fun s member => isSegment_of_isSafeSegment (safe s member)
  have plain : ∀ piece ∈ segs.map encodeURIComponent,
      isPlainPiece piece = true ∧ piece ∉ dotSegments := by
    intro piece member
    rcases List.mem_map.mp member with ⟨s, inside, same⟩
    rw [← same]
    exact ⟨isPlainPiece_encode s, encode_not_dot (safe s inside)⟩
  have empty : isPlainPiece [] = true ∧ ([] : JsString) ∉ dotSegments := by decide
  by_cases inside : segs = []
  · rw [inside, advertisedHref_root]
    exact ⟨[[]], List.cons_ne_nil _ _, rfl, by simpa using empty⟩
  · rw [advertisedHref_absolute pieces inside]
    cases isDir with
    | false =>
        refine ⟨segs.map encodeURIComponent, by simpa using inside, ?_, plain⟩
        simp [slashFor, List.flatMap_map]
    | true =>
        refine ⟨segs.map encodeURIComponent ++ [[]], by simp, ?_, ?_⟩
        · simp [slashFor, List.flatMap_map]
        · intro piece member
          rcases List.mem_append.mp member with member | member
          · exact plain piece member
          · rw [List.mem_singleton.mp member]
            exact empty

/-! ## What a listing writes -/

theorem unreserved_of_mem_encode {s : JsString} (member : character ∈ encodeURIComponent s) :
    isUnreserved character = true ∨ character = '%' := by
  rcases List.mem_flatMap.mp member with ⟨other, _, inside⟩
  split at inside
  · next unreserved =>
      rw [List.mem_singleton.mp inside]
      exact .inl unreserved
  · rcases List.mem_flatMap.mp inside with ⟨byte, ofChar, inside⟩
    have below := utf8_small byte ofChar
    simp only [List.mem_cons, List.not_mem_nil, or_false] at inside
    rcases inside with rfl | rfl | rfl
    · exact .inr rfl
    · exact .inl (hexDigit_unreserved (by omega))
    · exact .inl (hexDigit_unreserved (by omega))

/-- What `xmlEscape` writes for a character. -/
def xmlEntity (character : Char) : JsString :=
  (([('&', "&amp;"), ('<', "&lt;"), ('>', "&gt;"), ('"', "&quot;")] :
    List (Char × JsString)).lookup character).getD [character]

theorem xmlEscape_cons : xmlEscape (character :: text) = xmlEntity character ++ xmlEscape text :=
  rfl

theorem xmlEntity_plain (plain : character ∉ ['&', '<', '>', '"']) :
    xmlEntity character = [character] := by
  simp only [List.mem_cons, List.not_mem_nil, or_false, not_or] at plain
  rcases plain with ⟨notAmp, notLt, notGt, notQuote⟩
  simp only [xmlEntity, List.lookup_cons, List.lookup_nil, beq_eq_false_iff_ne.mpr notAmp,
    beq_eq_false_iff_ne.mpr notLt, beq_eq_false_iff_ne.mpr notGt,
    beq_eq_false_iff_ne.mpr notQuote, Option.getD_none]

theorem xmlEscape_of_plain {text : JsString}
    (plain : ∀ character ∈ text, character ∉ ['&', '<', '>', '"']) : xmlEscape text = text := by
  induction text with
  | nil => rfl
  | cons character text induction =>
      have others := induction fun other member => plain other (List.mem_cons_of_mem _ member)
      rw [xmlEscape_cons, others, xmlEntity_plain (plain character List.mem_cons_self)]
      rfl

/-- Nothing in an href needs escaping. -/
theorem xmlEscape_advertisedHref {segs : List JsString} (pieces : ∀ s ∈ segs, IsSegment s)
    (isDir : Bool) :
    xmlEscape (advertisedHref (absolute segs) isDir) = advertisedHref (absolute segs) isDir := by
  apply xmlEscape_of_plain
  intro character member markup
  have reserved : ∀ character ∈ ['&', '<', '>', '"'],
      isUnreserved character = false ∧ character ≠ '%' ∧ character ≠ '/' := by
    simp only [List.mem_cons, List.not_mem_nil, or_false, forall_eq_or_imp, forall_eq]
    decide
  rcases reserved character markup with ⟨notUnreserved, notPercent, notSlash⟩
  by_cases inside : segs = []
  · rw [inside, advertisedHref_root] at member
    exact notSlash (List.mem_singleton.mp member)
  · rw [advertisedHref_absolute pieces inside] at member
    rcases List.mem_append.mp member with member | member
    · rcases List.mem_flatMap.mp member with ⟨s, _, member⟩
      rcases List.mem_cons.mp member with slash | member
      · exact notSlash slash
      · rcases unreserved_of_mem_encode member with unreserved | percent
        · rw [notUnreserved] at unreserved
          cases unreserved
        · exact notPercent percent
    · cases isDir with
      | false => cases member
      | true => exact notSlash (List.mem_singleton.mp member)

theorem hrefFor_absolute {segs : List JsString} (pieces : ∀ s ∈ segs, IsSegment s) :
    hrefFor (absolute segs) = absolute segs := by
  unfold hrefFor
  split
  · next root =>
      rw [isRoot_iff, segments_absolute pieces] at root
      rw [root]
      rfl
  · rfl

theorem begins_responseXml (path : JsString) (entry : DriveEntry) :
    ("<d:response>\n  <d:href>" : JsString) ++ xmlEscape (advertisedHref path entry.isDir) ++
      ("</d:href>" : JsString) <+: responseXml path entry := by
  have tag : ("</d:href>" : JsString) <+:
      ("</d:href>\n  <d:propstat>\n   <d:prop>\n    <d:displayname>" : JsString) :=
    ⟨("\n  <d:propstat>\n   <d:prop>\n    <d:displayname>" : JsString), rfl⟩
  unfold responseXml
  iterate 11 apply List.IsPrefix.trans _ (List.prefix_append _ _)
  exact (List.prefix_append_right_inj _).mpr tag

/-! ## There and back -/

/-- What a client that follows an href meets. -/
structure HrefReaches (platform : Platform) (origin : JsString) (path href : JsString) : Prop where
  request : ∀ req : Request, platform.urlPathname (origin ++ href) = some req.pathname →
    req.path = path
  destination : ∀ req : Request, req.header "Destination" = some href ∨
    req.header "Destination" = some (origin ++ href) → destinationPath platform req = .ok path

theorem hrefReaches_advertisedHref {platform : Platform} {origin : JsString}
    (parses : ParsesUrls platform origin) {segs : List JsString}
    (safe : ∀ s ∈ segs, isSafeSegment s = true) (isDir : Bool) :
    HrefReaches platform origin (absolute segs) (advertisedHref (absolute segs) isDir) := by
  have pieces : ∀ s ∈ segs, IsSegment s :=
    fun s member => isSegment_of_isSafeSegment (safe s member)
  have plain := isPlainPath_advertisedHref safe isDir
  have back := normalize_decode_advertisedHref pieces isDir
  have shape : ∃ rest, advertisedHref (absolute segs) isDir = '/' :: rest := by
    rcases plain with ⟨parts, some, same, _⟩
    rcases List.exists_cons_of_ne_nil some with ⟨first, others, split⟩
    rw [same, split]
    exact ⟨_, rfl⟩
  constructor
  · intro req parsed
    rw [parses.keeps _ plain] at parsed
    rw [Request.path, ← Option.some.inj parsed, back]
  · intro req named
    unfold destinationPath
    rcases named with named | named
    · rcases shape with ⟨rest, shape⟩
      have present : truthy (req.header "Destination") =
          some (advertisedHref (absolute segs) isDir) := by
        rw [named, shape]
        rfl
      rw [present]
      simp only [parses.relative _ plain, back]
    · rcases shape with ⟨rest, shape⟩
      have present : truthy (req.header "Destination") =
          some (origin ++ advertisedHref (absolute segs) isDir) := by
        rw [named, shape]
        cases origin <;> rfl
      rw [present]
      simp only [parses.keeps _ plain, back]

/-- The href of every path is written as it is into a listing, leads back to that path, and
belongs to no other. -/
theorem advertisedHref_reaches {platform : Platform} {origin : JsString}
    (parses : ParsesUrls platform origin) {segs : List JsString}
    (safe : ∀ s ∈ segs, isSafeSegment s = true) (isDir : Bool) :
    (∀ entry : DriveEntry, entry.isDir = isDir →
      ("<d:response>\n  <d:href>" : JsString) ++ advertisedHref (absolute segs) isDir ++
        ("</d:href>" : JsString) <+: responseXml (hrefFor (absolute segs)) entry) ∧
    HrefReaches platform origin (absolute segs) (advertisedHref (absolute segs) isDir) ∧
    ∀ (other : List JsString) (otherDir : Bool), (∀ s ∈ other, isSafeSegment s = true) →
      advertisedHref (absolute other) otherDir = advertisedHref (absolute segs) isDir →
      absolute other = absolute segs := by
  have pieces : ∀ s ∈ segs, IsSegment s :=
    fun s member => isSegment_of_isSafeSegment (safe s member)
  refine ⟨?_, hrefReaches_advertisedHref parses safe isDir, ?_⟩
  · intro entry same
    rw [← same, ← xmlEscape_advertisedHref pieces, hrefFor_absolute pieces]
    exact begins_responseXml ..
  · intro other otherDir otherSafe equal
    have otherPieces : ∀ s ∈ other, IsSegment s :=
      fun s member => isSegment_of_isSafeSegment (otherSafe s member)
    rw [← normalize_decode_advertisedHref otherPieces otherDir, equal,
      normalize_decode_advertisedHref pieces isDir]

/-! ## A name full of traps -/

def localOrigin : JsString := "http://localhost"

def localUrls : Platform :=
  { Platform.plain [] with
    urlPathname := fun text =>
      if localOrigin.isPrefixOf text then some (text.drop localOrigin.length) else none }

theorem localUrls_parses : ParsesUrls localUrls localOrigin where
  keeps path _ := by
    have starts : localOrigin.isPrefixOf (localOrigin ++ path) = true :=
      List.isPrefixOf_iff_prefix.mpr (List.prefix_append ..)
    change (if localOrigin.isPrefixOf (localOrigin ++ path) then
      some ((localOrigin ++ path).drop localOrigin.length) else none) = some path
    rw [if_pos starts, List.drop_left]
  relative path plain := by
    rcases plain with ⟨pieces, some, same, _⟩
    rcases List.exists_cons_of_ne_nil some with ⟨first, others, split⟩
    rw [same, split]
    rfl

/-- A directory and a name in it that looks like an escape, a dot segment and a query. -/
def trapSegments : List JsString := ["100%", "%2e%2E?a:b#c"]

theorem trapSegments_reached :
    HrefReaches localUrls localOrigin (absolute trapSegments) "/100%25/%252e%252E%3Fa%3Ab%23c/" :=
  (advertisedHref_reaches localUrls_parses (show ∀ s ∈ trapSegments, isSafeSegment s = true by
    decide) true).2.1

end DriveWebdav
