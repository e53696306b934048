import DriveWebdav.Webdav.Headers
import Mathlib.Order.Bounds.Basic

/-! # The `Range` header

Which bytes of a file a range asks for, and what the parser makes of a header. -/

namespace DriveWebdav

/-- A string of decimal digits, with at least one. -/
structure Digits where
  text : JsString
  nonempty : text ≠ []
  digits : text.all JsString.isDigit = true

def Digits.value (digits : Digits) : Nat := JsString.digitsValue digits.text

/-- A single range of bytes, as a header can ask for it. -/
inductive RangeForm
  | span (first last : Digits)
  | onward (first : Digits)
  | suffix (length : Digits)

namespace RangeForm

def firstText : RangeForm → JsString
  | .span first _ | .onward first => first.text
  | .suffix _ => []

def lastText : RangeForm → JsString
  | .span _ last => last.text
  | .onward _ => []
  | .suffix length => length.text

def text (form : RangeForm) : JsString :=
  ("bytes=" : JsString) ++ (form.firstText ++ '-' :: form.lastText)

/-- The positions that are asked for in a file of `size` bytes. -/
def Selects (size : Nat) (form : RangeForm) (position : Nat) : Prop :=
  position < size ∧
    match form with
    | .span first last => first.value ≤ position ∧ position ≤ last.value
    | .onward first => first.value ≤ position
    | .suffix length => size ≤ position + length.value

end RangeForm

/-! ## The form of a header -/

variable {text first last : JsString}

section

variable {stop : Char} (outside : JsString.isDigit stop = false) (rest : JsString)
include outside

private theorem takeWhile_digits (digits : first.all JsString.isDigit = true) :
    (first ++ stop :: rest).takeWhile JsString.isDigit = first := by
  rw [List.takeWhile_append_of_pos (List.all_eq_true.mp digits),
    List.takeWhile_cons_of_neg (ne_true_of_eq_false outside), List.append_nil]

private theorem dropWhile_digits (digits : first.all JsString.isDigit = true) :
    (first ++ stop :: rest).dropWhile JsString.isDigit = stop :: rest := by
  rw [List.dropWhile_append_of_pos (List.all_eq_true.mp digits),
    List.dropWhile_cons_of_neg (ne_true_of_eq_false outside)]

/-- Digits end where something else begins. -/
theorem digits_inj {other : JsString} {more : JsString}
    (digits : first.all JsString.isDigit = true) (others : other.all JsString.isDigit = true)
    (same : first ++ stop :: rest = other ++ stop :: more) : first = other ∧ rest = more := by
  have taken := congrArg (List.takeWhile JsString.isDigit) same
  have left := congrArg (List.dropWhile JsString.isDigit) same
  rw [takeWhile_digits outside _ digits, takeWhile_digits outside _ others] at taken
  rw [dropWhile_digits outside _ digits, dropWhile_digits outside _ others] at left
  exact ⟨taken, List.tail_eq_of_cons_eq left⟩

end

theorem matchBytesRange_eq_some_iff : matchBytesRange text = some (first, last) ↔
    text = ("bytes=" : JsString) ++ (first ++ '-' :: last) ∧
      first.all JsString.isDigit = true ∧ last.all JsString.isDigit = true := by
  constructor
  · intro matched
    unfold matchBytesRange at matched
    split at matched
    · next rest =>
        split at matched
        · next stop dropped =>
            split at matched
            · next digits =>
                cases matched
                refine ⟨?_, List.all_takeWhile, digits⟩
                rw [← dropped, List.takeWhile_append_dropWhile]
                rfl
            · cases matched
        · cases matched
    · cases matched
  · intro written
    rcases written with ⟨rfl, firstDigits, lastDigits⟩
    change matchBytesRange
      ('b' :: 'y' :: 't' :: 'e' :: 's' :: '=' :: (first ++ '-' :: last)) = _
    rw [matchBytesRange, dropWhile_digits rfl _ firstDigits, takeWhile_digits rfl _ firstDigits]
    exact if_pos lastDigits

namespace RangeForm

variable (form : RangeForm)

theorem digits_firstText : form.firstText.all JsString.isDigit = true := by
  cases form with
  | span first last => exact first.digits
  | onward first => exact first.digits
  | suffix length => rfl

theorem digits_lastText : form.lastText.all JsString.isDigit = true := by
  cases form with
  | span first last => exact last.digits
  | onward first => rfl
  | suffix length => exact length.digits

theorem matchBytesRange_text :
    matchBytesRange form.text = some (form.firstText, form.lastText) :=
  matchBytesRange_eq_some_iff.mpr ⟨rfl, form.digits_firstText, form.digits_lastText⟩

/-- A form has digits on one side at least. -/
theorem inhabited (none : form.firstText = []) : form.lastText ≠ [] := by
  cases form with
  | span first last => exact absurd none first.nonempty
  | onward first => exact absurd none first.nonempty
  | suffix length => exact length.nonempty

end RangeForm

/-- Digits on one side at least make a form. -/
theorem exists_form (matched : matchBytesRange text = some (first, last))
    (inhabited : first ≠ [] ∨ last ≠ []) : ∃ form : RangeForm, text = form.text := by
  rcases matchBytesRange_eq_some_iff.mp matched with ⟨rfl, firstDigits, lastDigits⟩
  by_cases onlyLast : first = []
  · have some := inhabited.resolve_left (not_not_intro onlyLast)
    exact ⟨.suffix ⟨last, some, lastDigits⟩, by rw [onlyLast]; rfl⟩
  · by_cases onlyFirst : last = []
    · exact ⟨.onward ⟨first, onlyLast, firstDigits⟩, by rw [onlyFirst]; rfl⟩
    · exact ⟨.span ⟨first, onlyLast, firstDigits⟩ ⟨last, onlyFirst, lastDigits⟩, rfl⟩

/-! ## White space around a header -/

theorem not_isWhiteSpace_of_isDigit {character : Char}
    (digit : JsString.isDigit character = true) : JsString.isWhiteSpace character = false := by
  simp only [JsString.isDigit, Bool.and_eq_true, decide_eq_true_eq] at digit
  simp [JsString.isWhiteSpace]
  omega

/-- Nothing is trimmed off a text that begins and ends with other characters. -/
theorem trim_eq_self {begin finish : Char} {rest before : JsString}
    (begins : text = begin :: rest) (visible : JsString.isWhiteSpace begin = false)
    (ends : text = before ++ [finish]) (shown : JsString.isWhiteSpace finish = false) :
    text.trim = text := by
  have start : text.dropWhile JsString.isWhiteSpace = text := by
    rw [begins]
    exact List.dropWhile_cons_of_neg (ne_true_of_eq_false visible)
  have stop : text.reverse.dropWhile JsString.isWhiteSpace = text.reverse := by
    rw [ends, List.reverse_append]
    exact List.dropWhile_cons_of_neg (ne_true_of_eq_false shown)
  rw [JsString.trim, start, stop, List.reverse_reverse]

namespace RangeForm

/-- A form ends with a digit or with its hyphen. -/
theorem text_ends (form : RangeForm) : ∃ before finish,
    form.text = before ++ [finish] ∧ JsString.isWhiteSpace finish = false := by
  rcases List.eq_nil_or_concat form.lastText with bare | ⟨before, finish, ends⟩
  · refine ⟨("bytes=" : JsString) ++ form.firstText, '-', ?_, by decide⟩
    rw [RangeForm.text, bare, List.append_assoc]
  · refine ⟨("bytes=" : JsString) ++ (form.firstText ++ '-' :: before), finish, ?_, ?_⟩
    · simp only [RangeForm.text, ends, List.concat_eq_append, List.append_assoc,
        List.cons_append]
    · apply not_isWhiteSpace_of_isDigit
      apply List.all_eq_true.mp form.digits_lastText
      rw [ends, List.concat_eq_append]
      exact List.mem_concat_self

theorem trim_text (form : RangeForm) : form.text.trim = form.text := by
  rcases form.text_ends with ⟨before, finish, ends, shown⟩
  exact trim_eq_self rfl (by decide) ends shown

theorem text_ne_bare (form : RangeForm) : form.text ≠ ("bytes=-" : JsString) := by
  intro bare
  have matched := form.matchBytesRange_text
  have nothing : matchBytesRange ("bytes=-" : JsString) = some ([], []) := by decide
  rw [bare, nothing] at matched
  rcases Prod.mk.inj (Option.some.inj matched) with ⟨noFirst, noLast⟩
  exact form.inhabited noFirst.symm noLast.symm

end RangeForm

/-! ## What is selected -/

/-- What the parser is to make of a form. -/
inductive RangeForm.Reads (size : Nat) (form : RangeForm) : RangeResult → Prop
  | range (range : ByteRange) (first : IsLeast {p | form.Selects size p} range.start)
      (last : IsGreatest {p | form.Selects size p} range.stop) : Reads size form (.range range)
  | unsatisfiable (none : ∀ p, ¬form.Selects size p) : Reads size form .unsatisfiable

/-- The range between two positions, clamped to a file. -/
def clampRange (size start : Nat) (stop : Int) : RangeResult :=
  if size = 0 then .unsatisfiable
  else if size ≤ start || stop < (start : Int) then .unsatisfiable
  else .range ⟨start, (min stop ((size : Int) - 1)).toNat⟩

theorem clampRange_ne_none (size start : Nat) (stop : Int) : clampRange size start stop ≠ .none := by
  unfold clampRange
  split
  · exact nofun
  · split
    · exact nofun
    · exact nofun

theorem clampRange_inside {size start : Nat} {stop : Int} {range : ByteRange}
    (clamped : clampRange size start stop = .range range) :
    range.start ≤ range.stop ∧ range.stop < size := by
  unfold clampRange at clamped
  split at clamped
  · cases clamped
  · split at clamped
    · cases clamped
    · next inside =>
        simp only [Bool.or_eq_true, decide_eq_true_eq, not_or, Nat.not_le, Int.not_lt] at inside
        cases clamped
        dsimp only
        omega

/-- What `parseRange` computes once the header has matched. -/
def rangeOf (first last : JsString) (size : Nat) : RangeResult :=
  clampRange size
    (if first = [] && last ≠ [] then size - JsString.digitsValue last
    else if first = [] then 0 else JsString.digitsValue first)
    (if first = [] || last = [] then (size : Int) - 1 else (JsString.digitsValue last : Int))

theorem truthy_of_trim {header : JsString} (visible : header.trim ≠ []) :
    truthy (some header) = some header := by
  cases header with
  | nil => exact absurd rfl visible
  | cons character rest => rfl

theorem parseRange_of_matched {header : JsString} (size : Nat)
    (matched : matchBytesRange header.trim = some (first, last)) :
    parseRange (some header) size = rangeOf first last size := by
  have visible : header.trim ≠ [] := by
    intro empty
    rw [empty] at matched
    cases matched
  rw [parseRange, truthy_of_trim visible]
  dsimp only
  rw [matched]
  rfl

namespace RangeForm

/-- Positions between two bounds are read as the parser clamps the bounds. -/
theorem reads_of_bounds {form : RangeForm} {size start : Nat} {stop : Int}
    (bounds : ∀ p, form.Selects size p ↔ p < size ∧ start ≤ p ∧ (p : Int) ≤ stop) :
    form.Reads size (clampRange size start stop) := by
  unfold clampRange
  split
  · next empty =>
      apply Reads.unsatisfiable
      intro p selected
      have inside := ((bounds p).mp selected).1
      omega
  · next inhabited =>
      split
      · next outside =>
          simp only [Bool.or_eq_true, decide_eq_true_eq] at outside
          apply Reads.unsatisfiable
          intro p selected
          have within := (bounds p).mp selected
          omega
      · next inside =>
          simp only [Bool.or_eq_true, decide_eq_true_eq, not_or, Nat.not_le, Int.not_lt] at inside
          apply Reads.range
          · constructor
            · apply (bounds start).mpr
              omega
            · intro p selected
              exact ((bounds p).mp selected).2.1
          · constructor
            · apply (bounds _).mpr
              dsimp only
              omega
            · intro p selected
              have within := (bounds p).mp selected
              dsimp only
              omega

/-- The parser reads a form as it is meant. -/
theorem reads_rangeOf (form : RangeForm) (size : Nat) :
    form.Reads size (rangeOf form.firstText form.lastText size) := by
  apply reads_of_bounds
  intro p
  cases form with
  | span first last =>
      simp [Selects, Digits.value, firstText, lastText, first.nonempty, last.nonempty]
  | onward first =>
      simp [Selects, Digits.value, firstText, lastText, first.nonempty]
      omega
  | suffix length =>
      simp [Selects, Digits.value, firstText, lastText, length.nonempty]
      omega

theorem reads_parseRange (form : RangeForm) {header : JsString}
    (written : header.trim = form.text) (size : Nat) :
    form.Reads size (parseRange (some header) size) := by
  have matched := form.matchBytesRange_text
  rw [← written] at matched
  rw [parseRange_of_matched size matched]
  exact form.reads_rangeOf size

end RangeForm

/-- A range without digits is taken for the whole file. -/
theorem parseRange_bare {header : JsString} (bare : header.trim = ("bytes=-" : JsString))
    (size : Nat) : parseRange (some header) size ≠ .none := by
  have matched : matchBytesRange header.trim = some ([], []) := by
    rw [bare]
    decide
  rw [parseRange_of_matched size matched]
  exact clampRange_ne_none _ _ _

theorem parseRange_of_unmatched {header : JsString} (size : Nat)
    (unmatched : matchBytesRange header.trim = none) :
    parseRange (some header) size = .none := by
  cases header with
  | nil => rfl
  | cons character rest =>
      rw [parseRange, truthy]
      dsimp only
      rw [unmatched]

/-- A header of no form is ignored. -/
theorem parseRange_other {header : JsString} (size : Nat)
    (unformed : ∀ form : RangeForm, header.trim ≠ form.text)
    (notBare : header.trim ≠ ("bytes=-" : JsString)) :
    parseRange (some header) size = .none := by
  apply parseRange_of_unmatched
  cases matched : matchBytesRange header.trim with
  | none => rfl
  | some texts =>
      rcases texts with ⟨first, last⟩
      by_cases inhabited : first ≠ [] ∨ last ≠ []
      · rcases exists_form matched inhabited with ⟨form, written⟩
        exact absurd written (unformed form)
      · rw [not_or, not_not, not_not] at inhabited
        rcases inhabited with ⟨rfl, rfl⟩
        exact absurd (matchBytesRange_eq_some_iff.mp matched).1 notBare

/-- A range that is parsed lies in the file. -/
theorem parseRange_inside {header : Option JsString} {size : Nat} {range : ByteRange}
    (parsed : parseRange header size = .range range) :
    range.start ≤ range.stop ∧ range.stop < size := by
  cases header with
  | none => cases parsed
  | some header =>
      cases matched : matchBytesRange header.trim with
      | none =>
          rw [parseRange_of_unmatched size matched] at parsed
          cases parsed
      | some texts =>
          rw [parseRange_of_matched size matched] at parsed
          exact clampRange_inside parsed

/-! ## The header of a part -/

/-- The value of `Content-Range` for a part of a file of `size` bytes. -/
def contentRange (first last size : Nat) : JsString :=
  ("bytes " : JsString) ++ JsString.decimalNat first ++
    '-' :: JsString.decimalNat last ++ '/' :: JsString.decimalNat size

theorem all_isDigit_decimalNat (value : Nat) :
    (JsString.decimalNat value).all JsString.isDigit = true := by
  apply List.all_eq_true.mpr
  intro character member
  have digit := Char.isDigit_iff_toNat.mp
    (Nat.isDigit_of_mem_toDigits (by decide) (by decide) member)
  simp only [JsString.isDigit, Bool.and_eq_true, decide_eq_true_eq]
  exact digit

theorem decimalNat_injective : Function.Injective JsString.decimalNat := by
  intro value other same
  have read := congrArg (Nat.ofDigitChars 10 · 0) same
  simp only [JsString.decimalNat, Nat.ofDigitChars_ten_toDigits] at read
  exact read

theorem contentRange_inj {first last size first' last' size' : Nat}
    (same : contentRange first last size = contentRange first' last' size') :
    first = first' ∧ last = last' ∧ size = size' := by
  unfold contentRange at same
  rw [List.append_assoc, List.append_assoc, List.append_assoc, List.append_assoc] at same
  have hyphen : JsString.isDigit '-' = false := rfl
  have slash : JsString.isDigit '/' = false := rfl
  have numbers := List.append_cancel_left same
  rcases digits_inj hyphen _ (all_isDigit_decimalNat first) (all_isDigit_decimalNat first')
    numbers with ⟨begins, rest⟩
  rcases digits_inj slash _ (all_isDigit_decimalNat last) (all_isDigit_decimalNat last') rest with
    ⟨ends, total⟩
  exact ⟨decimalNat_injective begins, decimalNat_injective ends, decimalNat_injective total⟩

end DriveWebdav
