import DriveWebdav.Foundation.Text
import Mathlib.Data.List.Lex
import Mathlib.Data.List.Sort

/-! # Code units

What the language does to a string one sixteen-bit unit after another: comparing, cutting
and writing it as JSON. -/

namespace DriveWebdav

/-- The units of a character: one, or a pair of surrogates. -/
def codeUnit (character : Char) : List Nat :=
  if character.toNat < 0x10000 then [character.toNat]
  else [0xD800 + (character.toNat - 0x10000) / 0x400, 0xDC00 + (character.toNat - 0x10000) % 0x400]

namespace JsString

def codeUnits (text : JsString) : List Nat := text.flatMap codeUnit

/-- `sort()` of a list of strings. -/
def sort (texts : List JsString) : List JsString :=
  texts.insertionSort fun first second => first.codeUnits ≤ second.codeUnits

/-- The four digits of an escape. -/
def hexDigits (unit : Nat) : JsString :=
  [unit / 0x1000 % 16, unit / 0x100 % 16, unit / 0x10 % 16, unit % 16].map Nat.digitChar

/-- A unit that stands alone, between the quotes of `JSON.stringify`. -/
def jsonUnit (unit : Nat) : JsString :=
  if unit = 0x22 then "\\\""
  else if unit = 0x5C then "\\\\"
  else if unit = 0x08 then "\\b"
  else if unit = 0x09 then "\\t"
  else if unit = 0x0A then "\\n"
  else if unit = 0x0C then "\\f"
  else if unit = 0x0D then "\\r"
  else if unit < 0x20 ∨ 0xD800 ≤ unit ∧ unit < 0xE000 then '\\' :: 'u' :: hexDigits unit
  else [Char.ofNat unit]

/-- What `JSON.stringify` writes between the quotes: a pair of surrogates is kept, and
one without the other is escaped. -/
def jsonUnits : List Nat → JsString
  | high :: low :: rest =>
      if 0xD800 ≤ high ∧ high < 0xDC00 ∧ 0xDC00 ≤ low ∧ low < 0xE000 then
        Char.ofNat (0x10000 + (high - 0xD800) * 0x400 + (low - 0xDC00)) :: jsonUnits rest
      else jsonUnit high ++ jsonUnits (low :: rest)
  | [unit] => jsonUnit unit
  | [] => []

/-- `JSON.stringify` of a string. -/
def jsonString (units : List Nat) : JsString := '"' :: jsonUnits units ++ ['"']

theorem codeUnits_append (first second : JsString) :
    (first ++ second).codeUnits = first.codeUnits ++ second.codeUnits :=
  List.flatMap_append

theorem codeUnits_cons (character : Char) (rest : JsString) :
    codeUnits (character :: rest) = codeUnit character ++ rest.codeUnits :=
  rfl

theorem codeUnits_small {text : JsString} (small : ∀ character ∈ text, character.toNat < 0x10000) :
    text.codeUnits = text.map Char.toNat := by
  induction text with
  | nil => rfl
  | cons character rest induction =>
      rw [codeUnits_cons, codeUnit, if_pos (small character List.mem_cons_self),
        induction fun other member => small other (List.mem_cons_of_mem character member)]
      rfl

theorem append_lt_append {first second : List Nat} (width : first.length = second.length)
    (less : first < second) (rest more : List Nat) : first ++ rest < second ++ more := by
  induction first generalizing second with
  | nil =>
      rw [List.length_nil, eq_comm, List.length_eq_zero_iff] at width
      rw [width] at less
      exact absurd less (List.lt_irrefl [])
  | cons unit first induction =>
      cases second with
      | nil => cases width
      | cons other second =>
          rw [List.cons_append, List.cons_append, List.cons_lt_cons_iff]
          rcases List.cons_lt_cons_iff.mp less with below | ⟨same, below⟩
          · exact .inl below
          · exact .inr ⟨same, induction (Nat.succ.inj width) below⟩

theorem pairwise_sort (texts : List JsString) :
    (sort texts).Pairwise fun first second => first.codeUnits ≤ second.codeUnits :=
  have : Std.Total fun first second : JsString => first.codeUnits ≤ second.codeUnits :=
    ⟨fun first second => le_total first.codeUnits second.codeUnits⟩
  have : IsTrans JsString fun first second => first.codeUnits ≤ second.codeUnits :=
    ⟨fun _ _ _ less more => le_trans less more⟩
  List.pairwise_insertionSort _ texts

theorem perm_sort (texts : List JsString) : (sort texts).Perm texts :=
  List.perm_insertionSort _ texts

end JsString

end DriveWebdav
