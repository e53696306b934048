/-! # The language's strings, numbers and dates

Built-in operations of the source language on text: only what the service calls,
with the results the language's own library gives. -/

namespace DriveWebdav

/-- A string, as the sequence of its characters. -/
abbrev JsString := List Char

instance : Coe String JsString := ⟨String.toList⟩

namespace JsString

/-- The characters that `\s`, `trim` and `parseInt` skip. -/
def isWhiteSpace (character : Char) : Bool :=
  [0x09, 0x0A, 0x0B, 0x0C, 0x0D, 0x20, 0xA0, 0x1680, 0x2028, 0x2029, 0x202F, 0x205F,
    0x3000, 0xFEFF].contains character.toNat ||
    (0x2000 ≤ character.toNat && character.toNat ≤ 0x200A)

def trimStart (text : JsString) : JsString := text.dropWhile isWhiteSpace

def trim (text : JsString) : JsString :=
  ((text.dropWhile isWhiteSpace).reverse.dropWhile isWhiteSpace).reverse

/-- The character `distance` places after this one, for characters from `low`
to `high`. -/
private def shift (low high : Nat) (character : Char) (target : Nat → Nat) : Char :=
  if low ≤ character.toNat && character.toNat ≤ high then
    Char.ofNat (target character.toNat)
  else character

/-- `toLowerCase` on the letters of ASCII. Of all other letters only the Kelvin sign and the dotted
capital I come to contain one of them, and neither `k` nor `i` is in a digest. -/
def toLowerCase (text : JsString) : JsString :=
  text.map fun character => shift 0x41 0x5A character (· + 0x20)

/-- `toUpperCase` on the letters of ASCII. The other letters that become one of them, the long s and
the dotless i, cannot be in a header. -/
def toUpperCase (text : JsString) : JsString :=
  text.map fun character => shift 0x61 0x7A character (· - 0x20)

def includes : JsString → JsString → Bool
  | [], part => part.isEmpty
  | character :: rest, part =>
      part.isPrefixOf (character :: rest) || includes rest part

def endsWith (text part : JsString) : Bool := part.isSuffixOf text

def isDigit (character : Char) : Bool :=
  0x30 ≤ character.toNat && character.toNat ≤ 0x39

/-- The number a string of decimal digits writes. -/
def digitsValue (digits : JsString) : Nat :=
  digits.foldl (fun value digit => 10 * value + (digit.toNat - 0x30)) 0

private def magnitude (text : JsString) : Option Nat :=
  match text.takeWhile isDigit with
  | [] => none
  | digit :: digits => some (digitsValue (digit :: digits))

/-- `parseInt(text, 10)`: white space, a sign, then as many digits as there are;
whatever follows them is ignored. `none` is NaN. -/
def parseInt (text : JsString) : Option Int :=
  match text.trimStart with
  | '-' :: rest => (magnitude rest).map fun value => -(value : Int)
  | '+' :: rest => (magnitude rest).map fun value => (value : Int)
  | rest => (magnitude rest).map fun value => (value : Int)

def decimalNat (value : Nat) : JsString := Nat.toDigits 10 value

/-- `String(value)` of a whole number. -/
def decimal (value : Int) : JsString :=
  if value < 0 then '-' :: decimalNat value.natAbs else decimalNat value.natAbs

def padStart (width : Nat) (text : JsString) : JsString :=
  List.replicate (width - text.length) '0' ++ text

/-- A text that writes a whole number and nothing else. -/
def writesInteger (text : JsString) : Bool :=
  match text with
  | '-' :: digit :: digits | '+' :: digit :: digits => (digit :: digits).all isDigit
  | digit :: digits => (digit :: digits).all isDigit
  | [] => false

/-- The whole number that a text writes, when it writes one. -/
def writtenInteger (text : JsString) : Option Int :=
  if text.writesInteger then text.parseInt else none

end JsString

/-- A text that is present and not empty, as the source's truth tests see it. -/
def truthy : Option JsString → Option JsString
  | some (first :: rest) => some (first :: rest)
  | _ => none

/-- A `Date`: its milliseconds, or `none` for an invalid one. -/
structure Date where
  milliseconds : Option Int
  deriving DecidableEq, Repr

namespace Date

/-- The largest distance from the epoch that a date can hold. -/
def maxMilliseconds : Int := 8640000000000000

/-- `new Date(milliseconds)`, where `none` is NaN. -/
def ofMilliseconds (milliseconds : Option Int) : Date where
  milliseconds := milliseconds.filter fun value =>
    -maxMilliseconds ≤ value && value ≤ maxMilliseconds

def getTime (date : Date) : Option Int := date.milliseconds

private def weekdays : List JsString := ["Sun", "Mon", "Tue", "Wed", "Thu", "Fri", "Sat"]

private def months : List JsString :=
  ["Jan", "Feb", "Mar", "Apr", "May", "Jun", "Jul", "Aug", "Sep", "Oct", "Nov", "Dec"]

/-- Year, month (from zero) and day of the month of a day counted from the epoch,
in the proleptic Gregorian calendar. -/
def civil (day : Int) : Int × Nat × Nat :=
  let shifted := day + 719468
  let era := shifted.fdiv 146097
  let dayOfEra := (shifted - era * 146097).toNat
  let yearOfEra :=
    (dayOfEra - dayOfEra / 1460 + dayOfEra / 36524 - dayOfEra / 146096) / 365
  let dayOfYear := dayOfEra - (365 * yearOfEra + yearOfEra / 4 - yearOfEra / 100)
  let monthFromMarch := (5 * dayOfYear + 2) / 153
  let dayOfMonth := dayOfYear - (153 * monthFromMarch + 2) / 5 + 1
  let month := (monthFromMarch + 2) % 12
  (era * 400 + yearOfEra + (if month < 2 then 1 else 0), month, dayOfMonth)

/-- `toUTCString()`, as in `Mon, 02 Jan 2006 15:04:05 GMT`. -/
def toUTCString (date : Date) : JsString :=
  match date.milliseconds with
  | none => "Invalid Date"
  | some milliseconds =>
      let day := milliseconds.fdiv 86400000
      let second := ((milliseconds - day * 86400000) / 1000).toNat
      let (year, month, dayOfMonth) := civil day
      let two := fun value => JsString.padStart 2 (JsString.decimalNat value)
      let sign : JsString := if year < 0 then "-" else ""
      weekdays.getD ((day + 4) % 7).toNat [] ++ (", " : JsString) ++ two dayOfMonth ++
        (" " : JsString) ++ months.getD month [] ++ (" " : JsString) ++ sign ++
        JsString.padStart 4 (JsString.decimalNat year.natAbs) ++ (" " : JsString) ++
        two (second / 3600) ++ (":" : JsString) ++ two (second / 60 % 60) ++
        (":" : JsString) ++ two (second % 60) ++ (" GMT" : JsString)

/-- The year as `toISOString` writes it: four digits, or a sign and six of them. -/
def yearText (year : Int) : JsString :=
  if 0 ≤ year ∧ year ≤ 9999 then JsString.padStart 4 (JsString.decimalNat year.toNat)
  else (if year < 0 then '-' else '+') :: JsString.padStart 6 (JsString.decimalNat year.natAbs)

/-- The text of `toISOString()` for a date that is not invalid, as in
`2006-01-02T15:04:05.000Z`. -/
def isoText (milliseconds : Int) : JsString :=
  let day := milliseconds.fdiv 86400000
  let rest := (milliseconds - day * 86400000).toNat
  let (year, month, dayOfMonth) := civil day
  let two := fun value => JsString.padStart 2 (JsString.decimalNat value)
  yearText year ++ ("-" : JsString) ++ two (month + 1) ++ ("-" : JsString) ++ two dayOfMonth ++
    ("T" : JsString) ++ two (rest / 3600000) ++ (":" : JsString) ++ two (rest / 60000 % 60) ++
    (":" : JsString) ++ two (rest / 1000 % 60) ++ ("." : JsString) ++
    JsString.padStart 3 (JsString.decimalNat (rest % 1000)) ++ ("Z" : JsString)

end Date

end DriveWebdav
