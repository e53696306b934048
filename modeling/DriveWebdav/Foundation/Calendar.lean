import DriveWebdav.Foundation.CodeUnits
import Mathlib.Algebra.Order.Ring.Int
import Mathlib.Tactic.Common

/-! # The order of dates and of their texts

A later day has the greater year, month and day, and as long as its year has four digits the
greater text. -/

namespace DriveWebdav

/-! ## Decimals of one width -/

namespace JsString

/-- A number with zeros before it. -/
abbrev padded (width value : Nat) : JsString := padStart width (decimalNat value)

theorem padded_succ (width value : Nat) :
    padded (width + 2) value = padded (width + 1) (value / 10) ++ [(value % 10).digitChar] := by
  by_cases small : value < 10
  · have single : decimalNat value = [value.digitChar] := Nat.toDigits_of_lt_base small
    have zero : decimalNat 0 = ['0'] := rfl
    rw [padded, padded, single, Nat.div_eq_of_lt small, Nat.mod_eq_of_lt small, zero]
    change List.replicate (width + 1) '0' ++ _ = List.replicate width '0' ++ ['0'] ++ _
    rw [List.replicate_succ']
  · have more : decimalNat value = decimalNat (value / 10) ++ [(value % 10).digitChar] :=
      Nat.toDigits_of_base_le (by decide) (Nat.le_of_not_lt small)
    rw [padded, padded, more]
    simp only [padStart, List.length_append, List.length_singleton, List.append_assoc]
    congr 2
    omega

theorem length_padded {width value : Nat} (fits : value < 10 ^ (width + 1)) :
    (padded (width + 1) value).length = width + 1 := by
  have short : (decimalNat value).length ≤ width + 1 :=
    (Nat.length_toDigits_le_iff (by decide) (Nat.succ_pos width)).mpr fits
  simp only [padded, padStart, List.length_append, List.length_replicate]
  omega

theorem isDigit_padded {width value : Nat} {character : Char}
    (member : character ∈ padded width value) : character.isDigit = true := by
  rcases List.mem_append.mp member with zero | digit
  · rw [List.eq_of_mem_replicate zero]
    rfl
  · exact Nat.isDigit_of_mem_toDigits (by decide) (by decide) digit

theorem toNat_lt_of_isDigit {character : Char} (digit : character.isDigit = true) :
    character.toNat < 0x10000 := by
  simp only [Char.isDigit, Bool.and_eq_true, decide_eq_true_eq] at digit
  have above : character.toNat ≤ 0x39 := digit.2
  omega

theorem codeUnits_padded (width value : Nat) :
    (padded width value).codeUnits = (padded width value).map Char.toNat := by
  apply codeUnits_small
  intro character member
  exact toNat_lt_of_isDigit (isDigit_padded member)

theorem length_codeUnits_padded {width value : Nat} (fits : value < 10 ^ (width + 1)) :
    (padded (width + 1) value).codeUnits.length = width + 1 := by
  rw [codeUnits_padded, List.length_map, length_padded fits]

theorem toNat_digitChar : ∀ digit < 10, digit.digitChar.toNat = 48 + digit := by
  decide

theorem codeUnits_digitChar {digit : Nat} (small : digit < 10) :
    codeUnits [digit.digitChar] = [48 + digit] := by
  have below : digit.digitChar.toNat < 0x10000 := by
    rw [toNat_digitChar digit small]
    omega
  rw [codeUnits_cons, codeUnit, if_pos below, toNat_digitChar digit small]
  rfl

theorem padded_lt {width less more : Nat} (below : less < more) (fits : more < 10 ^ (width + 1)) :
    (padded (width + 1) less).codeUnits < (padded (width + 1) more).codeUnits := by
  induction width generalizing less more with
  | zero =>
      have lessDigit : less < 10 := Nat.lt_trans below fits
      have single : ∀ value < 10, padded 1 value = [value.digitChar] := by
        intro value small
        rw [padded, decimalNat, Nat.toDigits_of_lt_base small]
        rfl
      rw [single less lessDigit, single more fits, codeUnits_digitChar lessDigit,
        codeUnits_digitChar fits, List.cons_lt_cons_iff]
      exact .inl (Nat.add_lt_add_left below 48)
  | succ width induction =>
      rw [padded_succ, padded_succ, codeUnits_append, codeUnits_append]
      have shorter : ∀ value < 10 ^ (width + 2), value / 10 < 10 ^ (width + 1) := by
        intro value small
        rw [Nat.div_lt_iff_lt_mul (by decide), ← Nat.pow_succ]
        exact small
      rcases Nat.lt_or_eq_of_le (Nat.div_le_div_right (Nat.le_of_lt below) :
        less / 10 ≤ more / 10) with tens | tens
      · apply append_lt_append _ (induction tens (shorter more fits))
        rw [length_codeUnits_padded (shorter less (Nat.lt_trans below fits)),
          length_codeUnits_padded (shorter more fits)]
      · rw [tens, codeUnits_digitChar (Nat.mod_lt less (by decide)),
          codeUnits_digitChar (Nat.mod_lt more (by decide))]
        apply List.append_left_lt
        rw [List.cons_lt_cons_iff]
        exact .inl (by omega)

/-- The first number that differs tells the texts apart. -/
theorem padded_append_lt {width less more : Nat} {rest longer : JsString}
    (lessFits : less < 10 ^ (width + 1)) (moreFits : more < 10 ^ (width + 1))
    (below : less < more ∨ less = more ∧ rest.codeUnits < longer.codeUnits) (mark : Char) :
    (padded (width + 1) less ++ mark :: rest).codeUnits <
      (padded (width + 1) more ++ mark :: longer).codeUnits := by
  rw [codeUnits_append, codeUnits_append]
  rcases below with below | ⟨same, below⟩
  · apply append_lt_append _ (padded_lt below moreFits)
    rw [length_codeUnits_padded lessFits, length_codeUnits_padded moreFits]
  · rw [same, codeUnits_cons, codeUnits_cons]
    exact List.append_left_lt (List.append_left_lt below)

end JsString

/-! ## The calendar -/

namespace Date

/-- The days before a year that begins in March. -/
def daysBefore (year : Int) : Int := 365 * year + year / 4 - year / 100 + year / 400

/-- Centuries, leap years and years of an era. -/
theorem exists_yearOfEra {dayOfEra : Nat} (small : dayOfEra < 146097) :
    ∃ centuries fours years dayOfYear, centuries < 4 ∧ fours < 25 ∧ years < 4 ∧
      dayOfYear < 366 ∧ (years < 3 → dayOfYear < 365) ∧
      (centuries < 3 → fours = 24 → years = 3 → dayOfYear < 365) ∧
      dayOfEra = 36524 * centuries + 1461 * fours + 365 * years + dayOfYear := by
  by_cases last : dayOfEra = 146096
  · exact ⟨3, 24, 3, 365, by omega⟩
  · by_cases leap : dayOfEra % 36524 % 1461 = 1460
    · exact ⟨dayOfEra / 36524, dayOfEra % 36524 / 1461, 3, 365, by omega⟩
    · exact ⟨dayOfEra / 36524, dayOfEra % 36524 / 1461, dayOfEra % 36524 % 1461 / 365,
        dayOfEra % 36524 % 1461 % 365, by omega⟩

theorem yearOfEra_eq {dayOfEra centuries fours years dayOfYear : Nat} (four : centuries < 4)
    (century : fours < 25) (leap : years < 4) (year : dayOfYear < 366)
    (common : years < 3 → dayOfYear < 365)
    (skipped : centuries < 3 → fours = 24 → years = 3 → dayOfYear < 365)
    (split : dayOfEra = 36524 * centuries + 1461 * fours + 365 * years + dayOfYear) :
    (dayOfEra - dayOfEra / 1460 + dayOfEra / 36524 - dayOfEra / 146096) / 365 =
      100 * centuries + 4 * fours + years := by
  have last : dayOfEra / 146096 = if dayOfEra = 146096 then 1 else 0 := by
    split <;> omega
  have byCentury : dayOfEra / 36524 = if dayOfEra = 146096 then 4 else centuries := by
    split <;> omega
  have byFours : dayOfEra / 1460 =
      25 * centuries + fours + (24 * centuries + fours + 365 * years + dayOfYear) / 1460 := by
    omega
  rw [byCentury, byFours, last]
  split <;> omega

theorem daysBefore_eq (era : Int) {centuries fours years : Nat} (four : centuries < 4)
    (century : fours < 25) (leap : years < 4) :
    daysBefore (era * 400 + (100 * centuries + 4 * fours + years : Nat)) =
      146097 * era + (36524 * centuries + 1461 * fours + 365 * years : Nat) := by
  have byFour : (era * 400 + (100 * centuries + 4 * fours + years : Nat)) / 4 =
      100 * era + 25 * centuries + fours := by omega
  have byHundred : (era * 400 + (100 * centuries + 4 * fours + years : Nat)) / 100 =
      4 * era + centuries := by omega
  have byEra : (era * 400 + (100 * centuries + 4 * fours + years : Nat)) / 400 = era := by omega
  rw [daysBefore, byFour, byHundred, byEra]
  omega

/-- A leap year has one day more. -/
theorem daysBefore_succ (era : Int) {centuries fours years : Nat} (four : centuries < 4)
    (century : fours < 25) (leap : years < 4) :
    daysBefore (era * 400 + (100 * centuries + 4 * fours + years : Nat) + 1) =
      146097 * era + (36524 * centuries + 1461 * fours + 365 * years : Nat) + 365 +
        (if years = 3 ∧ (fours = 24 → centuries = 3) then 1 else 0) := by
  have byFour : (era * 400 + (100 * centuries + 4 * fours + years : Nat) + 1) / 4 =
      100 * era + 25 * centuries + fours + (if years = 3 then 1 else 0) := by
    split <;> omega
  have byHundred : (era * 400 + (100 * centuries + 4 * fours + years : Nat) + 1) / 100 =
      4 * era + centuries + (if years = 3 ∧ fours = 24 then 1 else 0) := by
    split <;> omega
  have byEra : (era * 400 + (100 * centuries + 4 * fours + years : Nat) + 1) / 400 =
      era + (if years = 3 ∧ fours = 24 ∧ centuries = 3 then 1 else 0) := by
    split <;> omega
  rw [daysBefore, byFour, byHundred, byEra]
  split_ifs <;> omega

/-- A day is a day of the year that begins in March. -/
theorem civil_eq (day : Int) : ∃ (year : Int) (dayOfYear : Nat),
    daysBefore year + dayOfYear = day + 719468 ∧ day + 719468 < daysBefore (year + 1) ∧
      dayOfYear < 366 ∧
      civil day =
        (year + (if ((5 * dayOfYear + 2) / 153 + 2) % 12 < 2 then 1 else 0),
          ((5 * dayOfYear + 2) / 153 + 2) % 12,
          dayOfYear - (153 * ((5 * dayOfYear + 2) / 153) + 2) / 5 + 1) := by
  have floor : (day + 719468).fdiv 146097 = (day + 719468) / 146097 :=
    Int.fdiv_eq_ediv_of_nonneg _ (by decide)
  have small : (day + 719468 - (day + 719468) / 146097 * 146097).toNat < 146097 := by omega
  have whole : day + 719468 = (day + 719468) / 146097 * 146097 +
      (day + 719468 - (day + 719468) / 146097 * 146097).toNat := by omega
  generalize eras : (day + 719468) / 146097 = era at floor small whole
  generalize days : (day + 719468 - era * 146097).toNat = dayOfEra at small whole
  rcases exists_yearOfEra small with
    ⟨centuries, fours, years, dayOfYear, four, century, leap, short, common, skipped, split⟩
  have ofEra := yearOfEra_eq four century leap short common skipped split
  have before := daysBefore_eq era four century leap
  have after := daysBefore_succ era four century leap
  have within : dayOfEra -
      (365 * (100 * centuries + 4 * fours + years) + (100 * centuries + 4 * fours + years) / 4 -
        (100 * centuries + 4 * fours + years) / 100) = dayOfYear := by
    have byFour : (100 * centuries + 4 * fours + years) / 4 = 25 * centuries + fours := by omega
    have byHundred : (100 * centuries + 4 * fours + years) / 100 = centuries := by omega
    rw [byFour, byHundred]
    omega
  refine ⟨era * 400 + (100 * centuries + 4 * fours + years : Nat), dayOfYear, ?_, ?_, short, ?_⟩
  · rw [before]
    omega
  · rw [after]
    split_ifs <;> omega
  · simp only [civil, floor, days, ofEra, within]

/-- The months of years that begin in March. -/
theorem month_year (year : Int) (dayOfYear : Nat) (short : dayOfYear < 366) :
    12 * (year + (if ((5 * dayOfYear + 2) / 153 + 2) % 12 < 2 then 1 else 0)) +
        (((5 * dayOfYear + 2) / 153 + 2) % 12 : Nat) =
      12 * year + ((5 * dayOfYear + 2) / 153 : Nat) + 2 := by
  split <;> omega

theorem civil_bounds (day : Int) : (civil day).2.1 < 12 ∧ (civil day).2.2 < 100 := by
  rcases civil_eq day with ⟨year, dayOfYear, _, _, short, same⟩
  rw [same]
  constructor
  · exact Nat.mod_lt _ (by decide)
  · change dayOfYear - (153 * ((5 * dayOfYear + 2) / 153) + 2) / 5 + 1 < 100
    omega

theorem daysBefore_le {year later : Int} (order : year ≤ later) :
    daysBefore year ≤ daysBefore later := by
  refine monotone_int_of_le_succ (fun year => ?_) order
  have byFour : year / 4 ≤ (year + 1) / 4 := Int.ediv_le_ediv (by decide) (by omega)
  have byHundred : (year + 1) / 100 ≤ year / 100 + 1 := by omega
  have byEra : year / 400 ≤ (year + 1) / 400 := Int.ediv_le_ediv (by decide) (by omega)
  simp only [daysBefore]
  omega

/-- Within a year the months grow, and within a month its days. -/
theorem month_lt {dayOfYear later : Nat} (before : dayOfYear < later) :
    (5 * dayOfYear + 2) / 153 < (5 * later + 2) / 153 ∨
      (5 * dayOfYear + 2) / 153 = (5 * later + 2) / 153 ∧
        dayOfYear - (153 * ((5 * dayOfYear + 2) / 153) + 2) / 5 + 1 <
          later - (153 * ((5 * later + 2) / 153) + 2) / 5 + 1 := by
  have ordered : (5 * dayOfYear + 2) / 153 ≤ (5 * later + 2) / 153 :=
    Nat.div_le_div_right (by omega)
  rcases Nat.lt_or_eq_of_le ordered with less | same
  · exact .inl less
  · right
    rw [← same]
    exact ⟨rfl, by omega⟩

/-- Months in a row order years and their months. -/
theorem year_lt {year other : Int} {month otherMonth : Nat} (small : month < 12)
    (otherSmall : otherMonth < 12)
    (before : 12 * year + (month : Int) < 12 * other + (otherMonth : Int)) :
    year < other ∨ year = other ∧ month < otherMonth := by
  omega

theorem civil_lt {first second : Int} (before : first < second) :
    (civil first).1 < (civil second).1 ∨ (civil first).1 = (civil second).1 ∧
      ((civil first).2.1 < (civil second).2.1 ∨ (civil first).2.1 = (civil second).2.1 ∧
        (civil first).2.2 < (civil second).2.2) := by
  rcases civil_eq first with ⟨year, dayOfYear, starts, ends, short, same⟩
  rcases civil_eq second with ⟨other, dayOfOther, otherStarts, otherEnds, otherShort, otherSame⟩
  have order : year < other ∨ year = other ∧ dayOfYear < dayOfOther := by
    rcases lt_trichotomy year other with less | equal | more
    · exact .inl less
    · rw [equal] at starts
      exact .inr ⟨equal, by omega⟩
    · have years : daysBefore (other + 1) ≤ daysBefore year := daysBefore_le more
      omega
  have months := month_year year dayOfYear short
  have otherMonths := month_year other dayOfOther otherShort
  have month := Nat.mod_lt ((5 * dayOfYear + 2) / 153 + 2) (by decide : 12 > 0)
  have otherMonth := Nat.mod_lt ((5 * dayOfOther + 2) / 153 + 2) (by decide : 12 > 0)
  have last : (5 * dayOfYear + 2) / 153 < 12 := by omega
  have passed : 12 * year + ((5 * dayOfYear + 2) / 153 : Nat) + 2 <
      12 * other + ((5 * dayOfOther + 2) / 153 : Nat) + 2 ∨ year = other ∧
        (5 * dayOfYear + 2) / 153 = (5 * dayOfOther + 2) / 153 ∧
        dayOfYear - (153 * ((5 * dayOfYear + 2) / 153) + 2) / 5 + 1 <
          dayOfOther - (153 * ((5 * dayOfOther + 2) / 153) + 2) / 5 + 1 := by
    rcases order with less | ⟨equal, less⟩
    · exact .inl (by omega)
    · rcases month_lt less with later | ⟨sameMonth, later⟩
      · exact .inl (by omega)
      · exact .inr ⟨equal, sameMonth, later⟩
  rw [same, otherSame]
  rcases passed with passed | ⟨equal, sameMonth, later⟩
  · rw [← months, ← otherMonths] at passed
    rcases year_lt month otherMonth passed with less | later
    · exact .inl less
    · exact .inr ⟨later.1, .inl later.2⟩
  · rw [equal, sameMonth]
    exact .inr ⟨rfl, .inr ⟨rfl, sameMonth ▸ later⟩⟩

/-- The year that a text begins with. -/
def year (milliseconds : Int) : Int := (civil (milliseconds.fdiv 86400000)).1

/-- The texts of dates with four digits of a year, with other marks between the digits. -/
theorem isoText_map {milliseconds : Int} {marked : Char → Char}
    (digits : ∀ character, character.isDigit = true → marked character = character)
    (short : 0 ≤ year milliseconds ∧ year milliseconds ≤ 9999) :
    let day := milliseconds.fdiv 86400000
    let rest := (milliseconds - day * 86400000).toNat
    (isoText milliseconds).map marked =
      JsString.padded 4 (year milliseconds).toNat ++ marked '-' ::
        (JsString.padded 2 ((civil day).2.1 + 1) ++ marked '-' ::
          (JsString.padded 2 (civil day).2.2 ++ marked 'T' ::
            (JsString.padded 2 (rest / 3600000) ++ marked ':' ::
              (JsString.padded 2 (rest / 60000 % 60) ++ marked ':' ::
                (JsString.padded 2 (rest / 1000 % 60) ++ marked '.' ::
                  (JsString.padded 3 (rest % 1000) ++ marked 'Z' :: [])))))) := by
  have plain : ∀ width value,
      (JsString.padded width value).map marked = JsString.padded width value := by
    intro width value
    rw [List.map_congr_left fun character member =>
      digits character (JsString.isDigit_padded member)]
    exact List.map_id' _
  have shown : yearText (civil (milliseconds.fdiv 86400000)).1 =
      JsString.padded 4 (year milliseconds).toNat := if_pos short
  simp only [isoText, shown, List.map_append, plain, List.append_assoc]
  rfl

/-- The hands of a clock. -/
theorem clock_lt {moment other : Nat} (before : moment < other) :
    moment / 3600000 < other / 3600000 ∨ moment / 3600000 = other / 3600000 ∧
      (moment / 60000 % 60 < other / 60000 % 60 ∨ moment / 60000 % 60 = other / 60000 % 60 ∧
        (moment / 1000 % 60 < other / 1000 % 60 ∨ moment / 1000 % 60 = other / 1000 % 60 ∧
          moment % 1000 < other % 1000)) := by
  have hour : ∀ time, time / 3600000 = time / 60000 / 60 :=
    fun time => (Nat.div_div_eq_div_mul time 60000 60).symm
  have minute : ∀ time, time / 60000 = time / 1000 / 60 :=
    fun time => (Nat.div_div_eq_div_mul time 1000 60).symm
  have seconds : moment / 1000 ≤ other / 1000 := Nat.div_le_div_right (Nat.le_of_lt before)
  have minutes : moment / 1000 / 60 ≤ other / 1000 / 60 := Nat.div_le_div_right seconds
  have hours : moment / 1000 / 60 / 60 ≤ other / 1000 / 60 / 60 := Nat.div_le_div_right minutes
  rw [hour, hour, minute, minute]
  omega

/-- Texts with the same marks come in the order of their dates. -/
theorem isoText_lt {first second : Int} {marked : Char → Char} (before : first < second)
    (digits : ∀ character, character.isDigit = true → marked character = character)
    (firstShort : 0 ≤ year first ∧ year first ≤ 9999)
    (secondShort : 0 ≤ year second ∧ year second ≤ 9999) (rest more : JsString) :
    JsString.codeUnits ((isoText first).map marked ++ rest) <
      JsString.codeUnits ((isoText second).map marked ++ more) := by
  rw [isoText_map digits firstShort, isoText_map digits secondShort]
  have bounds := civil_bounds (first.fdiv 86400000)
  have otherBounds := civil_bounds (second.fdiv 86400000)
  have floor : first.fdiv 86400000 = first / 86400000 :=
    Int.fdiv_eq_ediv_of_nonneg _ (by decide)
  have otherFloor : second.fdiv 86400000 = second / 86400000 :=
    Int.fdiv_eq_ediv_of_nonneg _ (by decide)
  have days : (year first).toNat < (year second).toNat ∨ (year first).toNat = (year second).toNat ∧
      ((civil (first.fdiv 86400000)).2.1 + 1 < (civil (second.fdiv 86400000)).2.1 + 1 ∨
        (civil (first.fdiv 86400000)).2.1 + 1 = (civil (second.fdiv 86400000)).2.1 + 1 ∧
        ((civil (first.fdiv 86400000)).2.2 < (civil (second.fdiv 86400000)).2.2 ∨
          (civil (first.fdiv 86400000)).2.2 = (civil (second.fdiv 86400000)).2.2 ∧
          (first - first.fdiv 86400000 * 86400000).toNat <
            (second - second.fdiv 86400000 * 86400000).toNat)) := by
    have ordered : first / 86400000 ≤ second / 86400000 :=
      Int.ediv_le_ediv (by decide) (Int.le_of_lt before)
    rcases lt_or_eq_of_le ordered with earlier | same
    · rw [← floor, ← otherFloor] at earlier
      have later := civil_lt earlier
      simp only [year] at *
      omega
    · rw [floor, otherFloor, year, year, floor, otherFloor, same]
      exact .inr ⟨rfl, .inr ⟨rfl, .inr ⟨rfl, by omega⟩⟩⟩
  have short : (first - first.fdiv 86400000 * 86400000).toNat / 3600000 < 100 ∧
      (second - second.fdiv 86400000 * 86400000).toNat / 3600000 < 100 := by
    rw [floor, otherFloor]
    omega
  simp only [List.append_assoc, List.cons_append, List.nil_append]
  generalize (first - first.fdiv 86400000 * 86400000).toNat = moment at *
  generalize (second - second.fdiv 86400000 * 86400000).toNat = other at *
  apply JsString.padded_append_lt (by omega) (by omega)
  apply days.imp_right ∘ And.imp_right
  intro months
  apply JsString.padded_append_lt (by omega) (by omega)
  apply months.imp_right ∘ And.imp_right
  intro days
  apply JsString.padded_append_lt (by omega) (by omega)
  apply days.imp_right ∘ And.imp_right
  intro less
  apply JsString.padded_append_lt (by omega) (by omega)
  apply (clock_lt less).imp_right ∘ And.imp_right
  intro minutes
  apply JsString.padded_append_lt (by omega) (by omega)
  apply minutes.imp_right ∘ And.imp_right
  intro seconds
  apply JsString.padded_append_lt (by omega) (by omega)
  apply seconds.imp_right ∘ And.imp_right
  intro milliseconds
  apply JsString.padded_append_lt (by omega) (by omega)
  exact .inl milliseconds

end Date
end DriveWebdav
