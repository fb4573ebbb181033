import FilterQuery.Proofs.Coercion
import FilterQuery.Proofs.WholeNumbers

/-!
# Texts that pass for dates

A field of dates is documented to take texts of the form `YYYY-MM-DD`. Main
statement: of the texts of this form it takes exactly those that name a day of
the calendar, but it takes other texts as well, with blanks before the numbers,
with a sign before the year and with fewer digits, and hands all of them on as
they are.
-/

namespace FilterQuery

/-- So many digits write a number below that power of ten. -/
theorem Numeral.decimalValue_lt
    {digits : List Char}
    (areDigits : ∀ digit ∈ digits, digit.isDigit = true) :
    decimalValue digits < 10 ^ digits.length := by
  have areSmall : ∀ value ∈ digits.reverse.map fun digit => digit.toNat - '0'.toNat,
      value < 10 := by
    intro value isValue
    obtain ⟨digit, isMember, rfl⟩ := List.mem_map.mp isValue
    have isDigit := areDigits digit (List.mem_reverse.mp isMember)
    simp only [Char.isDigit, Bool.and_eq_true, decide_eq_true_eq] at isDigit
    have high : digit.toNat ≤ 57 := UInt32.le_iff_toNat_le.mp isDigit.2
    have zero : '0'.toNat = 48 := rfl
    omega
  have isBelow := Nat.ofDigits_lt_base_pow_length (by decide) areSmall
  rwa [List.length_map, List.length_reverse] at isBelow

namespace Date

/-! ## The calendar -/

/-- Whether February has a 29th day in a year. -/
def LeapYear (year : ℤ) : Prop :=
  4 ∣ year ∧ (100 ∣ year → 400 ∣ year)

instance (year : ℤ) : Decidable (LeapYear year) :=
  inferInstanceAs (Decidable (_ ∧ _))

/-- How many days the months of a year have, from January on. -/
def monthLengths (year : ℤ) : List Nat :=
  [31, if LeapYear year then 29 else 28, 31, 30, 31, 30, 31, 31, 30, 31, 30, 31]

/-- Whether a date is a day of the Gregorian calendar, which is extended to all years. -/
def InCalendar (date : Date) : Prop :=
  1 ≤ date.month ∧ date.month ≤ 12 ∧
    1 ≤ date.day ∧ date.day ≤ (monthLengths date.year).getD (date.month - 1) 0

instance (date : Date) : Decidable date.InCalendar :=
  inferInstanceAs (Decidable (_ ∧ _))

/-- The test by remainders is the rule of the calendar. -/
theorem isLeapYear_iff {year : ℤ} : isLeapYear year = true ↔ LeapYear year := by
  rw [isLeapYear, decide_eq_true_iff, LeapYear]
  omega

/-- The lengths of months are those of the table for the year. -/
theorem daysInMonth_eq_getD
    (year : ℤ) {month : Nat}
    (first : 1 ≤ month)
    (last : month ≤ 12) :
    daysInMonth year month = (monthLengths year).getD (month - 1) 0 := by
  interval_cases month <;> simp [daysInMonth, monthLengths, isLeapYear_iff]

/-- A day is valid if it stands in the calendar and in a year that dates are kept for. -/
theorem isValid_iff {date : Date} :
    date.isValid = true ↔
      date.InCalendar ∧ firstYear ≤ date.year ∧ date.year ≤ lastYear := by
  rw [isValid, decide_eq_true_iff]
  by_cases isMonth : 1 ≤ date.month ∧ date.month ≤ 12
  · rw [daysInMonth_eq_getD date.year isMonth.1 isMonth.2, InCalendar]
    tauto
  · have noDays : daysInMonth date.year date.month = 0 := by
      grind [daysInMonth]
    rw [noDays, InCalendar]
    omega

/-! ## Numbers in a date -/

/-- At least one and at most `limit` decimal digits. -/
structure Digits (limit : Nat) (digits : List Char) : Prop where
  present : digits ≠ []
  areDigits : ∀ digit ∈ digits, digit.isDigit = true
  short : digits.length ≤ limit

theorem Digits.signed {limit : Nat} {digits : List Char} (isNumber : Digits limit digits) :
    Numeral.Signed digits (Numeral.decimalValue digits) :=
  .mk none isNumber.present isNumber.areDigits

theorem Digits.head?_append
    {limit : Nat} {digits : List Char}
    (isNumber : Digits limit digits)
    (rest : List Char) :
    ∀ c ∈ (digits ++ rest).head?, c.isDigit = true := by
  intro c isFirst
  rw [List.head?_append_of_ne_nil _ isNumber.present] at isFirst
  exact isNumber.areDigits c (List.mem_of_head? isFirst)

/-- Taking digits stops at their limit or before the first other character. -/
theorem takeDigits_append
    {digits rest : List Char} {limit : Nat}
    (areDigits : ∀ digit ∈ digits, digit.isDigit = true)
    (short : digits.length ≤ limit)
    (ends : ∀ c ∈ rest.head?, c.isDigit = false) :
    takeDigits limit (digits ++ rest) = (digits, rest) := by
  induction digits generalizing limit with
  | nil =>
      cases limit with
      | zero => rfl
      | succ limit =>
          cases rest with
          | nil => rfl
          | cons c others =>
              have isOther := ends c rfl
              simp [takeDigits, isOther]
  | cons digit others inductionHypothesis =>
      cases limit with
      | zero => contradiction
      | succ limit =>
          rw [List.forall_mem_cons] at areDigits
          rw [List.cons_append, takeDigits, if_pos areDigits.1,
            inductionHypothesis areDigits.2 (Nat.le_of_succ_le_succ short)]

/-- What is taken are digits, and they are taken off the front. -/
theorem takeDigits_spec
    {text digits rest : List Char} {limit : Nat}
    (taken : takeDigits limit text = (digits, rest)) :
    text = digits ++ rest ∧ (∀ digit ∈ digits, digit.isDigit = true) ∧ digits.length ≤ limit := by
  induction limit generalizing text digits with
  | zero =>
      cases taken
      simp
  | succ limit inductionHypothesis =>
      cases text with
      | nil =>
          cases taken
          simp
      | cons c others =>
          rw [takeDigits] at taken
          split at taken
          · next isDigit =>
              cases takenRest : takeDigits limit others with
              | mk more remaining =>
                  rw [takenRest] at taken
                  cases taken
                  obtain ⟨rfl, areDigits, short⟩ := inductionHypothesis takenRest
                  refine ⟨rfl, List.forall_mem_cons.mpr ⟨isDigit, areDigits⟩, ?_⟩
                  exact Nat.succ_le_succ short
          · cases taken
            simp

/-- Digits are read up to the first character that is none. -/
theorem digits?_append
    {digits rest : List Char} {limit : Nat}
    (isNumber : Digits limit digits)
    (ends : ∀ c ∈ rest.head?, c.isDigit = false) :
    digits? limit (digits ++ rest) = some (Numeral.decimalValue digits, rest) := by
  rw [digits?, takeDigits_append isNumber.areDigits isNumber.short ends, ← Numeral.natOfDigits_eq]
  have present := isNumber.present
  cases digits with
  | nil => contradiction
  | cons digit others => rfl

/-- A number that is read has at most as many digits as allowed, and at least one. -/
theorem digits?_eq_some
    {text rest : List Char} {limit number : Nat}
    (isRead : digits? limit text = some (number, rest)) :
    ∃ digits, text = digits ++ rest ∧ Digits limit digits ∧
      number = Numeral.decimalValue digits := by
  unfold digits? at isRead
  split at isRead
  · contradiction
  · next digits remaining present taken =>
      cases isRead
      obtain ⟨isText, areDigits, short⟩ := takeDigits_spec taken
      exact ⟨digits, isText, ⟨present, areDigits, short⟩, Numeral.natOfDigits_eq digits⟩

/-! ## The three numbers -/

/-- A year as it is taken, with its number: at most four digits, or a sign and any number of
them. -/
inductive WrittenYear : List Char → ℤ → Prop where
  | short {digits : List Char} : Digits 4 digits →
      WrittenYear digits (Numeral.decimalValue digits)
  | signed (sign : Sign) {digits : List Char} : digits ≠ [] →
      (∀ digit ∈ digits, digit.isDigit = true) →
      WrittenYear (Sign.written sign ++ digits) (Sign.signed sign (Numeral.decimalValue digits))

theorem WrittenYear.isSigned {year : List Char} {number : ℤ} (isYear : WrittenYear year number) :
    Numeral.Signed year number := by
  cases isYear with
  | short isNumber => exact isNumber.signed
  | signed sign present areDigits => exact .mk sign present areDigits

/-- A text as it is taken for a date: a year, a month and a day with hyphens between them, each of
which blanks may stand before. -/
inductive Written : List Char → Date → Prop where
  | mk {beforeYear year beforeMonth month beforeDay day : List Char} {number : ℤ} :
      (∀ c ∈ beforeYear, Text.isBlank c = true) → WrittenYear year number →
      (∀ c ∈ beforeMonth, Text.isBlank c = true) → Digits 2 month →
      (∀ c ∈ beforeDay, Text.isBlank c = true) → Digits 2 day →
      Written
        (beforeYear ++ (year ++
          '-' :: (beforeMonth ++ (month ++ '-' :: (beforeDay ++ day)))))
        ⟨number, Numeral.decimalValue month, Numeral.decimalValue day⟩

/-- A year without a sign starts with a digit, so the sign is looked for first. -/
theorem year?_append
    {blanks year rest : List Char} {number : ℤ}
    (areBlank : ∀ c ∈ blanks, Text.isBlank c = true)
    (isYear : WrittenYear year number)
    (ends : ∀ c ∈ rest.head?, c.isDigit = false) :
    year? (blanks ++ (year ++ rest)) = some (number, rest) := by
  rw [year?, Text.dropWhile_append_of_dense areBlank isYear.isSigned.ne_nil isYear.isSigned.dense]
  cases isYear with
  | short isNumber =>
      have startsWithDigit := isNumber.head?_append rest
      split
      · next isText => exact absurd (startsWithDigit '-' (by rw [isText]; rfl)) (by decide)
      · next isText => exact absurd (startsWithDigit '+' (by rw [isText]; rfl)) (by decide)
      · rw [digits?_append isNumber ends]
        rfl
  | @signed sign digits present areDigits =>
      have isNumber : Digits (digits.length + rest.length) digits :=
        ⟨present, areDigits, Nat.le_add_right _ _⟩
      have isRead := digits?_append isNumber ends
      cases sign with
      | plus => simp [Sign.written, Sign.signed, isRead]
      | minus => simp [Sign.written, Sign.signed, isRead]

/-- A year that is read may stand behind blanks. -/
theorem year?_eq_some
    {text rest : List Char} {number : ℤ}
    (isRead : year? text = some (number, rest)) :
    ∃ blanks year, text = blanks ++ (year ++ rest) ∧
      (∀ c ∈ blanks, Text.isBlank c = true) ∧ WrittenYear year number := by
  suffices found : ∃ year, text.dropWhile Text.isBlank = year ++ rest ∧ WrittenYear year number by
    obtain ⟨year, isRest, isYear⟩ := found
    refine ⟨text.takeWhile Text.isBlank, year, ?_, fun c => List.mem_takeWhile_imp, isYear⟩
    rw [← isRest, List.takeWhile_append_dropWhile]
  unfold year? at isRead
  split at isRead
  · next others isText =>
      rw [isText]
      obtain ⟨⟨value, left⟩, isDigits, isResult⟩ := Option.map_eq_some_iff.mp isRead
      cases isResult
      obtain ⟨digits, rfl, isNumber, rfl⟩ := digits?_eq_some isDigits
      exact ⟨_, rfl, .signed .minus isNumber.present isNumber.areDigits⟩
  · next others isText =>
      rw [isText]
      obtain ⟨⟨value, left⟩, isDigits, isResult⟩ := Option.map_eq_some_iff.mp isRead
      cases isResult
      obtain ⟨digits, rfl, isNumber, rfl⟩ := digits?_eq_some isDigits
      exact ⟨_, rfl, .signed .plus isNumber.present isNumber.areDigits⟩
  · obtain ⟨⟨value, left⟩, isDigits, isResult⟩ := Option.map_eq_some_iff.mp isRead
    cases isResult
    obtain ⟨digits, isText, isNumber, rfl⟩ := digits?_eq_some isDigits
    exact ⟨digits, isText, .short isNumber⟩

/-- Months and days may stand behind blanks, too. -/
theorem twoDigits?_append
    {blanks digits rest : List Char}
    (areBlank : ∀ c ∈ blanks, Text.isBlank c = true)
    (isNumber : Digits 2 digits)
    (ends : ∀ c ∈ rest.head?, c.isDigit = false) :
    twoDigits? (blanks ++ (digits ++ rest)) = some (Numeral.decimalValue digits, rest) := by
  rw [twoDigits?, Text.dropWhile_append_of_dense areBlank isNumber.present isNumber.signed.dense,
    digits?_append isNumber ends]

theorem twoDigits?_eq_some
    {text rest : List Char} {number : Nat}
    (isRead : twoDigits? text = some (number, rest)) :
    ∃ blanks digits, text = blanks ++ (digits ++ rest) ∧
      (∀ c ∈ blanks, Text.isBlank c = true) ∧ Digits 2 digits ∧
      number = Numeral.decimalValue digits := by
  obtain ⟨digits, isRest, isNumber, isValue⟩ := digits?_eq_some isRead
  refine ⟨text.takeWhile Text.isBlank, digits, ?_, fun c => List.mem_takeWhile_imp, isNumber,
    isValue⟩
  rw [← isRest, List.takeWhile_append_dropWhile]

theorem hyphen?_eq_some_iff {text rest : List Char} :
    hyphen? text = some rest ↔ text = '-' :: rest := by
  unfold hyphen?
  split <;> simp_all

/-- The reader takes exactly the texts of the grammar. -/
theorem parts?_eq_some_iff {text : List Char} {date : Date} :
    parts? text = some date ↔ Written text date := by
  have hyphenEnds (rest : List Char) : ∀ c ∈ ('-' :: rest).head?, c.isDigit = false := by
    rintro c ⟨⟩
    rfl
  constructor
  · intro isRead
    simp only [parts?, Option.bind_eq_bind, Option.bind_eq_some_iff, Prod.exists,
      Option.ite_none_right_eq_some, hyphen?_eq_some_iff, List.isEmpty_iff] at isRead
    obtain ⟨number, _, isYear, _, rfl, month, _, isMonth, _, rfl, day, _, isDay, rfl, isDate⟩ :=
      isRead
    obtain ⟨beforeYear, year, rfl, blankYear, writtenYear⟩ := year?_eq_some isYear
    obtain ⟨beforeMonth, month, rfl, blankMonth, writtenMonth, rfl⟩ := twoDigits?_eq_some isMonth
    obtain ⟨beforeDay, day, rfl, blankDay, writtenDay, rfl⟩ := twoDigits?_eq_some isDay
    cases isDate
    rw [List.append_nil]
    exact .mk blankYear writtenYear blankMonth writtenMonth blankDay writtenDay
  · rintro ⟨blankYear, writtenYear, blankMonth, writtenMonth, blankDay, writtenDay⟩
    have isDay := @twoDigits?_append _ _ [] blankDay writtenDay (by simp)
    rw [List.append_nil] at isDay
    simp [parts?, year?_append blankYear writtenYear (hyphenEnds _), hyphen?,
      twoDigits?_append blankMonth writtenMonth (hyphenEnds _), isDay]

/-- Texts that are read are written dates that are in the calendar and in the range of years. -/
theorem read?_eq_some_iff {text : String} {date : Date} :
    read? text = some date ↔
      Written text.toList date ∧ date.InCalendar ∧
        firstYear ≤ date.year ∧ date.year ≤ lastYear := by
  simp only [read?, Option.bind_eq_bind, Option.bind_eq_some_iff, Option.ite_none_right_eq_some,
    parts?_eq_some_iff, isValid_iff, Option.some.injEq]
  grind

/-! ## The standard form -/

/-- A text of the form `YYYY-MM-DD`, with its date. -/
inductive Standard : List Char → Date → Prop where
  | mk {year month day : List Char} :
      year.length = 4 → month.length = 2 → day.length = 2 →
      (∀ c ∈ year, c.isDigit = true) → (∀ c ∈ month, c.isDigit = true) →
      (∀ c ∈ day, c.isDigit = true) →
      Standard (year ++ '-' :: (month ++ '-' :: day))
        ⟨Numeral.decimalValue year, Numeral.decimalValue month, Numeral.decimalValue day⟩

theorem digits_of_length
    {digits : List Char} {length : Nat}
    (isLength : digits.length = length + 1)
    (areDigits : ∀ c ∈ digits, c.isDigit = true) :
    Digits (length + 1) digits :=
  ⟨List.ne_nil_of_length_eq_add_one isLength, areDigits, isLength.le⟩

/-- The standard form is one of the forms that are read. -/
theorem Standard.written {text : List Char} {date : Date} (standard : Standard text date) :
    Written text date := by
  obtain ⟨yearLength, monthLength, dayLength, yearDigits, monthDigits, dayDigits⟩ := standard
  exact @Written.mk [] _ [] _ [] _ _ (by simp) (.short (digits_of_length yearLength yearDigits))
    (by simp) (digits_of_length monthLength monthDigits)
    (by simp) (digits_of_length dayLength dayDigits)

/-- Dates are kept for all years of four digits. -/
theorem Standard.year_mem {text : List Char} {date : Date} (standard : Standard text date) :
    firstYear ≤ date.year ∧ date.year ≤ lastYear := by
  obtain ⟨yearLength, -, -, yearDigits, -, -⟩ := standard
  have small := Numeral.decimalValue_lt yearDigits
  rw [yearLength] at small
  simp only [firstYear, lastYear]
  omega

theorem Standard.length_eq {text : List Char} {date : Date} (standard : Standard text date) :
    text.length = 10 := by
  obtain ⟨yearLength, monthLength, dayLength, -, -, -⟩ := standard
  simp [yearLength, monthLength, dayLength]

theorem Standard.dense {text : List Char} {date : Date} (standard : Standard text date) :
    ∀ c ∈ text, Text.isBlank c = false := by
  obtain ⟨yearLength, monthLength, dayLength, yearDigits, monthDigits, dayDigits⟩ := standard
  simp only [List.forall_mem_append, List.forall_mem_cons]
  exact ⟨(digits_of_length yearLength yearDigits).signed.dense, rfl,
    (digits_of_length monthLength monthDigits).signed.dense, rfl,
    (digits_of_length dayLength dayDigits).signed.dense⟩

/-- Which of the texts that are taken have the standard form. -/
theorem Written.standard_iff {text : List Char} {date : Date} (written : Written text date) :
    Standard text date ↔
      text.length = 10 ∧ (∀ c ∈ text, Text.isBlank c = false) ∧
        ∀ c ∈ text.head?, c.isDigit = true := by
  constructor
  · intro standard
    refine ⟨standard.length_eq, standard.dense, ?_⟩
    obtain ⟨yearLength, -, -, yearDigits, -, -⟩ := standard
    exact (digits_of_length yearLength yearDigits).head?_append _
  · rintro ⟨isLength, dense, startsWithDigit⟩
    obtain ⟨blankYear, writtenYear, blankMonth, writtenMonth, blankDay, writtenDay⟩ := written
    have noBlanks {blanks : List Char} (areBlank : ∀ c ∈ blanks, Text.isBlank c = true)
        (noneBlank : ∀ c ∈ blanks, Text.isBlank c = false) : blanks = [] := by
      refine List.eq_nil_iff_forall_not_mem.mpr fun c isMember => ?_
      simpa [noneBlank c isMember] using areBlank c isMember
    simp only [List.forall_mem_append, List.forall_mem_cons] at dense
    obtain rfl := noBlanks blankYear dense.1
    obtain rfl := noBlanks blankMonth dense.2.2.2.1
    obtain rfl := noBlanks blankDay dense.2.2.2.2.2.2.1
    cases writtenYear with
    | short isNumber =>
        -- Each number has at most its digits, so none of them can lack one.
        have yearShort := isNumber.short
        have monthShort := writtenMonth.short
        have dayShort := writtenDay.short
        simp only [List.nil_append, List.length_append, List.length_cons] at isLength ⊢
        exact .mk (by omega) (by omega) (by omega) isNumber.areDigits writtenMonth.areDigits
          writtenDay.areDigits
    | signed sign present areDigits =>
        cases sign with
        | plus => exact absurd (startsWithDigit '+' rfl) (by decide)
        | minus => exact absurd (startsWithDigit '-' rfl) (by decide)

end Date

namespace BoolQuery

/-- The values that a query compares with. -/
def operands : BoolQuery → List Json
  | leaf (.equals _ value) => [value]
  | leaf (.range _ _ value) => [value]
  | leaf (.startsWith _ value) => [value]
  | oneOf _ values => values
  | _ => []

end BoolQuery

theorem Fragment.operands_ofComparison
    {operator : Operator} {value : Literal}
    (ordered : operator ∈ FieldKind.orderOperators)
    (shape : operator.takesList = value.isList)
    (name : String) :
    (ofComparison name operator value).query.operands = value.elements.map Literal.toJson := by
  cases isList : value.isList with
  | true =>
      obtain ⟨items, rfl⟩ := Literal.eq_list_of_isList isList
      cases operator with
      | isIn | notIn => rfl
      | _ => contradiction
  | false =>
      rw [Literal.elements_of_isList_eq_false isList]
      rw [isList] at shape
      cases operator with
      | equal | notEqual | greater | greaterOrEqual | less | lessOrEqual => rfl
      | isIn | notIn => contradiction
      | _ => simp [FieldKind.orderOperators] at ordered

namespace Field

variable {field : Field} {operator : Operator} {value : Literal} {fragment : Fragment}

/-- A date field accepts the texts that are read as dates. -/
theorem check_string_of_date (isDate : field.kind = .date) (text : String) :
    field.check (.string text) = .ok () ↔ ∃ date, Date.read? text = some date := by
  simp only [check, checkScalar, isDate, FieldKind.accepts]
  cases Date.read? text <;> simp

/-- What passes the check of a field of dates is a text, or null. -/
theorem isNative_of_check_date
    (isDate : field.kind = .date)
    (checked : field.check value = .ok ()) :
    value.isNative .date = true := by
  have single {item : Literal} (fine : ∀ cause, ¬field.Offends item cause) :
      item.isNative .date = true := by
    cases item with
    | null | string _ => rfl
    | _ => exact (fine _ (.type rfl (by rw [isDate]; rfl))).elim
  rw [check_eq_ok_iff] at checked
  cases value with
  | list items =>
      rw [Literal.isNative_list, List.all_eq_true]
      exact fun item isItem => single (checked item isItem)
  | _ => exact single (checked _ (List.mem_singleton_self _))

/-- A field of dates puts the texts that it is compared with into the query as they are. -/
theorem operands_of_lookup_date
    (isDate : field.kind = .date)
    (present : value.isNull = false)
    (found : field.lookup operator value = .ok fragment) :
    fragment.query.operands = value.elements.map Literal.toJson ∧
      ∀ text, .string text ∈ value.elements → field.check (.string text) = .ok () := by
  obtain ⟨allowed, ⟨isNull, _⟩ | ⟨_, ofValue⟩⟩ := lookup_eq_ok_iff.mp found
  · rw [present] at isNull
    contradiction
  obtain ⟨shape, checked, converted, coerced, rfl⟩ := lookupValue_eq_ok_iff.mp ofValue
  have native := isNative_of_check_date isDate checked
  rw [← isDate] at native
  rw [coerce_of_isNative native] at coerced
  cases coerced
  rw [isDate] at allowed
  refine ⟨Fragment.operands_ofComparison allowed shape field.name, fun text isElement => ?_⟩
  rw [check_eq_ok_iff] at checked ⊢
  intro item isItem
  rw [List.mem_singleton.mp isItem]
  exact checked _ isElement

/-- A field of dates takes exactly the texts that are written as a day of the calendar, with blanks
before the numbers, a sign before the year and fewer digits as one likes. Of the texts in the form
`YYYY-MM-DD` it takes those that name a day of the calendar; the others that it takes differ from
this form in their length, in a blank or in a sign. What it takes goes into the query as it is. -/
theorem date_texts_taken
    (isDate : field.kind = .date) :
    (∀ text, field.check (.string text) = .ok () ↔
      ∃ date, Date.Written text.toList date ∧ date.InCalendar ∧
        Date.firstYear ≤ date.year ∧ date.year ≤ Date.lastYear) ∧
    (∀ text date, Date.Standard text.toList date →
      (field.check (.string text) = .ok () ↔ date.InCalendar)) ∧
    (∀ text, field.check (.string text) = .ok () →
      ((∃ date, Date.Standard text.toList date) ↔
        text.toList.length = 10 ∧ (∀ c ∈ text.toList, Text.isBlank c = false) ∧
          ∀ c ∈ text.toList.head?, c.isDigit = true)) ∧
    ∀ operator value fragment, value.isNull = false →
      field.lookup operator value = .ok fragment →
      fragment.query.operands = value.elements.map Literal.toJson ∧
        ∀ text, .string text ∈ value.elements → field.check (.string text) = .ok () := by
  have taken (text : String) : field.check (.string text) = .ok () ↔
      ∃ date, Date.Written text.toList date ∧ date.InCalendar ∧
        Date.firstYear ≤ date.year ∧ date.year ≤ Date.lastYear := by
    simp only [check_string_of_date isDate, Date.read?_eq_some_iff]
  -- A text is written as one date only.
  have unique {text : List Char} {first second : Date} (isFirst : Date.Written text first)
      (isSecond : Date.Written text second) : first = second := by
    rw [← Date.parts?_eq_some_iff] at isFirst isSecond
    exact Option.some.inj (isFirst.symm.trans isSecond)
  refine ⟨taken, fun text date standard => ?_, fun text isTaken => ?_,
    fun operator value fragment present found => operands_of_lookup_date isDate present found⟩
  · rw [taken]
    constructor
    · rintro ⟨other, isOther, inCalendar, -⟩
      rwa [unique standard.written isOther]
    · exact fun inCalendar => ⟨date, standard.written, inCalendar, standard.year_mem⟩
  · obtain ⟨date, isWritten, -⟩ := (taken text).mp isTaken
    rw [← isWritten.standard_iff]
    constructor
    · rintro ⟨other, standard⟩
      rwa [unique isWritten standard.written]
    · exact fun standard => ⟨date, standard⟩

/-- The 29th of February is taken in a leap year only. In the year 12020 it is taken too, with a
blank before it, although it is not in the standard form. -/
theorem date_texts_taken_sample :
    (Field.ofKind "created" .date).kind = .date ∧
    check (.ofKind "created" .date) (.string "2020-02-29") = .ok () ∧
    ¬ check (.ofKind "created" .date) (.string "2021-02-29") = .ok () ∧
    check (.ofKind "created" .date) (.string " +12020-2-29") = .ok () ∧
    ¬ ∃ date, Date.Standard " +12020-2-29".toList date := by
  obtain ⟨taken, judged, standard, -⟩ := @date_texts_taken (.ofKind "created" .date) rfl
  have isStandard {year : List Char} (isLength : year.length = 4)
      (areDigits : year.all Char.isDigit) :
      Date.Standard (year ++ "-02-29".toList) ⟨Numeral.decimalValue year, 2, 29⟩ :=
    @Date.Standard.mk year ['0', '2'] ['2', '9'] isLength rfl rfl (List.all_eq_true.mp areDigits)
      (List.all_eq_true.mp rfl) (List.all_eq_true.mp rfl)
  have isTaken : check (.ofKind "created" .date) (.string " +12020-2-29") = .ok () := by
    refine (taken _).mpr ⟨⟨12020, 2, 29⟩, ?_, by decide, by decide, by decide⟩
    exact @Date.Written.mk [' '] _ [] ['2'] [] ['2', '9'] _ (List.all_eq_true.mp rfl)
      (.signed .plus (List.cons_ne_nil '1' ['2', '0', '2', '0']) (List.all_eq_true.mp rfl))
      (List.all_eq_true.mp rfl) ⟨by simp, List.all_eq_true.mp rfl, by simp⟩
      (List.all_eq_true.mp rfl) ⟨by simp, List.all_eq_true.mp rfl, by simp⟩
  refine ⟨rfl, ?_, ?_, isTaken, ?_⟩
  · refine (judged "2020-02-29" _ (@isStandard "2020".toList rfl rfl)).mpr ?_
    decide
  · rw [judged "2021-02-29" _ (@isStandard "2021".toList rfl rfl)]
    decide
  · rw [standard _ isTaken]
    rintro ⟨isLength, -⟩
    contradiction

/-- A day and a month of one digit are taken and handed on to the engine. -/
theorem date_check_takes_short_numbers :
    ¬ (check (.ofKind "created" .date) (.string "2021-3-4") = .ok () ↔
      ∃ date, Date.Standard "2021-3-4".toList date ∧ date.InCalendar) ∧
    lookup (.ofKind "created" .date) .equal (.string "2021-3-4") =
      .ok ⟨.leaf (.equals "created" (.string "2021-3-4")), false⟩ := by
  refine ⟨fun documented => ?_, rfl⟩
  obtain ⟨date, standard, -⟩ := documented.mp rfl
  have isLength := standard.length_eq
  contradiction

end Field
end FilterQuery
