import FilterQuery.Proofs.Lookup
import FilterQuery.Proofs.Nearest
import FilterQuery.Proofs.Refusals

/-!
# Conversion to whole numbers

A field of whole numbers converts doubles and texts. A double loses its
fraction, and a text is a sign and digits with blanks around them. Whatever
does not fit into 64 bits is refused; nothing is clipped and nothing wraps
around.
-/

namespace FilterQuery

/-! ## Blanks at both ends -/

namespace Text

/-- Trimming takes nothing but blanks from both ends. -/
theorem exists_append_trim (text : List Char) :
    ∃ before after, text = before ++ trim text ++ after ∧
      (∀ c ∈ before, isBlank c = true) ∧ ∀ c ∈ after, isBlank c = true := by
  let rest := text.dropWhile isBlank
  refine ⟨text.takeWhile isBlank, (rest.reverse.takeWhile isBlank).reverse, ?_, ?_, ?_⟩
  · have behind : trim text ++ (rest.reverse.takeWhile isBlank).reverse = rest := by
      rw [trim, ← List.reverse_append, List.takeWhile_append_dropWhile, List.reverse_reverse]
    rw [List.append_assoc, behind, List.takeWhile_append_dropWhile]
  · exact fun c isMember => List.mem_takeWhile_imp isMember
  · exact fun c isMember => List.mem_takeWhile_imp (List.mem_reverse.mp isMember)

/-- Dropping blanks stops at a text without any. -/
theorem dropWhile_append_of_dense
    {blanks body rest : List Char}
    (blank : ∀ c ∈ blanks, isBlank c = true)
    (present : body ≠ [])
    (dense : ∀ c ∈ body, isBlank c = false) :
    (blanks ++ (body ++ rest)).dropWhile isBlank = body ++ rest := by
  rw [List.dropWhile_append_of_pos blank]
  cases body with
  | nil => contradiction
  | cons c others =>
      rw [List.cons_append, List.dropWhile_cons_of_neg]
      simp [dense c]

/-- A text without blanks is what is left of it between blanks. -/
theorem trim_append_of_dense
    {before body after : List Char}
    (blankBefore : ∀ c ∈ before, isBlank c = true)
    (blankAfter : ∀ c ∈ after, isBlank c = true)
    (present : body ≠ [])
    (dense : ∀ c ∈ body, isBlank c = false) :
    trim (before ++ body ++ after) = body := by
  have fromEnd : (after.reverse ++ body.reverse).dropWhile isBlank = body.reverse := by
    have stops := @dropWhile_append_of_dense after.reverse body.reverse []
      (by simpa using blankAfter) (by simpa using present) (by simpa using dense)
    simpa using stops
  rw [trim, List.append_assoc, dropWhile_append_of_dense blankBefore present dense,
    List.reverse_append, fromEnd, List.reverse_reverse]

end Text

/-! ## Signs and digits -/

namespace Sign

/-- How a sign is written, where there is one. -/
def written : Option Sign → List Char
  | none => []
  | some plus => ['+']
  | some minus => ['-']

/-- A number with a sign in front. -/
def signed : Option Sign → Int → Int
  | some minus, number => -number
  | _, number => number

theorem written_append_of_take?
    {text rest : List Char} {sign : Option Sign}
    (taken : take? text = (sign, rest)) :
    text = written sign ++ rest := by
  unfold take? at taken
  split at taken <;> cases taken <;> rfl

/-- A sign is taken off a number that is written with it. -/
theorem take?_written_append
    (sign : Option Sign) {digit : Char} {digits : List Char}
    (isDigit : digit.isDigit = true) :
    take? (written sign ++ digit :: digits) = (sign, digit :: digits) := by
  cases sign with
  | none =>
      have notPlus : digit ≠ '+' := by
        rintro rfl
        contradiction
      have notMinus : digit ≠ '-' := by
        rintro rfl
        contradiction
      simp [written, take?, notPlus, notMinus]
  | some sign => cases sign <;> rfl

end Sign

namespace Numeral

/-- The number that decimal digits stand for, the last digit counting ones. -/
def decimalValue (digits : List Char) : Nat :=
  Nat.ofDigits 10 (digits.reverse.map fun digit => digit.toNat - '0'.toNat)

theorem natOfDigits_eq (digits : List Char) : natOfDigits digits = decimalValue digits := by
  rw [decimalValue, Nat.ofDigits_eq_foldr, List.foldr_map, List.foldr_reverse, natOfDigits]
  congr 1
  funext total digit
  exact Nat.add_comm _ _

/-- A text that is an optional sign followed by decimal digits, with its number. -/
inductive Signed : List Char → Int → Prop where
  | mk (sign : Option Sign) {digits : List Char} :
      digits ≠ [] → (∀ digit ∈ digits, digit.isDigit = true) →
      Signed (Sign.written sign ++ digits) (Sign.signed sign (decimalValue digits))

theorem Signed.ne_nil {text : List Char} {value : Int} (isSigned : Signed text value) :
    text ≠ [] := by
  obtain ⟨sign, present, -⟩ := isSigned
  simp [present]

/-- Signs and digits are no blanks. -/
theorem Signed.dense {text : List Char} {value : Int} (isSigned : Signed text value) :
    ∀ c ∈ text, Text.isBlank c = false := by
  obtain ⟨sign, -, digits⟩ := isSigned
  intro c isMember
  rcases List.mem_append.mp isMember with inSign | inDigits
  · match sign, inSign with
    | some .plus, inSign =>
        obtain rfl := List.mem_singleton.mp inSign
        rfl
    | some .minus, inSign =>
        obtain rfl := List.mem_singleton.mp inSign
        rfl
  · have isDigit := digits c inDigits
    simp only [Char.isDigit, Bool.and_eq_true, decide_eq_true_eq] at isDigit
    have low : 48 ≤ c.toNat := UInt32.le_iff_toNat_le.mp isDigit.1
    have high : c.toNat ≤ 57 := UInt32.le_iff_toNat_le.mp isDigit.2
    simp [Text.isBlank]
    omega

theorem takeFraction_eq_none
    {text rest : List Char}
    (taken : takeFraction text = (none, rest)) :
    rest = text := by
  unfold takeFraction at taken
  split at taken <;> cases taken
  rfl

theorem takeExponent_eq_none
    {text rest : List Char}
    (taken : takeExponent text = (none, rest)) :
    rest = text := by
  unfold takeExponent at taken
  split at taken
  · split at taken <;> cases taken
    rfl
  · cases taken
    rfl

/-- A numeral without point and exponent ends with its whole digits. -/
theorem dropWhile_isDigit_of_split?
    {text rest : List Char} {sign : Option Sign} {numeral : Numeral}
    (taken : Sign.take? text = (sign, rest))
    (isNumeral : split? text = some numeral)
    (noPoint : numeral.fraction = none)
    (noExponent : numeral.exponent = none) :
    rest.dropWhile Char.isDigit = [] := by
  cases fractionTaken : takeFraction (rest.dropWhile Char.isDigit) with
  | mk fraction afterFraction =>
      cases exponentTaken : takeExponent afterFraction with
      | mk exponent afterExponent =>
          simp only [split?, taken, fractionTaken, exponentTaken] at isNumeral
          split at isNumeral
          · next isEnd =>
              cases isNumeral
              cases noPoint
              cases noExponent
              rw [← takeFraction_eq_none fractionTaken, ← takeExponent_eq_none exponentTaken]
              exact List.isEmpty_iff.mp isEnd
          · contradiction

/-- A text of digits has neither a fraction nor an exponent. -/
theorem split?_of_digits
    {text digits : List Char} {sign : Option Sign}
    (taken : Sign.take? text = (sign, digits))
    (areDigits : ∀ digit ∈ digits, digit.isDigit = true) :
    split? text = some ⟨sign, digits, none, none⟩ := by
  simp [split?, taken, List.dropWhile_eq_nil_iff.mpr areDigits, takeFraction, takeExponent,
    List.takeWhile_eq_self_iff.mpr areDigits]

theorem integer?_of_digits
    (sign : Option Sign) {digits : List Char}
    (present : digits ≠ []) :
    integer? ⟨sign, digits, none, none⟩ = some (Sign.signed sign (decimalValue digits)) := by
  rw [← natOfDigits_eq]
  match sign with
  | none | some .plus | some .minus => simp [integer?, present, isNegative, Sign.signed]

/-- What a whole number has after its sign is nothing but digits. -/
theorem integer?_of_take?
    {text rest : List Char} {sign : Option Sign} {value : Int}
    (taken : Sign.take? text = (sign, rest)) :
    (split? text).bind integer? = some value ↔
      rest ≠ [] ∧ (∀ digit ∈ rest, digit.isDigit = true) ∧
        value = Sign.signed sign (decimalValue rest) := by
  constructor
  · intro isRead
    obtain ⟨numeral, isNumeral, isValue⟩ := Option.bind_eq_some_iff.mp isRead
    have parts := isValue
    simp only [integer?, Option.ite_none_right_eq_some] at parts
    obtain ⟨⟨noPoint, noExponent, present⟩, -⟩ := parts
    have areDigits := List.dropWhile_eq_nil_iff.mp
      (dropWhile_isDigit_of_split? taken isNumeral noPoint noExponent)
    rw [split?_of_digits taken areDigits] at isNumeral
    cases isNumeral
    rw [integer?_of_digits sign present] at isValue
    cases isValue
    exact ⟨present, areDigits, rfl⟩
  · rintro ⟨present, areDigits, rfl⟩
    rw [split?_of_digits taken areDigits]
    exact integer?_of_digits sign present

/-- Reading a trimmed text finds the sign and the digits. -/
theorem integer?_iff_signed {text : List Char} {value : Int} :
    (split? text).bind integer? = some value ↔ Signed text value := by
  cases taken : Sign.take? text with
  | mk sign rest =>
      rw [integer?_of_take? taken]
      constructor
      · rintro ⟨present, digits, rfl⟩
        rw [Sign.written_append_of_take? taken]
        exact .mk sign present digits
      · rintro @⟨otherSign, digits, present, areDigits⟩
        cases digits with
        | nil => contradiction
        | cons digit others =>
            rw [Sign.take?_written_append otherSign (areDigits digit List.mem_cons_self)] at taken
            cases taken
            exact ⟨present, areDigits, rfl⟩

end Numeral

namespace Number

/-- A text that is a whole number with blanks around it. -/
inductive Written : List Char → Int → Prop where
  | mk {before body after : List Char} {value : Int} :
      (∀ c ∈ before, Text.isBlank c = true) → Numeral.Signed body value →
      (∀ c ∈ after, Text.isBlank c = true) → Written (before ++ body ++ after) value

/-- To be written is to be a signed number between blanks. -/
theorem signed_trim_iff {text : List Char} {value : Int} :
    Numeral.Signed (Text.trim text) value ↔ Written text value := by
  constructor
  · intro isSigned
    obtain ⟨before, after, isText, blankBefore, blankAfter⟩ := Text.exists_append_trim text
    rw [isText]
    exact .mk blankBefore isSigned blankAfter
  · rintro ⟨blankBefore, isSigned, blankAfter⟩
    rwa [Text.trim_append_of_dense blankBefore blankAfter isSigned.ne_nil isSigned.dense]

/-- A text is read as the whole number that is written there. -/
theorem integer?_eq_some_iff {text : String} {value : Int} :
    integer? text = some value ↔ Written text.toList value := by
  rw [← signed_trim_iff, ← Numeral.integer?_iff_signed]
  rfl

end Number

/-! ## Numbers of 64 bits -/

namespace Literal

/-- The numbers that fit are those of 64 bits with a sign. -/
theorem fitsInt_iff {value : Int} : fitsInt value = true ↔ -2 ^ 63 ≤ value ∧ value < 2 ^ 63 := by
  simp [fitsInt]

/-- A number that fits is the only one that its 64 bits stand for. -/
theorem ofInt_eq_iff
    {value : Int} {number : Int64}
    (low : -2 ^ 63 ≤ value)
    (high : value < 2 ^ 63) :
    Int64.ofInt value = number ↔ number.toInt = value := by
  rw [← Int64.toInt_inj, Int64.toInt_ofInt_of_le low high]
  exact eq_comm

end Literal

namespace Field

/-- Of a double that is in range the fraction is dropped. -/
theorem wholeOfFloat?_eq_some_iff {x : Float} {number : Int64} :
    wholeOfFloat? x = some number ↔
      ∃ exact, Exact.rational? x.toModel.unpack = some exact ∧
        -2 ^ 63 ≤ exact ∧ exact < 2 ^ 63 ∧
        number.toInt = if 0 ≤ exact then ⌊exact⌋ else ⌈exact⌉ := by
  have bound : (2 : ℚ) ^ 63 = 9223372036854775808 := by norm_num
  rw [wholeOfFloat?, Exact.value?_eq_rational?, bound]
  cases Exact.rational? x.toModel.unpack with
  | none => simp
  | some exact =>
      simp only [Option.ite_none_right_eq_some, Option.some.injEq, exists_eq_left', and_assoc]
      refine and_congr_right fun low => and_congr_right fun high => ?_
      have inRange := @Exact.truncate_mem (-2 ^ 63) (2 ^ 63) exact (by norm_num)
        (by simpa using low) (by simpa using high)
      rw [Literal.ofInt_eq_iff inRange.1 inRange.2, Exact.truncate_eq]

/-- A double is refused if it is no number, or one beyond the range. -/
theorem wholeOfFloat?_eq_none_iff_rational? {x : Float} :
    wholeOfFloat? x = none ↔
      ∀ exact, Exact.rational? x.toModel.unpack = some exact →
        exact < -2 ^ 63 ∨ 2 ^ 63 ≤ exact := by
  have bound : (2 : ℚ) ^ 63 = 9223372036854775808 := by norm_num
  rw [wholeOfFloat?_eq_none_iff, Exact.exceedsLong, Exact.value?_eq_rational?, bound]
  cases Exact.rational? x.toModel.unpack <;> simp

/-- A text is taken for the number that is written in it, if that is in range. -/
theorem wholeOfText?_eq_some_iff {text : String} {number : Int64} :
    wholeOfText? text = some number ↔
      ∃ value, Number.Written text.toList value ∧ -2 ^ 63 ≤ value ∧ value < 2 ^ 63 ∧
        number.toInt = value := by
  simp only [wholeOfText?, Option.bind_eq_bind, Option.bind_eq_some_iff,
    Number.integer?_eq_some_iff, Option.ite_none_right_eq_some, Literal.fitsInt_iff,
    Option.some.injEq, and_assoc]
  refine exists_congr fun value => and_congr_right fun _ => ?_
  exact and_congr_right fun low => and_congr_right fun high => Literal.ofInt_eq_iff low high

/-- A text is refused if no number in range is written in it. -/
theorem wholeOfText?_eq_none_iff {text : String} :
    wholeOfText? text = none ↔
      ∀ value, Number.Written text.toList value → value < -2 ^ 63 ∨ 2 ^ 63 ≤ value := by
  simp only [wholeOfText?, Option.bind_eq_bind, Option.bind_eq_none_iff,
    Number.integer?_eq_some_iff, ite_eq_right_iff, reduceCtorEq, imp_false, Literal.fitsInt_iff]
  refine forall_congr' fun value => imp_congr_right fun _ => ?_
  omega

/-- A whole number that needs all 64 bits is read as a double, and that is too large. -/
theorem wholeOfFloat?_of_large
    {value : Int}
    (large : 2 ^ 63 ≤ value)
    (inRange : value < 2 ^ 64) :
    wholeOfFloat? (Float.ofInt value) = none := by
  obtain ⟨exact, isExact, atLeast⟩ := Exact.rational?_ofInt_of_large large inRange
  rw [wholeOfFloat?_eq_none_iff_rational?]
  intro other isOther
  obtain rfl := Option.some.inj (isExact.symm.trans isOther)
  right
  norm_num
  exact atLeast

/-- A scalar that a field of whole numbers converts through a 64-bit number. -/
theorem coerce_of_whole?
    {field : Field} {value : Literal} {whole? : Option Int64}
    (converts : convert? field.kind value = whole?.map .int)
    (present : value.isNull = false)
    (single : value.isList = false) :
    (∀ converted, field.coerce value = .ok converted ↔
      ∃ number, converted = .int number ∧ whole? = some number) ∧
    (∀ cause, field.coerce value = .error cause ↔
      whole? = none ∧ cause = .valueConversion field value) := by
  constructor
  · intro converted
    rw [coerce_eq_ok_iff_convert? present single, converts, Option.map_eq_some_iff]
    exact exists_congr fun number => by rw [and_comm, eq_comm]
  · intro cause
    rw [coerce_eq_error_iff_convert? present single, converts, Option.map_eq_none_iff]

/-- A field of whole numbers takes a double exactly if its value is in range, and then drops the
fraction toward zero; it refuses the whole numbers that need all 64 bits, which are read as doubles.
It takes a text exactly if a whole number in range is written there, and then takes that number. -/
theorem coerce_to_long_never_wraps
    {field : Field}
    (isLong : field.kind = .long) :
    (∀ x converted, field.coerce (.float x) = .ok converted ↔
      ∃ number, converted = .int number ∧
        ∃ exact, Exact.rational? x.toModel.unpack = some exact ∧
          -2 ^ 63 ≤ exact ∧ exact < 2 ^ 63 ∧
          number.toInt = if 0 ≤ exact then ⌊exact⌋ else ⌈exact⌉) ∧
    (∀ x cause, field.coerce (.float x) = .error cause ↔
      (∀ exact, Exact.rational? x.toModel.unpack = some exact →
        exact < -2 ^ 63 ∨ 2 ^ 63 ≤ exact) ∧
      cause = .valueConversion field (.float x)) ∧
    (∀ value : Int, 2 ^ 63 - 1 < value → value < 2 ^ 64 →
      ∃ x, Literal.ofJson? (.int value) = some (.float x) ∧
        field.coerce (.float x) = .error (.valueConversion field (.float x))) ∧
    (∀ text converted, field.coerce (.string text) = .ok converted ↔
      ∃ number, converted = .int number ∧
        ∃ value, Number.Written text.toList value ∧
          -2 ^ 63 ≤ value ∧ value < 2 ^ 63 ∧ number.toInt = value) ∧
    (∀ text cause, field.coerce (.string text) = .error cause ↔
      (∀ value, Number.Written text.toList value → value < -2 ^ 63 ∨ 2 ^ 63 ≤ value) ∧
      cause = .valueConversion field (.string text)) := by
  have ofFloat (x : Float) :=
    @coerce_of_whole? field (.float x) (wholeOfFloat? x) (by rw [isLong]; rfl) rfl rfl
  have ofText (text : String) :=
    @coerce_of_whole? field (.string text) (wholeOfText? text) (by rw [isLong]; rfl) rfl rfl
  refine ⟨fun x converted => ?_, fun x cause => ?_, fun value large inRange => ?_,
    fun text converted => ?_, fun text cause => ?_⟩
  · simp only [(ofFloat x).1, wholeOfFloat?_eq_some_iff]
  · rw [(ofFloat x).2, wholeOfFloat?_eq_none_iff_rational?]
  · have wide : ¬Literal.fitsInt value = true := by
      rw [Literal.fitsInt_iff]
      omega
    refine ⟨Float.ofInt value, ?_, ?_⟩
    · rw [Literal.ofJson?, Literal.ofInt, if_neg wide]
    · exact ((ofFloat _).2 _).mpr ⟨wholeOfFloat?_of_large (by omega) inRange, rfl⟩
  · simp only [(ofText text).1, wholeOfText?_eq_some_iff]
  · rw [(ofText text).2, wholeOfText?_eq_none_iff]

/-- The least number is taken and the one after the greatest is refused, as a double and as a text;
a fraction is dropped on both sides of zero. -/
theorem coerce_to_long_never_wraps_sample :
    (Field.ofKind "price" .long).kind = .long ∧
    coerce (.ofKind "price" .long) (.float (Float.ofBits 0xC3E0000000000000)) =
      .ok (.int Int64.minValue) ∧
    coerce (.ofKind "price" .long) (.float (Float.ofBits 0x43E0000000000000)) =
      .error (.valueConversion (.ofKind "price" .long) (.float (Float.ofBits 0x43E0000000000000))) ∧
    coerce (.ofKind "price" .long) (.float (Float.ofBits 0xC006000000000000)) =
      .ok (.int (-2)) ∧
    (∃ x, Literal.ofJson? (.int 18446744073709551615) = some (.float x) ∧
      coerce (.ofKind "price" .long) (.float x) =
        .error (.valueConversion (.ofKind "price" .long) (.float x))) ∧
    coerce (.ofKind "price" .long) (.string "\u3000-7 ") = .ok (.int (-7)) := by
  obtain ⟨takes, refuses, wide, reads, _⟩ :=
    @coerce_to_long_never_wraps (.ofKind "price" .long) rfl
  refine ⟨rfl, ?_, ?_, ?_, wide _ (by norm_num) (by norm_num), ?_⟩
  · have unpacked : (Float.ofBits 0xC3E0000000000000).toModel.unpack =
        .finite .negative 4503599627370496 11 (by decide) := rfl
    have isExact : Exact.rational? (Float.ofBits 0xC3E0000000000000).toModel.unpack =
        some (-2 ^ 63) := by
      rw [unpacked]
      norm_num [Exact.rational?, Float.Model.UnpackedFloat.Sign.apply]
    exact (takes _ _).mpr ⟨_, rfl, _, isExact, by norm_num, by norm_num, by norm_num; rfl⟩
  · have unpacked : (Float.ofBits 0x43E0000000000000).toModel.unpack =
        .finite .positive 4503599627370496 11 (by decide) := rfl
    refine (refuses _ _).mpr ⟨?_, rfl⟩
    rintro exact isExact
    rw [unpacked] at isExact
    cases isExact
    norm_num [Float.Model.UnpackedFloat.Sign.apply]
  · have unpacked : (Float.ofBits 0xC006000000000000).toModel.unpack =
        .finite .negative 6192449487634432 (-51) (by decide) := rfl
    have isExact : Exact.rational? (Float.ofBits 0xC006000000000000).toModel.unpack =
        some (-11 / 4) := by
      rw [unpacked]
      norm_num [Exact.rational?, Float.Model.UnpackedFloat.Sign.apply]
    exact (takes _ _).mpr ⟨_, rfl, _, isExact, by norm_num, by norm_num, by norm_num; rfl⟩
  · have isSigned : Numeral.Signed ['-', '7'] (-7) :=
      .mk (some .minus) (List.cons_ne_nil '7' []) (List.forall_mem_singleton.mpr rfl)
    have isWritten : Number.Written (['\u3000'] ++ ['-', '7'] ++ [' ']) (-7) :=
      .mk (List.forall_mem_singleton.mpr rfl) isSigned (List.forall_mem_singleton.mpr rfl)
    exact (reads _ _).mpr ⟨-7, rfl, -7, isWritten, by norm_num, by norm_num, rfl⟩

end Field
end FilterQuery
