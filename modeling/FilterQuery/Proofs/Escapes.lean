import FilterQuery.Url.Path
import Mathlib.Data.List.Basic
import Mathlib.Tactic.IntervalCases

/-!
# Octets, escapes and back

A text that is turned into octets and read again is the same text, and so is one
whose characters are escaped on the way.
-/

namespace FilterQuery
namespace Utf8

/-! ## Characters in octets -/

theorem toList_loop (octets : ByteArray) (position : Nat) (before : List UInt8) :
    ByteArray.toList.loop octets position before =
      before.reverse ++ octets.data.toList.drop position := by
  fun_induction ByteArray.toList.loop octets position before with
  | case1 position before inside inductionHypothesis =>
      have isOctet : octets.get! position = octets.data.toList[position] :=
        getElem!_pos octets.data position inside
      rw [inductionHypothesis, List.drop_eq_getElem_cons inside, isOctet]
      simp
  | case2 position before outside =>
      rw [List.drop_eq_nil_of_le (Nat.le_of_not_lt outside), List.append_nil]

theorem encode_ofList (text : List Char) :
    encode (String.ofList text) = text.flatMap String.utf8EncodeChar := by
  rw [encode, String.toUTF8_eq_toByteArray, String.toByteArray_ofList, ByteArray.toList,
    toList_loop, List.utf8Encode, List.toList_data_toByteArray]
  rfl

/-- An octet that begins a character of more than one. -/
theorem decodeFrom_begin
    {octet : Nat} {begun : Begun}
    (small : octet < 256)
    (begins : first octet = ([], some begun))
    (rest : List UInt8) :
    decodeFrom none (UInt8.ofNat octet :: rest) = decodeFrom (some begun) rest := by
  rw [decodeFrom, UInt8.toNat_ofNat_of_lt' small, begins]
  rfl

/-- An octet within a character. -/
theorem decodeFrom_continue
    {bits missing lower upper number : Nat}
    (low : lower ≤ number % 64 + 128)
    (high : number % 64 + 128 ≤ upper)
    (rest : List UInt8) :
    decodeFrom (some ⟨bits, missing + 2, lower, upper⟩) (UInt8.ofNat (number % 64 + 128) :: rest) =
      decodeFrom (some ⟨bits * 64 + number % 64, missing + 1, 0x80, 0xBF⟩) rest := by
  have small : number % 64 + 128 < 256 := by omega
  rw [decodeFrom, UInt8.toNat_ofNat_of_lt' small, next, if_pos ⟨low, high⟩]
  simp

/-- The octet that ends a character. -/
theorem decodeFrom_finish
    {bits lower upper number : Nat}
    (low : lower ≤ number % 64 + 128)
    (high : number % 64 + 128 ≤ upper)
    (rest : List UInt8) :
    decodeFrom (some ⟨bits, 1, lower, upper⟩) (UInt8.ofNat (number % 64 + 128) :: rest) =
      Char.ofNat (bits * 64 + number % 64) :: decodeFrom none rest := by
  have small : number % 64 + 128 < 256 := by omega
  rw [decodeFrom, UInt8.toNat_ofNat_of_lt' small, next, if_pos ⟨low, high⟩]
  simp

theorem first_of_two {number : Nat} (low : 127 < number) (high : number ≤ 2047) :
    first (number / 64 % 32 + 192) = ([], some ⟨number / 64, 1, 0x80, 0xBF⟩) := by
  have isSmall : number / 64 % 32 = number / 64 := Nat.mod_eq_of_lt (by omega)
  rw [isSmall, first, if_neg (by omega), if_neg (by omega), if_pos (by omega), Nat.add_sub_cancel]

/-- The first of three octets bounds the second one, which no surrogate exceeds. -/
theorem first_of_three
    {number : Nat}
    (low : 2047 < number)
    (high : number ≤ 65535)
    (noSurrogate : number < 0xD800 ∨ 0xDFFF < number) :
    ∃ lower upper, first (number / 4096 % 16 + 224) = ([], some ⟨number / 4096, 2, lower, upper⟩) ∧
      lower ≤ number / 64 % 64 + 128 ∧ number / 64 % 64 + 128 ≤ upper := by
  have isCase : number / 4096 = 0 ∨ number / 4096 = 13 ∨
      (number / 4096 ≠ 0 ∧ number / 4096 ≠ 13) := by
    omega
  rcases isCase with isLowest | isSurrogate | ⟨notLowest, notSurrogate⟩
  · refine ⟨0xA0, 0xBF, ?_, by omega, by omega⟩
    simp [isLowest, first]
  · refine ⟨0x80, 0x9F, ?_, by omega, by omega⟩
    simp [isSurrogate, first]
  · refine ⟨0x80, 0xBF, ?_, by omega, by omega⟩
    have isSmall : number / 4096 % 16 = number / 4096 := Nat.mod_eq_of_lt (by omega)
    rw [isSmall, first, if_neg (by omega), if_neg (by omega), if_neg (by omega), if_neg (by omega),
      if_neg (by omega), if_pos (by omega), Nat.add_sub_cancel]

/-- The first of four octets bounds the second one. -/
theorem first_of_four
    {number : Nat}
    (low : 65535 < number)
    (high : number < 0x110000) :
    ∃ lower upper, first (number / 262144 % 8 + 240) =
        ([], some ⟨number / 262144, 3, lower, upper⟩) ∧
      lower ≤ number / 4096 % 64 + 128 ∧ number / 4096 % 64 + 128 ≤ upper := by
  rcases (by omega : number / 262144 = 0 ∨ number / 262144 = 4 ∨
      (0 < number / 262144 ∧ number / 262144 < 4)) with isLowest | isHighest | isBetween
  · refine ⟨0x90, 0xBF, ?_, by omega, by omega⟩
    simp [isLowest, first]
  · refine ⟨0x80, 0x8F, ?_, by omega, by omega⟩
    simp [isHighest, first]
  · refine ⟨0x80, 0xBF, ?_, by omega, by omega⟩
    have isSmall : number / 262144 % 8 = number / 262144 := Nat.mod_eq_of_lt (by omega)
    rw [isSmall, first, if_neg (by omega), if_neg (by omega), if_neg (by omega), if_neg (by omega),
      if_neg (by omega), if_neg (by omega), if_neg (by omega), if_pos (by omega),
      Nat.add_sub_cancel]

/-- The octets of a character are read as this character, whatever follows them. -/
theorem decodeFrom_utf8EncodeChar (c : Char) (rest : List UInt8) :
    decodeFrom none (String.utf8EncodeChar c ++ rest) = c :: decodeFrom none rest := by
  have isNumber : Char.ofNat c.toNat = c := Char.ofNat_toNat c
  have valid : c.toNat < 0xD800 ∨ (0xDFFF < c.toNat ∧ c.toNat < 0x110000) := c.valid
  have same : c.val.toNat = c.toNat := rfl
  unfold String.utf8EncodeChar
  simp only [same]
  generalize c.toNat = number at isNumber valid
  split
  · next isOne =>
      have small : number < 256 := by omega
      rw [List.singleton_append, decodeFrom, UInt8.toNat_ofNat_of_lt' small, first,
        if_pos (by omega), isNumber]
      rfl
  · split
    · next notOne isTwo =>
        have whole : number / 64 * 64 + number % 64 = number := by omega
        rw [List.cons_append, List.singleton_append,
          decodeFrom_begin (by omega) (first_of_two (by omega) isTwo),
          decodeFrom_finish (by omega) (by omega), whole, isNumber]
    · split
      · next notTwo isThree =>
          obtain ⟨lower, upper, begins, low, high⟩ :=
            first_of_three (by omega) isThree (by omega : number < 0xD800 ∨ 0xDFFF < number)
          have whole : (number / 4096 * 64 + number / 64 % 64) * 64 + number % 64 = number := by
            omega
          rw [List.cons_append, List.cons_append, List.singleton_append,
            decodeFrom_begin (by omega) begins, decodeFrom_continue low high,
            decodeFrom_finish (by omega) (by omega), whole, isNumber]
      · next notThree =>
          obtain ⟨lower, upper, begins, low, high⟩ := first_of_four (by omega : 65535 < number)
            (by omega)
          have whole : ((number / 262144 * 64 + number / 4096 % 64) * 64 + number / 64 % 64) * 64 +
              number % 64 = number := by
            omega
          rw [List.cons_append, List.cons_append, List.cons_append, List.singleton_append,
            decodeFrom_begin (by omega) begins, decodeFrom_continue low high,
            decodeFrom_continue (by omega) (by omega), decodeFrom_finish (by omega) (by omega),
            whole, isNumber]

/-- Reading the octets of a text gives the text back. -/
theorem decode_encode (text : String) : decode (encode text) = text := by
  have isRead (characters : List Char) :
      decodeFrom none (characters.flatMap String.utf8EncodeChar) = characters := by
    induction characters with
    | nil => rfl
    | cons c rest inductionHypothesis =>
        rw [List.flatMap_cons, decodeFrom_utf8EncodeChar, inductionHypothesis]
  rw [← text.ofList_toList, encode_ofList, decode, isRead]

end Utf8

/-! ## Escapes -/

namespace Percent

theorem decode_cons_of_ne {octet : UInt8} (plain : octet ≠ sign) (rest : List UInt8) :
    decode (octet :: rest) = octet :: decode rest := by
  match rest with
  | [] => rfl
  | [_] => rfl
  | high :: low :: others => rw [decode, decodeExcept, if_neg plain, decode]

/-- A hexadecimal digit is one octet, which has the digit's value. -/
theorem exists_hexDigit {value : Nat} (isDigit : value < 16) :
    ∃ octet, String.utf8EncodeChar (hexDigit value) = [octet] ∧
      hexValue? octet = some (UInt8.ofNat value) := by
  interval_cases value <;> exact ⟨_, rfl, rfl⟩

/-- The escape of an octet is replaced by the octet, whatever follows it. -/
theorem decode_escapeOctet (octet : UInt8) (rest : List UInt8) :
    decode ((escapeOctet octet).flatMap String.utf8EncodeChar ++ rest) = octet :: decode rest := by
  have isOctet := octet.toNat_lt
  obtain ⟨high, isHigh, highValue⟩ := exists_hexDigit (by omega : octet.toNat / 16 < 16)
  obtain ⟨low, isLow, lowValue⟩ := exists_hexDigit (by omega : octet.toNat % 16 < 16)
  have isSign : String.utf8EncodeChar '%' = [sign] := rfl
  have isValue : octet? high low = some octet := by
    have isSum : UInt8.ofNat (octet.toNat / 16) * 16 + UInt8.ofNat (octet.toNat % 16) = octet := by
      rw [← UInt8.toNat_inj]
      simp
      omega
    rw [octet?, highValue, lowValue]
    exact congrArg some isSum
  simp only [escapeOctet, List.flatMap_cons, List.flatMap_nil, isSign, isHigh, isLow,
    List.cons_append, List.nil_append]
  rw [decode, decodeExcept, if_pos rfl, isValue]
  rfl

theorem decode_escapeOctets (octets rest : List UInt8) :
    decode ((octets.flatMap escapeOctet).flatMap String.utf8EncodeChar ++ rest) =
      octets ++ decode rest := by
  induction octets with
  | nil => rfl
  | cons octet others inductionHypothesis =>
      rw [List.flatMap_cons, List.flatMap_append, List.append_assoc, decode_escapeOctet,
        inductionHypothesis, List.cons_append]

/-- A character that is escaped or not is replaced by its octets, unless it is a percent sign. -/
theorem decode_escapeChar
    (reserved : List Char) {c : Char}
    (noSign : c ≠ '%')
    (rest : List UInt8) :
    decode ((escapeChar reserved c).flatMap String.utf8EncodeChar ++ rest) =
      String.utf8EncodeChar c ++ decode rest := by
  unfold escapeChar
  split
  · exact decode_escapeOctets _ rest
  · next isPlain =>
      simp only [isAlwaysEscaped, Bool.or_eq_true, decide_eq_true_eq, not_or] at isPlain
      have isAscii : c.toNat < 127 := by omega
      have isOctet : String.utf8EncodeChar c = [UInt8.ofNat c.toNat] :=
        if_pos (Nat.le_of_lt isAscii)
      have notSign : UInt8.ofNat c.toNat ≠ sign := by
        intro isSign
        have small : c.toNat < 256 := by omega
        have isNumber := congrArg UInt8.toNat isSign
        rw [UInt8.toNat_ofNat_of_lt' small] at isNumber
        exact noSign (Char.toNat_inj.mp isNumber)
      rw [List.flatMap_singleton, isOctet, List.singleton_append, decode_cons_of_ne notSign]
      rfl

/-- Escapes are undone by decoding, if the text itself has none. -/
theorem decode_escape
    (reserved : List Char) {text : List Char}
    (noSign : '%' ∉ text) :
    decode ((escape reserved text).flatMap String.utf8EncodeChar) =
      text.flatMap String.utf8EncodeChar := by
  induction text with
  | nil => rfl
  | cons c rest inductionHypothesis =>
      rw [List.mem_cons, not_or] at noSign
      rw [escape, List.flatMap_cons, List.flatMap_append,
        decode_escapeChar reserved (Ne.symm noSign.1), List.flatMap_cons]
      exact congrArg _ (inductionHypothesis noSign.2)

theorem decodeText_escape
    (reserved : List Char) {text : List Char}
    (noSign : '%' ∉ text) :
    decodeText (escape reserved text) = String.ofList text := by
  rw [decodeText, Utf8.encode_ofList, decode_escape reserved noSign, ← Utf8.encode_ofList,
    Utf8.decode_encode]

/-- What stands in an escaped text. -/
theorem mem_escape {reserved text : List Char} {c : Char} (isMember : c ∈ escape reserved text) :
    c = '%' ∨ (∃ value < 16, c = hexDigit value) ∨
      (c ∈ text ∧ isAlwaysEscaped c = false ∧ c ∉ reserved) := by
  obtain ⟨original, inText, isMember⟩ := List.mem_flatMap.mp isMember
  unfold escapeChar at isMember
  split at isMember
  · obtain ⟨octet, -, isMember⟩ := List.mem_flatMap.mp isMember
    have isOctet := octet.toNat_lt
    simp only [escapeOctet, List.mem_cons, List.not_mem_nil, or_false] at isMember
    rcases isMember with rfl | rfl | rfl
    · exact .inl rfl
    · exact .inr (.inl ⟨_, by omega, rfl⟩)
    · exact .inr (.inl ⟨_, by omega, rfl⟩)
  · next isPlain =>
      obtain rfl := List.mem_singleton.mp isMember
      simp only [Bool.or_eq_true, List.contains_iff_mem, not_or, Bool.not_eq_true] at isPlain
      exact .inr (.inr ⟨inText, isPlain⟩)

theorem escape_of_plain
    {reserved text : List Char}
    (plain : ∀ c ∈ text, isAlwaysEscaped c = false ∧ c ∉ reserved) :
    escape reserved text = text := by
  induction text with
  | nil => rfl
  | cons c rest inductionHypothesis =>
      obtain ⟨⟨notAlways, notReserved⟩, restPlain⟩ := List.forall_mem_cons.mp plain
      have isPlain : escapeChar reserved c = [c] := by simp [escapeChar, notAlways, notReserved]
      rw [escape, List.flatMap_cons, isPlain, List.singleton_append]
      exact congrArg _ (inductionHypothesis restPlain)

end Percent

namespace Url.Path

open Percent

/-- A segment that is escaped has nothing left to be escaped. -/
theorem escape_escape (segment : List Char) :
    escape reserved (escape reserved segment) = escape reserved segment := by
  refine escape_of_plain fun c isMember => ?_
  rcases mem_escape isMember with rfl | ⟨value, isDigit, rfl⟩ | ⟨-, isPlain⟩
  · decide
  · interval_cases value <;> decide
  · exact isPlain

/-! ## Dots -/

theorem eq_or_of_toLower_eq {c lower : Char} (isLower : c.toLower = lower) :
    c = lower ∨ (65 ≤ c.toNat ∧ c.toNat + 32 = lower.toNat) := by
  unfold Char.toLower at isLower
  split at isLower
  · next isUpper =>
      have least : 65 ≤ c.val.toNat := UInt32.le_iff_toNat_le.mp isUpper.1
      have most : c.val.toNat ≤ 90 := UInt32.le_iff_toNat_le.mp isUpper.2
      have isSum : (c.val + 32).toNat = c.val.toNat + 32 := by
        rw [UInt32.toNat_add]
        exact Nat.mod_eq_of_lt (show c.val.toNat + 32 < 2 ^ 32 by omega)
      exact .inr ⟨least, isLower ▸ isSum.symm⟩
  · exact .inl isLower

/-- The lower forms of a dot. -/
def dots : List (List Char) :=
  [['.'], ['%', '2', 'e']]

/-- Every form of a dot is decoded to a dot, in whichever case it is written. -/
theorem decode_dot
    {segment dot lowerRest : List Char}
    (isDot : dot ∈ dots)
    (isForm : segment.map Char.toLower = dot ++ lowerRest) :
    ∃ rest : List Char, rest.map Char.toLower = lowerRest ∧
      decode (segment.flatMap String.utf8EncodeChar) =
        0x2E :: decode (rest.flatMap String.utf8EncodeChar) := by
  simp only [dots, List.mem_cons, List.not_mem_nil, or_false] at isDot
  rcases isDot with rfl | rfl
  · obtain ⟨c, rest, rfl, isLower, isRest⟩ := List.map_eq_cons_iff.mp isForm
    obtain rfl : c = '.' := (eq_or_of_toLower_eq isLower).resolve_right (by simp; omega)
    exact ⟨rest, isRest, decode_cons_of_ne (by decide) _⟩
  · obtain ⟨first, _, rfl, isFirst, isForm⟩ := List.map_eq_cons_iff.mp isForm
    obtain ⟨second, _, rfl, isSecond, isForm⟩ := List.map_eq_cons_iff.mp isForm
    obtain ⟨third, rest, rfl, isThird, isRest⟩ := List.map_eq_cons_iff.mp isForm
    obtain rfl : first = '%' := (eq_or_of_toLower_eq isFirst).resolve_right (by simp; omega)
    obtain rfl : second = '2' := (eq_or_of_toLower_eq isSecond).resolve_right (by simp; omega)
    -- Only the letter has a second form.
    rcases eq_or_of_toLower_eq isThird with rfl | ⟨-, isUpper⟩
    · exact ⟨rest, isRest, rfl⟩
    · obtain rfl : third = 'E' := Char.toNat_inj.mp (by simp at isUpper ⊢; omega)
      exact ⟨rest, isRest, rfl⟩

/-- A segment that stands for its own place is decoded to a dot. -/
theorem decodeText_of_isHere {segment : List Char} (here : isHere segment = true) :
    decodeText segment = "." := by
  obtain ⟨dot, isDot, isForm⟩ : ∃ dot ∈ dots, segment.map Char.toLower = dot ++ [] := by
    simpa [dots, isHere, ← String.toList_inj] using here
  obtain ⟨rest, isRest, isDecoded⟩ := decode_dot isDot isForm
  rw [decodeText, Utf8.encode_ofList, isDecoded, List.map_eq_nil_iff.mp isRest]
  rfl

/-- A segment that stands for the place above is decoded to two dots. -/
theorem decodeText_of_isAbove {segment : List Char} (above : isAbove segment = true) :
    decodeText segment = ".." := by
  obtain ⟨first, isFirst, second, isSecond, isForm⟩ : ∃ first ∈ dots, ∃ second ∈ dots,
      segment.map Char.toLower = first ++ (second ++ []) := by
    simpa [dots, isAbove, ← String.toList_inj, or_assoc] using above
  obtain ⟨behind, isBehind, isDecoded⟩ := decode_dot isFirst isForm
  obtain ⟨rest, isRest, isDecodedBehind⟩ := decode_dot isSecond isBehind
  rw [decodeText, Utf8.encode_ofList, isDecoded, isDecodedBehind, List.map_eq_nil_iff.mp isRest]
  rfl

end Url.Path

end FilterQuery
