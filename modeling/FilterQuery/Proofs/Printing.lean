import FilterQuery.Json.Printer
import FilterQuery.Json.Written
import FilterQuery.Proofs.Lists
import FilterQuery.Proofs.Nesting
import FilterQuery.Proofs.WholeNumbers

/-!
# Reading what was printed

The text of a value is cut into the tokens that it was put together from, and
these are read as the value. Main statement: a value without doubles whose
whole numbers have 64 bits is found again in its text. Doubles are left out,
since a text does not always give back the double that it was made from.
-/

namespace FilterQuery
namespace Json

/-- A value of at most so many levels that is found again in its text: there are no doubles in it,
and whole numbers have 64 bits. -/
inductive Plain : Nat → Json → Prop where
  | null (levels : Nat) : Plain levels null
  | bool (levels : Nat) (value : Bool) : Plain levels (bool value)
  | int {levels : Nat} {value : Int} :
      -9223372036854775808 ≤ value → value < UInt64.size → Plain levels (int value)
  | string (levels : Nat) (value : String) : Plain levels (string value)
  | array {levels : Nat} {items : List Json} :
      (∀ item ∈ items, Plain levels item) → Plain (levels + 1) (array items)
  | object {levels : Nat} {members : List (String × Json)} :
      (∀ member ∈ members, Plain levels member.2) → Plain (levels + 1) (object members)

/-- A plain value is not nested beyond its levels. -/
theorem Plain.nesting_le {levels : Nat} {json : Json} (plain : json.Plain levels) :
    json.nesting ≤ levels := by
  induction plain with
  | null | bool | int | string => exact Nat.zero_le _
  | array _ inductionHypothesis =>
      rw [nesting, Nat.add_comm]
      exact Nat.add_le_add_right (itemsNesting_le_iff.mpr inductionHypothesis) 1
  | object _ inductionHypothesis =>
      rw [nesting, membersNesting_eq, Nat.add_comm]
      exact Nat.add_le_add_right
        (itemsNesting_le_iff.mpr (List.forall_mem_map.mpr inductionHypothesis)) 1

/-! ## Strings -/

/-- Two zeros and two digits are written for a control character. -/
theorem fourHexDigits_eq {number : Nat} (small : number < 0x20) :
    fourHexDigits number = ['0', '0', (number / 16).digitChar, (number % 16).digitChar] := by
  revert number
  decide

/-- The four digits are read as the number that they were written for. -/
theorem unit?_fourHexDigits {number : Nat} (small : number < 0x20) :
    Piece.unit? '0' '0' (number / 16).digitChar (number % 16).digitChar = some number := by
  revert number
  decide

/-- A letter behind a backslash stands for one character. -/
theorem read?_escaped
    {letter c : Char} {rest : List Char}
    (isEscape : Piece.escaped? letter = some c)
    (notUnit : letter ≠ 'u') :
    Piece.read? ('\\' :: letter :: rest) =
      (Piece.read? rest).map fun reading => (.char c :: reading.1, reading.2) := by
  rw [Piece.read?, isEscape]
  · cases Piece.read? rest <;> rfl
  · exact fun _ _ _ _ _ isUnit _ => notUnit isUnit

/-- Four hexadecimal digits behind `\u` stand for one unit. -/
theorem read?_unit
    {first second third fourth : Char} {rest : List Char} {value : Nat}
    (isUnit : Piece.unit? first second third fourth = some value) :
    Piece.read? ('\\' :: 'u' :: first :: second :: third :: fourth :: rest) =
      (Piece.read? rest).map fun reading => (.unit value :: reading.1, reading.2) := by
  rw [Piece.read?, isUnit]
  cases Piece.read? rest <;> rfl

/-- Every other character stands for itself. -/
theorem read?_plain
    {c : Char} {rest : List Char}
    (notQuote : c ≠ '"')
    (notBackslash : c ≠ '\\')
    (printable : ¬c.toNat < 0x20) :
    Piece.read? (c :: rest) =
      (Piece.read? rest).map fun reading => (.char c :: reading.1, reading.2) := by
  rw [Piece.read?, if_neg (not_or.mpr ⟨notBackslash, printable⟩)]
  · cases Piece.read? rest <;> rfl
  · exact notQuote
  · exact fun _ _ _ _ _ isBackslash _ => notBackslash isBackslash
  · exact fun _ _ isBackslash _ => notBackslash isBackslash

/-- The piece that a character is written as: a code unit, unless it stands for itself or has a
letter of its own. -/
def pieceOf (c : Char) : Piece :=
  if c.toNat < 0x20 ∧ c ∉ ['\x08', '\t', '\n', '\x0c', '\r'] then .unit c.toNat
  else .char c

/-- The pieces that a text is written as. -/
def piecesOf (text : String) : List Piece :=
  text.toList.map pieceOf

/-- A written character is read as its piece. -/
theorem read?_writtenChar (c : Char) (rest : List Char) :
    Piece.read? (writtenChar c ++ rest) =
      (Piece.read? rest).map fun reading => (pieceOf c :: reading.1, reading.2) := by
  unfold writtenChar
  split_ifs with isQuote isBackslash isBack isTab isLine isFeed isReturn coded
  · subst isQuote
    exact read?_escaped rfl (by decide)
  · subst isBackslash
    exact read?_escaped rfl (by decide)
  · subst isBack
    exact read?_escaped rfl (by decide)
  · subst isTab
    exact read?_escaped rfl (by decide)
  · subst isLine
    exact read?_escaped rfl (by decide)
  · subst isFeed
    exact read?_escaped rfl (by decide)
  · subst isReturn
    exact read?_escaped rfl (by decide)
  · have noLetter : c ∉ ['\x08', '\t', '\n', '\x0c', '\r'] := by
      simp [isBack, isTab, isLine, isFeed, isReturn]
    rw [fourHexDigits_eq coded, pieceOf, if_pos ⟨coded, noLetter⟩]
    exact read?_unit (unit?_fourHexDigits coded)
  · rw [pieceOf, if_neg fun isUnit => coded isUnit.1]
    exact read?_plain isQuote isBackslash coded

/-- The pieces of a written text are those of its characters, up to the closing quote. -/
theorem read?_flatMap_writtenChar (text rest : List Char) :
    Piece.read? (text.flatMap writtenChar ++ '"' :: rest) = some (text.map pieceOf, rest) := by
  induction text with
  | nil => rw [List.flatMap_nil, List.nil_append, Piece.read?, List.map_nil]
  | cons c others inductionHypothesis =>
      rw [List.flatMap_cons, List.append_assoc, read?_writtenChar, inductionHypothesis]
      rfl

/-- The pieces of a text make up its characters. -/
theorem characters?_map_pieceOf (text : List Char) :
    Written.characters? (text.map pieceOf) = some text := by
  induction text with
  | nil => rfl
  | cons c others inductionHypothesis =>
      rw [List.map_cons, pieceOf]
      split
      · next coded =>
          have small : c.toNat < 0xD800 := by omega
          rw [Written.characters?.eq_def]
          dsimp only
          rw [if_pos (.inl small), inductionHypothesis, Char.ofNat_toNat]
          rfl
      · rw [Written.characters?, inductionHypothesis]
        rfl

/-- Units below the surrogates are characters, so the pieces of a text make up the text. -/
@[simp] theorem text?_piecesOf (text : String) : Written.text? (piecesOf text) = some text := by
  rw [Written.text?, piecesOf, characters?_map_pieceOf, Option.map_some, String.ofList_toList]

/-! ## Numbers -/

/-- The numeral that a whole number is written as. -/
def numeralOf (value : Int) : Numeral :=
  ⟨if value < 0 then some .minus else none, Nat.toDigits 10 value.natAbs, none, none⟩

theorem toList_toString (value : Int) :
    (toString value).toList =
      Sign.written (numeralOf value).sign ++ (numeralOf value).whole := by
  rw [Int.toString_eq_repr]
  cases value with
  | ofNat number =>
      rw [numeralOf, if_neg (by simp)]
      exact Nat.toList_repr
  | negSucc number =>
      rw [numeralOf, if_pos (Int.negSucc_lt_zero number), Int.repr, String.toList_append,
        Nat.toList_repr]
      rfl

theorem isDigit_of_mem_numeralOf
    {value : Int} {digit : Char}
    (isMember : digit ∈ (numeralOf value).whole) :
    digit.isDigit = true :=
  Nat.isDigit_of_mem_toDigits (by decide) (by decide) isMember

/-- A number other than zero does not start with the digit zero. -/
theorem head?_toDigits {number : Nat} (positive : 0 < number) :
    (Nat.toDigits 10 number).head? ≠ some '0' := by
  induction number using Nat.strong_induction_on with
  | _ number inductionHypothesis =>
      by_cases single : number < 10
      · have isDigit : ∀ digit < 10, 0 < digit → [Nat.digitChar digit].head? ≠ some '0' := by decide
        rw [Nat.toDigits_of_lt_base single]
        exact isDigit number single positive
      · rw [Nat.toDigits_of_base_le (by omega) (by omega),
          List.head?_append_of_ne_nil _ Nat.toDigits_ne_nil]
        exact inductionHypothesis (number / 10) (by omega) (by omega)

/-- An integer is written without leading zeros. -/
theorem isJson_numeralOf (value : Int) : (numeralOf value).isJson = true := by
  have noPlus : (numeralOf value).sign ≠ some .plus := by
    unfold numeralOf
    split <;> simp
  have present : (numeralOf value).whole ≠ [] := Nat.toDigits_ne_nil
  have noZero : (numeralOf value).whole.head? ≠ some '0' ∨ (numeralOf value).whole.length = 1 := by
    rcases Nat.eq_zero_or_pos value.natAbs with isZero | positive
    · right
      rw [numeralOf, isZero]
      rfl
    · exact .inl (head?_toDigits positive)
  have noFraction : (numeralOf value).fraction = none := rfl
  have noExponent : (numeralOf value).exponentComplete = true := rfl
  simp [Numeral.isJson, noPlus, present, noZero, noFraction, noExponent]

/-- The digits of a number are read as it. -/
theorem integer?_numeralOf (value : Int) : (numeralOf value).integer? = some value := by
  have isNumber : Numeral.natOfDigits (Nat.toDigits 10 value.natAbs) = value.natAbs :=
    Nat.ofDigitChars_ten_toDigits
  rw [numeralOf, Numeral.integer?_of_digits _ Nat.toDigits_ne_nil, ← Numeral.natOfDigits_eq,
    isNumber]
  split <;> simp only [Sign.signed, Option.some.injEq] <;> omega

/-- A whole number of 64 bits is the value of its numeral. -/
theorem number?_numeralOf
    {value : Int}
    (low : -9223372036854775808 ≤ value)
    (high : value < UInt64.size) :
    Written.number? (numeralOf value) = some (int value) := by
  have notNegative : ¬(value = 0 ∧ (numeralOf value).isNegative = true) := by
    rintro ⟨rfl, isNegative⟩
    exact absurd isNegative (by decide)
  simp only [Written.number?, integer?_numeralOf]
  rw [if_neg notNegative, if_pos ⟨low, high⟩]

/-! ## Tokens -/

namespace Token

/-- What follows neither continues a number nor a word. -/
def Ends (rest : List Char) : Prop :=
  ∀ c ∈ rest.head?, isNumeric c = false ∧ c.isAlpha = false

/-- A text is cut into the given tokens, whatever follows it. -/
def Scans (text : List Char) (tokens : List Token) : Prop :=
  ∀ rest, Ends rest → scan? (text ++ rest) = (scan? rest).map (tokens ++ ·)

/-- One token is taken, and scanning goes on behind it. -/
theorem scan?_cons
    {c : Char} {rest remaining : List Char} {token : Token}
    (notBlank : isBlank c = false)
    (isNext : next? c rest = some (token, remaining)) :
    scan? (c :: rest) = (scan? remaining).map (token :: ·) := by
  rw [scan?, if_neg (by simp [notBlank])]
  split
  · next reading =>
      cases isNext.symm.trans reading
      rfl
  · next reading => cases isNext.symm.trans reading

/-- The first character of a number or of a word is none that is read in another way. -/
theorem unmarked_of_isNumeric_or_isAlpha
    {c : Char}
    (isPlain : isNumeric c = true ∨ c.isAlpha = true) :
    isBlank c = false ∧ punctuation? c = none ∧ c ≠ '"' := by
  refine ⟨?_, ?_, ?_⟩
  · rw [Bool.eq_false_iff]
    intro blank
    simp only [isBlank, Bool.or_eq_true, decide_eq_true_eq] at blank
    rcases blank with ((rfl | rfl) | rfl) | rfl <;> exact absurd isPlain (by decide)
  · unfold punctuation?
    split <;> first | rfl | exact absurd isPlain (by decide)
  · rintro rfl
    exact absurd isPlain (by decide)

theorem ends_cons
    {c : Char} {rest : List Char} {token : Token}
    (isMark : punctuation? c = some token) :
    Ends (c :: rest) := by
  intro first isFirst
  obtain rfl := Option.some.inj isFirst
  have notPlain : ¬(isNumeric c = true ∨ c.isAlpha = true) := by
    intro isPlain
    rw [(unmarked_of_isNumeric_or_isAlpha isPlain).2.1] at isMark
    contradiction
  simpa using notPlain

theorem scans_nil : Scans [] [] := by
  intro rest _
  cases isRest : scan? rest <;> simp [isRest]

/-- A mark of punctuation stands for itself. -/
theorem Scans.cons
    {c : Char} {token : Token} {text : List Char} {tokens : List Token}
    (scans : Scans text tokens)
    (isMark : punctuation? c = some token) :
    Scans (c :: text) (token :: tokens) := by
  intro rest ends
  have notBlank : isBlank c = false := by
    unfold punctuation? at isMark
    split at isMark <;> first | rfl | contradiction
  have isNext : next? c (text ++ rest) = some (token, text ++ rest) := by
    rw [next?, isMark]
  rw [List.cons_append, scan?_cons notBlank isNext, scans rest ends, Option.map_map]
  rfl

/-- Texts with a mark of punctuation between them are cut one by one. -/
theorem Scans.append_cons
    {c : Char} {token : Token} {text others : List Char} {tokens otherTokens : List Token}
    (scans : Scans text tokens)
    (isMark : punctuation? c = some token)
    (scansOthers : Scans others otherTokens) :
    Scans (text ++ c :: others) (tokens ++ token :: otherTokens) := by
  intro rest ends
  rw [List.append_assoc, scans (c :: others ++ rest) (ends_cons isMark),
    scansOthers.cons isMark rest ends, Option.map_map]
  simp only [Function.comp_def, List.append_assoc]

/-- A written text is scanned as one token. -/
theorem scans_writtenString (text : String) :
    Scans (writtenString text).toList [.string (piecesOf text)] := by
  intro rest _
  have isText : (writtenString text).toList ++ rest =
      '"' :: (text.toList.flatMap writtenChar ++ '"' :: rest) := by
    simp [writtenString]
  rw [isText]
  refine scan?_cons rfl ?_
  rw [next?, show punctuation? '"' = none from rfl]
  dsimp only
  rw [if_pos rfl, read?_flatMap_writtenChar]
  rfl

/-- The characters of a number are taken together, up to one that is not numeric. -/
theorem scans_number
    {c : Char} {digits : List Char} {token : Token}
    (areNumeric : ∀ digit ∈ c :: digits, isNumeric digit = true)
    (startsNumber : c = '-' ∨ c.isDigit = true)
    (isNumber : number? (c :: digits) = some token) :
    Scans (c :: digits) [token] := by
  intro rest ends
  obtain ⟨notBlank, notMark, notQuote⟩ :=
    unmarked_of_isNumeric_or_isAlpha (.inl (areNumeric c List.mem_cons_self))
  obtain ⟨isTaken, isDropped⟩ := takeWhile_append_of_ends
    (fun digit isDigit => areNumeric digit (List.mem_cons_of_mem c isDigit))
    (fun c isHead => (ends c isHead).1)
  refine scan?_cons notBlank ?_
  rw [next?, notMark]
  dsimp only
  rw [if_neg notQuote, if_pos startsNumber, List.append_eq, isTaken, isDropped, isNumber]
  rfl

/-- The decimal text of an integer is a number, with its sign and its digits. -/
theorem number?_toString (value : Int) :
    number? (toString value).toList = some (.number (numeralOf value)) := by
  obtain ⟨digit, digits, isWhole⟩ :=
    List.exists_cons_of_ne_nil (show (numeralOf value).whole ≠ [] from Nat.toDigits_ne_nil)
  have areDigits : ∀ digit ∈ (numeralOf value).whole, digit.isDigit = true :=
    fun _ => isDigit_of_mem_numeralOf
  have isSplit : Numeral.split? (toString value).toList = some (numeralOf value) := by
    have isTaken : Sign.take? (Sign.written (numeralOf value).sign ++ (numeralOf value).whole) =
        ((numeralOf value).sign, (numeralOf value).whole) := by
      rw [isWhole] at areDigits ⊢
      exact Sign.take?_written_append _ (areDigits digit List.mem_cons_self)
    rw [toList_toString]
    exact Numeral.split?_of_digits isTaken areDigits
  rw [number?, isSplit]
  exact if_pos (isJson_numeralOf value)

theorem scans_toString (value : Int) :
    Scans (toString value).toList [.number (numeralOf value)] := by
  have isNumber := number?_toString value
  have isNumeric_of_mem {digit : Char} (isDigit : digit ∈ (numeralOf value).whole) :
      isNumeric digit = true := by
    simp [isNumeric, isDigit_of_mem_numeralOf isDigit]
  rw [toList_toString] at isNumber ⊢
  by_cases negative : value < 0
  · rw [show (numeralOf value).sign = some .minus from if_pos negative] at isNumber ⊢
    refine scans_number ?_ (.inl rfl) isNumber
    exact List.forall_mem_cons.mpr ⟨rfl, fun _ => isNumeric_of_mem⟩
  · rw [show (numeralOf value).sign = none from if_neg negative] at isNumber ⊢
    obtain ⟨digit, digits, isWhole⟩ :=
      List.exists_cons_of_ne_nil (show (numeralOf value).whole ≠ [] from Nat.toDigits_ne_nil)
    have isDigit : digit.isDigit = true :=
      isDigit_of_mem_numeralOf (isWhole ▸ List.mem_cons_self)
    simp only [isWhole] at isNumber isNumeric_of_mem ⊢
    exact scans_number (fun _ => isNumeric_of_mem) (.inr isDigit) isNumber

/-- The letters of a word are taken together. -/
theorem scans_word
    {c : Char} {letters : List Char} {token : Token}
    (areLetters : (c :: letters).all Char.isAlpha = true)
    (notNumber : ¬(c = '-' ∨ c.isDigit = true))
    (isWord : word? (c :: letters) = some token) :
    Scans (c :: letters) [token] := by
  intro rest ends
  rw [List.all_eq_true] at areLetters
  obtain ⟨notBlank, notMark, notQuote⟩ :=
    unmarked_of_isNumeric_or_isAlpha (.inr (areLetters c List.mem_cons_self))
  obtain ⟨isTaken, isDropped⟩ := takeWhile_append_of_ends
    (fun letter isMore => areLetters letter (List.mem_cons_of_mem c isMore))
    (fun c isHead => (ends c isHead).2)
  refine scan?_cons notBlank ?_
  rw [next?, notMark]
  dsimp only
  rw [if_neg notQuote, if_neg notNumber, List.append_eq, isTaken, isDropped, isWord]
  rfl

/-- Texts with commas between them are cut into their tokens with commas between them. -/
theorem scans_intercalate
    {texts : List String} {tokens : List (List Token)}
    (scans : List.Forall₂ (fun text tokens => Scans text.toList tokens) texts tokens) :
    Scans (",".intercalate texts).toList ([comma].intercalate tokens) := by
  rw [String.toList_intercalate]
  induction scans with
  | nil => exact scans_nil
  | cons scansText scansTexts inductionHypothesis =>
      cases scansTexts with
      | nil => simpa using scansText
      | cons scansNext scansOthers =>
          rw [List.map_cons, List.map_cons, List.intercalate_cons_cons, List.intercalate_cons_cons,
            List.append_assoc, List.append_assoc]
          exact scansText.append_cons rfl inductionHypothesis

end Token

/-! ## Written forms -/

namespace Written

mutual
/-- The tokens of a written form. -/
def tokens : Written → List Token
  | null => [.null]
  | bool value => [.bool value]
  | number numeral => [.number numeral]
  | string pieces => [.string pieces]
  | array items => .openArray :: [.comma].intercalate (itemsTokens items) ++ [.closeArray]
  | object members => .openObject :: [.comma].intercalate (membersTokens members) ++ [.closeObject]

/-- The tokens of items. -/
def itemsTokens : List Written → List (List Token)
  | [] => []
  | item :: rest => tokens item :: itemsTokens rest

/-- The tokens of members. -/
def membersTokens : List (List Piece × Written) → List (List Token)
  | [] => []
  | (name, value) :: rest => (.string name :: .colon :: tokens value) :: membersTokens rest
end

mutual
/-- The written form of a value; a double has none of its own, and null stands in its place. -/
def ofJson : Json → Written
  | .null => null
  | .bool value => bool value
  | .int value => number (numeralOf value)
  | .float _ => null
  | .string value => string (piecesOf value)
  | .array items => array (ofItems items)
  | .object members => object (ofMembers members)

/-- The written forms of items. -/
def ofItems : List Json → List Written
  | [] => []
  | item :: rest => ofJson item :: ofItems rest

/-- The written forms of members. -/
def ofMembers : List (String × Json) → List (List Piece × Written)
  | [] => []
  | (name, value) :: rest => (piecesOf name, ofJson value) :: ofMembers rest
end

mutual
/-- The text of a value is cut into the tokens of its written form. -/
theorem scans_render :
    (json : Json) → {levels : Nat} → json.Plain levels →
      Token.Scans json.render.toList (ofJson json).tokens
  | .null, _, _ =>
      show Token.Scans ['n', 'u', 'l', 'l'] [.null] from Token.scans_word rfl (by decide) rfl
  | .bool true, _, _ =>
      show Token.Scans ['t', 'r', 'u', 'e'] [.bool true] from Token.scans_word rfl (by decide) rfl
  | .bool false, _, _ =>
      show Token.Scans ['f', 'a', 'l', 's', 'e'] [.bool false] from
        Token.scans_word rfl (by decide) rfl
  | .int value, _, _ => by
      rw [render, ofJson, tokens]
      exact Token.scans_toString value
  | .string value, _, _ => by
      rw [render, ofJson, tokens]
      exact Token.scans_writtenString value
  | .array items, _, .array plain => by
      have scansItems := scans_renderItems items plain
      rw [render, ofJson, tokens, String.toList_append, String.toList_append]
      exact ((Token.scans_intercalate scansItems).append_cons rfl Token.scans_nil).cons rfl
  | .object members, _, .object plain => by
      have scansMembers := scans_renderMembers members plain
      rw [render, ofJson, tokens, String.toList_append, String.toList_append]
      exact ((Token.scans_intercalate scansMembers).append_cons rfl Token.scans_nil).cons rfl

theorem scans_renderItems :
    (items : List Json) → {levels : Nat} → (∀ item ∈ items, item.Plain levels) →
      List.Forall₂ (fun text tokens => Token.Scans text.toList tokens) (renderItems items)
        (itemsTokens (ofItems items))
  | [], _, _ => .nil
  | item :: rest, _, plain =>
      have each := List.forall_mem_cons.mp plain
      .cons (scans_render item each.1) (scans_renderItems rest each.2)

theorem scans_renderMembers :
    (members : List (String × Json)) → {levels : Nat} →
      (∀ member ∈ members, member.2.Plain levels) →
      List.Forall₂ (fun text tokens => Token.Scans text.toList tokens) (renderMembers members)
        (membersTokens (ofMembers members))
  | [], _, _ => .nil
  | (name, value) :: rest, _, plain => by
      have each := List.forall_mem_cons.mp plain
      refine .cons ?_ (scans_renderMembers rest each.2)
      rw [String.toList_append, String.toList_append, List.append_assoc]
      exact (Token.scans_writtenString name).append_cons rfl (scans_render value each.1)
end

/-! ## Reading the tokens -/

open Progress

theorem run?_cons (progress : Progress) (token : Token) (rest : List Token) :
    progress.run? (token :: rest) = (progress.step? token).bind fun next => next.run? rest := by
  rw [run?]
  cases progress.step? token <;> rfl

/-- A value does not start with the end of an array. -/
theorem run?_item (written : Written) (frames : List Frame) (rest : List Token) :
    run? ⟨frames, .item⟩ (written.tokens ++ rest) =
      run? ⟨frames, .value⟩ (written.tokens ++ rest) := by
  cases written <;> rfl

/-- A closed array is put into the frame around it. -/
theorem run?_closeArray (done : List Written) (frames : List Frame) (rest : List Token) :
    run? ⟨.array done :: frames, .delimiter⟩ (.closeArray :: rest) =
      (put? (array done.reverse) frames).bind fun progress => progress.run? rest :=
  run?_cons ⟨.array done :: frames, .delimiter⟩ .closeArray rest

theorem run?_closeObject
    (done : List (List Piece × Written)) (frames : List Frame) (rest : List Token) :
    run? ⟨.object done :: frames, .delimiter⟩ (.closeObject :: rest) =
      (put? (object done.reverse) frames).bind fun progress => progress.run? rest :=
  run?_cons ⟨.object done :: frames, .delimiter⟩ .closeObject rest

mutual
/-- The tokens of a written form are read as it, wherever a value may stand. -/
theorem run?_tokens :
    (written : Written) → (frames : List Frame) → (rest : List Token) →
      run? ⟨frames, .value⟩ (written.tokens ++ rest) =
        (put? written frames).bind fun progress => progress.run? rest
  | null, frames, rest => run?_cons ⟨frames, .value⟩ .null rest
  | bool value, frames, rest => run?_cons ⟨frames, .value⟩ (.bool value) rest
  | number numeral, frames, rest => run?_cons ⟨frames, .value⟩ (.number numeral) rest
  | string pieces, frames, rest => run?_cons ⟨frames, .value⟩ (.string pieces) rest
  | array [], frames, rest => run?_cons ⟨.array [] :: frames, .item⟩ .closeArray rest
  | array (item :: others), frames, rest => by
      have readItems := run?_items (item :: others) [] frames rest (List.cons_ne_nil item others)
      rw [tokens, List.cons_append, List.cons_append, List.append_assoc, run?_cons]
      obtain ⟨more, starts⟩ := exists_intercalate_append [.comma] item.tokens (itemsTokens others)
        (.closeArray :: rest)
      rw [itemsTokens, starts] at readItems
      rw [itemsTokens, List.singleton_append, starts]
      exact (run?_item item _ more).trans readItems
  | object [], frames, rest => run?_cons ⟨.object [] :: frames, .member⟩ .closeObject rest
  | object ((name, value) :: others), frames, rest => by
      have readMembers := run?_members ((name, value) :: others) [] frames rest
        (List.cons_ne_nil _ others)
      rw [tokens, List.cons_append, List.cons_append, List.append_assoc, run?_cons]
      obtain ⟨more, starts⟩ := exists_intercalate_append [.comma]
        (.string name :: .colon :: value.tokens) (membersTokens others) (.closeObject :: rest)
      rw [membersTokens, starts] at readMembers
      rw [membersTokens, List.singleton_append, starts]
      exact readMembers

/-- The items that are left are read behind those that were. -/
theorem run?_items :
    (items done : List Written) → (frames : List Frame) → (rest : List Token) → items ≠ [] →
      run? ⟨.array done :: frames, .value⟩
          ([.comma].intercalate (itemsTokens items) ++ .closeArray :: rest) =
        (put? (array (done.reverse ++ items)) frames).bind fun progress => progress.run? rest
  | [item], done, frames, rest, _ => by
      rw [itemsTokens, itemsTokens, List.intercalate_singleton, run?_tokens item, put?,
        Option.bind_some, run?_closeArray, List.reverse_cons]
  | item :: next :: others, done, frames, rest, _ => by
      have readOthers := run?_items (next :: others) (item :: done) frames rest
        (List.cons_ne_nil next others)
      rw [List.reverse_cons, List.append_assoc, List.singleton_append] at readOthers
      rw [itemsTokens, itemsTokens, List.intercalate_cons_cons, List.append_assoc,
        List.append_assoc, run?_tokens item, put?, Option.bind_some]
      exact readOthers

/-- The members that are left are read behind those that were. -/
theorem run?_members :
    (members done : List (List Piece × Written)) → (frames : List Frame) → (rest : List Token) →
      members ≠ [] →
      run? ⟨.object done :: frames, .name⟩
          ([.comma].intercalate (membersTokens members) ++ .closeObject :: rest) =
        (put? (object (done.reverse ++ members)) frames).bind fun progress => progress.run? rest
  | [(name, value)], done, frames, rest, _ => by
      have readValue := run?_tokens value (.member done name :: frames) (.closeObject :: rest)
      rw [put?, Option.bind_some, run?_closeObject, List.reverse_cons] at readValue
      rw [membersTokens, membersTokens, List.intercalate_singleton]
      exact readValue
  | (name, value) :: next :: others, done, frames, rest, _ => by
      have readOthers := run?_members (next :: others) ((name, value) :: done) frames rest
        (List.cons_ne_nil next others)
      rw [List.reverse_cons, List.append_assoc, List.singleton_append] at readOthers
      rw [membersTokens, membersTokens, List.intercalate_cons_cons, List.append_assoc,
        List.append_assoc]
      exact (run?_tokens value (.member done name :: frames) _).trans readOthers
end

/-- The text of a value is read as the written form of the value. -/
theorem read?_render
    {levels : Nat} {json : Json}
    (plain : json.Plain levels) :
    read? json.render = some (ofJson json) := by
  have isScanned : Token.scan? json.render.toList = some (ofJson json).tokens := by
    have scans := scans_render json plain [] (fun _ isHead => absurd isHead (Option.not_mem_none _))
    rwa [List.append_nil, Token.scan?, Option.map_some, List.append_nil] at scans
  have isRun : Progress.start.run? (ofJson json).tokens = some ⟨[], .nothing (ofJson json)⟩ := by
    have runs := run?_tokens (ofJson json) [] []
    rwa [List.append_nil] at runs
  rw [read?, isScanned, Option.bind_eq_bind, Option.bind_some, isRun]
  rfl

/-! ## Values of written forms -/

mutual
/-- A value is the value of its written form. -/
theorem json?_ofJson :
    (json : Json) → {levels : Nat} → json.Plain levels → (ofJson json).json? = some json
  | .null, _, _ => rfl
  | .bool _, _, _ => rfl
  | .int _, _, .int low high => number?_numeralOf low high
  | .string value, _, _ => by
      rw [ofJson, json?, text?_piecesOf]
      rfl
  | .array items, _, .array plain => by
      rw [ofJson, json?, itemsJson?_ofItems items plain]
      rfl
  | .object members, _, .object plain => by
      rw [ofJson, json?, membersJson?_ofMembers members plain]
      rfl

theorem itemsJson?_ofItems :
    (items : List Json) → {levels : Nat} → (∀ item ∈ items, item.Plain levels) →
      itemsJson? (ofItems items) = some items
  | [], _, _ => rfl
  | item :: rest, _, plain => by
      obtain ⟨plainItem, plainRest⟩ := List.forall_mem_cons.mp plain
      rw [ofItems, itemsJson?, json?_ofJson item plainItem, itemsJson?_ofItems rest plainRest]
      rfl

theorem membersJson?_ofMembers :
    (members : List (String × Json)) → {levels : Nat} →
      (∀ member ∈ members, member.2.Plain levels) →
      membersJson? (ofMembers members) = some members
  | [], _, _ => rfl
  | (name, value) :: rest, _, plain => by
      obtain ⟨plainValue, plainRest⟩ := List.forall_mem_cons.mp plain
      rw [ofMembers, membersJson?, text?_piecesOf, json?_ofJson value plainValue,
        membersJson?_ofMembers rest plainRest]
      rfl
end

mutual
/-- A value has as many levels as its written form. -/
theorem nesting_ofJson : (json : Json) → (ofJson json).nesting = json.nesting
  | .null | .bool _ | .int _ | .float _ | .string _ => rfl
  | .array items => by
      rw [ofJson, nesting, itemsNesting_ofItems items, Json.nesting]
  | .object members => by
      rw [ofJson, nesting, membersNesting_ofMembers members, Json.nesting]

theorem itemsNesting_ofItems :
    (items : List Json) → itemsNesting (ofItems items) = Json.itemsNesting items
  | [] => rfl
  | item :: rest => by
      rw [ofItems, itemsNesting, nesting_ofJson item, itemsNesting_ofItems rest, Json.itemsNesting]

theorem membersNesting_ofMembers :
    (members : List (String × Json)) →
      membersNesting (ofMembers members) = Json.membersNesting members
  | [] => rfl
  | (name, value) :: rest => by
      rw [ofMembers, membersNesting, nesting_ofJson value, membersNesting_ofMembers rest,
        Json.membersNesting]
end

/-- A plain value that is written is within the bound, and is the value that was meant. -/
theorem bounded?_ofJson
    {json : Json}
    (plain : json.Plain nestingLimit) :
    (ofJson json).bounded? = some json := by
  rw [bounded?, nesting_ofJson, if_pos plain.nesting_le, json?_ofJson json plain]

end Written

end Json
end FilterQuery
