import FilterQuery.Listing
import FilterQuery.Proofs.Lookup
import FilterQuery.Proofs.Reading
import Mathlib.Data.List.Infix

/-!
# Text in wildcard patterns

Text from outside is escaped before it goes into a pattern. Main statement: an
escaped text fits itself and nothing else, and the patterns that comparisons and
suggestion searches make of a text fit exactly the texts that contain it or end
in it, whatever characters it is made of.
-/

namespace FilterQuery

namespace Pattern

/-! ## What each sign of a pattern takes -/

@[simp] theorem matches_nil_iff {text : List Char} : Matches [] text ↔ text = [] := by
  constructor
  · intro matching
    cases matching
    rfl
  · rintro rfl
    exact .nil

/-- A star stands for any characters, or none. -/
theorem matches_star_iff {pattern text : List Char} :
    Matches ('*' :: pattern) text ↔ ∃ gap rest, gap ++ rest = text ∧ Matches pattern rest := by
  constructor
  · intro matching
    cases matching with
    | any gap matchingRest => exact ⟨gap, _, rfl, matchingRest⟩
    | plain c isPlain matchingRest => exact absurd isPlain (by decide)
  · rintro ⟨gap, rest, rfl, matchingRest⟩
    exact .any gap matchingRest

theorem matches_mark_iff {pattern text : List Char} :
    Matches ('?' :: pattern) text ↔ ∃ c rest, c :: rest = text ∧ Matches pattern rest := by
  constructor
  · intro matching
    cases matching with
    | one c matchingRest => exact ⟨c, _, rfl, matchingRest⟩
    | plain c isPlain matchingRest => exact absurd isPlain (by decide)
  · rintro ⟨c, rest, rfl, matchingRest⟩
    exact .one c matchingRest

/-- The character after a backslash is not looked at as a sign of its own. -/
theorem matches_backslash_iff {c : Char} {pattern text : List Char} :
    Matches ('\\' :: c :: pattern) text ↔ ∃ rest, c :: rest = text ∧ Matches pattern rest := by
  constructor
  · intro matching
    cases matching with
    | escaped c matchingRest => exact ⟨_, rfl, matchingRest⟩
    | plain c isPlain matchingRest => exact absurd isPlain (by decide)
  · rintro ⟨rest, rfl, matchingRest⟩
    exact .escaped c matchingRest

theorem matches_plain_iff {c : Char} {pattern text : List Char} (isPlain : isSpecial c = false) :
    Matches (c :: pattern) text ↔ ∃ rest, c :: rest = text ∧ Matches pattern rest := by
  constructor
  · intro matching
    cases matching with
    | plain c isPlain matchingRest => exact ⟨_, rfl, matchingRest⟩
    | any | one | escaped | loneBackslash => exact absurd isPlain (by decide)
  · rintro ⟨rest, rfl, matchingRest⟩
    exact .plain c isPlain matchingRest

/-- A star at the end takes whatever is left. -/
theorem matches_star (text : List Char) : Matches ['*'] text :=
  matches_star_iff.mpr ⟨text, [], List.append_nil text, .nil⟩

/-! ## Escaped text -/

/-- An escaped character takes that one character. -/
theorem matches_escapeChar_iff {c : Char} {pattern text : List Char} :
    Matches (escapeChar c ++ pattern) text ↔ ∃ rest, c :: rest = text ∧ Matches pattern rest := by
  cases special : isSpecial c with
  | true =>
      rw [escapeChar_special special]
      exact matches_backslash_iff
  | false =>
      rw [escapeChar_plain special]
      exact matches_plain_iff special

/-- Escaped characters take these characters, and the pattern after them starts where they end. -/
theorem matches_flatMap_escapeChar_iff {characters pattern text : List Char} :
    Matches (characters.flatMap escapeChar ++ pattern) text ↔
      ∃ rest, characters ++ rest = text ∧ Matches pattern rest := by
  induction characters generalizing text with
  | nil => simp
  | cons c others inductionHypothesis =>
      rw [List.flatMap_cons, List.append_assoc, matches_escapeChar_iff]
      simp only [inductionHypothesis]
      constructor
      · rintro ⟨_, rfl, rest, rfl, matchingRest⟩
        exact ⟨rest, rfl, matchingRest⟩
      · rintro ⟨rest, rfl, matchingRest⟩
        exact ⟨others ++ rest, rfl, rest, rfl, matchingRest⟩

/-- An escaped text stands for itself. -/
theorem matches_escape_append_iff {text : String} {pattern subject : List Char} :
    Matches ((escape text).toList ++ pattern) subject ↔
      ∃ rest, text.toList ++ rest = subject ∧ Matches pattern rest := by
  rw [escape, String.toList_ofList]
  exact matches_flatMap_escapeChar_iff

/-- An escaped text fits itself only. -/
theorem matches_escape_iff {text : String} {subject : List Char} :
    Matches (escape text).toList subject ↔ subject = text.toList := by
  rw [← List.append_nil (escape text).toList, matches_escape_append_iff]
  simp only [matches_nil_iff, exists_eq_right, List.append_nil]
  exact eq_comm

theorem matches_endingIn_iff {text : String} {subject : List Char} :
    Matches (endingIn text).toList subject ↔ text.toList <:+ subject := by
  have signs : (endingIn text).toList = '*' :: (escape text).toList := by
    rw [endingIn, String.toList_append]
    rfl
  rw [signs, matches_star_iff]
  simp only [matches_escape_iff, exists_eq_right]
  rfl

/-- Between stars, an escaped text is found anywhere. -/
theorem matches_containing_iff {text : String} {subject : List Char} :
    Matches (containing text).toList subject ↔ text.toList <:+: subject := by
  have signs : (containing text).toList = '*' :: ((escape text).toList ++ ['*']) := by
    rw [containing, String.toList_append, String.toList_append]
    rfl
  rw [signs, matches_star_iff]
  simp only [matches_escape_append_iff]
  constructor
  · rintro ⟨gap, _, rfl, rest, rfl, _⟩
    exact ⟨gap, rest, List.append_assoc _ _ _⟩
  · rintro ⟨gap, rest, rfl⟩
    exact ⟨gap, text.toList ++ rest, (List.append_assoc _ _ _).symm, rest, rfl, matches_star rest⟩

/-! ## Deciding whether a text fits -/

/-- Whether a text fits a pattern: a star tries every end of the text. -/
def fits : List Char → List Char → Bool
  | [], text => text.isEmpty
  | '*' :: pattern, text => text.tails.any fun rest => fits pattern rest
  | '?' :: pattern, text => !text.isEmpty && fits pattern text.tail
  | '\\' :: c :: pattern, text => text.head? == some c && fits pattern text.tail
  | c :: pattern, text => text.head? == some c && fits pattern text.tail

theorem head?_and_tail_iff {c : Char} {text : List Char} {property : List Char → Prop} :
    (text.head? == some c) = true ∧ property text.tail ↔
      ∃ rest, c :: rest = text ∧ property rest := by
  cases text with
  | nil => simp
  | cons d rest =>
      rw [List.head?_cons, List.tail_cons, beq_iff_eq, Option.some.injEq]
      constructor
      · rintro ⟨rfl, holds⟩
        exact ⟨rest, rfl, holds⟩
      · rintro ⟨_, isText, holds⟩
        obtain ⟨rfl, rfl⟩ := List.cons.inj isText
        exact ⟨rfl, holds⟩

/-- The matcher that runs agrees with the relation. -/
theorem fits_iff_matches (pattern text : List Char) :
    fits pattern text = true ↔ Matches pattern text := by
  fun_induction fits pattern text with
  | case1 text => simp
  | case2 pattern text inductionHypothesis =>
      simp only [List.any_eq_true, List.mem_tails, inductionHypothesis, matches_star_iff]
      constructor
      · rintro ⟨rest, ⟨gap, rfl⟩, matchingRest⟩
        exact ⟨gap, rest, rfl, matchingRest⟩
      · rintro ⟨gap, rest, rfl, matchingRest⟩
        exact ⟨rest, ⟨gap, rfl⟩, matchingRest⟩
  | case3 pattern text inductionHypothesis =>
      rw [Bool.and_eq_true, inductionHypothesis, matches_mark_iff]
      cases text <;> simp
  | case4 c pattern text inductionHypothesis =>
      rw [Bool.and_eq_true, inductionHypothesis, matches_backslash_iff]
      exact head?_and_tail_iff
  | case5 c pattern text notStar notMark notEscape inductionHypothesis =>
      rw [Bool.and_eq_true, inductionHypothesis, head?_and_tail_iff]
      cases special : isSpecial c with
      | false => exact (matches_plain_iff special).symm
      | true =>
          -- Of the special characters only a backslash with nothing after it is left.
          obtain rfl : c = '\\' := by grind [isSpecial]
          obtain rfl : pattern = [] := by
            cases pattern with
            | nil => rfl
            | cons d others => exact (notEscape d others rfl rfl).elim
          simp only [matches_nil_iff, exists_eq_right]
          constructor
          · rintro rfl
            exact .loneBackslash
          · intro matching
            cases matching with
            | plain c isPlain => exact absurd isPlain (by decide)
            | loneBackslash => rfl

instance (pattern text : List Char) : Decidable (Matches pattern text) :=
  decidable_of_iff _ (fits_iff_matches pattern text)

/-- The first star is escaped and the second one is not. -/
example : Matches "a\\**".toList "a*bc".toList ∧ ¬ Matches "a\\**".toList "abc".toList := by
  decide

end Pattern

namespace Leaf

/-- A condition on the characters of a field that holds of the values with a property. -/
def Selects (field : String) (property : String → Prop) (condition : Leaf) : Prop :=
  ∃ pattern, condition = .wildcard field pattern ∧
    ∀ subject : String, Pattern.Matches pattern.toList subject.toList ↔ property subject

end Leaf

/-! ## Patterns of comparisons and suggestions -/

namespace Field

/-- Patterns are for the kinds that hold strings, which are compared as they are. -/
theorem lookup_string
    {field : Field} {operator : Operator}
    (hasPattern : operator.form = .contains ∨ operator.form = .endsWith)
    (allowed : operator ∈ field.kind.operators)
    (text : String) :
    field.lookup operator (.string text) =
      .ok (.ofComparison field.name operator (.string text)) := by
  have single : operator.takesList = false := by
    cases operator <;> simp [Operator.form, Operator.takesList] at hasPattern ⊢
  have isText : field.kind = .text ∨ field.kind = .keyword := by
    cases kind : field.kind <;> rw [kind] at allowed <;> cases operator <;>
      simp [FieldKind.operators, FieldKind.orderOperators, Operator.form] at allowed hasPattern ⊢
  have checked : field.check (.string text) = .ok () := by
    obtain kind | kind := isText <;> simp [check, checkScalar, kind, FieldKind.accepts]
  have coerced : field.coerce (.string text) = .ok (.string text) := by
    obtain kind | kind := isText <;> simp [coerce, convert?, kind]
  refine lookup_eq_ok_iff.mpr ⟨allowed, .inr ⟨rfl, ?_⟩⟩
  exact lookupValue_eq_ok_iff.mpr ⟨single, checked, _, coerced, rfl⟩

end Field

namespace Suggestion

/-- A search for suggestions is for the documents that have a value which contains the text. -/
theorem ofJson?_query (field : String) {text : String} (isGiven : text ≠ "") :
    BoolQuery.ofJson? (query field (some text)) =
      some (.filter
        [.leaf (.hasValue field), .leaf (.wildcard field (Pattern.containing text))]) := by
  rw [query]
  simp only [if_neg isGiven, List.map_cons, List.map_nil]
  exact BoolQuery.ofJson?_toJson _

end Suggestion

namespace Pattern

/-- Text is matched literally. An escaped text fits itself only. Whatever literal has the text, the
conditions of the comparisons that ask for it inside or at the end of a value select the values
that contain it or end in it; a comparison of a field with the text itself is such a condition,
negated or not, wherever its operator is allowed. A search for suggestions selects the values that
contain the text. -/
theorem text_matches_literally (text : String) :
    (∀ subject : String, Matches (escape text).toList subject.toList ↔ subject = text) ∧
    (∀ (field : String) (operator : Operator) (value : Literal), value.text = text →
      (operator = .contains ∨ operator = .notContains → ∃ condition : Leaf,
        Fragment.ofComparison field operator value = ⟨.leaf condition, operator.isNegated⟩ ∧
          condition.Selects field fun subject => text.toList <:+: subject.toList) ∧
      (operator = .endsWith ∨ operator = .notEndsWith → ∃ condition : Leaf,
        Fragment.ofComparison field operator value = ⟨.leaf condition, operator.isNegated⟩ ∧
          condition.Selects field fun subject => text.toList <:+ subject.toList)) ∧
    (∀ (field : Field) (operator : Operator),
      operator ∈ [.contains, .notContains, .endsWith, .notEndsWith] →
      operator ∈ field.kind.operators →
        field.lookup operator (.string text) =
          .ok (.ofComparison field.name operator (.string text))) ∧
    (text ≠ "" → ∀ field : String, ∃ condition : Leaf,
      BoolQuery.ofJson? (Suggestion.query field (some text)) =
          some (.filter [.leaf (.hasValue field), .leaf condition]) ∧
        condition.Selects field fun subject => text.toList <:+: subject.toList) := by
  have selectsContaining (field : String) : (Leaf.wildcard field (containing text)).Selects field
      fun subject => text.toList <:+: subject.toList :=
    ⟨_, rfl, fun _ => matches_containing_iff⟩
  have selectsEndingIn (field : String) : (Leaf.wildcard field (endingIn text)).Selects field
      fun subject => text.toList <:+ subject.toList :=
    ⟨_, rfl, fun _ => matches_endingIn_iff⟩
  refine ⟨fun subject => ?_, ?_, ?_, ?_⟩
  · rw [matches_escape_iff, String.toList_inj]
  · rintro field operator value rfl
    constructor
    · rintro (rfl | rfl)
      · exact ⟨_, rfl, selectsContaining field⟩
      · exact ⟨_, rfl, selectsContaining field⟩
    · rintro (rfl | rfl)
      · exact ⟨_, rfl, selectsEndingIn field⟩
      · exact ⟨_, rfl, selectsEndingIn field⟩
  · intro field operator hasPattern allowed
    apply Field.lookup_string _ allowed
    cases operator <;> simp [Operator.form] at hasPattern ⊢
  · intro isGiven field
    exact ⟨_, Suggestion.ofJson?_query field isGiven, selectsContaining field⟩

/-- A text of nothing but signs, in a field of exact strings. -/
theorem text_matches_literally_sample :
    (¬ Matches (escape "*\\?").toList "**\\?".toList) ∧
    (∃ condition : Leaf,
      Field.lookup (.ofKind "title" .keyword) .notContains (.string "*\\?") =
          .ok ⟨.leaf condition, true⟩ ∧
        condition.Selects "title" fun subject => "*\\?".toList <:+: subject.toList) ∧
    (∃ condition : Leaf,
      Field.lookup (.ofKind "title" .keyword) .endsWith (.string "*\\?") =
          .ok ⟨.leaf condition, false⟩ ∧
        condition.Selects "title" fun subject => "*\\?".toList <:+ subject.toList) ∧
    (∃ condition : Leaf,
      BoolQuery.ofJson? (Suggestion.query "title" (some "*\\?")) =
          some (.filter [.leaf (.hasValue "title"), .leaf condition]) ∧
        condition.Selects "title" fun subject => "*\\?".toList <:+: subject.toList) := by
  obtain ⟨escaped, generated, compared, suggested⟩ := text_matches_literally "*\\?"
  obtain ⟨inside, isInside, selectsInside⟩ :=
    (generated "title" .notContains (.string "*\\?") rfl).1 (.inr rfl)
  obtain ⟨atEnd, isAtEnd, selectsAtEnd⟩ :=
    (generated "title" .endsWith (.string "*\\?") rfl).2 (.inl rfl)
  refine ⟨mt (escaped "**\\?").mp (by decide), ?_, ?_, suggested (by decide) "title"⟩
  · refine ⟨inside, ?_, selectsInside⟩
    rw [compared (.ofKind "title" .keyword) .notContains (by decide) (by decide)]
    exact congrArg Except.ok isInside
  · refine ⟨atEnd, ?_, selectsAtEnd⟩
    rw [compared (.ofKind "title" .keyword) .endsWith (by decide) (by decide)]
    exact congrArg Except.ok isAtEnd

end Pattern
end FilterQuery
