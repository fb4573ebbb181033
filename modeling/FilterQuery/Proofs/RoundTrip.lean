import FilterQuery.Expression.Transport
import FilterQuery.Proofs.Finiteness
import FilterQuery.Schema

/-!
# Transport of expressions

Main statement: an expression that is written as JSON and read again is the
same one, except that its names are split anew at their dots, and what reading
accepts is not changed by being written and read once more. The compiler sees
only the dotted form of a name, so it cannot tell an expression from the one
that arrives. A validator sees the parts of a name, so it can; the provided ones
look at the depth only.
-/

namespace FilterQuery

/-! ## Splitting and joining -/

namespace Text

/-- No part of a split text has the separator in it. -/
theorem not_mem_of_mem_splitAt
    {separator : Char} {text part : List Char}
    (member : part ∈ splitAt separator text) :
    separator ∉ part := by
  induction text generalizing part with
  | nil => simp_all [splitAt]
  | cons c rest inductionHypothesis =>
      simp only [splitAt] at member
      split at member
      · rcases List.mem_cons.mp member with rfl | inRest
        · exact List.not_mem_nil
        · exact inductionHypothesis inRest
      · next notSeparator =>
          cases isSplit : splitAt separator rest with
          | nil => exact absurd isSplit (splitAt_ne_nil separator rest)
          | cons first others =>
              rw [isSplit] at member inductionHypothesis
              rcases List.mem_cons.mp member with rfl | inOthers
              · have plain := inductionHypothesis List.mem_cons_self
                simp [plain, Ne.symm notSeparator]
              · exact inductionHypothesis (List.mem_cons_of_mem _ inOthers)

/-- A text without the separator is its only part. -/
theorem splitAt_of_not_mem
    {separator : Char} {text : List Char}
    (plain : separator ∉ text) :
    splitAt separator text = [text] := by
  induction text with
  | nil => rfl
  | cons c rest inductionHypothesis =>
      obtain ⟨notHead, notTail⟩ := not_or.mp (mt List.mem_cons.mpr plain)
      simp only [splitAt, Ne.symm notHead, if_false, inductionHypothesis notTail]

theorem splitAt_append
    {separator : Char} {part : List Char}
    (plain : separator ∉ part) (text : List Char) :
    splitAt separator (part ++ separator :: text) = part :: splitAt separator text := by
  induction part with
  | nil => simp [splitAt]
  | cons c rest inductionHypothesis =>
      obtain ⟨notHead, notTail⟩ := not_or.mp (mt List.mem_cons.mpr plain)
      simp only [List.cons_append, splitAt, Ne.symm notHead, if_false,
        inductionHypothesis notTail]

/-- Parts without the separator are found again after they were joined. -/
theorem splitAt_joinWith
    {separator : Char} {parts : List (List Char)}
    (nonempty : parts ≠ [])
    (plain : ∀ part ∈ parts, separator ∉ part) :
    splitAt separator (joinWith separator parts) = parts := by
  induction parts with
  | nil => contradiction
  | cons part rest inductionHypothesis =>
      have partPlain := plain part List.mem_cons_self
      cases rest with
      | nil => exact splitAt_of_not_mem partPlain
      | cons next others =>
          have restPlain := fun other member => plain other (List.mem_cons_of_mem part member)
          simp only [joinWith]
          rw [splitAt_append partPlain, inductionHypothesis (by simp) restPlain]

end Text

namespace Name

/-- The name that the dotted form of a name stands for. -/
def canonical (name : Name) : Name :=
  ofPath name.dotted

@[simp] theorem dotted_canonical (name : Name) : name.canonical.dotted = name.dotted :=
  dotted_ofPath name.dotted

/-- A name is found again in its dotted form exactly when it has parts and none of them has a dot
in it. -/
theorem canonical_eq_iff (name : Name) :
    name.canonical = name ↔ name.parts ≠ [] ∧ ∀ part ∈ name.parts, '.' ∉ part.toList := by
  obtain ⟨parts⟩ := name
  have isSplit : (Name.mk parts).canonical =
      ⟨(Text.splitAt '.' (Text.joinWith '.' (parts.map String.toList))).map String.ofList⟩ := by
    simp [canonical, ofPath, dotted]
  rw [isSplit]
  constructor
  · intro same
    have sameParts := congrArg Name.parts same
    simp only at sameParts ⊢
    constructor
    · rintro rfl
      simp [Text.joinWith, Text.splitAt] at sameParts
    · intro part member
      rw [← sameParts] at member
      obtain ⟨characters, found, rfl⟩ := List.mem_map.mp member
      rw [String.toList_ofList]
      exact Text.not_mem_of_mem_splitAt found
  · rintro ⟨nonempty, plain⟩
    rw [Text.splitAt_joinWith]
    · simp [Function.comp_def]
    · simpa using nonempty
    · simpa using plain

end Name

/-! ## Literals -/

namespace Literal

theorem fitsInt_toInt (value : Int64) : fitsInt value.toInt = true := by
  have low := value.le_toInt
  have high := value.toInt_lt
  simp only [fitsInt, decide_eq_true_eq]
  omega

mutual
/-- A literal without infinite or undefined doubles is read as it was written. -/
theorem ofJson?_toJson :
    (value : Literal) → value.isFinite = true → ofJson? value.toJson = some value
  | null, _ => rfl
  | bool _, _ => rfl
  | string _, _ => rfl
  | int value, _ => by
      rw [toJson_int, ofJson?, ofInt, if_pos (fitsInt_toInt value), Int64.ofInt_toInt]
  | float value, finite => by
      have isFloat : floatJson value = .float value := if_pos finite
      rw [toJson_float, isFloat, ofJson?]
  | list items, finite => by
      rw [toJson, ofJson?, itemsOfJson?_itemsToJson items finite]
      rfl

theorem itemsOfJson?_itemsToJson :
    (items : List Literal) → itemsFinite items = true →
      itemsOfJson? (itemsToJson items) = some items
  | [], _ => rfl
  | item :: rest, finite => by
      obtain ⟨itemFinite, restFinite⟩ := Bool.and_eq_true_iff.mp finite
      rw [itemsToJson, itemsOfJson?, ofJson?_toJson item itemFinite,
        itemsOfJson?_itemsToJson rest restFinite]
      rfl
end

end Literal

/-! ## Numbers in JSON -/

namespace Json

mutual
/-- Whether a value holds only numbers that a JSON text can give: whole numbers of 64 bits, with a
sign or without, and finite doubles. -/
def numbersInRange : Json → Bool
  | int value => -9223372036854775808 ≤ value ∧ value < 18446744073709551616
  | float value => Exact.isFinite value
  | array items => itemsInRange items
  | object members => membersInRange members
  | _ => true

/-- Whether all items hold only such numbers. -/
def itemsInRange : List Json → Bool
  | [] => true
  | item :: rest => numbersInRange item && itemsInRange rest

/-- Whether the values of all members hold only such numbers. -/
def membersInRange : List (String × Json) → Bool
  | [] => true
  | (_, value) :: rest => numbersInRange value && membersInRange rest
end

/-- The items of an array or the values of an object's members. -/
def parts : Json → List Json
  | array items => items
  | object members => members.map Prod.snd
  | _ => []

theorem itemsInRange_eq_all (items : List Json) : itemsInRange items = items.all numbersInRange := by
  induction items with
  | nil => rfl
  | cons item rest inductionHypothesis => rw [itemsInRange, inductionHypothesis, List.all_cons]

theorem membersInRange_eq_all (members : List (String × Json)) :
    membersInRange members = (members.map Prod.snd).all numbersInRange := by
  induction members with
  | nil => rfl
  | cons member rest inductionHypothesis =>
      rw [membersInRange, inductionHypothesis, List.map_cons, List.all_cons]

/-- The parts of a value hold only numbers that the value holds. -/
theorem numbersInRange_of_mem_parts
    {json part : Json}
    (inRange : json.numbersInRange = true)
    (member : part ∈ json.parts) :
    part.numbersInRange = true := by
  cases json with
  | array items =>
      rw [numbersInRange, itemsInRange_eq_all] at inRange
      exact List.all_eq_true.mp inRange part member
  | object members =>
      rw [numbersInRange, membersInRange_eq_all] at inRange
      exact List.all_eq_true.mp inRange part member
  | _ => contradiction

theorem mem_parts_of_lookup
    {members : List (String × Json)} {name : String} {value : Json}
    (found : members.lookup name = some value) :
    value ∈ (object members).parts := by
  obtain ⟨before, after, rfl, -⟩ := List.lookup_eq_some_iff.mp found
  simp [parts]

end Json

namespace Literal

mutual
/-- A literal that was read has only finite doubles. -/
theorem isFinite_of_ofJson? :
    (json : Json) → json.numbersInRange = true → ∀ {value}, ofJson? json = some value →
      value.isFinite = true
  | .null, _, _, read => by
      obtain rfl := Option.some.inj read
      rfl
  | .bool _, _, _, read => by
      obtain rfl := Option.some.inj read
      rfl
  | .string _, _, _, read => by
      obtain rfl := Option.some.inj read
      rfl
  | .int number, inRange, _, read => by
      obtain rfl := Option.some.inj read
      simp only [Json.numbersInRange, decide_eq_true_eq] at inRange
      exact isFinite_ofInt inRange.1 inRange.2
  | .float number, inRange, _, read => by
      obtain rfl := Option.some.inj read
      exact inRange
  | .array items, inRange, _, read => by
      obtain ⟨values, readItems, rfl⟩ := Option.map_eq_some_iff.mp read
      exact itemsFinite_of_itemsOfJson? items inRange readItems

theorem itemsFinite_of_itemsOfJson? :
    (items : List Json) → Json.itemsInRange items = true → ∀ {values},
      itemsOfJson? items = some values → itemsFinite values = true
  | [], _, _, read => by
      obtain rfl := Option.some.inj read
      rfl
  | item :: rest, inRange, _, read => by
      obtain ⟨itemInRange, restInRange⟩ := Bool.and_eq_true_iff.mp inRange
      simp only [itemsOfJson?, Option.bind_eq_bind, Option.bind_eq_some_iff] at read
      obtain ⟨value, readItem, values, readRest, isList⟩ := read
      obtain rfl := Option.some.inj isList
      exact Bool.and_eq_true_iff.mpr ⟨isFinite_of_ofJson? item itemInRange readItem,
        itemsFinite_of_itemsOfJson? rest restInRange readRest⟩
end

end Literal

/-! ## Expressions -/

namespace Expr

/-- The expression with every name split anew at the dots of its dotted form. -/
def canonical : Expr → Expr
  | logical connective left right => logical connective left.canonical right.canonical
  | comparison name operator value => comparison name.canonical operator value

/-- The names of an expression, from the left. -/
def names : Expr → List Name
  | logical _ left right => left.names ++ right.names
  | comparison name _ _ => [name]

/-- An expression is canonical if its names are. -/
theorem canonical_eq_iff (expr : Expr) :
    expr.canonical = expr ↔ ∀ name ∈ expr.names, name.canonical = name := by
  induction expr with
  | logical connective left right leftHypothesis rightHypothesis =>
      simp [canonical, names, leftHypothesis, rightHypothesis, List.mem_append, or_imp,
        forall_and]
  | comparison name operator value => simp [canonical, names]

/-! ### Writing and reading -/

/-- A written comparison is read back with its name taken apart at dots. -/
theorem comparisonOf?_written
    (name : Name) (operator : Operator) {value : Literal}
    (finite : value.isFinite = true) :
    comparisonOf? (.string name.dotted) (.string operator.token) value.toJson =
      some (comparison name.canonical operator value) := by
  simp [comparisonOf?, Name.ofJson?, Operator.ofJson?, Literal.ofJson?_toJson value finite,
    Name.canonical]

/-- An expression is read as it was written, with its names split anew. -/
theorem decode?_toJson
    {expr : Expr}
    (finite : expr.isFinite = true)
    (belowRoot : Bool) :
    decode? belowRoot expr.toJson = some expr.canonical := by
  induction expr generalizing belowRoot with
  | logical connective left right leftHypothesis rightHypothesis =>
      obtain ⟨leftFinite, rightFinite⟩ := Bool.and_eq_true_iff.mp finite
      have once : Json.standOnce memberNames [("type", .string "logical"),
          ("operator", .string connective.name), ("left", left.toJson),
          ("right", right.toJson)] = true := rfl
      rw [toJson, decode?, if_pos once]
      simp [List.lookup_cons, NodeType.ofJson?, NodeType.ofName?, Connective.ofJson?, child?,
        leftHypothesis leftFinite, rightHypothesis rightFinite, canonical]
  | comparison name operator value =>
      have once : Json.standOnce memberNames [("type", .string "comparison"),
          ("left", .string name.dotted), ("operator", .string operator.token),
          ("right", value.toJson)] = true := rfl
      rw [toJson, decode?, if_pos once]
      simp [List.lookup_cons, NodeType.ofJson?, NodeType.ofName?,
        comparisonOf?_written name operator finite, canonical]

/-- A comparison that is read has a name that a path stands for. -/
theorem comparisonOf?_eq_some
    {name operator value : Json} {expr : Expr}
    (read : comparisonOf? name operator value = some expr) :
    ∃ path token literal, Literal.ofJson? value = some literal ∧
      expr = comparison (.ofPath path) token literal := by
  simp only [comparisonOf?, Name.ofJson?, Option.bind_eq_bind, Option.bind_eq_some_iff,
    Option.map_eq_some_iff] at read
  obtain ⟨_, ⟨path, _, rfl⟩, token, _, literal, readLiteral, isComparison⟩ := read
  exact ⟨path, token, literal, readLiteral, (Option.some.inj isComparison).symm⟩

/-- The sides of a connective are members of its object. -/
theorem child?_eq_some
    {name : String} {members : List (String × Json)} {expr : Expr}
    (read : child? name members = some expr) :
    ∃ value ∈ (Json.object members).parts, decode? true value = some expr := by
  induction members with
  | nil => simp [child?] at read
  | cons member rest inductionHypothesis =>
      obtain ⟨key, value⟩ := member
      rw [child?] at read
      split at read
      · exact ⟨value, List.mem_cons_self, read⟩
      · obtain ⟨found, inRest, readFound⟩ := inductionHypothesis read
        exact ⟨found, List.mem_cons_of_mem _ inRest, readFound⟩

/-- What a node that is read was made of, in whichever form it stands. -/
theorem decode?_eq_some
    {belowRoot : Bool} {json : Json} {expr : Expr}
    (read : decode? belowRoot json = some expr) :
    (∃ path operator literal, ∃ value ∈ json.parts, Literal.ofJson? value = some literal ∧
      expr = comparison (.ofPath path) operator literal) ∨
    ∃ connective left right, ∃ first ∈ json.parts, ∃ second ∈ json.parts,
      decode? true first = some left ∧ decode? true second = some right ∧
        expr = logical connective left right := by
  unfold decode? at read
  split at read
  · -- In an object the parts are found by name, whatever else stands between them.
    next members =>
      split at read
      · simp only [Option.bind_eq_bind, Option.bind_eq_some_iff] at read
        obtain ⟨_, _, nodeType, _, read⟩ := read
        cases nodeType with
        | logical =>
            simp only [Option.bind_eq_some_iff] at read
            obtain ⟨_, _, connective, _, left, readLeft, right, readRight, isLogical⟩ := read
            obtain ⟨first, firstMember, readFirst⟩ := child?_eq_some readLeft
            obtain ⟨second, secondMember, readSecond⟩ := child?_eq_some readRight
            exact .inr ⟨connective, left, right, first, firstMember, second, secondMember,
              readFirst, readSecond, (Option.some.inj isLogical).symm⟩
        | comparison =>
            simp only [Option.bind_eq_some_iff] at read
            obtain ⟨_, _, _, _, value, found, read⟩ := read
            obtain ⟨path, operator, literal, readLiteral, isComparison⟩ :=
              comparisonOf?_eq_some read
            exact .inl ⟨path, operator, literal, value, Json.mem_parts_of_lookup found,
              readLiteral, isComparison⟩
      · contradiction
  · -- In an array the parts have fixed places.
    next tag second third fourth =>
      simp only [Option.bind_eq_bind, Option.bind_eq_some_iff] at read
      obtain ⟨nodeType, _, read⟩ := read
      cases nodeType with
      | logical =>
          simp only [Option.bind_eq_some_iff] at read
          obtain ⟨connective, _, left, readLeft, right, readRight, isLogical⟩ := read
          exact .inr ⟨connective, left, right, third, by simp [Json.parts], fourth,
            by simp [Json.parts], readLeft, readRight, (Option.some.inj isLogical).symm⟩
      | comparison =>
          obtain ⟨path, operator, literal, readLiteral, isComparison⟩ :=
            comparisonOf?_eq_some read
          exact .inl ⟨path, operator, literal, fourth, by simp [Json.parts], readLiteral,
            isComparison⟩
  · contradiction

/-- An expression that was read has only finite doubles, and names that paths stand for. The
induction is on the expression, since its JSON form may mix objects and arrays at every level. -/
theorem canonical_of_decode?
    {belowRoot : Bool} {json : Json} {expr : Expr}
    (inRange : json.numbersInRange = true)
    (read : decode? belowRoot json = some expr) :
    expr.isFinite = true ∧ expr.canonical = expr := by
  induction expr generalizing belowRoot json with
  | logical connective left right leftHypothesis rightHypothesis =>
      obtain ⟨_, _, _, _, _, _, isComparison⟩ | ⟨_, _, _, first, firstMember, second, secondMember,
        readFirst, readSecond, isLogical⟩ := decode?_eq_some read
      · contradiction
      · obtain ⟨rfl, rfl, rfl⟩ := Expr.logical.inj isLogical
        obtain ⟨leftFinite, leftCanonical⟩ :=
          leftHypothesis (Json.numbersInRange_of_mem_parts inRange firstMember) readFirst
        obtain ⟨rightFinite, rightCanonical⟩ :=
          rightHypothesis (Json.numbersInRange_of_mem_parts inRange secondMember) readSecond
        exact ⟨Bool.and_eq_true_iff.mpr ⟨leftFinite, rightFinite⟩,
          by rw [canonical, leftCanonical, rightCanonical]⟩
  | comparison name operator value =>
      obtain ⟨path, _, _, part, member, readLiteral, isComparison⟩ | ⟨_, _, _, _, _, _, _, _, _,
        isLogical⟩ := decode?_eq_some read
      · obtain ⟨rfl, rfl, rfl⟩ := Expr.comparison.inj isComparison
        have finite := Literal.isFinite_of_ofJson? part
          (Json.numbersInRange_of_mem_parts inRange member) readLiteral
        exact ⟨finite, by rw [canonical, Name.canonical, Name.dotted_ofPath]⟩
      · contradiction

/-! ### Compiling what arrives -/

@[simp] theorem depth_canonical (expr : Expr) : expr.canonical.depth = expr.depth := by
  induction expr with
  | logical connective left right leftHypothesis rightHypothesis =>
      rw [canonical, depth_logical, depth_logical, leftHypothesis, rightHypothesis]
  | comparison name operator value => rfl

/-- The provided validators look at the depth of an expression only. -/
theorem check_canonical
    {validator : Validator}
    (provided : validator.Provided)
    (expr : Expr) :
    validator.check expr.canonical = validator.check expr := by
  cases provided with
  | noop => rfl
  | depthLimit limit =>
      rw [Validator.check_depthLimit, Validator.check_depthLimit, depth_canonical]

/-- Names are resolved by their dotted form, which is the same. -/
theorem compile_canonical (resolve : String → Except Error Field) (expr : Expr) :
    expr.canonical.compile resolve = expr.compile resolve := by
  induction expr with
  | logical connective left right leftHypothesis rightHypothesis =>
      simp only [canonical, compile, leftHypothesis, rightHypothesis]
  | comparison name operator value => simp only [canonical, compile, lookup, Name.dotted_canonical]

theorem document_canonical (resolve : String → Except Error Field) (expr : Expr) :
    expr.canonical.document resolve = expr.document resolve := by
  rw [document, compile_canonical, document]

/-- Where no name is resolved, nothing is compiled. -/
theorem document_of_unresolved (cause : Error) (expr : Expr) :
    expr.document (fun _ => .error cause) = .error cause := by
  have uncompiled : expr.compile (fun _ => .error cause) = .error cause := by
    induction expr with
    | logical connective left right leftHypothesis _ => rw [compile, leftHypothesis]
    | comparison name operator value => rfl
  rw [document, uncompiled]
  rfl

theorem query_of_ok
    {resolver : Resolver} {expr : Expr}
    (accepted : resolver.validate expr = .ok ()) :
    expr.query resolver = expr.document resolver.resolve := by
  rw [query, accepted]

theorem query_of_error
    {resolver : Resolver} {expr : Expr} {cause : Error}
    (refused : resolver.validate expr = .error cause) :
    expr.query resolver = .error cause := by
  rw [query, refused]

/-- An expression that is let through is told from one that is refused, by resolvers that resolve
nothing: these fail for any cause. -/
theorem exists_query_ne
    {validate : Expr → Except Error Unit} {accepted refused : Expr} {cause : Error}
    (isAccepted : validate accepted = .ok ())
    (isRefused : validate refused = .error cause) :
    ∃ resolve, accepted.query ⟨resolve, validate⟩ ≠ refused.query ⟨resolve, validate⟩ := by
  by_contra! same
  have isCause (other : Error) : other = cause := by
    have sameQuery := same fun _ => .error other
    rw [query_of_ok isAccepted, query_of_error isRefused, document_of_unresolved] at sameQuery
    exact Except.error.inj sameQuery
  have sameCauses := (isCause (.schema .indexNotSpecified)).trans
    (isCause (.schema (.search ""))).symm
  cases sameCauses

/-- No resolver can tell an expression from the one that arrives, exactly where both get the same
verdict. -/
theorem query_canonical_iff (validate : Expr → Except Error Unit) (expr : Expr) :
    (∀ resolve, expr.canonical.query ⟨resolve, validate⟩ = expr.query ⟨resolve, validate⟩) ↔
      validate expr.canonical = validate expr := by
  constructor
  · intro same
    cases arrived : validate expr.canonical with
    | error cause =>
        cases sent : validate expr with
        | error other =>
            have sameQuery := same fun _ => .error cause
            rw [query_of_error arrived, query_of_error sent] at sameQuery
            rw [Except.error.inj sameQuery]
        | ok _ =>
            obtain ⟨resolve, differs⟩ := exists_query_ne sent arrived
            exact absurd (same resolve).symm differs
    | ok _ =>
        cases sent : validate expr with
        | error other =>
            obtain ⟨resolve, differs⟩ := exists_query_ne arrived sent
            exact absurd (same resolve) differs
        | ok _ => rfl
  · intro sameVerdict resolve
    simp only [query, sameVerdict, document_canonical]

/-- Transport keeps expressions. What is written is read as the same expression with its names
split anew, which changes exactly the names without parts or with a dot inside a part. With any
validator, compiling gives the same for both whatever the fields are, exactly if the validator's
verdict on both is the same; it is if the validator is a provided one. The same is true through any
schema. What is read, in any of the accepted forms, is written and read once more as the same. -/
theorem round_trip :
    (∀ expr : Expr, expr.isFinite = true →
      ofJson? expr.toJson = some expr.canonical ∧
      (expr.canonical = expr ↔
        ∀ name ∈ expr.names, name.parts ≠ [] ∧ ∀ part ∈ name.parts, '.' ∉ part.toList) ∧
      (∀ validator : Validator,
        (∀ resolve, expr.canonical.query ⟨resolve, validator.check⟩ =
            expr.query ⟨resolve, validator.check⟩) ↔
          validator.check expr.canonical = validator.check expr) ∧
      (∀ validator : Validator, validator.Provided →
        validator.check expr.canonical = validator.check expr) ∧
      ∀ (m : Type → Type) [Monad m] (engine : Engine m) (schema : Schema),
        schema.validator.check expr.canonical = schema.validator.check expr →
          schema.compile engine expr.canonical = schema.compile engine expr) ∧
    ∀ (json : Json) (expr : Expr), json.numbersInRange = true → ofJson? json = some expr →
      ofJson? expr.toJson = some expr := by
  refine ⟨fun expr finite => ⟨decode?_toJson finite false, ?_, ?_, ?_, ?_⟩, ?_⟩
  · simp only [canonical_eq_iff, Name.canonical_eq_iff]
  · exact fun validator => query_canonical_iff validator.check expr
  · exact fun validator provided => check_canonical provided expr
  · intro m _ engine schema sameVerdict
    simp only [Schema.compile, Schema.validate, sameVerdict, document_canonical]
  · intro json expr inRange read
    obtain ⟨finite, isCanonical⟩ := canonical_of_decode? inRange read
    rw [ofJson?, decode?_toJson finite false, isCanonical]

end Expr

namespace Sample

/-- An expression whose names are split otherwise when they arrive, with a nested list. -/
def untidy : Expr :=
  .logical .and (.comparison ⟨["a.b", "c"]⟩ .isIn (.list [.int 7, .list [.null, .float 0.5]]))
    (.comparison ⟨[]⟩ .equal (.string "x"))

/-- An array with an object in it, both with more than is needed. -/
def mixed : Json :=
  .array [.string "logical", .object [("or", .object [])],
    .object [("right", .int 9223372036854775808), ("note", .null), ("left", .string "a..b"),
      ("type", .int 1), ("operator", .string "!=")],
    .array [.string "comparison", .string "c", .string "=", .null]]

/-- A comparison of a field by a name of one part, with a dot in it. -/
def dotted : Expr := .comparison ⟨["a.b"]⟩ .equal (.int 1)

/-- A validator that lets through names of one part only. -/
def topLevel : Validator where
  kind := "topLevel"
  check expr :=
    if expr.names.all fun name => name.parts.length = 1 then .ok ()
    else .error (.expression (.rejected "a name of several parts"))

end Sample

namespace Expr

theorem round_trip_sample :
    (Sample.untidy.isFinite = true ∧ Sample.untidy.canonical.names = [⟨["a", "b", "c"]⟩, ⟨[""]⟩] ∧
      ofJson? Sample.untidy.toJson = some Sample.untidy.canonical ∧
      ∀ resolve, Sample.untidy.canonical.query ⟨resolve, (Validator.depthLimit 2).check⟩ =
        Sample.untidy.query ⟨resolve, (Validator.depthLimit 2).check⟩) ∧
    ∃ expr, Sample.mixed.numbersInRange = true ∧ ofJson? Sample.mixed = some expr ∧
      ofJson? expr.toJson = some expr := by
  obtain ⟨written, read⟩ := round_trip
  obtain ⟨isRead, -, sameQuery, sameVerdict, -⟩ := written Sample.untidy (by decide)
  refine ⟨⟨by decide, by decide, isRead, ?_⟩, ?_⟩
  · exact (sameQuery _).mpr (sameVerdict _ (.depthLimit 2))
  · exact ⟨_, by decide, rfl, read Sample.mixed _ (by decide) rfl⟩

/-- A validator that looks at the parts of names lets an expression through and refuses it when it
arrives. -/
theorem round_trip_told_apart :
    Sample.dotted.isFinite = true ∧
      ofJson? Sample.dotted.toJson = some Sample.dotted.canonical ∧
      let resolver : Resolver := ⟨fun name => .ok (.ofKind name .long), Sample.topLevel.check⟩
      (∃ document, Sample.dotted.query resolver = .ok document) ∧
        Sample.dotted.canonical.query resolver =
          .error (.expression (.rejected "a name of several parts")) :=
  ⟨by decide, rfl, ⟨_, rfl⟩, rfl⟩

end Expr
end FilterQuery
