import FilterQuery.Literal.Encoding
import FilterQuery.Proofs.Nearest
import FilterQuery.Proofs.RoundTrip

/-!
# Literals in JSON

The types of literals are tried in turn, and none of them is named in JSON.
Main statement: exactly the values without objects are literals; what is read
and written again is the same value, but for whole numbers that do not fit, in
whose place the nearest doubles stand; and what is written, in whichever way,
is read as the same literal.
-/

namespace FilterQuery

/-! ## Values inside values -/

namespace Json

/-- `json.Contains part` says that a part stands in a value, at any depth. -/
inductive Contains : Json → Json → Prop where
  | self (json : Json) : Contains json json
  | inside {json inner part : Json} : inner ∈ json.parts → Contains inner part → Contains json part

/-- Something holds of a value and of everything in it. -/
def Throughout (holds : Json → Prop) (json : Json) : Prop :=
  ∀ part, json.Contains part → holds part

/-- What holds throughout holds at the top and throughout the parts. -/
theorem throughout_iff {holds : Json → Prop} {json : Json} :
    json.Throughout holds ↔ holds json ∧ ∀ part ∈ json.parts, part.Throughout holds := by
  constructor
  · intro throughout
    refine ⟨throughout json (.self json), ?_⟩
    intro part isPart inner contains
    exact throughout inner (.inside isPart contains)
  · rintro ⟨atTop, below⟩ part contains
    cases contains with
    | self => exact atTop
    | inside isPart contains => exact below _ isPart part contains

/-- To be without objects is to contain none at any depth. -/
theorem throughout_members?_iff {json : Json} :
    (json.Throughout fun part => part.members? = none) ↔
      ¬∃ members, json.Contains (object members) := by
  constructor
  · rintro throughout ⟨members, contains⟩
    exact absurd (throughout _ contains) (by simp)
  · intro free part contains
    cases part with
    | object members => exact absurd ⟨members, contains⟩ free
    | _ => rfl

/-- The same value, but for whole numbers of more than 63 bits, in whose place the nearest double
stands. -/
inductive Rounded : Json → Json → Prop where
  | null : Rounded null null
  | bool (value : Bool) : Rounded (bool value) (bool value)
  | fitting {value : Int} : value ≤ 2 ^ 63 - 1 → Rounded (int value) (int value)
  | large {value : Int} {x : Float} :
      2 ^ 63 - 1 < value → Exact.IsNearest x value → Rounded (int value) (float x)
  | float (value : Float) : Rounded (float value) (float value)
  | string (value : String) : Rounded (string value) (string value)
  | array {items others : List Json} :
      List.Forall₂ Rounded items others → Rounded (array items) (array others)

end Json

namespace Literal

/-! ## Reading -/

/-- A type of literal, without the value. -/
inductive Variant where
  | null
  | bool
  | int
  | float
  | string
  | list
deriving DecidableEq

namespace Variant

/-- The order in which the types are tried. -/
def order : List Variant := [null, bool, int, float, string, list]

/-- What a type takes. Whole numbers are taken twice, by the second type in any size. -/
def read? : Variant → Json → Option Literal
  | null, .null => some .null
  | bool, .bool value => some (.bool value)
  | int, .int value => if fitsInt value then some (.int (Int64.ofInt value)) else none
  | float, .int value => some (.float (Float.ofInt value))
  | float, .float value => some (.float value)
  | string, .string value => some (.string value)
  | list, .array items => (items.mapM ofJson?).map .list
  | _, _ => none

end Variant

theorem itemsOfJson?_eq_mapM (items : List Json) : itemsOfJson? items = items.mapM ofJson? := by
  induction items with
  | nil => rfl
  | cons item rest inductionHypothesis =>
      rw [itemsOfJson?, List.mapM_cons, inductionHypothesis]

/-- Reading takes the first type that will do. -/
theorem ofJson?_eq_findSome? (json : Json) :
    ofJson? json = Variant.order.findSome? fun variant => variant.read? json := by
  cases json with
  | int value =>
      rw [ofJson?, ofInt]
      by_cases fits : fitsInt value = true
      · simp [Variant.order, Variant.read?, fits]
      · simp [Variant.order, Variant.read?, fits]
  | array items =>
      rw [ofJson?, itemsOfJson?_eq_mapM]
      cases isRead : items.mapM ofJson? <;> simp [Variant.order, Variant.read?, isRead]
  | _ => rfl

mutual
/-- Exactly the values without objects are literals. -/
theorem exists_ofJson?_iff :
    (json : Json) →
      ((∃ literal, ofJson? json = some literal) ↔ json.Throughout fun part => part.members? = none)
  | .array items => by
      rw [Json.throughout_iff, Json.parts, ← exists_itemsOfJson?_iff items, ofJson?]
      simp [Json.members?]
  | .object members => by
      rw [Json.throughout_iff]
      simp [ofJson?]
  | .null | .bool _ | .int _ | .float _ | .string _ => by
      rw [Json.throughout_iff]
      simp [ofJson?, Json.parts, Json.members?]

/-- A list can be read exactly if there is no object in any of its items. -/
theorem exists_itemsOfJson?_iff :
    (items : List Json) →
      ((∃ literals, itemsOfJson? items = some literals) ↔
        ∀ item ∈ items, item.Throughout fun part => part.members? = none)
  | [] => by simp [itemsOfJson?]
  | item :: rest => by
      rw [List.forall_mem_cons, ← exists_ofJson?_iff item, ← exists_itemsOfJson?_iff rest]
      simp only [itemsOfJson?, Option.bind_eq_bind, Option.bind_eq_some_iff]
      constructor
      · rintro ⟨_, literal, isRead, literals, areRead, -⟩
        exact ⟨⟨literal, isRead⟩, literals, areRead⟩
      · rintro ⟨⟨literal, isRead⟩, literals, areRead⟩
        exact ⟨_, literal, isRead, literals, areRead, rfl⟩
end

/-- A whole number that fits is kept, and the nearest double stands for one that does not. -/
theorem rounded_ofInt
    {value : Int}
    (low : -9223372036854775808 ≤ value)
    (high : value < 18446744073709551616) :
    Json.Rounded (.int value) (ofInt value).toJson := by
  unfold ofInt
  split
  · next fits =>
      simp only [fitsInt, decide_eq_true_eq] at fits
      rw [toJson_int, Int64.toInt_ofInt_of_le fits.1 fits.2]
      exact .fitting (by omega)
  · next large =>
      simp only [fitsInt, decide_eq_true_eq] at large
      have isFloat : floatJson (Float.ofInt value) = .float (Float.ofInt value) :=
        if_pos (Exact.isFinite_ofInt (by omega) high)
      rw [toJson_float, isFloat]
      exact .large (by omega) (Exact.isNearest_ofInt (by omega) high)

mutual
/-- By recursion on the value: each type of literal keeps what it reads, but for large numbers. -/
theorem rounded_of_ofJson? :
    (json : Json) → json.numbersInRange = true → ∀ {literal}, ofJson? json = some literal →
      json.Rounded literal.toJson
  | .null, _, _, isRead => by
      obtain rfl := Option.some.inj isRead
      exact .null
  | .bool value, _, _, isRead => by
      obtain rfl := Option.some.inj isRead
      exact .bool value
  | .string value, _, _, isRead => by
      obtain rfl := Option.some.inj isRead
      exact .string value
  | .int value, inRange, _, isRead => by
      obtain rfl := Option.some.inj isRead
      simp only [Json.numbersInRange, decide_eq_true_eq] at inRange
      exact rounded_ofInt inRange.1 inRange.2
  | .float value, finite, _, isRead => by
      obtain rfl := Option.some.inj isRead
      have isFloat : floatJson value = .float value := if_pos finite
      rw [toJson_float, isFloat]
      exact .float value
  | .array items, inRange, _, isRead => by
      obtain ⟨literals, areRead, rfl⟩ := Option.map_eq_some_iff.mp isRead
      exact .array (rounded_of_itemsOfJson? items inRange areRead)

theorem rounded_of_itemsOfJson? :
    (items : List Json) → Json.itemsInRange items = true → ∀ {literals},
      itemsOfJson? items = some literals →
        List.Forall₂ Json.Rounded items (itemsToJson literals)
  | [], _, _, areRead => by
      obtain rfl := Option.some.inj areRead
      exact .nil
  | item :: rest, inRange, _, areRead => by
      obtain ⟨itemInRange, restInRange⟩ := Bool.and_eq_true_iff.mp inRange
      simp only [itemsOfJson?, Option.bind_eq_bind, Option.bind_eq_some_iff] at areRead
      obtain ⟨literal, isRead, literals, restRead, isList⟩ := areRead
      obtain rfl := Option.some.inj isList
      exact .cons (rounded_of_ofJson? item itemInRange isRead)
        (rounded_of_itemsOfJson? rest restInRange restRead)
end

/-! ## Writing -/

mutual
/-- To encode as JSON is to write the literal as it is. -/
theorem encode_json : (literal : Literal) → literal.encode .json = literal.toJson
  | list items => by rw [encode, encodeItems_json items, toJson, Encoder.json]
  | null | bool _ | int _ | float _ | string _ => rfl

theorem encodeItems_json : (items : List Literal) → encodeItems .json items = itemsToJson items
  | [] => rfl
  | item :: rest => by
      rw [encodeItems, encode_json item, encodeItems_json rest, itemsToJson]
end

mutual
/-- Text that is written part by part is the text of the whole value. -/
theorem encode_text : (literal : Literal) → literal.encode .text = literal.toJson.render
  | list items => by rw [encode, encodeItems_text items, toJson, Json.render, Encoder.text]
  | float value => by
      by_cases finite : Exact.isFinite value = true
      · simp [encode, Encoder.text, floatJson, Json.render, finite]
      · simp [encode, Encoder.text, floatJson, Json.render, finite]
  | null | bool _ | int _ | string _ => rfl

theorem encodeItems_text :
    (items : List Literal) → encodeItems .text items = Json.renderItems (itemsToJson items)
  | [] => rfl
  | item :: rest => by
      rw [encodeItems, encode_text item, encodeItems_text rest, itemsToJson, Json.renderItems]
end

/-- Literals survive the way through JSON. The types are tried in turn, and exactly the values
without objects are taken. What is read is written as the same value, but for the whole numbers that
do not fit, in whose place the nearest doubles stand. What is written is read as the same literal,
as long as it has only finite doubles, and handed to an encoder it gives the same value and text. -/
theorem survives_json :
    (∀ json : Json,
      ofJson? json = (Variant.order.findSome? fun variant => variant.read? json) ∧
      ((∃ literal, ofJson? json = some literal) ↔
        ¬∃ members, json.Contains (.object members)) ∧
      (json.numbersInRange = true →
        ∀ literal, ofJson? json = some literal → json.Rounded literal.toJson)) ∧
    ∀ literal : Literal,
      (literal.isFinite = true → ofJson? literal.toJson = some literal) ∧
      literal.encode .json = literal.toJson ∧ literal.encode .text = literal.toJson.render := by
  constructor
  · intro json
    refine ⟨ofJson?_eq_findSome? json, ?_, ?_⟩
    · rw [exists_ofJson?_iff json, Json.throughout_members?_iff]
    · intro inRange literal isRead
      exact rounded_of_ofJson? json inRange isRead
  · intro literal
    exact ⟨ofJson?_toJson literal, encode_json literal, encode_text literal⟩

end Literal

namespace Sample

/-- Numbers on both sides of the greatest that fits, a double that is whole, and empty parts. -/
def manifold : Json :=
  .array [.int 9223372036854775807, .int 9223372036854776832, .float 1, .null,
    .array [.array [], .string "", .bool false]]

/-- A list with nothing in it but doubles of both signs and a list. -/
def doubles : Literal := .list [.float (-0.0), .list [], .float 1]

end Sample

namespace Literal

/-- A number that is half-way between two doubles and a double that is whole stay apart; an object
inside a list is refused. -/
theorem survives_json_sample :
    Sample.manifold.numbersInRange = true ∧
    (∃ literal, ofJson? Sample.manifold = some literal ∧
      Sample.manifold.Rounded literal.toJson) ∧
    (Sample.doubles.isFinite = true ∧ ofJson? Sample.doubles.toJson = some Sample.doubles) ∧
    ¬∃ literal, ofJson? (.array [.null, .array [.object []]]) = some literal := by
  obtain ⟨reading, writing⟩ := survives_json
  have inRange : Sample.manifold.numbersInRange = true := by decide
  have finite : Sample.doubles.isFinite = true := by decide
  refine ⟨inRange, ⟨_, rfl, (reading Sample.manifold).2.2 inRange _ rfl⟩,
    ⟨finite, (writing Sample.doubles).1 finite⟩, ?_⟩
  rw [(reading _).2.1, not_not]
  refine ⟨[], ?_⟩
  apply @Json.Contains.inside _ (.array [.object []])
  · simp [Json.parts]
  · exact .inside (by simp [Json.parts]) (.self _)

end Literal
end FilterQuery
