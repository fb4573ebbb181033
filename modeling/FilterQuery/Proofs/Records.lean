import FilterQuery.Json.Record
import FilterQuery.Proofs.Lists
import FilterQuery.Proofs.RoundTrip
import Mathlib.Data.List.Perm.Basic

/-!
# Ways to give a record

The members of a record may stand in any order, members that are not known may
stand beside them, a member that has its default may be left out, and instead of
an object there may be an array of the first members. Main statements: a record
is found again in every order of its members, and what is read from a record is
read from it in the other ways too.
-/

namespace FilterQuery
namespace Json

/-! ## The order of members -/

/-- The same value, but for the order of members. -/
inductive Reordered : Json → Json → Prop where
  | refl (json : Json) : Reordered json json
  | array {items others : List Json} :
      List.Forall₂ Reordered items others → Reordered (array items) (array others)
  | object {members between others : List (String × Json)} :
      members.map Prod.fst = between.map Prod.fst →
      List.Forall₂ Reordered (members.map Prod.snd) (between.map Prod.snd) →
      between.Perm others → Reordered (object members) (object others)

namespace Reordered

/-- Only objects have an order that could change. -/
theorem eq_of_parts_eq_nil
    {json written : Json}
    (reordered : json.Reordered written)
    (noParts : json.parts = []) :
    written = json := by
  cases reordered with
  | refl => rfl
  | array related =>
      obtain rfl : _ = [] := noParts
      rw [List.forall₂_nil_left_iff.mp related]
  | object sameNames _ permuted =>
      obtain rfl := List.map_eq_nil_iff.mp noParts
      obtain rfl := List.map_eq_nil_iff.mp sameNames.symm
      rw [List.nil_perm.mp permuted]

/-- An object is reordered in two steps: first inside its members, then among them. -/
theorem exists_object
    {members : List (String × Json)} {written : Json}
    (reordered : (Json.object members).Reordered written) :
    ∃ between others : List (String × Json), written = .object others ∧
      members.map Prod.fst = between.map Prod.fst ∧
      List.Forall₂ Reordered (members.map Prod.snd) (between.map Prod.snd) ∧
      between.Perm others := by
  cases reordered with
  | refl =>
      exact ⟨members, members, rfl, rfl, List.forall₂_same.mpr fun json _ => .refl json,
        .refl members⟩
  | object sameNames related permuted => exact ⟨_, _, rfl, sameNames, related, permuted⟩

/-- Every member is an order of one that was there. -/
theorem exists_source
    {members others : List (String × Json)} {member : String × Json}
    (reordered : (Json.object members).Reordered (.object others))
    (isMember : member ∈ others) :
    ∃ source ∈ members, source.1 = member.1 ∧ source.2.Reordered member.2 := by
  obtain ⟨between, _, sameOthers, sameNames, related, permuted⟩ := reordered.exists_object
  obtain rfl := Json.object.inj sameOthers
  rw [← permuted.mem_iff] at isMember
  clear reordered permuted
  induction members generalizing between with
  | nil =>
      obtain rfl := List.map_eq_nil_iff.mp sameNames.symm
      contradiction
  | cons source sources inductionHypothesis =>
      cases between with
      | nil => contradiction
      | cons other rest =>
          simp only [List.map_cons, List.cons.injEq, List.forall₂_cons] at sameNames related
          rcases List.mem_cons.mp isMember with rfl | inRest
          · exact ⟨source, List.mem_cons_self, sameNames.1, related.1⟩
          · obtain ⟨found, isFound, same⟩ :=
              inductionHypothesis rest inRest sameNames.2 related.2
            exact ⟨found, List.mem_cons_of_mem source isFound, same⟩

/-- Under each name stands an order of what stood there. -/
theorem of_mem
    {members others : List (String × Json)} {name : String} {value json : Json}
    (reordered : (Json.object members).Reordered (.object others))
    (distinct : (members.map Prod.fst).Nodup)
    (isSource : (name, value) ∈ members)
    (isMember : (name, json) ∈ others) :
    value.Reordered json := by
  obtain ⟨source, isFound, sameName, same⟩ := reordered.exists_source isMember
  obtain rfl := List.inj_on_of_nodup_map distinct isFound isSource sameName
  exact same

/-- Values that have but one order have but one order next to each other. -/
theorem eq_of_forall₂
    {items others : List Json}
    (related : List.Forall₂ Reordered items others)
    (rigid : ∀ item ∈ items, ∀ other, item.Reordered other → other = item) :
    others = items := by
  induction related with
  | nil => rfl
  | cons reordered _ inductionHypothesis =>
      obtain ⟨rigidItem, rigidRest⟩ := List.forall_mem_cons.mp rigid
      rw [rigidItem _ reordered, inductionHypothesis rigidRest]

theorem forall_mem_of_forall₂
    {holds : Json → Prop} {items others : List Json}
    (related : List.Forall₂ Reordered items others)
    (each : ∀ item ∈ items, ∀ {other}, item.Reordered other → holds other) :
    ∀ other ∈ others, holds other := by
  induction related with
  | nil => exact List.forall_mem_nil _
  | cons reordered _ inductionHypothesis =>
      obtain ⟨eachItem, eachRest⟩ := List.forall_mem_cons.mp each
      exact List.forall_mem_cons.mpr ⟨eachItem reordered, inductionHypothesis eachRest⟩

/-- Lists of texts have nothing to reorder. -/
theorem eq_ofStrings
    {texts : List String} {written : Json}
    (reordered : (ofStrings texts).Reordered written) :
    written = ofStrings texts := by
  cases reordered with
  | refl => rfl
  | array related =>
      refine congrArg Json.array (eq_of_forall₂ related ?_)
      exact List.forall_mem_map.mpr fun text _ other same => same.eq_of_parts_eq_nil rfl

end Reordered

/-- No name stands twice if all names differ. -/
theorem standOnce_of_nodup
    (names : List String) {members : List (String × Json)}
    (distinct : (members.map Prod.fst).Nodup) :
    standOnce names members = true := by
  rw [standOnce, List.all_eq_true]
  intro name _
  have atMostOnce := List.nodup_iff_count_le_one.mp distinct name
  rw [List.count, List.countP_map] at atMostOnce
  exact decide_eq_true atMostOnce

/-- A record is found again in every order of its members. -/
theorem record?_of_reordered
    (names : List String) {members : List (String × Json)} {written : Json}
    (areNames : members.map Prod.fst = names)
    (distinct : names.Nodup)
    (reordered : (object members).Reordered written) :
    ∃ values, written.record? names = some (values.map some) ∧
      List.Forall₂ Reordered (members.map Prod.snd) values := by
  obtain ⟨between, others, rfl, sameNames, related, permuted⟩ := reordered.exists_object
  rw [← areNames, sameNames] at distinct ⊢
  have othersDistinct : (others.map Prod.fst).Nodup :=
    (permuted.map Prod.fst).nodup_iff.mp distinct
  refine ⟨between.map Prod.snd, ?_, related⟩
  rw [record?, if_pos (standOnce_of_nodup _ othersDistinct), List.map_map, List.map_map]
  refine congrArg some (List.map_congr_left fun member isMember => ?_)
  exact lookup_eq_some_of_mem othersDistinct (permuted.mem_iff.mp isMember)

/-! ## Other members -/

/-- `Varied defaults alike json other` says that `other` is the object `json` in which a member that
is not known was put in, one that has its default was left out, or the value of one was replaced by
one that is alike. The names that are known are those of the defaults. -/
inductive Varied (defaults : List (String × Json)) (alike : String → Json → Json → Prop) :
    Json → Json → Prop where
  | unknown {before after : List (String × Json)} {name : String} (value : Json) :
      name ∉ defaults.map Prod.fst →
      Varied defaults alike (object (before ++ after)) (object (before ++ (name, value) :: after))
  | omitted {before after : List (String × Json)} {name : String} {value : Json} :
      defaults.lookup name = some value → name ∉ (before ++ after).map Prod.fst →
      Varied defaults alike (object (before ++ (name, value) :: after)) (object (before ++ after))
  | inner {before after : List (String × Json)} {name : String} {first second : Json} :
      alike name first second →
      Varied defaults alike (object (before ++ (name, first) :: after))
        (object (before ++ (name, second) :: after))

/-- What stands under a name in two such objects. -/
inductive SameAt (defaults : List (String × Json)) (alike : String → Json → Json → Prop)
    (name : String) : Option Json → Option Json → Prop where
  | refl (value : Option Json) : SameAt defaults alike name value value
  | omitted {value : Json} :
      defaults.lookup name = some value → SameAt defaults alike name (some value) none
  | alike {first second : Json} :
      alike name first second → SameAt defaults alike name (some first) (some second)

section

variable {defaults : List (String × Json)} {alike : String → Json → Json → Prop} {json other : Json}

/-- How many members are called `name`. -/
def called (name : String) (members : List (String × Json)) : Nat :=
  members.countP fun member => member.1 == name

/-- Whether the names stand once depends on how often they are called, and on nothing else. -/
theorem standOnce_congr
    {names : List String} {members others : List (String × Json)}
    (same : ∀ name ∈ names, (called name members ≤ 1 ↔ called name others ≤ 1)) :
    standOnce names members = standOnce names others := by
  rw [Bool.eq_iff_iff, standOnce, standOnce, List.all_eq_true, List.all_eq_true]
  refine forall₂_congr fun name isName => ?_
  rw [decide_eq_true_iff, decide_eq_true_iff]
  exact same name isName

theorem called_append_cons
    (key name : String) (value : Json) (before after : List (String × Json)) :
    called key (before ++ (name, value) :: after) =
      called key (before ++ after) + if name = key then 1 else 0 := by
  simp only [called, List.countP_append, List.countP_cons, beq_iff_eq]
  omega

theorem called_eq_zero
    {name : String} {members : List (String × Json)} (isUnused : name ∉ members.map Prod.fst) :
    called name members = 0 := by
  refine List.countP_eq_zero.mpr fun member isMember isName => isUnused ?_
  rw [← beq_iff_eq.mp isName]
  exact List.mem_map_of_mem isMember

/-- Under each known name the same is read from both objects. -/
theorem Varied.exists_objects (varied : Varied defaults alike json other) :
    ∃ members others, json = object members ∧ other = object others ∧
      ∀ name ∈ defaults.map Prod.fst, (called name members ≤ 1 ↔ called name others ≤ 1) ∧
        SameAt defaults alike name (members.lookup name) (others.lookup name) := by
  cases varied with
  | @unknown before after name value notKnown =>
      refine ⟨_, _, rfl, rfl, ?_⟩
      intro key isKnown
      have different : key ≠ name := by
        rintro rfl
        exact notKnown isKnown
      rw [called_append_cons, if_neg different.symm, Nat.add_zero,
        lookup_append_cons_of_ne different]
      exact ⟨Iff.rfl, .refl _⟩
  | @omitted before after name value isDefault isAlone =>
      refine ⟨_, _, rfl, rfl, ?_⟩
      intro key isKnown
      rw [called_append_cons]
      by_cases isName : key = name
      · subst isName
        have nowhere : (before ++ after).lookup key = none := by
          refine List.lookup_eq_none_iff.mpr fun member isMember => bne_iff_ne.mpr ?_
          rintro rfl
          exact isAlone (List.mem_map_of_mem isMember)
        have found : (before ++ (key, value) :: after).lookup key = some value := by
          rw [List.lookup_append, Option.or_eq_none_iff] at nowhere
          rw [List.lookup_append, nowhere.1, List.lookup_cons_self, Option.none_or]
        rw [called_eq_zero isAlone, found, nowhere]
        exact ⟨by simp, .omitted isDefault⟩
      · rw [if_neg (Ne.symm isName), Nat.add_zero, lookup_append_cons_of_ne isName]
        exact ⟨Iff.rfl, .refl _⟩
  | @inner before after name first second areAlike =>
      refine ⟨_, _, rfl, rfl, ?_⟩
      intro key isKnown
      rw [called_append_cons, called_append_cons]
      refine ⟨Iff.rfl, ?_⟩
      by_cases isName : key = name
      · subst isName
        rw [List.lookup_append, List.lookup_append, List.lookup_cons_self, List.lookup_cons_self]
        cases before.lookup key with
        | none => exact .alike areAlike
        | some value => exact .refl _
      · rw [lookup_append_cons_of_ne isName, lookup_append_cons_of_ne isName]
        exact .refl _

/-! ## Arrays -/

/-- `Recast defaults json other` says that `other` is another way to give the record `json`: as an
object whose members vary, or as an array of the first of them. -/
inductive Recast (defaults : List (String × Json)) : Json → Json → Prop where
  | varied {json other : Json} :
      Varied defaults (fun _ => Eq) json other → Recast defaults json other
  | array {items : List Json} :
      items.length ≤ defaults.length →
      Recast defaults (object ((defaults.map Prod.fst).zip items)) (array items)

/-- An array is read as the object of its items under the names in their order. -/
theorem record?_array
    {names : List String} {items : List Json}
    (distinct : names.Nodup)
    (fits : items.length ≤ names.length) :
    record? names (array items) = record? names (object (names.zip items)) := by
  rw [record?, if_pos (standOnce_of_nodup names (nodup_zip distinct items)),
    map_lookup_zip distinct fits]
  exact if_pos fits

/-! ## Reading -/

/-- What is read from two such objects is the same, if it is the same for members that have their
defaults or are left out, and for values that are alike. -/
theorem bind_record?_of_varied
    {build : List (Option Json) → Option α}
    (varied : Varied defaults alike json other)
    (respects : ∀ first second : String → Option Json,
      (∀ name ∈ defaults.map Prod.fst, SameAt defaults alike name (first name) (second name)) →
        build ((defaults.map Prod.fst).map first) = build ((defaults.map Prod.fst).map second)) :
    (json.record? (defaults.map Prod.fst)).bind build =
      (other.record? (defaults.map Prod.fst)).bind build := by
  obtain ⟨members, others, rfl, rfl, same⟩ := varied.exists_objects
  rw [record?, record?, standOnce_congr fun name isName => (same name isName).1]
  split
  · exact respects _ _ fun name isName => (same name isName).2
  · rfl

/-- The same for records that are given as arrays: these are objects with the names filled in. -/
theorem bind_record?_of_recast
    {build : List (Option Json) → Option α}
    (recast : Recast defaults json other)
    (distinct : (defaults.map Prod.fst).Nodup)
    (respects : ∀ first second : String → Option Json,
      (∀ name ∈ defaults.map Prod.fst,
        SameAt defaults (fun _ => Eq) name (first name) (second name)) →
        build ((defaults.map Prod.fst).map first) = build ((defaults.map Prod.fst).map second)) :
    (json.record? (defaults.map Prod.fst)).bind build =
      (other.record? (defaults.map Prod.fst)).bind build := by
  cases recast with
  | varied varied => exact bind_record?_of_varied varied respects
  | array fits => rw [record?_array distinct (by rwa [List.length_map])]

/-- A value that may be left out is read as its default where it is. -/
theorem SameAt.defaulted
    {name : String} {first second : Option Json} {default : α} {read : Json → Option α}
    (same : SameAt defaults alike name first second)
    (isDefault : (defaults.lookup name).bind read = some default)
    (respects : ∀ value other, alike name value other → read value = read other) :
    Json.defaulted default read first = Json.defaulted default read second := by
  cases same with
  | refl => rfl
  | omitted inDefaults => rwa [inDefaults] at isDefault
  | alike areAlike => exact respects _ _ areAlike

/-- A value whose default is `null` can be left out or be given as `null`. -/
theorem SameAt.optional
    {name : String} {first second : Option Json} {read : Json → Option α}
    (same : SameAt defaults alike name first second)
    (isNull : defaults.lookup name = some null)
    (respects : ∀ value other, alike name value other → value = other) :
    Json.optional read first = Json.optional read second := by
  cases same with
  | refl => rfl
  | omitted inDefaults =>
      obtain rfl := Option.some.inj (inDefaults.symm.trans isNull)
      rfl
  | alike areAlike => rw [respects _ _ areAlike]

end

end Json
end FilterQuery
