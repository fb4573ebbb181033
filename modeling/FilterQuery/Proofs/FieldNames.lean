import FilterQuery.Catalog
import FilterQuery.Proofs.Leaves
import FilterQuery.Proofs.RoundTrip
import Mathlib.Data.List.Nodup

/-!
# Names of fields

A field is named by the keys on the way to it, with dots between them. Main
statement: where no key has a dot in it, every name of a mapping stands for
exactly one field, and a catalog of its fields gives that field for the name. Of
any list of fields, a catalog gives the last one of a name that is not hidden.
-/

namespace FilterQuery

/-! ## Objects without repeated names -/

namespace Json

/-- No object in a value has a name twice. -/
inductive Unique : Json → Prop
  | intro {value : Json} :
      (∀ members, value.members? = some members → (members.map Prod.fst).Nodup) →
      (∀ part ∈ value.parts, Unique part) → Unique value

theorem Unique.nodup
    {value : Json} (unique : value.Unique) {members : List (String × Json)}
    (isObject : value.members? = some members) :
    (members.map Prod.fst).Nodup := by
  obtain ⟨distinct, -⟩ := unique
  exact distinct members isObject

theorem Unique.part
    {value part : Json} (unique : value.Unique) (isPart : part ∈ value.parts) :
    part.Unique := by
  obtain ⟨-, parts⟩ := unique
  exact parts part isPart

theorem unique_object
    {members : List (String × Json)}
    (distinct : (members.map Prod.fst).Nodup) (unique : ∀ member ∈ members, member.2.Unique) :
    (object members).Unique := by
  refine .intro (fun _ isObject => ?_) fun part isPart => ?_
  · rwa [← Option.some.inj isObject]
  · obtain ⟨member, isMember, rfl⟩ := List.mem_map.mp isPart
    exact unique member isMember

/-- A member that is put again takes the place of the earlier one. -/
theorem nodup_put
    {members : List (String × Json)} (distinct : (members.map Prod.fst).Nodup)
    (name : String) (value : Json) :
    ((put members name value).map Prod.fst).Nodup := by
  unfold put
  split
  · -- The value is replaced in place, and the names are the same.
    have sameNames : Prod.fst ∘ (fun member : String × Json =>
        if member.1 == name then (name, value) else member) = Prod.fst := by
      funext member
      by_cases same : member.1 = name <;> simp [same]
    rw [List.map_map, sameNames]
    exact distinct
  · next isNew =>
      have absent : name ∉ members.map Prod.fst := by simpa using isNew
      simpa [List.concat_eq_append] using distinct.concat absent

theorem mem_put
    {members : List (String × Json)} {name : String} {value : Json} {member : String × Json}
    (isMember : member ∈ put members name value) :
    member = (name, value) ∨ member ∈ members := by
  unfold put at isMember
  split at isMember
  · obtain ⟨old, isOld, rfl⟩ := List.mem_map.mp isMember
    split
    · exact .inl rfl
    · exact .inr isOld
  · rcases List.mem_append.mp isMember with isOld | isNew
    · exact .inr isOld
    · exact .inl (List.mem_singleton.mp isNew)

mutual
/-- A settled value has no name twice. -/
theorem unique_settled : (value : Json) → value.settled.Unique
  | array items => by
      rw [settled]
      exact .intro nofun (unique_settledItems items)
  | object members => by
      rw [settled]
      obtain ⟨distinct, unique⟩ := unique_settledMembers [] members List.nodup_nil (by simp)
      exact unique_object distinct unique
  | null | bool _ | int _ | float _ | string _ => by
      exact .intro nofun nofun

theorem unique_settledItems : (items : List Json) → ∀ item ∈ settledItems items, item.Unique
  | [] => by simp [settledItems]
  | item :: rest => by
      rw [settledItems]
      intro other member
      rcases List.mem_cons.mp member with rfl | inRest
      · exact unique_settled item
      · exact unique_settledItems rest other inRest

/-- The members that are done stay distinct while the others are put to them. -/
theorem unique_settledMembers (done : List (String × Json)) :
    (members : List (String × Json)) → (done.map Prod.fst).Nodup →
      (∀ member ∈ done, member.2.Unique) →
      ((settledMembers done members).map Prod.fst).Nodup ∧
        ∀ member ∈ settledMembers done members, member.2.Unique
  | [], distinct, unique => by
      rw [settledMembers]
      exact ⟨distinct, unique⟩
  | (name, value) :: rest, distinct, unique => by
      rw [settledMembers]
      refine unique_settledMembers _ rest ?_ fun member isMember => ?_
      · exact nodup_put distinct name value.settled
      · rcases mem_put isMember with rfl | isOld
        · exact unique_settled value
        · exact unique member isOld
end

end Json
/-! ## Paths of fields -/

namespace Mapping

/-- A node has no two properties, and no two variants, of the same name. -/
theorem nodup_group {node : Json} (unique : node.Unique) (name : String) :
    (((group? name node).getD []).map Prod.fst).Nodup := by
  cases listed : group? name node with
  | none => exact List.nodup_nil
  | some members =>
      obtain ⟨value, found, isObject⟩ := Option.bind_eq_some_iff.mp listed
      cases node with
      | object all => exact (unique.part (Json.mem_parts_of_lookup found)).nodup isObject
      | _ => cases found

theorem unique_of_mem_group
    {node : Json} (unique : node.Unique) {name : String} {member : String × Json}
    (isMember : member ∈ (group? name node).getD []) :
    member.2.Unique := by
  cases listed : group? name node with
  | none => simp [listed] at isMember
  | some members =>
      rw [listed, Option.getD_some] at isMember
      obtain ⟨value, found, isObject⟩ := Option.bind_eq_some_iff.mp listed
      obtain rfl := Json.eq_object_of_members? isObject
      cases node with
      | object all =>
          exact (unique.part (Json.mem_parts_of_lookup found)).part (List.mem_map_of_mem isMember)
      | _ => cases found

/-- A leaf declares a field at its own path and one below it for every variant. -/
theorem path_of_mem_leafEntries
    {path : List String} {node : Json} {entry : Entry}
    (member : entry ∈ leafEntries path node) :
    path ≠ [] ∧
      (entry.path = path ∨ ∃ variant ∈ variants node, entry.path = path ++ [variant.1]) := by
  unfold leafEntries at member
  split at member
  · split at member
    · cases member
    · refine ⟨by simp, ?_⟩
      rcases List.mem_cons.mp member with rfl | inVariants
      · exact .inl rfl
      · obtain ⟨variant, isVariant, rfl⟩ := List.mem_map.mp inVariants
        exact .inr ⟨variant, isVariant, rfl⟩
  · cases member

/-- A node that declares a field by itself has no properties. -/
theorem properties_of_mem_leafEntries
    {path : List String} {node : Json} {entry : Entry}
    (member : entry ∈ leafEntries path node) :
    properties node = [] := by
  unfold leafEntries at member
  split at member
  · next noProperties _ => rw [properties, noProperties, Option.getD_none]
  · cases member

/-- Entries have paths that go on from the node where they are collected. -/
theorem path_of_mem_collect
    {path : List String} {node : Json} {entry : Entry}
    (member : entry ∈ collect leafEntries path node) :
    ∃ keys, entry.path = path ++ keys := by
  obtain ⟨keys, last, -, atLast⟩ := mem_collect_iff.mp member
  rcases (path_of_mem_leafEntries atLast).2 with atLeaf | ⟨variant, -, atVariant⟩
  · exact ⟨keys, atLeaf⟩
  · exact ⟨keys ++ [variant.1], by rw [atVariant, List.append_assoc]⟩

/-- Two entries are declared at different places. -/
def Entry.Apart (first second : Entry) : Prop :=
  first.path ≠ second.path

/-- A leaf and its variants are declared at different paths. -/
theorem pairwise_leafEntries {node : Json} (unique : node.Unique) (path : List String) :
    (leafEntries path node).Pairwise Entry.Apart := by
  unfold leafEntries
  split
  · split
    · exact .nil
    · refine .cons (fun entry isVariant => ?_) ?_
      · obtain ⟨variant, -, rfl⟩ := List.mem_map.mp isVariant
        simp [Entry.Apart, variantEntry]
      · have distinct := List.pairwise_map.mp (nodup_group unique "fields")
        apply List.pairwise_map.mpr
        refine distinct.imp fun differ same => differ ?_
        simpa [variantEntry] using same
  · exact .nil

/-- No two fields of a mapping are declared at the same path. Paths that go through different
properties differ there, and below a leaf there are no properties. -/
theorem pairwise_collect {node : Json} (unique : node.Unique) (path : List String) :
    (collect leafEntries path node).Pairwise Entry.Apart := by
  induction node using node_induction generalizing path with
  | step node inductionHypothesis =>
      rw [collect_eq]
      refine List.pairwise_append.mpr ⟨pairwise_leafEntries unique path, ?_, ?_⟩
      · refine List.pairwise_flatMap.mpr ⟨fun member isProperty => ?_, ?_⟩
        · exact inductionHypothesis member isProperty (unique_of_mem_group unique isProperty) _
        · have distinct := List.pairwise_map.mp (nodup_group unique "properties")
          refine distinct.imp fun differ first inFirst second inSecond same => differ ?_
          obtain ⟨keys, firstPath⟩ := path_of_mem_collect inFirst
          obtain ⟨others, secondPath⟩ := path_of_mem_collect inSecond
          have samePath := firstPath.symm.trans (same.trans secondPath)
          simpa using List.append_inj_left samePath (by simp)
      · intro leaf isLeaf other below
        rw [properties_of_mem_leafEntries isLeaf] at below
        cases below

/-! ## Names of fields -/

/-- No key of the properties and variants in a mapping has a dot in it. -/
def Undotted (mappings : Json) : Prop :=
  ∀ path node, Reaches mappings path node →
    ∀ member ∈ properties node ++ variants node, '.' ∉ member.1.toList

/-- Names are without dots at a node and below it. -/
theorem undotted_iff {node : Json} :
    Undotted node ↔
      (∀ member ∈ properties node ++ variants node, '.' ∉ member.1.toList) ∧
        ∀ member ∈ properties node, Undotted member.2 := by
  constructor
  · intro undotted
    refine ⟨undotted [] node (.here node), fun member isProperty path last reaches => ?_⟩
    exact undotted (member.1 :: path) last (.property isProperty reaches)
  · rintro ⟨atNode, below⟩ path last reaches
    cases reaches with
    | here => exact atNode
    | property isProperty reaches => exact below _ isProperty _ last reaches

theorem Undotted.reaches
    {node last : Json} {keys : List String}
    (undotted : Undotted node) (reaches : Reaches node keys last) :
    (∀ key ∈ keys, '.' ∉ key.toList) ∧ Undotted last := by
  induction reaches with
  | here node => exact ⟨by simp, undotted⟩
  | property isProperty reaches inductionHypothesis =>
      obtain ⟨atNode, below⟩ := undotted_iff.mp undotted
      obtain ⟨plainRest, atLast⟩ := inductionHypothesis (below _ isProperty)
      have plain := atNode _ (List.mem_append_left _ isProperty)
      exact ⟨List.forall_mem_cons.mpr ⟨plain, plainRest⟩, atLast⟩

/-- The path of a field has keys, and none of them has a dot in it. -/
theorem Undotted.path
    {mappings : Json} (undotted : Undotted mappings) {entry : Entry}
    (member : entry ∈ collect leafEntries [] mappings) :
    entry.path ≠ [] ∧ ∀ key ∈ entry.path, '.' ∉ key.toList := by
  obtain ⟨keys, last, reaches, atLast⟩ := mem_collect_iff.mp member
  obtain ⟨plain, undottedLast⟩ := undotted.reaches reaches
  obtain ⟨named, atLeaf | ⟨variant, isVariant, atVariant⟩⟩ := path_of_mem_leafEntries atLast
  · rw [atLeaf]
    exact ⟨named, plain⟩
  · rw [atVariant]
    refine ⟨by simp, ?_⟩
    have plainVariant :=
      (undotted_iff.mp undottedLast).1 variant (List.mem_append_right _ isVariant)
    rw [List.nil_append]
    intro key isKey
    rcases List.mem_append.mp isKey with inKeys | isLast
    · exact plain key inKeys
    · rw [List.mem_singleton.mp isLast]
      exact plainVariant

/-- Without dots in its keys, a path is known from its dotted form. -/
theorem eq_of_dotted_eq
    {first second : List String}
    (firstPlain : first ≠ [] ∧ ∀ key ∈ first, '.' ∉ key.toList)
    (secondPlain : second ≠ [] ∧ ∀ key ∈ second, '.' ∉ key.toList)
    (same : dotted first = dotted second) :
    first = second := by
  have firstAgain := (Name.canonical_eq_iff ⟨first⟩).mpr firstPlain
  have secondAgain := (Name.canonical_eq_iff ⟨second⟩).mpr secondPlain
  unfold dotted at same
  rw [Name.canonical, same] at firstAgain
  exact congrArg Name.parts (firstAgain.symm.trans secondAgain)

/-- No two fields of a mapping have the same name. -/
theorem nodup_names
    {mappings : Json} (unique : mappings.Unique) (undotted : Undotted mappings)
    {found : List Field} (read : fields mappings = .ok found) :
    (found.map Field.name).Nodup := by
  rw [map_name_of_fields read]
  apply List.pairwise_map.mpr
  refine (pairwise_collect unique []).imp_of_mem fun inFirst inSecond apart same => apart ?_
  exact eq_of_dotted_eq (undotted.path inFirst) (undotted.path inSecond) same

end Mapping

/-! ## Catalogs -/

namespace Catalog

/-- The fields of a catalog in a table by name, where a later field replaces an earlier one. -/
def table (catalog : Catalog) : Std.HashMap String Field :=
  catalog.fields.foldl (fun table field => table.insert field.name field) ∅

/-- The table has the last field of each name, or what it had before. -/
theorem getElem?_foldl_insert (fields : List Field) (table : Std.HashMap String Field)
    (name : String) :
    (fields.foldl (fun table field => table.insert field.name field) table)[name]? =
      (fields.reverse.find? fun field => field.name == name).or table[name]? := by
  induction fields generalizing table with
  | nil => rfl
  | cons field rest inductionHypothesis =>
      rw [List.foldl_cons, inductionHypothesis, Std.HashMap.getElem?_insert, List.reverse_cons,
        List.find?_append, Option.or_assoc]
      cases same : field.name == name <;> simp [same]

/-- The table and the list of a catalog give the same field for a name. -/
theorem getElem?_table (catalog : Catalog) (name : String) :
    catalog.table[name]? = catalog.get? name := by
  rw [table, getElem?_foldl_insert, Std.HashMap.getElem?_empty, Option.or_none]
  rfl

/-- Of several fields of a name the last one is found. -/
theorem get?_ofFields (fields : List Field) (hidden : List String) (name : String) :
    (ofFields fields hidden).get? name =
      (fields.filter fun field => field.name = name ∧ field.name ∉ hidden).getLast? := by
  rw [get?, ofFields, ← List.head?_filter, List.filter_reverse, List.head?_reverse,
    List.filter_filter]
  congr 2
  funext field
  apply Bool.eq_iff_iff.mpr
  simp

/-- A name is found if some field has it. -/
theorem isSome_get?_iff {catalog : Catalog} {name : String} :
    (catalog.get? name).isSome = true ↔ ∃ field ∈ catalog.fields, field.name = name := by
  simp [get?, List.find?_isSome]

/-- Where no two fields have the same name, a catalog has each field that is not hidden under its
name, and nothing else. -/
theorem get?_ofFields_eq_some_iff
    {fields : List Field} (distinct : (fields.map Field.name).Nodup)
    {hidden : List String} {name : String} {field : Field} :
    (ofFields fields hidden).get? name = some field ↔
      field ∈ fields ∧ field.name = name ∧ name ∉ hidden := by
  constructor
  · intro found
    obtain rfl := name_of_get? found
    have listed := List.mem_reverse.mp (List.mem_of_find?_eq_some found)
    obtain ⟨isField, visible⟩ := List.mem_filter.mp listed
    exact ⟨isField, rfl, by simpa using visible⟩
  · rintro ⟨isField, rfl, visible⟩
    have listed : field ∈ (ofFields fields hidden).fields :=
      List.mem_filter.mpr ⟨isField, by simpa using visible⟩
    obtain ⟨other, found⟩ := Option.isSome_iff_exists.mp (isSome_get?_iff.mpr ⟨field, listed, rfl⟩)
    have otherListed := List.mem_reverse.mp (List.mem_of_find?_eq_some found)
    have isOther := (List.mem_filter.mp otherListed).1
    rw [found, List.inj_on_of_nodup_map distinct isOther isField (name_of_get? found)]

/-- Without dots in the keys of a mapping, each of its fields has a name of its own. A catalog of
these fields lists those that are not hidden in the order of the mapping, and has each of them, and
nothing else, under its name. A catalog of any fields has under a name the last one that is not
hidden; there is one exactly where one is listed, and a table by name agrees with the list. -/
theorem name_stands_for_one_field :
    (∀ (mappings : Json) (found : List Field), mappings.Unique → Mapping.Undotted mappings →
        Mapping.fields mappings = .ok found →
          (found.map Field.name).Nodup ∧
            ∀ hidden,
              (ofFields found hidden).fields = found.filter (fun field => field.name ∉ hidden) ∧
                ∀ name field, (ofFields found hidden).get? name = some field ↔
                  field ∈ found ∧ field.name = name ∧ name ∉ hidden) ∧
      ∀ (fields : List Field) (hidden : List String) (name : String),
        (ofFields fields hidden).get? name =
            (fields.filter fun field => field.name = name ∧ field.name ∉ hidden).getLast? ∧
          (((ofFields fields hidden).get? name).isSome = true ↔
            ∃ field ∈ (ofFields fields hidden).fields, field.name = name) ∧
          (ofFields fields hidden).table[name]? = (ofFields fields hidden).get? name := by
  constructor
  · intro mappings found unique undotted read
    have distinct := Mapping.nodup_names unique undotted read
    refine ⟨distinct, fun hidden => ⟨?_, fun name field => get?_ofFields_eq_some_iff distinct⟩⟩
    simp [ofFields]
  · intro fields hidden name
    exact ⟨get?_ofFields fields hidden name, isSome_get?_iff, getElem?_table _ name⟩

end Catalog

namespace Sample

def nameNode : Json :=
  .object [("type", .string "keyword")]

def authorNode : Json :=
  .object [("properties", .object [("name", nameNode)])]

def titleNode : Json :=
  .object [("type", .string "text"), ("fields", .object [("raw", nameNode)])]

/-- A text with a variant, and a property below another one. -/
def library : Json :=
  .object [("properties", .object [("title", titleNode), ("author", authorNode)])]

/-- The fields of the mapping. -/
def libraryFields : List Field :=
  [⟨"title", .text, "text", none, false⟩, ⟨"title.raw", .keyword, "keyword", some "title", false⟩,
    ⟨"author.name", .keyword, "keyword", none, false⟩]

theorem undotted_library : Mapping.Undotted library := by
  have undottedName : Mapping.Undotted nameNode :=
    Mapping.undotted_iff.mpr ⟨by decide, nofun⟩
  have undottedTitle : Mapping.Undotted titleNode :=
    Mapping.undotted_iff.mpr ⟨by decide, nofun⟩
  have undottedAuthor : Mapping.Undotted authorNode := by
    refine Mapping.undotted_iff.mpr ⟨by decide, fun member isProperty => ?_⟩
    obtain rfl : member = ("name", nameNode) := List.mem_singleton.mp isProperty
    exact undottedName
  refine Mapping.undotted_iff.mpr ⟨by decide, fun member isProperty => ?_⟩
  rcases List.mem_cons.mp isProperty with rfl | isLast
  · exact undottedTitle
  · rw [List.mem_singleton.mp isLast]
    exact undottedAuthor

end Sample

namespace Catalog

/-- A text and its variant are told apart where the name of the text is hidden. -/
theorem name_stands_for_one_field_sample :
    Sample.library.Unique ∧ Mapping.Undotted Sample.library ∧
      Mapping.fields Sample.library = .ok Sample.libraryFields ∧
      (Sample.libraryFields.map Field.name).Nodup ∧
      (ofFields Sample.libraryFields ["title"]).get? "title.raw" =
        some ⟨"title.raw", .keyword, "keyword", some "title", false⟩ := by
  have unique : Sample.library.Unique := Json.unique_settled Sample.library
  have read : Mapping.fields Sample.library = .ok Sample.libraryFields := rfl
  obtain ⟨distinct, named⟩ :=
    name_stands_for_one_field.1 Sample.library _ unique Sample.undotted_library read
  refine ⟨unique, Sample.undotted_library, read, distinct, ?_⟩
  exact ((named ["title"]).2 _ _).mpr ⟨by decide, rfl, by decide⟩

end Catalog
end FilterQuery
