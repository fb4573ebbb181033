import FilterQuery.Proofs.FieldNames
import Mathlib.Data.List.Sort

/-!
# Order of a mapping

The leaves of a mapping are the ends of its paths, and one leaf comes before
another where their paths part at an earlier property. Main statement: reading a
mapping gives the fields of its leaves in this order, each one followed by its
variants, and fails exactly where a leaf or a variant has a type that is not
known, with the first such type as the reason.
-/

namespace FilterQuery

namespace Mapping

/-! ## Leaves -/

/-- Whether fields can be of a type. -/
def isKnownTag (tag : String) : Bool :=
  (FieldKind.ofTag? tag).isSome

/-- The field of a name and a type, if the type is known. -/
def field? (name tag : String) (parent : Option String) : Option Field :=
  (FieldKind.ofTag? tag).map fun kind => ⟨name, kind, tag, parent, false⟩

theorem toOption_field (name tag : String) (parent : Option String) :
    (field name tag parent).toOption = field? name tag parent := by
  unfold field field?
  cases FieldKind.ofTag? tag <;> rfl

/-- A typed node of a mapping with the path to it. -/
structure Leaf where
  path : List String
  node : Json
  tag : String

namespace Leaf

/-- A leaf belongs to a mapping: a path of properties leads to its node, goes no further there, and
the node is of a type that is no container. -/
structure In (mappings : Json) (leaf : Leaf) : Prop where
  named : leaf.path ≠ []
  reached : Reaches mappings leaf.path leaf.node
  ends : group? "properties" leaf.node = none
  typed : tag? leaf.node = some leaf.tag
  notObject : leaf.tag ≠ "object"
  notNested : leaf.tag ≠ "nested"

/-- The types of a leaf and of its variants; a missing one is empty. -/
def tags (leaf : Leaf) : List String :=
  leaf.tag :: (variants leaf.node).map fun variant => (tag? variant.2).getD ""

/-- The field of a leaf, and after it those of its variants, which are named below it. -/
def fields? (leaf : Leaf) : List (Option Field) :=
  field? (dotted leaf.path) leaf.tag none ::
    (variants leaf.node).map fun variant =>
      field? (dotted leaf.path ++ "." ++ variant.1) ((tag? variant.2).getD "")
        (some (dotted leaf.path))

/-- What a leaf declares. -/
def entries (leaf : Leaf) : List Entry :=
  ⟨leaf.path, leaf.tag, none⟩ :: (variants leaf.node).map (variantEntry leaf.path)

theorem map_tag_entries (leaf : Leaf) : leaf.entries.map Entry.tag = leaf.tags := by
  simp [entries, tags, variantEntry]

theorem map_field_entries {leaf : Leaf} (named : leaf.path ≠ []) :
    leaf.entries.map (fun entry => entry.field.toOption) = leaf.fields? := by
  simp only [entries, fields?, List.map_cons, List.map_map, Entry.field, toOption_field]
  congr 2
  funext variant
  simp [variantEntry, dotted_concat, base?_of_ne_nil named, childPath, dotJoin]

end Leaf

/-- The leaf that a node at a path is, where it is one. -/
def leafAt? (path : List String) (node : Json) : Option Leaf :=
  match path, group? "properties" node, tag? node with
  | _ :: _, none, some tag => if isContainer tag then none else some ⟨path, node, tag⟩
  | _, _, _ => none

/-- A leaf has a name and a type, and neither properties nor the type of a container. -/
theorem leafAt?_eq_some_iff {path : List String} {node : Json} {leaf : Leaf} :
    leafAt? path node = some leaf ↔
      leaf.path = path ∧ leaf.node = node ∧ path ≠ [] ∧ group? "properties" node = none ∧
        tag? node = some leaf.tag ∧ leaf.tag ≠ "object" ∧ leaf.tag ≠ "nested" := by
  unfold leafAt?
  split
  · next ends typed =>
      obtain ⟨leafPath, leafNode, leafTag⟩ := leaf
      rw [typed]
      constructor
      · intro found
        split at found
        · cases found
        · next noContainer =>
            obtain ⟨rfl, rfl, rfl⟩ := Leaf.mk.inj (Option.some.inj found)
            simpa [isContainer, ends] using noContainer
      · rintro ⟨rfl, rfl, -, -, sameTag, notObject, notNested⟩
        obtain rfl := Option.some.inj sameTag
        simp [isContainer, notObject, notNested]
  · next noMatch =>
      constructor
      · nofun
      · rintro ⟨-, -, named, ends, typed, -⟩
        obtain ⟨key, rest, rfl⟩ := List.exists_cons_of_ne_nil named
        exact absurd typed (noMatch key rest leaf.tag rfl ends)

/-- The entries of a node are those of the leaf that it is, if it is one. -/
theorem leafEntries_eq (path : List String) (node : Json) :
    leafEntries path node = (leafAt? path node).toList.flatMap Leaf.entries := by
  unfold leafEntries leafAt?
  cases path with
  | nil => rfl
  | cons key rest =>
      cases group? "properties" node with
      | some members => rfl
      | none =>
          cases tag? node with
          | none => rfl
          | some tag =>
              cases container : isContainer tag with
              | true => simp only [container, if_true, Option.toList_none, List.flatMap_nil]
              | false => simp [container, Leaf.entries]

/-- The leaves of a mapping in its order. -/
def leaves (mappings : Json) : List Leaf :=
  collect (fun path node => (leafAt? path node).toList) [] mappings

/-- The traversal finds all leaves, and nothing else. -/
theorem mem_leaves_iff {mappings : Json} {leaf : Leaf} :
    leaf ∈ leaves mappings ↔ leaf.In mappings := by
  simp only [leaves, mem_collect_iff, List.nil_append, Option.mem_toList, leafAt?_eq_some_iff]
  constructor
  · rintro ⟨_, _, reached, rfl, rfl, named, ends, typed, notObject, notNested⟩
    exact ⟨named, reached, ends, typed, notObject, notNested⟩
  · rintro ⟨named, reached, ends, typed, notObject, notNested⟩
    exact ⟨_, _, reached, rfl, rfl, named, ends, typed, notObject, notNested⟩

/-- To take parts at every node is to take them of all that is collected. -/
theorem collect_flatMap (standing : List String → Json → List α) (parts : α → List β)
    (path : List String) (node : Json) :
    collect (fun path node => (standing path node).flatMap parts) path node =
      (collect standing path node).flatMap parts := by
  induction node using node_induction generalizing path with
  | step node inductionHypothesis =>
      rw [collect_eq, collect_eq, List.flatMap_append, List.flatMap_assoc]
      congr 1
      apply List.flatMap_congr
      intro member isProperty
      exact inductionHypothesis member isProperty _

/-- A mapping declares what its leaves declare. -/
theorem collect_leafEntries_eq (mappings : Json) :
    collect leafEntries [] mappings = (leaves mappings).flatMap Leaf.entries := by
  have sameStanding : leafEntries =
      fun path node => (leafAt? path node).toList.flatMap Leaf.entries := by
    funext path node
    exact leafEntries_eq path node
  rw [sameStanding, collect_flatMap]
  rfl

/-! ## The order of leaves -/

/-- A path comes before another one below a node: it goes through an earlier property, or through
the same one and comes before the other below that. -/
inductive Precedes : Json → List String → List String → Prop
  | parts {node child sibling : Json} {key next : String} {path other : List String} :
      [(key, child), (next, sibling)].Sublist (properties node) →
      Precedes node (key :: path) (next :: other)
  | within {node child : Json} {key : String} {path other : List String} :
      (key, child) ∈ properties node → Precedes child path other →
      Precedes node (key :: path) (key :: other)

theorem Reaches.concat
    {node last child : Json} {keys : List String} {key : String}
    (reaches : Reaches node keys last) (isProperty : (key, child) ∈ properties last) :
    Reaches node (keys ++ [key]) child := by
  induction reaches with
  | here node => exact .property isProperty (.here child)
  | property isFirst _ inductionHypothesis => exact .property isFirst (inductionHypothesis isProperty)

/-- The order below a node is that of the whole mapping. -/
theorem Reaches.precedes
    {node last : Json} {keys path other : List String}
    (reaches : Reaches node keys last) (precedes : Precedes last path other) :
    Precedes node (keys ++ path) (keys ++ other) := by
  induction reaches with
  | here node => exact precedes
  | property isProperty _ inductionHypothesis =>
      exact .within isProperty (inductionHypothesis precedes)

/-- The leaves below a node stand in the order of the mapping. -/
theorem pairwise_collect_leafAt?
    {mappings node : Json} {path : List String} (reaches : Reaches mappings path node) :
    (collect (fun path node => (leafAt? path node).toList) path node).Pairwise
      fun leaf other => Precedes mappings leaf.path other.path := by
  induction node using node_induction generalizing path with
  | step node inductionHypothesis =>
      rw [collect_eq]
      refine List.pairwise_append.mpr ⟨?_, List.pairwise_flatMap.mpr ⟨?_, ?_⟩, ?_⟩
      · cases leafAt? path node <;> simp
      · intro member isProperty
        exact inductionHypothesis member isProperty (reaches.concat isProperty)
      · apply List.pairwise_iff_forall_sublist.mpr
        intro first second inOrder leaf inFirst other inSecond
        obtain ⟨keys, _, -, isLeaf⟩ := mem_collect_iff.mp inFirst
        obtain ⟨others, _, -, isOther⟩ := mem_collect_iff.mp inSecond
        rw [Option.mem_toList, leafAt?_eq_some_iff] at isLeaf isOther
        rw [isLeaf.1, isOther.1, List.append_assoc, List.append_assoc]
        exact reaches.precedes (.parts inOrder)
      · -- A leaf has no properties, and nothing comes after it.
        intro leaf isLeaf other below
        rw [Option.mem_toList, leafAt?_eq_some_iff] at isLeaf
        obtain ⟨-, -, -, ends, -⟩ := isLeaf
        simp [properties, ends] at below

/-- A list has exactly the leaves of a mapping, in their order. -/
structure Enumerates (mappings : Json) (listed : List Leaf) : Prop where
  mem_iff : ∀ leaf, leaf ∈ listed ↔ leaf.In mappings
  inOrder : listed.Pairwise fun leaf other => Precedes mappings leaf.path other.path

theorem enumerates_leaves (mappings : Json) : Enumerates mappings (leaves mappings) :=
  ⟨fun _ => mem_leaves_iff, pairwise_collect_leafAt? (.here mappings)⟩

/-- Two items stand in one order only. -/
theorem not_sublist_swap
    {items : List α} (distinct : items.Nodup) {first second : α}
    (inOrder : [first, second].Sublist items) :
    ¬ [second, first].Sublist items := by
  induction items with
  | nil => cases inOrder
  | cons item rest inductionHypothesis =>
      obtain ⟨isNew, distinctRest⟩ := List.nodup_cons.mp distinct
      intro swapped
      cases inOrder with
      | cons _ inRest =>
          cases swapped with
          | cons _ swappedRest => exact inductionHypothesis distinctRest inRest swappedRest
          | cons_cons _ _ => exact isNew (inRest.subset (by simp))
      | cons_cons _ _ =>
          cases swapped with
          | cons _ swappedRest => exact isNew (swappedRest.subset (by simp))
          | cons_cons _ only => exact isNew (only.subset (by simp))

/-- No two paths come before each other. -/
theorem Precedes.asymm
    {node : Json} {path other : List String} (precedes : Precedes node path other)
    (unique : node.Unique) :
    ¬ Precedes node other path := by
  induction precedes with
  | parts inOrder =>
      have earlier := not_sublist_swap (nodup_group unique "properties") (inOrder.map Prod.fst)
      intro reverse
      cases reverse with
      | parts swapped => exact earlier (swapped.map Prod.fst)
      | within _ _ => exact earlier (inOrder.map Prod.fst)
  | within isProperty _ inductionHypothesis =>
      intro reverse
      cases reverse with
      | parts swapped =>
          have later := not_sublist_swap (nodup_group unique "properties") (swapped.map Prod.fst)
          exact later (swapped.map Prod.fst)
      | within isOther below =>
          obtain rfl := (Prod.mk.inj (List.inj_on_of_nodup_map (nodup_group unique "properties")
            isProperty isOther rfl)).2
          exact inductionHypothesis (unique_of_mem_group unique isProperty) below

/-- Where no object has a name twice, no two leaves have the same path. -/
theorem Enumerates.nodup
    {mappings : Json} (unique : mappings.Unique) {listed : List Leaf}
    (enumerates : Enumerates mappings listed) :
    (listed.map Leaf.path).Nodup := by
  apply List.pairwise_map.mpr
  refine enumerates.inOrder.imp fun precedes same => ?_
  rw [same] at precedes
  exact precedes.asymm unique precedes

/-- Where no object has a name twice, there is only one list of the leaves in their order. -/
theorem Enumerates.eq
    {mappings : Json} (unique : mappings.Unique) {listed others : List Leaf}
    (enumerates : Enumerates mappings listed) (again : Enumerates mappings others) :
    others = listed := by
  have sameLeaves : others.Perm listed := by
    apply (List.perm_ext_iff_of_nodup (again.nodup unique).of_map (enumerates.nodup unique).of_map).mpr
    intro leaf
    rw [again.mem_iff, enumerates.mem_iff]
  refine sameLeaves.eq_of_pairwise ?_ again.inOrder enumerates.inOrder
  intro leaf other _ _ precedes reverse
  exact absurd reverse (precedes.asymm unique)

/-! ## Reading in order -/

theorem map_field_entries_eq (mappings : Json) :
    (collect leafEntries [] mappings).map (fun entry => entry.field.toOption) =
      (leaves mappings).flatMap Leaf.fields? := by
  rw [collect_leafEntries_eq, List.map_flatMap]
  apply List.flatMap_congr
  intro leaf isLeaf
  exact Leaf.map_field_entries (mem_leaves_iff.mp isLeaf).named

theorem map_tag_entries_eq (mappings : Json) :
    (collect leafEntries [] mappings).map Entry.tag = (leaves mappings).flatMap Leaf.tags := by
  rw [collect_leafEntries_eq, List.map_flatMap]
  simp only [Leaf.map_tag_entries]

/-- There are fields exactly if each leaf and variant gives one, and then in that order. -/
theorem fields_eq_ok_iff {mappings : Json} {found : List Field} :
    fields mappings = .ok found ↔ (leaves mappings).flatMap Leaf.fields? = found.map some := by
  rw [fields_eq, mapM_eq_ok_iff, map_field_entries_eq]

/-- Reading fails with the first type that is not known. -/
theorem fields_eq_error_iff_find? {mappings : Json} {cause : SchemaError} :
    fields mappings = .error cause ↔
      ∃ tag, ((leaves mappings).flatMap Leaf.tags).find? (!isKnownTag ·) = some tag ∧
        cause = .unknownFieldType tag := by
  have sameTest : (fun entry : Entry => !entry.isKnown) = (!isKnownTag ·) ∘ Entry.tag := rfl
  rw [fields_eq_error_iff, ← map_tag_entries_eq, List.find?_map, sameTest]
  simp

/-- A mapping can be read where the types of all leaves and variants are known. -/
theorem exists_fields_iff {mappings : Json} :
    (∃ found, fields mappings = .ok found) ↔
      ∀ leaf : Leaf, leaf.In mappings → ∀ tag ∈ leaf.tags, isKnownTag tag = true := by
  have readable : (∃ found, fields mappings = .ok found) ↔
      ((leaves mappings).flatMap Leaf.tags).find? (!isKnownTag ·) = none := by
    cases first : ((leaves mappings).flatMap Leaf.tags).find? (!isKnownTag ·) with
    | none =>
        cases read : fields mappings with
        | ok found => simp
        | error cause =>
            obtain ⟨tag, unknown, -⟩ := fields_eq_error_iff_find?.mp read
            rw [first] at unknown
            cases unknown
    | some tag =>
        rw [fields_eq_error_iff_find?.mpr ⟨tag, first, rfl⟩]
        simp
  rw [readable, List.find?_eq_none]
  constructor
  · intro known leaf isLeaf tag isTag
    have inTags := List.mem_flatMap.mpr ⟨leaf, mem_leaves_iff.mpr isLeaf, isTag⟩
    simpa using known tag inTags
  · intro known tag inTags
    obtain ⟨leaf, isLeaf, isTag⟩ := List.mem_flatMap.mp inTags
    simp [known leaf (mem_leaves_iff.mp isLeaf) tag isTag]

/-- The leaves of a mapping can be listed in its order; where no object has a name twice there is
one such list, and every path is in it once. A mapping can be read exactly where the types of all
leaves and variants are known. Its fields are then those of the leaves in this order, each with its
variants right after it, and otherwise the first type that is not known is the reason. -/
theorem fields_stand_in_order_of_leaves (mappings : Json) :
    ∃ listed, Enumerates mappings listed ∧
      (mappings.Unique →
        (listed.map Leaf.path).Nodup ∧ ∀ others, Enumerates mappings others → others = listed) ∧
      ((∃ found, fields mappings = .ok found) ↔
        ∀ leaf : Leaf, leaf.In mappings → ∀ tag ∈ leaf.tags, isKnownTag tag = true) ∧
      (∀ found, fields mappings = .ok found ↔ listed.flatMap Leaf.fields? = found.map some) ∧
      ∀ cause, fields mappings = .error cause ↔
        ∃ tag, (listed.flatMap Leaf.tags).find? (!isKnownTag ·) = some tag ∧
          cause = .unknownFieldType tag := by
  have enumerates := enumerates_leaves mappings
  refine ⟨leaves mappings, enumerates, fun unique => ?_, exists_fields_iff,
    fun _ => fields_eq_ok_iff, fun _ => fields_eq_error_iff_find?⟩
  exact ⟨enumerates.nodup unique, fun others again => enumerates.eq unique again⟩

end Mapping

namespace Sample

/-- The type of a variant is missing, and a later leaf has a type that is not known. -/
def mistyped : Json :=
  .object [("properties", .object
    [("author", authorNode),
      ("title", .object [("type", .string "text"), ("fields", .object [("raw", .object [])])]),
      ("area", .object [("type", .string "geo_shape")])])]

end Sample

namespace Mapping

/-- The fields of one mapping come in its order, and another one fails with the missing type. -/
theorem fields_stand_in_order_of_leaves_sample :
    Sample.library.Unique ∧
      (∃ listed, Enumerates Sample.library listed ∧ (listed.map Leaf.path).Nodup ∧
        listed.flatMap Leaf.fields? = Sample.libraryFields.map some) ∧
      ∃ listed, Enumerates Sample.mistyped listed ∧
        (listed.flatMap Leaf.tags).find? (!isKnownTag ·) = some "" := by
  have unique : Sample.library.Unique := Json.unique_settled Sample.library
  have read : fields Sample.library = .ok Sample.libraryFields := rfl
  have unread : fields Sample.mistyped = .error (.unknownFieldType "") := rfl
  refine ⟨unique, ?_, ?_⟩
  · obtain ⟨listed, enumerates, once, -, reads, -⟩ := fields_stand_in_order_of_leaves Sample.library
    exact ⟨listed, enumerates, (once unique).1, (reads _).mp read⟩
  · obtain ⟨listed, enumerates, -, -, -, fails⟩ := fields_stand_in_order_of_leaves Sample.mistyped
    obtain ⟨tag, first, sameTag⟩ := (fails _).mp unread
    obtain rfl := SchemaError.unknownFieldType.inj sameTag
    exact ⟨listed, enumerates, first⟩

end Mapping
end FilterQuery
