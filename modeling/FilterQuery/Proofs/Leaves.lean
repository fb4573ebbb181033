import FilterQuery.Expression.Basic
import FilterQuery.Mapping
import FilterQuery.Proofs.Lists

/-!
# Leaves of a mapping

A mapping is read from its root along the objects called `properties`. The nodes
where this ends are its leaves; each leaf declares a field, and one more for
every variant of it. Main statement: reading a mapping gives the fields that it
declares, one after the other, or fails at the first one of an unknown type.
-/

namespace FilterQuery

theorem Json.eq_object_of_members?
    {value : Json} {members : List (String × Json)}
    (isObject : value.members? = some members) :
    value = .object members := by
  cases value with
  | object all => rw [Option.some.inj isObject]
  | _ => cases isObject

namespace Mapping

/-! ## What a mapping declares -/

/-- The members of the object of a given name in a node. -/
def group? (name : String) (node : Json) : Option (List (String × Json)) :=
  (node.member? name).bind Json.members?

/-- The properties of a node; a node without them has an empty list. -/
def properties (node : Json) : List (String × Json) :=
  (group? "properties" node).getD []

/-- The further ways in which a leaf is indexed. -/
def variants (node : Json) : List (String × Json) :=
  (group? "fields" node).getD []

/-- A node is found below another one by a path of properties. -/
inductive Reaches : Json → List String → Json → Prop
  | here (node : Json) : Reaches node [] node
  | property {node child last : Json} {key : String} {path : List String} :
      (key, child) ∈ properties node → Reaches child path last → Reaches node (key :: path) last

/-- A path as it names a field. -/
def dotted (path : List String) : String :=
  (Name.mk path).dotted

/-- A field as a mapping declares it. -/
structure Entry where
  path : List String
  tag : String
  /-- The path of the leaf that a variant belongs to. -/
  parent : Option (List String)

/-- The field that is declared, if its type is known. -/
def Entry.field (entry : Entry) : Except SchemaError Field :=
  Mapping.field (dotted entry.path) entry.tag (entry.parent.map dotted)

/-- Whether the type of the field is known. -/
def Entry.isKnown (entry : Entry) : Bool :=
  (FieldKind.ofTag? entry.tag).isSome

theorem Entry.isOk_field (entry : Entry) : entry.field.isOk = entry.isKnown := by
  unfold Entry.field Mapping.field Entry.isKnown
  cases FieldKind.ofTag? entry.tag <;> rfl

/-- The one reason not to make a field is that its type is unknown. -/
theorem Entry.field_eq_error_iff {entry : Entry} {cause : SchemaError} :
    entry.field = .error cause ↔ entry.isKnown = false ∧ cause = .unknownFieldType entry.tag := by
  unfold Entry.field Mapping.field Entry.isKnown
  cases FieldKind.ofTag? entry.tag <;> simp [eq_comm]

/-- A field is called by the path at which it is declared. -/
theorem Entry.name_of_field {entry : Entry} {found : Field} (isField : entry.field = .ok found) :
    found.name = dotted entry.path := by
  unfold Entry.field Mapping.field at isField
  cases isKind : FieldKind.ofTag? entry.tag with
  | none => simp [isKind] at isField
  | some kind =>
      simp only [isKind, Except.ok.injEq] at isField
      rw [← isField]

/-- The field of a variant of the leaf at a path; a missing tag is empty. -/
def variantEntry (path : List String) (member : String × Json) : Entry :=
  ⟨path ++ [member.1], (tag? member.2).getD "", some path⟩

/-- What a node at a path declares by itself: nothing at the root, where it has properties, where it
has no tag and where its tag is that of a container. -/
def leafEntries (path : List String) (node : Json) : List Entry :=
  match path, group? "properties" node, tag? node with
  | _ :: _, none, some tag =>
      if isContainer tag then []
      else ⟨path, tag, none⟩ :: (variants node).map (variantEntry path)
  | _, _, _ => []

/-- Properties are smaller than their node, so that a mapping can be followed down to its leaves. -/
theorem sizeOf_lt_of_property
    {node : Json} {member : String × Json}
    (isProperty : member ∈ properties node) :
    sizeOf member.2 < sizeOf node := by
  unfold properties at isProperty
  cases listed : group? "properties" node with
  | none => simp [listed] at isProperty
  | some members =>
      rw [listed, Option.getD_some] at isProperty
      obtain ⟨value, found, isObject⟩ := Option.bind_eq_some_iff.mp listed
      obtain rfl := Json.eq_object_of_members? isObject
      cases node with
      | object all =>
          obtain ⟨before, after, rfl, -⟩ := List.lookup_eq_some_iff.mp found
          have inMembers := List.sizeOf_lt_of_mem isProperty
          have inAll : sizeOf ("properties", Json.object members) <
              sizeOf (before ++ ("properties", Json.object members) :: after) :=
            List.sizeOf_lt_of_mem (by simp)
          obtain ⟨key, child⟩ := member
          simp only [Prod.mk.sizeOf_spec, Json.object.sizeOf_spec] at inMembers inAll ⊢
          omega
      | _ => cases found

/-- Induction along the properties of a mapping. -/
theorem node_induction {motive : Json → Prop}
    (step : ∀ node, (∀ member ∈ properties node, motive member.2) → motive node)
    (node : Json) : motive node :=
  step node fun member isProperty =>
    have := sizeOf_lt_of_property isProperty
    node_induction step member.2
termination_by sizeOf node

/-- What stands at a node and at the nodes below it, in the order of the mapping. -/
def collect (standing : List String → Json → List α) (path : List String) (node : Json) : List α :=
  standing path node ++
    (properties node).attach.flatMap fun ⟨member, _⟩ =>
      collect standing (path ++ [member.1]) member.2
termination_by sizeOf node
decreasing_by exact sizeOf_lt_of_property ‹_›

/-- What a node declares comes before what is declared below it. -/
theorem collect_eq (standing : List String → Json → List α) (path : List String) (node : Json) :
    collect standing path node = standing path node ++
      (properties node).flatMap fun member => collect standing (path ++ [member.1]) member.2 := by
  rw [collect, List.flatMap_subtype fun _ _ => rfl, List.unattach_attach]

/-- What is collected from a node stands at the nodes that it reaches. -/
theorem mem_collect_iff
    {standing : List String → Json → List α} {path : List String} {node : Json} {item : α} :
    item ∈ collect standing path node ↔
      ∃ keys last, Reaches node keys last ∧ item ∈ standing (path ++ keys) last := by
  induction node using node_induction generalizing path with
  | step node inductionHypothesis =>
      rw [collect_eq, List.mem_append, List.mem_flatMap]
      constructor
      · rintro (atNode | ⟨member, isProperty, below⟩)
        · exact ⟨[], node, .here node, by rwa [List.append_nil]⟩
        · obtain ⟨keys, last, reaches, atLast⟩ := (inductionHypothesis member isProperty).mp below
          rw [List.append_assoc] at atLast
          exact ⟨member.1 :: keys, last, .property isProperty reaches, atLast⟩
      · rintro ⟨keys, last, reaches, atLast⟩
        cases reaches with
        | here => exact .inl (by rwa [List.append_nil] at atLast)
        | @property _ child _ key keys isProperty reaches =>
            refine .inr ⟨(key, child), isProperty, ?_⟩
            apply (inductionHypothesis _ isProperty).mpr
            exact ⟨keys, last, reaches, by rwa [List.append_assoc]⟩

/-! ## Reading a mapping -/

/-- The name of a node, which is unnamed at the root. -/
def base? : List String → Option String
  | [] => none
  | key :: rest => some (dotted (key :: rest))

theorem base?_of_ne_nil {path : List String} (named : path ≠ []) :
    base? path = some (dotted path) := by
  cases path with
  | nil => contradiction
  | cons key rest => rfl

/-- A name is extended in the same way at the root and below it. -/
theorem dotted_concat (path : List String) (key : String) :
    dotted (path ++ [key]) = childPath (base? path) key := by
  induction path with
  | nil => simp [dotted, base?, childPath, Name.dotted, Text.joinWith]
  | cons first rest inductionHypothesis =>
      apply String.toList_injective
      cases rest with
      | nil => simp [dotted, Name.dotted, Text.joinWith, base?, childPath, dotJoin]
      | cons second others =>
          have same := congrArg String.toList inductionHypothesis
          simpa [dotted, Name.dotted, Text.joinWith, base?, childPath, dotJoin] using same

/-- The variants of a leaf are made into fields one by one. -/
theorem multiFields_eq {path : List String} (named : path ≠ []) (members : List (String × Json)) :
    multiFields (dotted path) members = (members.map (variantEntry path)).mapM Entry.field := by
  induction members with
  | nil => rfl
  | cons member rest inductionHypothesis =>
      have sameField : (variantEntry path member).field =
          field (dotJoin (dotted path) member.1) ((tag? member.2).getD "")
            (some (dotted path)) := by
        simp only [variantEntry, Entry.field, dotted_concat, base?_of_ne_nil named, childPath,
          Option.map_some]
      rw [multiFields, inductionHypothesis, List.map_cons, List.mapM_cons, ← sameField]
      cases (variantEntry path member).field with
      | error cause => rfl
      | ok first => cases (rest.map (variantEntry path)).mapM Entry.field <;> rfl

/-- The fields of a leaf are those of the leaf itself and of its variants. -/
theorem leafFields_cons {key tag : String} {rest : List String} {node : Json}
    (tagged : tag? node = some tag) (noContainer : isContainer tag = false) :
    leafFields (base? (key :: rest)) node =
      match field (dotted (key :: rest)) tag none with
      | .error cause => .error cause
      | .ok leaf =>
          (multiFields (dotted (key :: rest)) (variants node)).map (leaf :: ·) := by
  simp only [leafFields, base?, tagged, noContainer, Bool.false_eq_true, if_false, variants, group?]
  cases field (dotted (key :: rest)) tag none with
  | error cause => rfl
  | ok leaf =>
      cases node.member? "fields" with
      | none => rfl
      | some value =>
          cases value with
          | object members =>
              simp only [Option.bind_some, Json.members?_object, Option.getD_some]
              cases multiFields (dotted (key :: rest)) members <;> rfl
          | _ => rfl

/-- A node without properties gives the fields of its own entries. -/
theorem leafFields_eq (path : List String) {node : Json}
    (isLeaf : group? "properties" node = none) :
    leafFields (base? path) node = (leafEntries path node).mapM Entry.field := by
  cases path with
  | nil => simp only [leafFields, leafEntries, base?]; rfl
  | cons key rest =>
      cases tagged : tag? node with
      | none => simp only [leafFields, leafEntries, base?, isLeaf, tagged]; rfl
      | some tag =>
          cases noContainer : isContainer tag with
          | true => simp only [leafFields, leafEntries, base?, isLeaf, tagged, noContainer]; rfl
          | false =>
              rw [leafFields_cons tagged noContainer, multiFields_eq (by simp)]
              simp only [leafEntries, isLeaf, tagged, noContainer]
              rw [if_neg Bool.false_ne_true, List.mapM_cons]
              change _ = Except.bind (field _ tag none) _
              cases field (dotted (key :: rest)) tag none with
              | error cause => rfl
              | ok leaf => cases (List.map (variantEntry (key :: rest)) _).mapM Entry.field <;> rfl

theorem propertyFields?_eq (path : Option String) (members : List (String × Json)) :
    propertyFields? path members =
      (group? "properties" (.object members)).map (fieldsBelow path) := by
  induction members with
  | nil => rfl
  | cons member rest inductionHypothesis =>
      obtain ⟨key, value⟩ := member
      unfold group? at inductionHypothesis ⊢
      by_cases isProperties : key = "properties"
      · subst isProperties
        cases value <;> simp [propertyFields?, Json.members?]
      · have notKey : ("properties" == key) = false := by simpa using Ne.symm isProperties
        rw [Json.member?_object, List.lookup_cons, notKey]
        cases value <;> simpa [propertyFields?, isProperties] using inductionHypothesis

theorem fieldsAt_eq (path : Option String) (node : Json) :
    fieldsAt path node = match group? "properties" node with
      | some members => fieldsBelow path members
      | none => leafFields path node := by
  cases node with
  | object members =>
      rw [fieldsAt, propertyFields?_eq]
      cases group? "properties" (.object members) <;> rfl
  | _ => cases path <;> simp [fieldsAt, group?, Json.member?, leafFields, tag?]

/-- If the nodes give the fields of their entries, so does the list of them. -/
theorem fieldsBelow_eq {path : List String} {members : List (String × Json)}
    (read : ∀ member ∈ members, ∀ path,
      fieldsAt (base? path) member.2 = (collect leafEntries path member.2).mapM Entry.field) :
    fieldsBelow (base? path) members =
      (members.flatMap fun member =>
        collect leafEntries (path ++ [member.1]) member.2).mapM Entry.field := by
  induction members with
  | nil => rw [fieldsBelow]; rfl
  | cons member rest inductionHypothesis =>
      have readFirst := read member List.mem_cons_self (path ++ [member.1])
      have readRest := inductionHypothesis fun other inRest =>
        read other (List.mem_cons_of_mem member inRest)
      rw [base?_of_ne_nil (by simp), dotted_concat] at readFirst
      rw [fieldsBelow, readFirst, readRest, List.flatMap_cons, List.mapM_append]
      cases (collect leafEntries (path ++ [member.1]) member.2).mapM Entry.field with
      | error cause => rfl
      | ok first =>
          cases (rest.flatMap fun member =>
            collect leafEntries (path ++ [member.1]) member.2).mapM Entry.field
          <;> rfl

/-- A mapping is read field by field, in the order in which it declares them. -/
theorem fieldsAt_base? (path : List String) (node : Json) :
    fieldsAt (base? path) node = (collect leafEntries path node).mapM Entry.field := by
  induction node using node_induction generalizing path with
  | step node inductionHypothesis =>
      rw [fieldsAt_eq, collect_eq]
      cases listed : group? "properties" node with
      | none =>
          have noProperties : properties node = [] := by simp [properties, listed]
          rw [leafFields_eq path listed, noProperties, List.flatMap_nil, List.append_nil]
      | some members =>
          have sameProperties : properties node = members := by simp [properties, listed]
          have noLeaf : leafEntries path node = [] := by simp [leafEntries, listed]
          rw [noLeaf, List.nil_append, sameProperties]
          apply fieldsBelow_eq
          rwa [sameProperties] at inductionHypothesis

/-- The fields of a mapping are those of its entries, and the first entry of an unknown type stops
it. -/
theorem fields_eq (mappings : Json) :
    fields mappings = (collect leafEntries [] mappings).mapM Entry.field :=
  fieldsAt_base? [] mappings

/-- The fields of a mapping have the names that it declares. -/
theorem map_name_of_fields {mappings : Json} {found : List Field}
    (read : fields mappings = .ok found) :
    found.map Field.name =
      (collect leafEntries [] mappings).map fun entry => dotted entry.path := by
  rw [fields_eq] at read
  exact map_eq_of_mapM_eq_ok read fun _ _ _ => Entry.name_of_field

/-- A mapping cannot be read where it declares a field of an unknown type, and the first such field
is the reason. -/
theorem fields_eq_error_iff {mappings : Json} {cause : SchemaError} :
    fields mappings = .error cause ↔
      ∃ entry, (collect leafEntries [] mappings).find? (!·.isKnown) = some entry ∧
        cause = .unknownFieldType entry.tag := by
  rw [fields_eq, mapM_eq_error_iff]
  simp only [Entry.isOk_field, Entry.field_eq_error_iff]
  constructor
  · rintro ⟨entry, first, -, rfl⟩
    exact ⟨entry, first, rfl⟩
  · rintro ⟨entry, first, rfl⟩
    have unknown := List.find?_some first
    exact ⟨entry, first, by simpa using unknown, rfl⟩

end Mapping
end FilterQuery
