import FilterQuery.Error

/-!
# Index mappings

The engine describes an index by a tree of properties. Its leaves, and the
further ways in which a leaf is indexed, are the fields of the index; a field is
named by the dotted path to it.
-/

namespace FilterQuery
namespace Mapping

/-- Two path segments with a dot between them. -/
def dotJoin (first second : String) : String :=
  first ++ "." ++ second

/-- The path of a property below a node, which is unnamed at the root. -/
def childPath (path : Option String) (key : String) : String :=
  match path with
  | some base => dotJoin base key
  | none => key

/-- The field of a type tag. -/
def field (name tag : String) (parent : Option String) : Except SchemaError Field :=
  match FieldKind.ofTag? tag with
  | some kind => .ok ⟨name, kind, tag, parent, false⟩
  | none => .error (.unknownFieldType tag)

/-- The string called `type` of a node. -/
def tag? (node : Json) : Option String := do
  (← node.member? "type").string?

/-- The further fields of a leaf, named below it; a missing tag is empty. -/
def multiFields (parent : String) : List (String × Json) → Except SchemaError (List Field)
  | [] => .ok []
  | (key, node) :: rest =>
      match field (dotJoin parent key) ((tag? node).getD "") (some parent) with
      | .error cause => .error cause
      | .ok first =>
          match multiFields parent rest with
          | .error cause => .error cause
          | .ok others => .ok (first :: others)

/-- Whether a tag is that of a container, which has no value of its own. -/
def isContainer (tag : String) : Bool :=
  tag = "object" || tag = "nested"

/-- The fields of a node without properties: the leaf and its further fields. -/
def leafFields (path : Option String) (node : Json) : Except SchemaError (List Field) :=
  match path, tag? node with
  | some name, some tag =>
      if isContainer tag then .ok []
      else
        match field name tag none with
        | .error cause => .error cause
        | .ok leaf =>
            match node.member? "fields" with
            | some (.object members) =>
                match multiFields name members with
                | .error cause => .error cause
                | .ok others => .ok (leaf :: others)
            | _ => .ok [leaf]
  | _, _ => .ok []

mutual
/-- The fields of the node at a path. -/
def fieldsAt (path : Option String) : Json → Except SchemaError (List Field)
  | .object members =>
      match propertyFields? path members with
      | some fields => fields
      | none => leafFields path (.object members)
  | _ => .ok []

/-- The fields below the object called `properties`, if a node has one. -/
def propertyFields? (path : Option String) :
    List (String × Json) → Option (Except SchemaError (List Field))
  | [] => none
  | (key, .object properties) :: rest =>
      if key = "properties" then some (fieldsBelow path properties)
      else propertyFields? path rest
  | (key, _) :: rest => if key = "properties" then none else propertyFields? path rest

/-- The fields of all properties of a node, in order. -/
def fieldsBelow (path : Option String) : List (String × Json) → Except SchemaError (List Field)
  | [] => .ok []
  | (key, node) :: rest =>
      match fieldsAt (some (childPath path key)) node with
      | .error cause => .error cause
      | .ok first =>
          match fieldsBelow path rest with
          | .error cause => .error cause
          | .ok others => .ok (first ++ others)
end

/-- The fields of an index in the order of its mapping. -/
def fields (mappings : Json) : Except SchemaError (List Field) :=
  fieldsAt none mappings

end Mapping
end FilterQuery
