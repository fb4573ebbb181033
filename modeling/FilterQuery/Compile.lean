import FilterQuery.Catalog
import FilterQuery.Expression.Basic
import FilterQuery.Field.Lookup

/-!
# Compiling expressions

A resolver gives the field of every name, and may refuse an expression as a whole
before it is compiled. Every comparison becomes a clause of its own: an inverted
fragment under a list of clauses that must not match, any other under a list of
one. Connectives join the clauses of both sides, so no negation is left above a
comparison.
-/

namespace FilterQuery

/-- What compiling asks of others: the field of a name, and whether an expression may be compiled at
all. -/
structure Resolver where
  resolve : String → Except Error Field
  validate : Expr → Except Error Unit := fun _ => .ok ()

/-- A catalog resolves its own names and refuses nothing. -/
def Catalog.resolver (catalog : Catalog) : Resolver where
  resolve := catalog.resolve

namespace Expr

/-- The clause of a comparison's fragment. -/
def clause (fragment : Fragment) : BoolQuery :=
  if fragment.inverted then .mustNot [fragment.query] else .should [fragment.query]

/-- Two queries joined by a connective. -/
def join : Connective → BoolQuery → BoolQuery → BoolQuery
  | .or, left, right => .should [left, right]
  | .and, left, right => .filter [left, right]

/-- The fragment of a comparison, once its name is resolved to a field. -/
def lookup
    (resolve : String → Except Error Field)
    (name : Name) (operator : Operator) (value : Literal) : Except Error Fragment :=
  match resolve name.dotted with
  | .error cause => .error cause
  | .ok field =>
      match field.lookup operator value with
      | .error cause => .error (.field cause)
      | .ok fragment => .ok fragment

/-- Compile an expression, left before right. A comparison reports whether its fragment is
inverted, although its query already says so. -/
def compile (resolve : String → Except Error Field) : Expr → Except Error Fragment
  | logical connective left right =>
      match left.compile resolve with
      | .error cause => .error cause
      | .ok first =>
          match right.compile resolve with
          | .error cause => .error cause
          | .ok second => .ok ⟨join connective first.query second.query, false⟩
  | comparison name operator value =>
      match lookup resolve name operator value with
      | .error cause => .error cause
      | .ok fragment => .ok ⟨clause fragment, fragment.inverted⟩

/-- The document of an expression. -/
def document (resolve : String → Except Error Field) (expr : Expr) : Except Error Json :=
  (expr.compile resolve).map fun fragment => fragment.query.document

/-- The document of an expression, unless the resolver refuses it. -/
def query (resolver : Resolver) (expr : Expr) : Except Error Json :=
  match resolver.validate expr with
  | .error cause => .error cause
  | .ok () => expr.document resolver.resolve

end Expr
end FilterQuery
