import FilterQuery.Literal.Basic
import FilterQuery.Operator
import FilterQuery.Text.Basic

/-!
# Filter expressions

An expression is a tree of comparisons joined by `and` and `or`. Each
comparison names a field by a dotted path.
-/

namespace FilterQuery

/-- A field reference, in parts. -/
structure Name where
  parts : List String
deriving DecidableEq, Inhabited

namespace Name

/-- The name that a dotted path stands for: a part between any two neighbouring dots. -/
def ofPath (path : String) : Name :=
  ⟨(Text.splitAt '.' path.toList).map String.ofList⟩

/-- The parts of a name joined with dots. -/
def dotted (name : Name) : String :=
  String.ofList (Text.joinWith '.' (name.parts.map String.toList))

/-- A path is the dotted form of the name it stands for. -/
@[simp] theorem dotted_ofPath (path : String) : (ofPath path).dotted = path := by
  simp [ofPath, dotted, List.map_map, Function.comp_def, Text.joinWith_splitAt]

end Name

/-- What joins two expressions. -/
inductive Connective where
  | and
  | or
deriving DecidableEq, Inhabited

/-- A filter expression. -/
inductive Expr where
  | logical (connective : Connective) (left right : Expr)
  | comparison (name : Name) (operator : Operator) (value : Literal)
deriving Inhabited

namespace Expr

/-- Levels of a tree; a single comparison has one. -/
def depth : Expr → Nat
  | logical _ left right => 1 + max left.depth right.depth
  | comparison _ _ _ => 1

@[simp] theorem depth_logical (connective : Connective) (left right : Expr) :
    (logical connective left right).depth = 1 + max left.depth right.depth := rfl

@[simp] theorem depth_comparison (name : Name) (operator : Operator) (value : Literal) :
    (comparison name operator value).depth = 1 := rfl

end Expr
end FilterQuery
