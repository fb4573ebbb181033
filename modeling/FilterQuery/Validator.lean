import FilterQuery.Error
import FilterQuery.Expression.Basic

/-!
# Validators

A check of a whole expression before it is compiled. Anyone may add a validator
of their own; the registry tells validators apart by their kinds, so a kind has
to say all that the verdicts depend on. Two validators are provided.
-/

namespace FilterQuery

/-- A check that expressions have to pass. -/
@[ext] structure Validator where
  /-- The identity of a validator, its parameters included. -/
  kind : String
  /-- Check an expression. -/
  check (expr : Expr) : Except Error Unit

namespace Validator

/-- The validator that lets every expression through. -/
def noop : Validator where
  kind := "elastic_dql_schema::validate::NoopValidator"
  check _ := .ok ()

/-- The validator that lets through expressions of at most a given depth. -/
def depthLimit (limit : Nat) : Validator where
  kind := "elastic_dql_schema::validate::DepthLimitValidator(" ++ toString limit ++ ")"
  check expr :=
    if limit < expr.depth then .error (.expression (.tooDeep expr.depth limit)) else .ok ()

/-- The depth limit that holds where none is given. -/
def defaultLimit : Nat := 64

instance : Inhabited Validator := ⟨noop⟩

theorem check_depthLimit (limit : Nat) (expr : Expr) :
    (depthLimit limit).check expr =
      if limit < expr.depth then .error (.expression (.tooDeep expr.depth limit)) else .ok () := rfl

/-- A depth limit lets through exactly the expressions that do not exceed it. -/
theorem check_depthLimit_eq_ok_iff (limit : Nat) (expr : Expr) :
    (depthLimit limit).check expr = .ok () ↔ expr.depth ≤ limit := by
  rw [check_depthLimit]
  split <;> simp <;> omega

/-! ## Kinds -/

/-- The contract of kinds, for the validators that are asked for: those of one kind give the same
verdicts. -/
def Identified (Asked : Validator → Prop) : Prop :=
  ∀ first second, Asked first → Asked second → first.kind = second.kind →
    first.check = second.check

/-- Under the contract, validators of one kind are the same. -/
theorem Identified.eq
    {Asked : Validator → Prop} {first second : Validator}
    (identified : Identified Asked)
    (firstAsked : Asked first) (secondAsked : Asked second)
    (sameKind : first.kind = second.kind) :
    first = second :=
  Validator.ext sameKind (identified first second firstAsked secondAsked sameKind)

/-- The validators that are provided, which are those that a configuration can ask for. -/
inductive Provided : Validator → Prop
  | noop : Provided noop
  | depthLimit (limit : Nat) : Provided (depthLimit limit)

theorem kind_depthLimit (limit : Nat) :
    (depthLimit limit).kind =
      "elastic_dql_schema::validate::DepthLimitValidator(" ++ toString limit ++ ")" := rfl

/-- The kind of a depth limit ends in a bracket, that of no check does not. -/
theorem kind_noop_ne_kind_depthLimit (limit : Nat) : noop.kind ≠ (depthLimit limit).kind := by
  intro same
  have limitLast : (depthLimit limit).kind.toList.getLast? = some ')' := by
    have bracket : ")".toList = [')'] := by decide
    rw [kind_depthLimit, String.toList_append, bracket]
    exact List.getLast?_concat
  have noopLast : noop.kind.toList.getLast? = some 'r' := by decide
  rw [← same, noopLast] at limitLast
  exact absurd limitLast (by decide)

/-- The kind of a depth limit gives the limit. -/
theorem kind_depthLimit_injective
    {limit other : Nat}
    (same : (depthLimit limit).kind = (depthLimit other).kind) :
    limit = other := by
  rw [kind_depthLimit, kind_depthLimit, String.append_left_inj, String.append_right_inj] at same
  have read := congrArg (fun digits : String => Nat.ofDigitChars 10 digits.toList 0) same
  simpa only [Nat.toString_eq_repr, Nat.toList_repr, Nat.ofDigitChars_ten_toDigits] using read

/-- The provided validators keep to the contract. -/
theorem identified_provided : Identified Provided := by
  intro first second isFirst isSecond same
  cases isFirst with
  | noop =>
      cases isSecond with
      | noop => rfl
      | depthLimit limit => exact absurd same (kind_noop_ne_kind_depthLimit limit)
  | depthLimit limit =>
      cases isSecond with
      | noop => exact absurd same.symm (kind_noop_ne_kind_depthLimit limit)
      | depthLimit other => rw [kind_depthLimit_injective same]

end Validator
end FilterQuery
