import FilterQuery.Error
import FilterQuery.Text.Basic

/-!
# Indices

A name that the engine would read as a pattern, a list or a path is refused. Of
the others, a policy lists either the indices that may be used or those that may
not.
-/

namespace FilterQuery

/-! ## Names -/

namespace Index

/-- The most bytes that an index name may have. -/
def maxNameBytes : Nat := 255

/-- Characters that no index name may hold. -/
def forbidden : List Char :=
  ['\\', '/', '*', '?', '"', '<', '>', '|', ',', '#', ':', '%']

/-- Characters that no index name may start with. -/
def forbiddenFirst : List Char := ['-', '_', '+']

/-- Whether a character may stand in an index name. -/
def isNameChar (c : Char) : Bool :=
  !Text.isBlank c && !Text.isControl c && !forbidden.contains c

/-- Whether the first character of a name, if it has one, may stand there. -/
def startsWell : List Char → Bool
  | first :: _ => !forbiddenFirst.contains first
  | [] => true

/-- Whether a text is the name of an index. -/
def isName (index : String) : Bool :=
  index ≠ "" && index.utf8ByteSize ≤ maxNameBytes && index ≠ "." && index ≠ ".." &&
    startsWell index.toList && index.toList.all isNameChar

/-- Check the name of an index. -/
def checkName (index : String) : Except Error Unit :=
  if isName index then .ok () else .error (.schema (.invalidIndexName index))

/-- The check lets through exactly the names of indices. -/
theorem checkName_eq_ok_iff (index : String) : checkName index = .ok () ↔ isName index = true := by
  simp only [checkName]
  split
  · next valid => simp [valid]
  · next invalid => simpa using invalid

end Index

/-! ## Policies -/

/-- Which indices may be used. -/
inductive IndexPolicy where
  /-- The listed indices, or all of them where the list has the entry for every index. -/
  | only (indices : List String)
  /-- All indices but the listed ones. -/
  | allExcept (indices : List String)
deriving DecidableEq, Inhabited

namespace IndexPolicy

/-- The entry of an include list that stands for every index. -/
def everyIndex : String := "*"

/-- The policy of two lists, of which exactly one must have entries. -/
def ofLists (included excluded : List String) : Except ConfigError IndexPolicy :=
  match included.isEmpty, excluded.isEmpty with
  | false, false => .error .conflictingIndexPolicy
  | true, true => .error .missingIndexPolicy
  | false, true => .ok (.only included)
  | true, false => .ok (.allExcept excluded)

/-- Whether an index may not be used. -/
def excludes : IndexPolicy → String → Bool
  | only indices, index => !indices.contains everyIndex && !indices.contains index
  | allExcept indices, index => indices.contains index

/-- The indices that a policy lists, each once and in ascending order. -/
def indices : IndexPolicy → List String
  | only indices | allExcept indices => indices.eraseDups.mergeSort

/-- Check that an index may be used. -/
def check (policy : IndexPolicy) (index : String) : Except Error Unit :=
  if policy.excludes index then .error (.schema (.indexExcluded index)) else .ok ()

/-- The check lets through exactly the indices that are not excluded. -/
theorem check_eq_ok_iff (policy : IndexPolicy) (index : String) :
    policy.check index = .ok () ↔ policy.excludes index = false := by
  simp only [check]
  split
  · next excluded => simp [excluded]
  · next admitted => simpa using admitted

end IndexPolicy
end FilterQuery
