import FilterQuery.Field.Basic

/-!
# Errors

The causes for which a request, a schema or a configuration is refused, and
their wording.
-/

namespace FilterQuery

/-- Why a value cannot be compared with a field. -/
inductive FieldError where
  | notNullable (field : Field)
  /-- The value has a type that the field does not accept. -/
  | invalidType (field : Field) (value : Literal)
  /-- The operator takes a list and the value is none, or the reverse. -/
  | invalidShape (field : Field) (operator : Operator) (value : Literal)
  | invalidDate (field : Field) (value : Literal)
  | operatorNotAllowed (field : Field) (operator : Operator)
  | valueConversion (field : Field) (value : Literal)

namespace FieldError

/-- The wording of a type that does not fit. -/
def typeMessage (field : Field) (expected : String) (value : Literal) : String :=
  "Field \"" ++ field.name ++ "\" has \"" ++ field.typeText ++ "\" type. It can be compared to " ++
    expected ++ ", but not to " ++ value.display

/-- The wording of an error. -/
def message : FieldError → String
  | notNullable field =>
      "Field \"" ++ field.name ++ "\" is not nullable, can't compare it to null"
  | invalidType field value => typeMessage field field.kind.expectation value
  | invalidShape field operator value =>
      typeMessage field
        (if operator.takesList then "a list of values with this operator"
          else "a single value with this operator")
        value
  | invalidDate field value =>
      "Field \"" ++ field.name ++ "\" expects dates in \"YYYY-MM-DD\" format, got " ++ value.display
  | operatorNotAllowed field operator =>
      "Operator \"" ++ operator.token ++ "\" is not valid for field \"" ++ field.name ++
        "\" of type \"" ++ field.engineType ++ "\""
  | valueConversion field value =>
      "Can't convert " ++ value.display ++ " to " ++ field.kind.tag ++ " for field \"" ++
        field.name ++ "\""

end FieldError

/-- Why a field, an index or an answer of the engine cannot be used. -/
inductive SchemaError where
  | unresolvedField (name : String)
  | unknownFieldType (tag : String)
  | indexExcluded (index : String)
  | invalidIndexName (index : String)
  | indexNotSpecified
  | notSuggestable (field : String)
  | mappingFetch (reason : String)
  | search (reason : String)
deriving DecidableEq

namespace SchemaError

/-- The wording of an error. -/
def message : SchemaError → String
  | unresolvedField name => "invalid field_name: " ++ name
  | unknownFieldType tag => "invalid field type: " ++ tag
  | indexExcluded index => "index " ++ index ++ " can't be used because it's excluded"
  | invalidIndexName index => "invalid index name: " ++ index
  | indexNotSpecified => "index not specified"
  | notSuggestable field => "field " ++ field ++ " hasn't type keyword"
  | mappingFetch reason => "Mapping fetch failed: " ++ reason
  | search reason => "Search failed: " ++ reason

end SchemaError

/-- Why a configuration cannot be used. -/
inductive ConfigError where
  | conflictingIndexPolicy
  | missingIndexPolicy
  | missingDefaultIndex
  | noHosts
  | noDepth
  /-- Requests cannot be sent with the configured settings. -/
  | noClient (reason : String)
  /-- The configuration file cannot be read. -/
  | unreadable (path reason : String)
  /-- The text is no configuration. -/
  | malformed
deriving DecidableEq

namespace ConfigError

/-- The wording of an error. -/
def message : ConfigError → String
  | conflictingIndexPolicy =>
      "Either include_indices or exclude_indices can be specified, but not both"
  | missingIndexPolicy => "One of include_indices or exclude_indices must be specified"
  | missingDefaultIndex => "if accept_index_param is false default_index must be specified"
  | noHosts => "Invalid configuration: connection.hosts must not be empty"
  | noDepth => "Invalid configuration: max_depth must be at least 1"
  | noClient reason => "Invalid configuration: failed to build HTTP client: " ++ reason
  | unreadable path reason => "Invalid configuration: can't read " ++ path ++ ": " ++ reason
  | malformed => "Invalid configuration"

end ConfigError

/-- Why an expression is refused as a whole. -/
inductive ExprError where
  | unknownOperator (token : String)
  | tooDeep (depth limit : Nat)
  /-- A validator has a reason of its own. -/
  | rejected (reason : String)
deriving DecidableEq

namespace ExprError

/-- The wording of an error. -/
def message : ExprError → String
  | unknownOperator token => "Invalid expression: unknown operator: " ++ token
  | tooDeep depth limit =>
      "Invalid expression: expression depth " ++ toString depth ++ " exceeds maximum of " ++
        toString limit
  | rejected reason => "Invalid expression: " ++ reason

end ExprError

/-- Any error. -/
inductive Error where
  | field (cause : FieldError)
  | schema (cause : SchemaError)
  | config (cause : ConfigError)
  | expression (cause : ExprError)

namespace Error

/-- The wording of an error. -/
def message : Error → String
  | field cause => cause.message
  | schema cause => cause.message
  | config cause => cause.message
  | expression cause => cause.message

/-- Whether an error is the fault of a request, so that others can go on. -/
def isRecoverable : Error → Bool
  | config _ => false
  | _ => true

end Error

namespace Operator

/-- Read an operator from a token. -/
def parse (token : String) : Except Error Operator :=
  match ofToken? token with
  | some operator => .ok operator
  | none => .error (.expression (.unknownOperator token))

end Operator
end FilterQuery
