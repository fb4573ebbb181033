import FilterQuery.Expression.Transport
import FilterQuery.Http.MediaType
import FilterQuery.Http.Route
import FilterQuery.Registry

/-!
# Answering requests

A request is read in full before the index is chosen, and the index is chosen
before the registry is asked. What cannot be read is refused without a body; an
error of the registry is reported with its wording.
-/

namespace FilterQuery

/-- The answer to a request. -/
structure Response where
  status : Nat
  body : Option Json

namespace Response

/-- The answer to a request that is refused before the registry is asked: its method, path, body or
parameters do not fit. Only the status is modelled; the text that explains the refusal is not, and
`none` stands for any such text. -/
def bare (status : Nat) : Response := ⟨status, none⟩

/-- The answer that a result of the registry is. -/
def ofResult : Except Error Json → Response
  | .ok json => ⟨200, some json⟩
  | .error cause => ⟨400, some (.object [("error", .string cause.message)])⟩

end Response

/-- What is asked of a schema. -/
inductive Task where
  | list
  | suggest (field : String) (search : Option String)
  | compile (expr : Expr)

namespace Task

/-- Do a task on a schema. -/
def run [Monad m] (engine : Engine m) (task : Task) (schema : Schema) :
    m (Except Error Json × Schema) :=
  match task with
  | list => do
      let (fields, schema) ← schema.fields engine
      pure (fields.map fun fields =>
        .array (fields.map fun field => (FieldInfo.ofField field).toJson), schema)
  | suggest field search => do
      let (suggestions, schema) ← schema.suggest engine field search
      pure (suggestions.map fun suggestions => .array (suggestions.map Suggestion.toJson), schema)
  | compile expr => schema.compile engine expr

end Task

namespace Service

/-- The most octets that a body may have. -/
def bodyLimit : Nat := 2097152

/-- Whether a request says that its body is JSON. -/
def hasJson (request : Request) : Bool :=
  match request.contentType.bind MediaType.read? with
  | some mediaType => mediaType.isJson
  | none => false

/-- The expression in a body, a record with one member. -/
def bodyExpr? (body : String) : Option Expr := do
  let json ← Json.readRecord? ["expr"] body
  let [expr] ← json.record? ["expr"] | none
  Json.required Expr.ofJson? expr

/-- The expression that a request asks to compile, or the status with which it is refused. -/
def exprOf (request : Request) : Except Nat Expr :=
  if !hasJson request then .error 400
  else
    match request.body with
    | none => .error 400
    | some body =>
        if bodyLimit < body.utf8ByteSize then .error 413
        else
          match bodyExpr? body with
          | some expr => .ok expr
          | none => .error 400

/-- The task of a request on a route. -/
def taskOf (request : Request) : Route → Except Nat Task
  | .mappings => .ok .list
  | .suggestions field => .ok (.suggest field (request.parameters.lookup "search"))
  | .query => (exprOf request).map .compile

/-- Read a request, or find the status with which it is refused. -/
def read (request : Request) : Except Nat Task :=
  match Route.ofRequest? request with
  | none => .error 404
  | some route =>
      if Parameters.standOnce route.names request.parameters then taskOf request route
      else .error 400

/-- Answer a request. -/
def answer [Monad m] (engine : Engine m) (access : AccessSettings) (registry : Registry)
    (request : Request) : m (Response × Registry) :=
  match read request with
  | .error status => pure (.bare status, registry)
  | .ok task =>
      match access.resolve (request.parameters.lookup "index") with
      | .error cause => pure (.ofResult (.error cause), registry)
      | .ok index => do
          let (result, registry) ← registry.operate engine index (task.run engine)
          pure (.ofResult result, registry)

end Service
end FilterQuery
