import FilterQuery.Engine.Basic
import FilterQuery.Registry

/-!
# Sessions

A session is a finite sequence of questions to the schemas of one registry. A
question names an index and a validator, or goes to the schema that an earlier
question was about. The transcript says what was asked of which index and what
was replied.
-/

namespace FilterQuery

/-- What a schema can be asked. -/
inductive Question where
  | resolve (name : String)
  | fields
  | suggest (name : String) (search : Option String)
  | validate (expr : Expr)
  | compile (expr : Expr)

/-- What a schema replies. -/
inductive Reply where
  | field (field : Field)
  | fields (fields : List Field)
  | suggestions (suggestions : List Suggestion)
  | accepted
  | document (document : Json)

namespace Question

/-- Ask a schema. -/
def ask [Monad m] (engine : Engine m) (schema : Schema) :
    Question → m (Except Error Reply × Schema)
  | resolve name => do
      let (field, schema) ← schema.resolve engine name
      pure (field.map .field, schema)
  | fields => do
      let (found, schema) ← schema.fields engine
      pure (found.map .fields, schema)
  | suggest name search => do
      let (suggestions, schema) ← schema.suggest engine name search
      pure (suggestions.map .suggestions, schema)
  | validate expr => pure ((schema.validate expr).map fun _ => .accepted, schema)
  | compile expr => do
      let (document, schema) ← schema.compile engine expr
      pure (document.map .document, schema)

end Question

namespace Session

/-- An index and the validator that its expressions have to pass. -/
structure Target where
  index : String
  validator : Validator

/-- Where a question goes. -/
inductive Source where
  /-- To the schema of an index, with the validator of the registry. -/
  | default (index : String)
  /-- To the schema of an index, with a validator of its own. -/
  | custom (index : String) (validator : Validator)
  /-- To the schema that the question at a position of the session was about. -/
  | again (position : Nat)

/-- A question and where it goes. -/
structure Inquiry where
  source : Source
  question : Question

/-- The number of the schema that an inquiry was about, or why there was none. -/
structure Handle where
  target : Target
  number : Except Error Nat

/-- An inquiry with what came of it. There is no target where the inquiry went to a position that
had not been reached. -/
structure Turn where
  inquiry : Inquiry
  target : Option Target
  reply : Option (Except Error Reply)

end Session

/-- A registry in use, with the handles of all inquiries so far. -/
structure Session where
  registry : Registry
  handles : List (Option Session.Handle)

namespace Session

/-- A session before the first inquiry. -/
def start (registry : Registry) : Session := ⟨registry, []⟩

/-- Get the schema for a target. -/
def request [Monad m] (engine : Engine m) (registry : Registry) (target : Target) :
    m (Option Handle × Registry) := do
  let (found, registry) ← registry.obtain engine target.index target.validator
  pure (some ⟨target, found.map Prod.fst⟩, registry)

/-- Get the schema that an inquiry goes to. -/
def acquire [Monad m] (engine : Engine m) (session : Session) :
    Source → m (Option Handle × Registry)
  | .default index => request engine session.registry ⟨index, session.registry.defaultValidator⟩
  | .custom index validator => request engine session.registry ⟨index, validator⟩
  | .again position => pure (session.handles.getD position none, session.registry)

/-- Ask the schema of a handle. -/
def serve [Monad m] (engine : Engine m) (registry : Registry) (question : Question) :
    Option Handle → m (Option (Except Error Reply) × Registry)
  | none => pure (none, registry)
  | some ⟨_, .error cause⟩ => pure (some (.error cause), registry)
  | some ⟨_, .ok number⟩ => registry.operate? number fun schema => question.ask engine schema

/-- Make one inquiry. -/
def step [Monad m] (engine : Engine m) (session : Session) (inquiry : Inquiry) :
    m (Turn × Session) := do
  let (handle, registry) ← session.acquire engine inquiry.source
  let (reply, registry) ← serve engine registry inquiry.question handle
  pure (⟨inquiry, handle.map Handle.target, reply⟩, ⟨registry, session.handles ++ [handle]⟩)

/-- Make one inquiry after the other. -/
def run [Monad m] (engine : Engine m) (session : Session) : List Inquiry → m (List Turn × Session)
  | [] => pure ([], session)
  | inquiry :: rest => do
      let (turn, session) ← session.step engine inquiry
      let (turns, session) ← session.run engine rest
      pure (turn :: turns, session)

/-- The validator that an inquiry names is among those that are asked for. -/
def Source.Within (Asked : Validator → Prop) : Source → Prop
  | .custom _ validator => Asked validator
  | .default _ | .again _ => True

/-- Any validator may be asked for where nothing is demanded of validators. -/
theorem within_true (inquiries : List Inquiry) :
    ∀ inquiry ∈ inquiries, inquiry.source.Within fun _ => True := by
  intro inquiry _
  cases inquiry.source <;> trivial

/-- The validators that are asked for in a session: that of the registry and those that inquiries
name. -/
def Asks (validator : Validator) (inquiries : List Inquiry) (asked : Validator) : Prop :=
  asked = validator ∨ ∃ inquiry ∈ inquiries, ∃ index, inquiry.source = .custom index asked

theorem within_asks
    (validator : Validator) {inquiries : List Inquiry} {inquiry : Inquiry}
    (member : inquiry ∈ inquiries) :
    inquiry.source.Within (Asks validator inquiries) := by
  cases isSource : inquiry.source with
  | custom index asked => exact .inr ⟨inquiry, member, index, isSource⟩
  | default index | again position => trivial

/-- The target that an inquiry names, given the turns before it. -/
def Source.target? (validator : Validator) (earlier : List Turn) : Source → Option Target
  | .default index => some ⟨index, validator⟩
  | .custom index validator => some ⟨index, validator⟩
  | .again position => earlier[position]?.bind Turn.target

/-- Every turn has the target that its inquiry names, after some earlier turns. -/
def Addressed (validator : Validator) (earlier : List Turn) : List Turn → Prop
  | [] => True
  | turn :: rest =>
      turn.target = turn.inquiry.source.target? validator earlier ∧
        Addressed validator (earlier ++ [turn]) rest

/-- The turns of a session are about its inquiries. -/
theorem map_inquiry_run (engine : Engine (StateM σ)) (session : Session) (state : σ)
    (inquiries : List Inquiry) :
    (session.run engine inquiries state).1.1.map Turn.inquiry = inquiries := by
  induction inquiries generalizing session state with
  | nil => rfl
  | cons inquiry rest inductionHypothesis =>
      exact congrArg (inquiry :: ·) (inductionHypothesis _ _)

/-- A turn has the target that its inquiry names, where the handles are those of earlier turns. -/
theorem target_step (engine : Engine (StateM σ)) {session : Session} (state : σ)
    (inquiry : Inquiry) {earlier : List Turn}
    (known : session.handles.map (Option.map Handle.target) = earlier.map Turn.target) :
    (session.step engine inquiry state).1.1.target =
      inquiry.source.target? session.registry.defaultValidator earlier := by
  obtain ⟨source, question⟩ := inquiry
  cases source with
  | default index => rfl
  | custom index validator => rfl
  | again position =>
      have atPosition := congrArg (fun targets => targets[position]?) known
      simp only [List.getElem?_map] at atPosition
      change (session.handles.getD position none).map Handle.target =
        earlier[position]?.bind Turn.target
      calc (session.handles.getD position none).map Handle.target
          = (session.handles[position]?.map (Option.map Handle.target)).getD none := by
            rw [List.getD_eq_getElem?_getD]
            cases session.handles[position]? <;> rfl
        _ = (earlier[position]?.map Turn.target).getD none := by rw [atPosition]
        _ = earlier[position]?.bind Turn.target := by cases earlier[position]? <;> rfl

end Session

namespace Sample

/-- One index is excluded, and a field of another is hidden. -/
def settings : RegistrySettings :=
  ⟨[], ["vault"], FieldLimits.none.insert "books" ["owner"], 5⟩

/-- Two strings and a number. -/
def mappings : Json :=
  .object [("properties", .object
    [("title", .object [("type", .string "keyword")]),
      ("owner", .object [("type", .string "keyword")]),
      ("year", .object [("type", .string "long")])])]

/-- All names are aliases, and all but one are aliases of the excluded index. -/
def memory : Memory where
  mapping index :=
    .ok (Memory.wrap (if index = "books" then "books-2" else "vault") mappings)
  response := .ok .null

/-- Two questions to one schema, one to the schema that takes its place and one to the next; then
about an alias of the excluded index, and about that index itself. -/
def inquiries : List Session.Inquiry :=
  [⟨.default "books", .fields⟩,
    ⟨.again 0, .suggest "title" none⟩,
    ⟨.custom "books" (.depthLimit 3), .compile (.comparison ⟨["year"]⟩ .equal (.int 1))⟩,
    ⟨.default "books", .resolve "owner"⟩,
    ⟨.default "diary", .fields⟩,
    ⟨.default "vault", .fields⟩]

end Sample
end FilterQuery
