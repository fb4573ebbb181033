import FilterQuery.Proofs.Confinement

/-!
# Accounting for mapping requests

A schema asks its engine for the mapping when it needs a catalog and has none,
and whenever its fields are listed. Main statement: in every sequence of
questions, each one makes exactly the requests that follow from what is asked
and from whether there is a catalog. An expression is compiled name by name, and
makes at most one request however many names it has.
-/

namespace FilterQuery

/-! ## Compiling name by name -/

namespace Schema

/-- Compile an expression where every comparison asks the schema for its field, left before right.
The first failure is the outcome. -/
def walk [Monad m] (engine : Engine m) (schema : Schema) :
    Expr → m (Except Error Fragment × Schema)
  | .logical connective left right => do
      let (first, schema) ← schema.walk engine left
      match first with
      | .error cause => pure (.error cause, schema)
      | .ok first => do
          let (second, schema) ← schema.walk engine right
          match second with
          | .error cause => pure (.error cause, schema)
          | .ok second =>
              pure (.ok ⟨Expr.join connective first.query second.query, false⟩, schema)
  | .comparison name operator value => do
      let (field, schema) ← schema.resolve engine name.dotted
      pure ((Expr.comparison name operator value).compile fun _ => field, schema)

/-- The document of an expression that is compiled name by name. -/
def compileByName [Monad m] (engine : Engine m) (schema : Schema) (expr : Expr) :
    m (Except Error Json × Schema) :=
  match schema.validate expr with
  | .error cause => pure (.error cause, schema)
  | .ok () => do
      let (fragment, schema) ← schema.walk engine expr
      pure (fragment.map fun fragment => fragment.query.document, schema)

variable (engine : Engine (StateM σ)) (state : σ)

/-- A loaded schema resolves all names from its catalog. -/
theorem walk_of_catalog
    {schema : Schema} {catalog : Catalog}
    (loaded : schema.catalog = some catalog)
    (expr : Expr) :
    schema.walk engine expr state = ((expr.compile catalog.resolve, schema), state) := by
  induction expr with
  | logical connective left right leftHypothesis rightHypothesis =>
      unfold walk
      rw [bind_apply, leftHypothesis, Expr.compile]
      cases left.compile catalog.resolve with
      | error cause => rfl
      | ok first =>
          simp only [bind_apply, rightHypothesis]
          cases right.compile catalog.resolve <;> rfl
  | comparison name operator value =>
      unfold walk
      rw [bind_apply, resolve_apply, load_apply_of_some engine schema state loaded]
      rfl

/-- A schema that gives a catalog has kept it. -/
theorem catalog_of_load
    {schema : Schema} {catalog : Catalog}
    (loaded : (schema.load engine state).1.1 = .ok catalog) :
    (schema.load engine state).1.2.catalog = some catalog := by
  cases kept : schema.catalog with
  | none =>
      rw [load_apply_of_none engine schema state kept, fetch_apply] at loaded ⊢
      rw [receive_of_ok loaded]
  | some old =>
      rw [load_apply_of_some engine schema state kept] at loaded ⊢
      rw [kept, Except.ok.inj loaded]

/-- To resolve name by name is to load the catalog once, with the first name. -/
theorem walk_apply (schema : Schema) (expr : Expr) :
    schema.walk engine expr state =
      (((schema.load engine state).1.1.bind fun catalog => expr.compile catalog.resolve,
        (schema.load engine state).1.2), (schema.load engine state).2) := by
  induction expr with
  | logical connective left right leftHypothesis rightHypothesis =>
      unfold walk
      rw [bind_apply, leftHypothesis]
      cases outcome : (schema.load engine state).1.1 with
      | error cause => rfl
      | ok catalog =>
          -- From here on the schema is loaded, so the right side makes no request.
          have loaded := catalog_of_load engine state outcome
          simp only [Except.bind, Expr.compile]
          cases left.compile catalog.resolve with
          | error cause => rfl
          | ok first =>
              simp only [bind_apply, walk_of_catalog engine _ loaded]
              cases right.compile catalog.resolve <;> rfl
  | comparison name operator value =>
      unfold walk
      rw [bind_apply, resolve_apply]
      cases (schema.load engine state).1.1 <;> rfl

/-- Compiling name by name gives the same document and makes the same requests. -/
theorem compileByName_eq_compile (schema : Schema) (expr : Expr) :
    schema.compileByName engine expr = schema.compile engine expr := by
  funext state
  unfold compileByName
  cases outcome : schema.validate expr with
  | error cause => rw [compile_apply_of_error engine schema state outcome]; rfl
  | ok _ =>
      rw [compile_apply_of_ok engine schema state outcome]
      simp only [bind_apply, walk_apply]
      cases (schema.load engine state).1.1 <;> rfl

end Schema

/-! ## The requests of one question -/

namespace Call

/-- Whether a call asks for a mapping. -/
def isFetch : Call → Bool
  | mapping _ _ => true
  | search _ _ _ => false

/-- The number of requests for a mapping in a record. -/
def fetches (calls : List Call) : Nat :=
  calls.countP isFetch

theorem fetches_append (first second : List Call) :
    fetches (first ++ second) = fetches first + fetches second :=
  List.countP_append

theorem fetches_eq_zero {calls : List Call} (noFetch : ∀ call ∈ calls, call.isFetch = false) :
    fetches calls = 0 := by
  apply List.countP_eq_zero.mpr
  intro call member isFetch
  rw [noFetch call member] at isFetch
  cases isFetch

end Call

namespace Question

/-- The number of requests for the mapping that a schema makes to reply. -/
def demand (schema : Schema) : Question → Nat
  | fields => 1
  | resolve _ | suggest _ _ => if schema.isLoaded then 0 else 1
  | validate _ => 0
  | compile expr =>
      match schema.validate expr with
      | .error _ => 0
      | .ok () => if schema.isLoaded then 0 else 1

theorem demand_le_one (schema : Schema) (question : Question) : question.demand schema ≤ 1 := by
  unfold demand
  repeat' split
  all_goals omega

end Question

namespace Schema

variable (engine : Engine (StateM σ)) (schema : Schema) (state : σ) (calls : List Call)

/-- The request for the mapping, with what is answered. -/
def request : Call :=
  .mapping schema.index (engine.mapping schema.connection schema.index state).1

/-- Loading makes a request unless the schema is loaded. -/
theorem calls_load :
    (schema.load engine.recorded (state, calls)).2.2 =
      calls ++ List.replicate (if schema.isLoaded then 0 else 1) (schema.request engine state) := by
  unfold isLoaded
  cases kept : schema.catalog with
  | none =>
      rw [load_apply_of_none _ _ _ kept]
      rfl
  | some catalog =>
      rw [load_apply_of_some _ _ _ kept]
      exact (List.append_nil calls).symm

/-- Suggestions make the request of loading, and then perhaps a search. -/
theorem calls_suggest (name : String) (search : Option String) :
    ∃ searches, (∀ call ∈ searches, call.isFetch = false) ∧
      (schema.suggest engine.recorded name search (state, calls)).2.2 =
        (schema.load engine.recorded (state, calls)).2.2 ++ searches := by
  cases outcome : (schema.load engine.recorded (state, calls)).1.1.bind fun catalog =>
    catalog.resolve name with
  | error cause =>
      refine ⟨[], by simp, ?_⟩
      rw [suggest_apply_of_error _ _ _ _ outcome, List.append_nil]
  | ok field =>
      rw [suggest_apply_of_ok _ _ _ _ outcome]
      cases field.kind.suggests with
      | false => exact ⟨[], by simp, (List.append_nil _).symm⟩
      | true => exact ⟨[.search _ _ _], by simp [Call.isFetch], rfl⟩

theorem isLoaded_receive
    {schema : Schema} (answer : Except Error Json)
    (loaded : schema.isLoaded = true) :
    (schema.receive answer).2.isLoaded = true := by
  cases outcome : (schema.receive answer).1 with
  | error cause =>
      rw [receive_of_error outcome]
      exact loaded
  | ok catalog =>
      rw [receive_of_ok outcome]
      rfl

end Schema

namespace Question

variable (engine : Engine (StateM σ)) (schema : Schema) (state : σ)

/-- The calls of a question are the request for the mapping, where it is demanded, and searches. -/
theorem calls_ask (question : Question) (calls : List Call) :
    ∃ searches, (∀ call ∈ searches, call.isFetch = false) ∧
      (question.ask engine.recorded schema (state, calls)).2.2 =
        calls ++ List.replicate (question.demand schema) (schema.request engine state) ++
          searches := by
  have loaded := Schema.calls_load engine schema state calls
  cases question with
  | fields => exact ⟨[], by simp, (List.append_nil _).symm⟩
  | resolve name => exact ⟨[], by simp, loaded.trans (List.append_nil _).symm⟩
  | suggest name search =>
      obtain ⟨searches, noFetch, made⟩ :=
        Schema.calls_suggest engine schema state calls name search
      rw [loaded] at made
      exact ⟨searches, noFetch, made⟩
  | validate expr =>
      refine ⟨[], by simp, ?_⟩
      rw [demand, List.replicate_zero, List.append_nil, List.append_nil]
      rfl
  | compile expr =>
      refine ⟨[], by simp, ?_⟩
      change (schema.compile engine.recorded expr (state, calls)).2.2 = _
      rw [List.append_nil]
      cases outcome : schema.validate expr with
      | error cause =>
          rw [Schema.compile_apply_of_error _ _ _ outcome]
          simp [demand, outcome]
      | ok _ =>
          rw [Schema.compile_apply_of_ok _ _ _ outcome]
          simp only [demand, outcome]
          exact loaded

/-- A question makes exactly the requests that it demands. -/
theorem fetches_ask (question : Question) (calls : List Call) :
    Call.fetches (question.ask engine.recorded schema (state, calls)).2.2 =
      Call.fetches calls + question.demand schema := by
  obtain ⟨searches, noFetch, made⟩ := calls_ask engine schema state question calls
  have requested : Call.fetches (List.replicate (question.demand schema)
      (schema.request engine state)) = question.demand schema := by
    simp [Call.fetches, List.countP_replicate, Schema.request, Call.isFetch]
  rw [made, Call.fetches_append, Call.fetches_append, requested, Call.fetches_eq_zero noFetch,
    Nat.add_zero]

/-- A schema that is loaded stays loaded, whatever it is asked. -/
theorem isLoaded_ask
    {schema : Schema}
    (loaded : schema.isLoaded = true)
    (question : Question) :
    (question.ask engine schema state).1.2.isLoaded = true := by
  rcases schema_ask engine schema state question with same | same | same
  · rw [same]
    exact loaded
  · obtain ⟨catalog, kept⟩ := Option.isSome_iff_exists.mp loaded
    rw [same, Schema.load_apply_of_some engine schema state kept]
    exact loaded
  · rw [same, Schema.fetch_apply]
    exact Schema.isLoaded_receive _ loaded

end Question

/-! ## Sequences of questions -/

/-- A question to a schema, with what came of it. -/
structure Use where
  before : Schema
  question : Question
  reply : Except Error Reply
  /-- The calls to the engine that were made for it. -/
  calls : List Call
  after : Schema

namespace Schema

/-- Ask a schema and note the calls that it makes. -/
def use (engine : Engine (StateM σ)) (schema : Schema) (question : Question) : StateM σ Use :=
  fun state =>
    let ((reply, after), (later, calls)) := question.ask engine.recorded schema (state, [])
    (⟨schema, question, reply, calls, after⟩, later)

/-- Ask a schema one question after the other. -/
def uses (engine : Engine (StateM σ)) (schema : Schema) : List Question → StateM σ (List Use)
  | [] => pure []
  | question :: rest => do
      let use ← schema.use engine question
      let later ← use.after.uses engine rest
      pure (use :: later)

end Schema

namespace Use

/-- Every question goes to the schema as the question before it left it. -/
def Consecutive (schema : Schema) : List Use → Prop
  | [] => True
  | use :: rest => use.before = schema ∧ Consecutive use.after rest

/-- A question makes the requests that it demands, and a loaded schema stays loaded. -/
structure Accounted (use : Use) : Prop where
  fetches : Call.fetches use.calls = use.question.demand use.before
  isLoaded : use.before.isLoaded = true → use.after.isLoaded = true

theorem isLoaded_of_consecutive
    {schema : Schema} {uses : List Use}
    (consecutive : Consecutive schema uses)
    (accounted : ∀ use ∈ uses, use.Accounted)
    (loaded : schema.isLoaded = true) :
    ∀ use ∈ uses, use.before.isLoaded = true := by
  induction uses generalizing schema with
  | nil => exact fun use member => absurd member List.not_mem_nil
  | cons first rest inductionHypothesis =>
      obtain ⟨rfl, restConsecutive⟩ := consecutive
      have firstLoaded := (accounted first List.mem_cons_self).isLoaded loaded
      have restAccounted := fun use member => accounted use (List.mem_cons_of_mem first member)
      intro use member
      rcases List.mem_cons.mp member with rfl | inRest
      · exact loaded
      · exact inductionHypothesis restConsecutive restAccounted firstLoaded use inRest

/-- Once a schema is loaded, it is loaded at all later questions. -/
theorem pairwise_isLoaded
    {schema : Schema} {uses : List Use}
    (consecutive : Consecutive schema uses)
    (accounted : ∀ use ∈ uses, use.Accounted) :
    uses.Pairwise fun earlier later =>
      earlier.after.isLoaded = true → later.before.isLoaded = true := by
  induction uses generalizing schema with
  | nil => exact .nil
  | cons first rest inductionHypothesis =>
      have restAccounted := fun use member => accounted use (List.mem_cons_of_mem first member)
      refine .cons (fun later member loaded => ?_)
        (inductionHypothesis consecutive.2 restAccounted)
      exact isLoaded_of_consecutive consecutive.2 restAccounted loaded later member

end Use

namespace Schema

theorem accounted_use (engine : Engine (StateM σ)) (schema : Schema) (question : Question)
    (state : σ) :
    (schema.use engine question state).1.Accounted where
  fetches := by
    have counted := question.fetches_ask engine schema state []
    exact counted.trans (Nat.zero_add _)
  isLoaded loaded := Question.isLoaded_ask engine.recorded (state, []) loaded question

theorem accounted_uses (engine : Engine (StateM σ)) (schema : Schema) (questions : List Question)
    (state : σ) :
    (schema.uses engine questions state).1.map Use.question = questions ∧
      Use.Consecutive schema (schema.uses engine questions state).1 ∧
      ∀ use ∈ (schema.uses engine questions state).1, use.Accounted := by
  induction questions generalizing schema state with
  | nil => exact ⟨rfl, trivial, fun use member => absurd member List.not_mem_nil⟩
  | cons question rest inductionHypothesis =>
      obtain ⟨sameQuestions, consecutive, accounted⟩ :=
        inductionHypothesis (schema.use engine question state).1.after
          (schema.use engine question state).2
      refine ⟨congrArg (question :: ·) sameQuestions, ⟨rfl, consecutive⟩, fun use member => ?_⟩
      rcases List.mem_cons.mp member with rfl | inRest
      · exact accounted_use engine schema question state
      · exact accounted use inRest

/-- Every question of a sequence makes exactly the requests for the mapping that it demands: one for
a listing of the fields; one for a name, for suggestions or for an accepted expression if there is
no catalog, and else none. A schema that is loaded stays loaded. Whether an expression is compiled
against the catalog or name by name makes no difference, to its document or to the requests. -/
theorem requests_accounted
    (engine : Engine (StateM σ)) (schema : Schema) (state : σ) (questions : List Question) :
    let uses := (schema.uses engine questions state).1
    uses.map Use.question = questions ∧ Use.Consecutive schema uses ∧
      (∀ use ∈ uses, Call.fetches use.calls = use.question.demand use.before) ∧
      (∀ use ∈ uses, use.before.isLoaded = true → use.after.isLoaded = true) ∧
      (uses.Pairwise fun earlier later =>
        earlier.after.isLoaded = true → later.before.isLoaded = true) ∧
      ∀ (other : Schema) (expr : Expr),
        other.compileByName engine.recorded expr = other.compile engine.recorded expr := by
  obtain ⟨sameQuestions, consecutive, accounted⟩ := accounted_uses engine schema questions state
  refine ⟨sameQuestions, consecutive, ?_, ?_, Use.pairwise_isLoaded consecutive accounted, ?_⟩
  · exact fun use member => (accounted use member).fetches
  · exact fun use member => (accounted use member).isLoaded
  · exact compileByName_eq_compile engine.recorded

end Schema
end FilterQuery
