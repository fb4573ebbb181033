import FilterQuery.Command.Arguments
import FilterQuery.Http.Service
import FilterQuery.Proofs.Steadiness
import Mathlib.Data.List.Forall2

/-!
# Requests under a fixed index

Where an index is fixed, by the configuration or on the command line, requests
may still name one. Main statement: two sequences of requests that differ only
in the index that they name are answered alike, and everything that the engine
is asked is about the fixed index.
-/

namespace FilterQuery

/-! ## Requests that differ in the index only -/

/-- Two requests are the same but for the parameter that names an index. It may be missing in
either one or have any value. A request in which `index` is repeated is refused with status 400
before any index is looked at, so if it is repeated in one of them it is in both. -/
structure Request.SameButIndex (first second : Request) : Prop where
  method : first.method = second.method
  path : first.path = second.path
  contentType : first.contentType = second.contentType
  body : first.body = second.body
  parameters : first.parameters.filter (fun parameter => parameter.1 != "index") =
    second.parameters.filter fun parameter => parameter.1 != "index"
  once : Parameters.standOnce ["index"] first.parameters =
    Parameters.standOnce ["index"] second.parameters

namespace Parameters

theorem standOnce_append (names others : List String) (parameters : List (String × String)) :
    standOnce (names ++ others) parameters =
      (standOnce names parameters && standOnce others parameters) :=
  List.all_append

/-- Whether another parameter is repeated does not depend on those that name an index. -/
theorem standOnce_filter {name : String} (different : name ≠ "index")
    (parameters : List (String × String)) :
    standOnce [name] (parameters.filter fun parameter => parameter.1 != "index") =
      standOnce [name] parameters := by
  have sameTest : (fun parameter : String × String =>
      parameter.1 == name && parameter.1 != "index") = fun parameter => parameter.1 == name := by
    funext parameter
    by_cases isName : parameter.1 = name
    · simp [isName, different]
    · simp [isName]
  simp only [standOnce, List.all_cons, List.all_nil, List.countP_filter, sameTest]

end Parameters

namespace Request.SameButIndex

variable {first second : Request}

theorem standOnce (same : first.SameButIndex second) (route : Route) :
    Parameters.standOnce route.names first.parameters =
      Parameters.standOnce route.names second.parameters := by
  cases route with
  | mappings | query => exact same.once
  | suggestions field =>
      have sameSearch : Parameters.standOnce ["search"] first.parameters =
          Parameters.standOnce ["search"] second.parameters := by
        rw [← Parameters.standOnce_filter (by decide) first.parameters, same.parameters,
          Parameters.standOnce_filter (by decide)]
      change Parameters.standOnce (["index"] ++ ["search"]) _ =
        Parameters.standOnce (["index"] ++ ["search"]) _
      rw [Parameters.standOnce_append, Parameters.standOnce_append, same.once, sameSearch]

theorem lookup_search (same : first.SameButIndex second) :
    first.parameters.lookup "search" = second.parameters.lookup "search" := by
  have different : "search" ≠ "index" := by decide
  rw [← lookup_filter_ne different first.parameters, same.parameters,
    lookup_filter_ne different]

/-- Both requests are on the same route, for the same task. -/
theorem read (same : first.SameButIndex second) : Service.read first = Service.read second := by
  have sameRoute : Route.ofRequest? first = Route.ofRequest? second := by
    unfold Route.ofRequest?
    rw [same.method, same.path]
  have sameExpr : Service.exprOf first = Service.exprOf second := by
    unfold Service.exprOf Service.hasJson
    rw [same.contentType, same.body]
  have sameTask : Service.taskOf first = Service.taskOf second := by
    funext route
    cases route with
    | mappings => rfl
    | suggestions field => simp only [Service.taskOf, same.lookup_search]
    | query => simp only [Service.taskOf, sameExpr]
  unfold Service.read
  simp only [sameRoute, same.standOnce, sameTask]

end Request.SameButIndex

namespace Service

/-- Answer one request after the other. -/
def run [Monad m] (engine : Engine m) (access : AccessSettings) (registry : Registry) :
    List Request → m (List Response × Registry)
  | [] => pure ([], registry)
  | request :: rest => do
      let (response, registry) ← answer engine access registry request
      let (responses, registry) ← run engine access registry rest
      pure (response :: responses, registry)

/-- Under a fixed index, what is done for a request does not depend on the index that it names. -/
theorem answer_congr [Monad m] (engine : Engine m) {access : AccessSettings}
    (fixed : access.acceptsIndex = false) (registry : Registry) {first second : Request}
    (same : first.SameButIndex second) :
    answer engine access registry first = answer engine access registry second := by
  unfold answer
  rw [same.read, AccessSettings.resolve_eq_of_fixed fixed (first.parameters.lookup "index")]

theorem run_congr [Monad m] (engine : Engine m) {access : AccessSettings}
    (fixed : access.acceptsIndex = false) {requests others : List Request}
    (same : List.Forall₂ Request.SameButIndex requests others) (registry : Registry) :
    run engine access registry requests = run engine access registry others := by
  induction same generalizing registry with
  | nil => rfl
  | cons sameFirst _ inductionHypothesis =>
      unfold run
      rw [answer_congr engine fixed registry sameFirst]
      simp only [inductionHypothesis]

end Service

/-! ## Calls under a fixed index -/

namespace Task

/-- The question that a task puts to a schema. -/
def question : Task → Question
  | list => .fields
  | suggest field search => .suggest field search
  | compile expr => .compile expr

/-- A task leaves the schema and the engine as its question leaves them. -/
theorem run_apply (engine : Engine (StateM σ)) (task : Task) (schema : Schema) (state : σ) :
    (task.run engine schema state).1.2 = (task.question.ask engine schema state).1.2 ∧
      (task.run engine schema state).2 = (task.question.ask engine schema state).2 := by
  cases task <;> exact ⟨rfl, rfl⟩

end Task

namespace Service

variable {engine : Engine (StateM σ)} {base registry : Registry} {Asked : Validator → Prop}
  {index : String} {Sound : σ → Prop} {state : σ}

/-- A task on the schema of an index asks the engine about that index. -/
theorem operate_keeps
    (keeps : engine.Keeps index Sound) (sound : Sound state)
    (orderly : registry.Orderly base Asked) (task : Task) :
    let outcome := registry.operate engine index (task.run engine) state
    Sound outcome.2 ∧ outcome.1.2.Orderly base Asked := by
  have soundLater := keeps.obtain registry registry.defaultValidator sound
  obtain ⟨orderlyLater, -, given⟩ :=
    orderly.obtain index registry.defaultValidator orderly.default engine state
  unfold Registry.operate
  simp only [bind_apply]
  cases outcome : (registry.obtain engine index registry.defaultValidator state).1.1 with
  | error cause => exact ⟨soundLater, orderlyLater⟩
  | ok found =>
      obtain ⟨number, schema⟩ := found
      -- The schema is about the index, so what is kept for the index is kept when it is asked.
      obtain ⟨stored, rfl, -⟩ := given number schema outcome
      change Sound (task.run engine schema _).2 ∧
        (Registry.update _ number (task.run engine schema _).1.2).Orderly base Asked
      obtain ⟨sameSchema, sameState⟩ := task.run_apply engine schema
        (registry.obtain engine schema.index registry.defaultValidator state).2
      rw [sameSchema, sameState]
      exact ⟨keeps.ask task.question soundLater, orderlyLater.update stored
        (Question.index_ask engine schema _ _) (Question.validator_ask engine schema _ _)⟩

theorem answer_keeps
    (keeps : engine.Keeps index Sound) (sound : Sound state)
    (orderly : registry.Orderly base Asked) {access : AccessSettings}
    (resolved : ∀ requested, access.resolve requested = .ok index) (request : Request) :
    let outcome := answer engine access registry request state
    Sound outcome.2 ∧ outcome.1.2.Orderly base Asked := by
  unfold answer
  cases read request with
  | error status => exact ⟨sound, orderly⟩
  | ok task =>
      simp only [resolved]
      exact operate_keeps keeps sound orderly task

/-- Answering requests about one index keeps what asking about that index keeps. -/
theorem run_keeps
    (keeps : engine.Keeps index Sound) (sound : Sound state)
    (orderly : registry.Orderly base Asked) {access : AccessSettings}
    (resolved : ∀ requested, access.resolve requested = .ok index) (requests : List Request) :
    Sound (run engine access registry requests state).2 := by
  induction requests generalizing registry state with
  | nil => exact sound
  | cons request rest inductionHypothesis =>
      obtain ⟨soundLater, orderlyLater⟩ := answer_keeps keeps sound orderly resolved request
      exact inductionHypothesis soundLater orderlyLater

end Service

/-- A record that is about one index stays so while the engine is asked about that index. -/
theorem Engine.keeps_recorded (engine : Engine (StateM σ)) (index : String) :
    engine.recorded.Keeps index fun states => ∀ call ∈ states.2, call.index = index where
  connect about := about
  mapping _ about := List.forall_mem_append.mpr ⟨about, List.forall_mem_singleton.mpr rfl⟩
  search _ _ _ about := List.forall_mem_append.mpr ⟨about, List.forall_mem_singleton.mpr rfl⟩

namespace Arguments

/-- The index is fixed, on the command line or else in the configuration. -/
def Fixes (arguments : Arguments) (config : Config) (index : String) : Prop :=
  arguments.defaultIndex = some index ∨
    arguments.defaultIndex = none ∧ config.access = ⟨false, some index⟩

theorem Fixes.access {arguments : Arguments} {config : Config} {index : String}
    (fixes : arguments.Fixes config index) :
    (arguments.apply config).access = ⟨false, some index⟩ := by
  rcases fixes with isGiven | ⟨notGiven, isConfigured⟩
  · simp only [apply, isGiven]
  · simp only [apply, notGiven, isConfigured]

end Arguments

namespace Service

/-- Under a fixed index, requests that differ only in the index that they name are answered alike,
whatever the engine and the registry are; what is done for them is the same action. And after any
use of a registry, all that is asked of the engine for them is about the fixed index. -/
theorem fixed_index_not_steered
    {arguments : Arguments} {config : Config} {index : String}
    (fixes : arguments.Fixes config index)
    {requests others : List Request}
    (same : List.Forall₂ Request.SameButIndex requests others) :
    (∀ (m : Type → Type) [Monad m] (engine : Engine m) (registry : Registry),
      run engine (arguments.apply config).access registry requests =
        run engine (arguments.apply config).access registry others) ∧
      ∀ (settings : RegistrySettings) (validator : Validator) (fresh : Registry),
        Registry.ofSettings settings validator = .ok fresh →
          ∀ (ρ : Type) (before : Engine (StateM ρ)) (start : ρ) (earlier : List Session.Inquiry)
            (σ : Type) (engine : Engine (StateM σ)) (state : σ),
            let registry := ((Session.start fresh).run before earlier start).1.2.registry
            let calls (sent : List Request) : List Call :=
              (run engine.recorded (arguments.apply config).access registry sent (state, [])).2.2
            (∀ call ∈ calls requests, call.index = index) ∧
              ∀ call ∈ calls others, call.index = index := by
  have isFixed := fixes.access
  have resolved (requested : Option String) :
      (arguments.apply config).access.resolve requested = .ok index := by
    rw [isFixed]
    exact AccessSettings.resolve_eq_of_fixed rfl requested none
  constructor
  · intro m _ engine registry
    rw [isFixed]
    exact run_congr engine rfl same registry
  · intro settings validator fresh built ρ before start earlier σ engine state registry calls
    have isNew : (Session.start fresh).registry.Orderly fresh fun _ => True :=
      Registry.orderly_of_cleared (Registry.cleared_of_ofSettings built) trivial
    have used := isNew.run (Session.within_true earlier) before start
    have about (sent : List Request) : ∀ call ∈ calls sent, call.index = index :=
      run_keeps (engine.keeps_recorded index) (by simp) used resolved sent
    exact ⟨about requests, about others⟩

end Service

namespace Sample

/-- The body of a request for the document of a comparison. -/
def comparisonBody : String :=
  "\x7b\"expr\": \x7b\"type\": \"comparison\", \"left\": \"year\", " ++
    "\"operator\": \"=\", \"right\": 1\x7d\x7d"

/-- A request on each route, none of which names an index. -/
def plainRequests : List Request :=
  [⟨"GET", "/mappings", none, none⟩,
    ⟨"GET", "/suggestions/title?search=a", none, none⟩,
    ⟨"POST", "/query", some "application/json", some comparisonBody⟩]

/-- The same requests, which name one index or another. -/
def steeringRequests : List Request :=
  [⟨"GET", "/mappings?index=vault", none, none⟩,
    ⟨"GET", "/suggestions/title?index=&search=a", none, none⟩,
    ⟨"POST", "/query?%69ndex=diary", some "application/json", some comparisonBody⟩]

end Sample

namespace Service

/-- The index on the command line wins over the one in the configuration. -/
theorem fixed_index_not_steered_sample :
    List.Forall₂ Request.SameButIndex Sample.plainRequests Sample.steeringRequests ∧
      (Arguments.mk none none none [] (some "books") none).Fixes { access := ⟨true, "diary"⟩ }
        "books" ∧
      ∃ fresh, Registry.ofSettings Sample.settings .noop = .ok fresh ∧
        run Memory.engine ⟨false, some "books"⟩ fresh Sample.plainRequests Sample.memory =
          run Memory.engine ⟨false, some "books"⟩ fresh Sample.steeringRequests Sample.memory ∧
        ∀ call ∈ (run Memory.engine.recorded ⟨false, some "books"⟩ fresh Sample.steeringRequests
          (Sample.memory, [])).2.2, call.index = "books" := by
  have same : List.Forall₂ Request.SameButIndex Sample.plainRequests Sample.steeringRequests := by
    refine .cons ?_ (.cons ?_ (.cons ?_ .nil))
    · exact ⟨rfl, by decide +kernel, rfl, rfl, by decide +kernel, by decide +kernel⟩
    · exact ⟨rfl, by decide +kernel, rfl, rfl, by decide +kernel, by decide +kernel⟩
    · exact ⟨rfl, by decide +kernel, rfl, rfl, by decide +kernel, by decide +kernel⟩
  have fixes : (Arguments.mk none none none [] (some "books") none).Fixes
      { access := ⟨true, "diary"⟩ } "books" := .inl rfl
  have built : Registry.ofSettings Sample.settings .noop = .ok _ := rfl
  obtain ⟨alike, about⟩ := fixed_index_not_steered fixes same
  refine ⟨same, fixes, _, built, congrFun (alike _ Memory.engine _) Sample.memory, ?_⟩
  exact (about _ _ _ built _ Memory.engine Sample.memory [] _ Memory.engine Sample.memory).2

end Service
end FilterQuery
