import FilterQuery.Engine.Remote
import FilterQuery.Proofs.Confinement
import FilterQuery.Proofs.Correspondence

/-!
# Failures of single requests

Most errors are the fault of one request, and others can go on. Main statement:
an engine behind a network that has hosts to connect to, and a transport that
can be set up, is steady: connections to it can always be opened, and every
request fails for reasons of its own, whatever is answered.
-/

namespace FilterQuery

/-! ## Results -/

/-- A result is no error for which nothing could go on. -/
def Recovers : Except Error α → Prop
  | .ok _ => True
  | .error cause => cause.isRecoverable = true

namespace Recovers

/-- A result stays recoverable when its value is changed. -/
theorem map {result : Except Error α} (recovers : Recovers result) (change : α → β) :
    Recovers (result.map change) := by
  cases result with
  | error cause => exact recovers
  | ok value => trivial

/-- Two results, one after the other, recover if both do. -/
theorem bind {result : Except Error α} {next : α → Except Error β}
    (recovers : Recovers result) (recoversNext : ∀ value, Recovers (next value)) :
    Recovers (result.bind next) := by
  cases result with
  | error cause => exact recovers
  | ok value => exact recoversNext value

end Recovers

/-- A name that no catalog has is a fault of the request. -/
theorem Catalog.recovers_resolve (catalog : Catalog) (name : String) :
    Recovers (catalog.resolve name) := by
  unfold resolve
  cases catalog.get? name with
  | none => rfl
  | some field => trivial

/-- The provided validators refuse single expressions only. -/
theorem Validator.Provided.recovers_check
    {validator : Validator} (provided : validator.Provided) (expr : Expr) :
    Recovers (validator.check expr) := by
  cases provided with
  | noop => trivial
  | depthLimit limit =>
      rw [check_depthLimit]
      split
      · rfl
      · trivial

namespace Expr

variable {resolve : String → Except Error Field}

/-- The operator and the value are checked against the type of the field, and none of these checks
fails for good. -/
theorem recovers_lookup
    (recovers : ∀ name, Recovers (resolve name))
    (name : Name) (operator : Operator) (value : Literal) :
    Recovers (lookup resolve name operator value) := by
  have recoversName := recovers name.dotted
  unfold lookup
  cases resolved : resolve name.dotted with
  | error cause => rwa [resolved] at recoversName
  | ok field =>
      cases compared : field.lookup operator value with
      | error cause => simp [compared, Recovers, Error.isRecoverable]
      | ok fragment => simp [compared, Recovers]

/-- An expression is refused for a name that is not resolved or a value that does not fit. -/
theorem recovers_compile (recovers : ∀ name, Recovers (resolve name)) (expr : Expr) :
    Recovers (expr.compile resolve) := by
  induction expr with
  | logical connective left right leftHypothesis rightHypothesis =>
      rw [compile]
      cases leftCompiled : left.compile resolve with
      | error cause => rwa [leftCompiled] at leftHypothesis
      | ok first =>
          cases rightCompiled : right.compile resolve with
          | error cause => rwa [rightCompiled] at rightHypothesis
          | ok second => trivial
  | comparison name operator value =>
      have recoversLookup := recovers_lookup recovers name operator value
      rw [compile]
      cases lookedUp : lookup resolve name operator value with
      | error cause => rwa [lookedUp] at recoversLookup
      | ok fragment => trivial

end Expr

/-- An answer without a usable mapping is a fault of the engine, which can be asked again. -/
theorem Schema.recovers_receive
    (schema : Schema) {answer : Except Error Json} (recovers : Recovers answer) :
    Recovers (schema.receive answer).1 := by
  cases answer with
  | error cause => exact recovers
  | ok response =>
      unfold receive
      cases described : schema.catalogOf response with
      | error cause => simp [described, Recovers, Error.isRecoverable]
      | ok catalog => simp [described, Recovers]

namespace Registry

theorem checkIndex_eq (registry : Registry) (index : String) :
    registry.checkIndex index =
      if Index.isName index = true then
        if registry.policy.excludes index = true then .error (.schema (.indexExcluded index))
        else .ok ()
      else .error (.schema (.invalidIndexName index)) := by
  unfold checkIndex Index.checkName
  cases Index.isName index <;> rfl

/-- An index that may not be used is refused. -/
theorem exists_of_not_admits {registry : Registry} {index : String}
    (refused : ¬ registry.Admits index) :
    ∃ cause, registry.checkIndex index = .error cause := by
  cases checked : registry.checkIndex index with
  | ok _ => exact absurd ((registry.checkIndex_eq_ok_iff index).mp checked) refused
  | error cause => exact ⟨cause, rfl⟩

/-- A refused index is a fault of the request. -/
theorem recovers_checkIndex (registry : Registry) (index : String) :
    Recovers (registry.checkIndex index) := by
  rw [checkIndex_eq]
  split
  · split <;> simp [Recovers, Error.isRecoverable]
  · simp [Recovers, Error.isRecoverable]

end Registry

/-! ## What asking keeps -/

namespace Engine

/-- Connecting to an engine and asking it about an index keeps what holds of its state. -/
structure Keeps (engine : Engine (StateM σ)) (index : String) (Sound : σ → Prop) : Prop where
  connect {state : σ} : Sound state → Sound (engine.connect state).2
  mapping {state : σ} (connection : Connection) :
    Sound state → Sound (engine.mapping connection index state).2
  search {state : σ} (connection : Connection) (query aggregations : Json) :
    Sound state → Sound (engine.search connection index query aggregations state).2

namespace Keeps

variable {engine : Engine (StateM σ)} {Sound : σ → Prop} {schema : Schema} {state : σ}

/-- The state stays sound whether the catalog was there or had to be fetched. -/
theorem load (keeps : engine.Keeps schema.index Sound) (sound : Sound state) :
    Sound (schema.load engine state).2 := by
  cases loaded : schema.catalog with
  | none =>
      rw [Schema.load_apply_of_none engine schema state loaded]
      exact keeps.mapping schema.connection sound
  | some catalog =>
      rw [Schema.load_apply_of_some engine schema state loaded]
      exact sound

/-- Two calls at most, each of which keeps the state sound. -/
theorem suggest (keeps : engine.Keeps schema.index Sound) (name : String) (search : Option String)
    (sound : Sound state) :
    Sound (schema.suggest engine name search state).2 := by
  have soundLoaded := keeps.load sound
  cases resolved : (schema.load engine state).1.1.bind fun catalog => catalog.resolve name with
  | error cause =>
      rw [Schema.suggest_apply_of_error engine schema state search resolved]
      exact soundLoaded
  | ok field =>
      have sameIndex : (schema.load engine state).1.2.index = schema.index :=
        congrArg (fun schema => schema.index) (Schema.uncached_load engine schema state)
      rw [Schema.suggest_apply_of_ok engine schema state search resolved, sameIndex]
      split
      · exact keeps.search _ _ _ soundLoaded
      · exact soundLoaded

/-- Compilation calls the engine for the mapping and for nothing else. -/
theorem compile (keeps : engine.Keeps schema.index Sound) (expr : Expr) (sound : Sound state) :
    Sound (schema.compile engine expr state).2 := by
  cases accepted : schema.validate expr with
  | error cause =>
      rw [Schema.compile_apply_of_error engine schema state accepted]
      exact sound
  | ok _ =>
      rw [Schema.compile_apply_of_ok engine schema state accepted]
      exact keeps.load sound

/-- A schema asks about its own index only. -/
theorem ask (keeps : engine.Keeps schema.index Sound) (question : Question) (sound : Sound state) :
    Sound (question.ask engine schema state).2 := by
  cases question with
  | resolve name => exact keeps.load sound
  | fields => exact keeps.mapping schema.connection sound
  | suggest name search => exact keeps.suggest name search sound
  | validate expr => exact sound
  | compile expr => exact keeps.compile expr sound

/-- A schema is obtained from the memo or by opening a connection; the index is not asked about. -/
theorem obtain {index : String} (keeps : engine.Keeps index Sound) (registry : Registry)
    (validator : Validator) (sound : Sound state) :
    Sound (registry.obtain engine index validator state).2 := by
  cases checked : registry.checkIndex index with
  | error cause =>
      rw [Registry.obtain_of_refused engine checked]
      exact sound
  | ok _ =>
      cases memoized : registry.memoized? index validator with
      | some found =>
          rw [Registry.obtain_of_memoized engine checked memoized]
          exact sound
      | none =>
          cases connected : (engine.connect state).1 with
          | error cause =>
              rw [Registry.obtain_of_connect_error engine checked memoized connected]
              exact keeps.connect sound
          | ok connection =>
              rw [Registry.obtain_of_connect_ok engine checked memoized connected]
              exact keeps.connect sound

end Keeps

/-! ## Engines that can be reached -/

/-- While something holds of its state, an engine can be connected to and fails single requests
only. -/
structure Steady (engine : Engine (StateM σ)) (Sound : σ → Prop) : Prop where
  keeps (index : String) : engine.Keeps index Sound
  connect {state : σ} : Sound state → ∃ connection, (engine.connect state).1 = .ok connection
  mapping {state : σ} (connection : Connection) (index : String) :
    Sound state → Recovers (engine.mapping connection index state).1
  search {state : σ} (connection : Connection) (index : String) (query aggregations : Json) :
    Sound state → Recovers (engine.search connection index query aggregations state).1

namespace Steady

variable {engine : Engine (StateM σ)} {Sound : σ → Prop} {state : σ}

/-- The answer of a steady engine recovers, and so does the catalog that is read off it. -/
theorem fetch (steady : engine.Steady Sound) (schema : Schema) (sound : Sound state) :
    Recovers (schema.fetch engine state).1.1 := by
  rw [Schema.fetch_apply]
  exact schema.recovers_receive (steady.mapping schema.connection schema.index sound)

theorem load (steady : engine.Steady Sound) (schema : Schema) (sound : Sound state) :
    Recovers (schema.load engine state).1.1 := by
  cases loaded : schema.catalog with
  | none =>
      rw [Schema.load_apply_of_none engine schema state loaded]
      exact steady.fetch schema sound
  | some catalog =>
      rw [Schema.load_apply_of_some engine schema state loaded]
      trivial

theorem resolve (steady : engine.Steady Sound) (schema : Schema) (name : String)
    (sound : Sound state) :
    Recovers ((schema.load engine state).1.1.bind fun catalog => catalog.resolve name) :=
  (steady.load schema sound).bind fun catalog => catalog.recovers_resolve name

/-- The mapping and the values come from a steady engine; the field is checked in between. -/
theorem suggest (steady : engine.Steady Sound) (schema : Schema) (name : String)
    (search : Option String) (sound : Sound state) :
    Recovers (schema.suggest engine name search state).1.1 := by
  have recovers := steady.resolve schema name sound
  cases resolved : (schema.load engine state).1.1.bind fun catalog => catalog.resolve name with
  | error cause =>
      rw [resolved] at recovers
      rw [Schema.suggest_apply_of_error engine schema state search resolved]
      exact recovers
  | ok field =>
      rw [Schema.suggest_apply_of_ok engine schema state search resolved]
      split
      · exact (steady.search _ _ _ _ ((steady.keeps schema.index).load sound)).map _
      · exact rfl

/-- Compilation fails by the validator, by the mapping or by a clause; each of these recovers. -/
theorem compile (steady : engine.Steady Sound) {schema : Schema} {expr : Expr}
    (recovers : Recovers (schema.validate expr)) (sound : Sound state) :
    Recovers (schema.compile engine expr state).1.1 := by
  cases accepted : schema.validate expr with
  | error cause =>
      rw [accepted] at recovers
      rw [Schema.compile_apply_of_error engine schema state accepted]
      exact recovers
  | ok _ =>
      rw [Schema.compile_apply_of_ok engine schema state accepted]
      refine (steady.load schema sound).bind fun catalog => ?_
      exact (Expr.recovers_compile catalog.recovers_resolve expr).map _

/-- No question to a schema fails for more than itself, if its validator does not. -/
theorem ask (steady : engine.Steady Sound) {schema : Schema}
    (recovers : ∀ expr, Recovers (schema.validator.check expr)) (question : Question)
    (sound : Sound state) :
    Recovers (question.ask engine schema state).1.1 := by
  cases question with
  | resolve name => exact (steady.resolve schema name sound).map _
  | fields => exact ((steady.fetch schema sound).map _).map _
  | suggest name search => exact (steady.suggest schema name search sound).map _
  | validate expr => exact (recovers expr).map _
  | compile expr => exact (steady.compile (recovers expr) sound).map _

end Steady
end Engine

/-- With an engine that can be reached, a schema is refused only for an index that may not be used,
and no question fails for more than itself, if the validator does not. -/
def Registry.steadiness (base : Registry) {engine : Engine (StateM σ)} {Sound : σ → Prop}
    (steady : engine.Steady Sound) : Law base engine where
  Sound := Sound
  Proper _ schema := base.checkIndex schema.index = .ok ()
  Refusal index cause := base.checkIndex index = .error cause
  Answer target _ reply := (∀ expr, Recovers (target.validator.check expr)) → Recovers reply
  connect_later sound := ⟨(steady.keeps "").connect sound, fun _ => id⟩
  connect_ok _ _ _ _ admitted := admitted
  connect_error := by
    -- A connection is always opened.
    intro state cause sound failed index
    obtain ⟨connection, connected⟩ := steady.connect sound
    cases failed.symm.trans connected
  check_error refused := refused
  ask_later question sound _ := ⟨(steady.keeps _).ask question sound, fun _ => id⟩
  ask_proper := by
    intro state schema question _ proper
    rwa [Question.index_ask]
  ask_answer question sound _ recovers := steady.ask recovers question sound

/-! ## Engines behind a network -/

/-- A transport can be set up for requests of some length, whatever the network is like. -/
def Transport.Ready (transport : Transport (StateM σ)) (timeout : Option UInt64) : Prop :=
  ∀ network, (transport.setUp timeout network).1 = .ok ()

namespace Remote

variable {transport : Transport (StateM σ)}

/-- With a host and a transport that is ready, a connection is opened. -/
theorem connect_apply
    {remote : Remote} (hosts : remote.settings.hosts ≠ [])
    (ready : transport.Ready remote.settings.timeoutSeconds) (network : σ) :
    (connect transport remote network).1 =
      (.ok ⟨remote.turns.length⟩,
        { remote with attempts := remote.attempts + 1, turns := remote.turns ++ [0] }) := by
  have notEmpty : remote.settings.hosts.isEmpty = false := by simpa using hosts
  unfold connect
  simp only [notEmpty, Bool.false_eq_true, if_false]
  rw [bind_apply, ready network]
  rfl

theorem prepare_settings (remote : Remote) (connection : Connection)
    (failure : String → SchemaError) (index name : String) (body : Option Json) :
    (remote.prepare connection failure index name body).2.settings = remote.settings := by
  unfold prepare
  cases Index.checkName index <;> rfl

/-- A request is not sent if its index is refused or its parts do not fit, and others can be. -/
theorem recovers_prepare (remote : Remote) (connection : Connection)
    (failure : String → SchemaError) (index name : String) (body : Option Json) :
    Recovers (remote.prepare connection failure index name body).1 := by
  unfold prepare Index.checkName
  cases Index.isName index with
  | false => rfl
  | true =>
      simp only [if_true]
      cases build remote.settings _ index name body <;> trivial

theorem ask_settings (connection : Connection) (failure : String → SchemaError)
    (index name : String) (body : Option Json) (remote : Remote) (network : σ) :
    (ask transport connection failure index name body remote network).1.2.settings =
      remote.settings := by
  have sameSettings := remote.prepare_settings connection failure index name body
  rcases prepared : remote.prepare connection failure index name body with ⟨cause | request, later⟩
  all_goals
    rw [prepared] at sameSettings
    simp only [ask, prepared]
    exact sameSettings

/-- A request fails for reasons of its own. -/
theorem recovers_ask (connection : Connection) (failure : String → SchemaError)
    (index name : String) (body : Option Json) (remote : Remote) (network : σ) :
    Recovers (ask transport connection failure index name body remote network).1.1 := by
  have recovers := remote.recovers_prepare connection failure index name body
  rcases prepared : remote.prepare connection failure index name body with ⟨cause | request, later⟩
  · rw [prepared] at recovers
    simp only [ask, prepared]
    exact recovers
  · simp only [ask, prepared]
    change Recovers ((transport.send request network).1.mapError _)
    cases (transport.send request network).1 <;> trivial

variable {settings : ConnectionSettings}

/-- The engine behind a transport never changes the settings of its connection. -/
theorem keeps_settings
    (hosts : settings.hosts ≠ []) (ready : transport.Ready settings.timeoutSeconds)
    (index : String) :
    (engine transport).joined.Keeps index fun states => states.1.settings = settings where
  connect := by
    rintro ⟨remote, network⟩ rfl
    exact congrArg (fun outcome => outcome.2.settings) (connect_apply hosts ready network)
  mapping := by
    rintro ⟨remote, network⟩ connection rfl
    exact ask_settings connection .mappingFetch index "_mapping" none remote network
  search := by
    rintro ⟨remote, network⟩ connection query aggregations rfl
    exact ask_settings connection .search index "_search" _ remote network

/-- An engine behind a network is steady where it has a host and its transport is ready. -/
theorem steady_engine
    (hosts : settings.hosts ≠ []) (ready : transport.Ready settings.timeoutSeconds) :
    (engine transport).joined.Steady fun states => states.1.settings = settings where
  keeps := keeps_settings hosts ready
  connect := by
    rintro ⟨remote, network⟩ rfl
    exact ⟨_, congrArg Prod.fst (connect_apply hosts ready network)⟩
  mapping connection index _ := recovers_ask connection .mappingFetch index "_mapping" none _ _
  search connection index _ _ _ := recovers_ask connection .search index "_search" _ _ _

end Remote
end FilterQuery
