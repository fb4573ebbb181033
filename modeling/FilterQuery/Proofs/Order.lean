import FilterQuery.Proofs.Lists
import FilterQuery.Proofs.Session

/-!
# Order in the registry

What a registry and its schemas go through when schemas are asked for and asked,
whatever the engine answers. Main statement: in every session, the schema that
an index has is about that index, and every schema has a validator that was
asked for.
-/

namespace FilterQuery

/-- What a sequence of two actions does to a state. -/
theorem bind_apply (action : StateM σ α) (next : α → StateM σ β) (state : σ) :
    (action >>= next) state = next (action state).1 (action state).2 := rfl

namespace Schema

/-! ## What asking changes of a schema -/

/-- A schema without its catalog. -/
def uncached (schema : Schema) : Schema :=
  { schema with catalog := none }

@[simp] theorem uncached_receive (schema : Schema) (answer : Except Error Json) :
    (schema.receive answer).2.uncached = schema.uncached := by
  cases outcome : (schema.receive answer).1 with
  | error cause => rw [receive_of_error outcome]
  | ok catalog => rw [receive_of_ok outcome]; rfl

variable (engine : Engine (StateM σ)) (schema : Schema) (state : σ)

theorem fetch_apply :
    schema.fetch engine state =
      (schema.receive (engine.mapping schema.connection schema.index state).1,
        (engine.mapping schema.connection schema.index state).2) := rfl

/-- A schema without a catalog asks the engine for the mapping. -/
theorem load_apply_of_none (unloaded : schema.catalog = none) :
    schema.load engine state = schema.fetch engine state := by
  simp only [load, unloaded]

/-- A schema that has its catalog asks nothing. -/
theorem load_apply_of_some {catalog : Catalog} (loaded : schema.catalog = some catalog) :
    schema.load engine state = ((.ok catalog, schema), state) := by
  rw [load_of_catalog engine loaded]
  rfl

@[simp] theorem uncached_load : (schema.load engine state).1.2.uncached = schema.uncached := by
  cases loaded : schema.catalog with
  | none => rw [load_apply_of_none engine schema state loaded, fetch_apply, uncached_receive]
  | some catalog => rw [load_apply_of_some engine schema state loaded]

theorem resolve_apply (name : String) :
    schema.resolve engine name state =
      (((schema.load engine state).1.1.bind fun catalog => catalog.resolve name,
        (schema.load engine state).1.2), (schema.load engine state).2) := rfl

/-- No values are asked for where the name is not resolved. -/
theorem suggest_apply_of_error
    {name : String} (search : Option String) {cause : Error}
    (unresolved : ((schema.load engine state).1.1.bind fun catalog => catalog.resolve name) =
      .error cause) :
    schema.suggest engine name search state =
      ((.error cause, (schema.load engine state).1.2), (schema.load engine state).2) := by
  unfold suggest
  rw [bind_apply, resolve_apply]
  simp only [unresolved]
  rfl

theorem suggest_apply_of_ok
    {name : String} (search : Option String) {field : Field}
    (resolved : ((schema.load engine state).1.1.bind fun catalog => catalog.resolve name) =
      .ok field) :
    schema.suggest engine name search state =
      if field.kind.suggests then
        let found := engine.search (schema.load engine state).1.2.connection
          (schema.load engine state).1.2.index (Suggestion.query field.name search)
          (Suggestion.aggregations field.name (schema.load engine state).1.2.suggestionSize)
          (schema.load engine state).2
        ((found.1.map Suggestion.ofResponse, (schema.load engine state).1.2), found.2)
      else
        ((.error (.schema (.notSuggestable name)), (schema.load engine state).1.2),
          (schema.load engine state).2) := by
  unfold suggest
  rw [bind_apply, resolve_apply]
  simp only [resolved]
  cases field.kind.suggests <;> rfl

/-- A refused expression leaves the schema and the engine alone. -/
theorem compile_apply_of_error
    {expr : Expr} {cause : Error}
    (refused : schema.validate expr = .error cause) :
    schema.compile engine expr state = ((.error cause, schema), state) := by
  unfold compile
  rw [refused]
  rfl

/-- An accepted expression is compiled with the catalog, which may have to be loaded. -/
theorem compile_apply_of_ok
    {expr : Expr}
    (accepted : schema.validate expr = .ok ()) :
    schema.compile engine expr state =
      (((schema.load engine state).1.1.bind fun catalog => expr.document catalog.resolve,
        (schema.load engine state).1.2), (schema.load engine state).2) := by
  unfold compile
  rw [accepted]
  rfl

/-- Whatever comes of a search, the schema is left as loading left it. -/
theorem suggest_schema (name : String) (search : Option String) :
    (schema.suggest engine name search state).1.2 = (schema.load engine state).1.2 := by
  cases outcome : (schema.load engine state).1.1.bind fun catalog => catalog.resolve name with
  | error cause => rw [suggest_apply_of_error engine schema state search outcome]
  | ok field =>
      rw [suggest_apply_of_ok engine schema state search outcome]
      cases field.kind.suggests <;> rfl

/-- An expression that is refused leaves the schema as it was, any other as loading left it. -/
theorem compile_schema (expr : Expr) :
    (schema.compile engine expr state).1.2 = schema ∨
      (schema.compile engine expr state).1.2 = (schema.load engine state).1.2 := by
  cases outcome : schema.validate expr with
  | error cause =>
      left
      rw [compile_apply_of_error engine schema state outcome]
  | ok _ =>
      right
      rw [compile_apply_of_ok engine schema state outcome]

end Schema

namespace Question

variable (engine : Engine (StateM σ)) (schema : Schema) (state : σ)

/-- Asking leaves a schema as it was, or as loading or fetching leaves it. -/
theorem schema_ask (question : Question) :
    (question.ask engine schema state).1.2 = schema ∨
      (question.ask engine schema state).1.2 = (schema.load engine state).1.2 ∨
      (question.ask engine schema state).1.2 = (schema.fetch engine state).1.2 := by
  cases question with
  | resolve name => exact .inr (.inl rfl)
  | fields => exact .inr (.inr rfl)
  | suggest name search => exact .inr (.inl (Schema.suggest_schema engine schema state name search))
  | validate expr => exact .inl rfl
  | compile expr => exact (Schema.compile_schema engine schema state expr).imp_right .inl

/-- Asking changes nothing of a schema but its catalog. -/
theorem uncached_ask (question : Question) :
    (question.ask engine schema state).1.2.uncached = schema.uncached := by
  rcases schema_ask engine schema state question with same | same | same
  · rw [same]
  · rw [same, Schema.uncached_load]
  · rw [same, Schema.fetch_apply, Schema.uncached_receive]

theorem index_ask (question : Question) :
    (question.ask engine schema state).1.2.index = schema.index := by
  have same := congrArg Schema.index (uncached_ask engine schema state question)
  exact same

theorem validator_ask (question : Question) :
    (question.ask engine schema state).1.2.validator = schema.validator := by
  have same := congrArg Schema.validator (uncached_ask engine schema state question)
  exact same

end Question

namespace Registry

/-- A registry without its schemas. -/
def cleared (registry : Registry) : Registry :=
  { registry with schemas := [], memo := [] }

/-- A new registry has the settings that it was made from, and no schemas. -/
theorem ofSettings_eq_ok
    {settings : RegistrySettings} {validator : Validator} {registry : Registry}
    (built : ofSettings settings validator = .ok registry) :
    ∃ policy, settings.policy = .ok policy ∧
      registry = ⟨policy, settings.limits, settings.suggestionSize, validator, [], []⟩ := by
  obtain ⟨policy, isPolicy, isRegistry⟩ := eq_ok_of_map built
  exact ⟨policy, isPolicy, isRegistry.symm⟩

/-- A registry begins without schemas. -/
theorem cleared_of_ofSettings
    {settings : RegistrySettings} {validator : Validator} {registry : Registry}
    (built : ofSettings settings validator = .ok registry) :
    registry.cleared = registry := by
  obtain ⟨policy, -, isRegistry⟩ := ofSettings_eq_ok built
  rw [isRegistry]
  rfl

/-- Every schema keeps its number, its index and its validator. -/
def Extends (before after : Registry) : Prop :=
  ∀ (number : Nat) (schema : Schema), before.schemas[number]? = some schema →
    ∃ later : Schema, after.schemas[number]? = some later ∧ later.index = schema.index ∧
      later.validator = schema.validator

theorem Extends.refl (registry : Registry) : registry.Extends registry :=
  fun _ schema found => ⟨schema, found, rfl, rfl⟩

theorem Extends.trans
    {before middle after : Registry}
    (first : before.Extends middle) (second : middle.Extends after) :
    before.Extends after := by
  intro number schema found
  obtain ⟨later, foundLater, sameIndex, sameValidator⟩ := first number schema found
  obtain ⟨last, foundLast, lastIndex, lastValidator⟩ := second number later foundLater
  exact ⟨last, foundLast, lastIndex.trans sameIndex, lastValidator.trans sameValidator⟩

/-- Keeping a schema does not change which one another index has. -/
theorem lookup_memo_keep_of_ne
    (registry : Registry) (schema : Schema) {index : String}
    (different : index ≠ schema.index) :
    (registry.keep schema).2.memo.lookup index = registry.memo.lookup index := by
  have notIndex : (index == schema.index) = false := by simpa using different
  simp only [keep, adopt, List.lookup_cons, notIndex]
  exact lookup_filter_ne different registry.memo

theorem extends_keep (registry : Registry) (schema : Schema) :
    registry.Extends (registry.keep schema).2 := by
  intro number old found
  refine ⟨old, ?_, rfl, rfl⟩
  rw [schemas_keep, List.getElem?_append_left (List.getElem?_eq_some_iff.mp found).1, found]

/-- A schema is put back under its number, with the index and the validator it had. -/
theorem extends_update
    {registry : Registry} {number : Nat} {schema later : Schema}
    (found : registry.schemas[number]? = some schema)
    (sameIndex : later.index = schema.index)
    (sameValidator : later.validator = schema.validator) :
    registry.Extends (registry.update number later) := by
  intro other old foundOld
  by_cases same : number = other
  · subst same
    obtain rfl : schema = old := Option.some.inj (found.symm.trans foundOld)
    refine ⟨later, ?_, sameIndex, sameValidator⟩
    simp only [update]
    rw [List.getElem?_set_self (List.getElem?_eq_some_iff.mp found).1]
  · refine ⟨old, ?_, rfl, rfl⟩
    simp only [update]
    rw [List.getElem?_set_ne same, foundOld]

/-- A schema that is found in the memo is the one of its index, and its validator is of the kind
that was asked for. -/
theorem memoized?_eq_some
    {registry : Registry} {index : String} {validator : Validator} {number : Nat} {schema : Schema}
    (found : registry.memoized? index validator = some (number, schema)) :
    registry.memo.lookup index = some number ∧ registry.schemas[number]? = some schema ∧
      schema.validator.kind = validator.kind := by
  simp only [memoized?, Option.bind_eq_bind, Option.bind_eq_some_iff] at found
  obtain ⟨position, listed, candidate, stored, chosen⟩ := found
  split at chosen
  · next sameKind =>
      simp only [Option.some.injEq, Prod.mk.injEq] at chosen
      obtain ⟨rfl, rfl⟩ := chosen
      exact ⟨listed, stored, sameKind⟩
  · contradiction

end Registry

/-- A schema is for an index that may be used, and has the settings of a registry. -/
structure Schema.Follows (schema : Schema) (base : Registry) : Prop where
  admitted : base.checkIndex schema.index = .ok ()
  hidden : schema.hidden = base.limits.hidden schema.index
  policy : schema.policy = some base.policy
  suggestionSize : schema.suggestionSize = base.suggestionSize

/-- A new schema has an index that was admitted and the settings of its registry. -/
theorem Schema.follows_build
    {base : Registry} {index : String} (validator : Validator) (connection : Connection)
    (admitted : base.checkIndex index = .ok ()) :
    (base.build index validator connection).Follows base :=
  ⟨admitted, rfl, rfl, rfl⟩

/-- Only the catalog of a schema can change, so it goes on to follow the registry. -/
theorem Schema.Follows.of_uncached
    {base : Registry} {schema later : Schema}
    (follows : schema.Follows base)
    (same : later.uncached = schema.uncached) :
    later.Follows base := by
  have sameIndex : later.index = schema.index := congrArg (fun schema => schema.index) same
  refine ⟨?_, ?_, ?_, ?_⟩
  · rw [sameIndex]
    exact follows.admitted
  · rw [sameIndex, ← follows.hidden]
    exact congrArg (fun schema => schema.hidden) same
  · rw [← follows.policy]
    exact congrArg (fun schema => schema.policy) same
  · rw [← follows.suggestionSize]
    exact congrArg (fun schema => schema.suggestionSize) same

namespace Registry

/-! ### The four outcomes of a request for a schema -/

section Outcomes

variable (engine : Engine (StateM σ)) {registry : Registry} {index : String}
  {validator : Validator} {state : σ}

/-- A refused index stops at the gate: the memo is not looked at. -/
theorem obtain_of_refused
    {cause : Error}
    (refused : registry.checkIndex index = .error cause) :
    registry.obtain engine index validator state = ((.error cause, registry), state) := by
  unfold Registry.obtain
  rw [refused]
  rfl

/-- A schema that is known is handed out without a connection. -/
theorem obtain_of_memoized
    {found : Nat × Schema}
    (admitted : registry.checkIndex index = .ok ())
    (memoized : registry.memoized? index validator = some found) :
    registry.obtain engine index validator state = ((.ok found, registry), state) := by
  unfold Registry.obtain
  rw [admitted, memoized]
  rfl

/-- Nothing is kept if there is no connection. -/
theorem obtain_of_connect_error
    {cause : Error}
    (admitted : registry.checkIndex index = .ok ())
    (fresh : registry.memoized? index validator = none)
    (failed : (engine.connect state).1 = .error cause) :
    registry.obtain engine index validator state =
      ((.error cause, registry), (engine.connect state).2) := by
  unfold Registry.obtain
  simp only [admitted, fresh]
  rw [bind_apply, failed]
  rfl

/-- A new schema is kept under the next number. -/
theorem obtain_of_connect_ok
    {connection : Connection}
    (admitted : registry.checkIndex index = .ok ())
    (fresh : registry.memoized? index validator = none)
    (connected : (engine.connect state).1 = .ok connection) :
    registry.obtain engine index validator state =
      ((.ok (registry.schemas.length, registry.build index validator connection),
        (registry.keep (registry.build index validator connection)).2),
        (engine.connect state).2) := by
  unfold Registry.obtain
  simp only [admitted, fresh]
  rw [bind_apply, connected]
  rfl

end Outcomes

section Operation

variable (engine : Engine (StateM σ)) (question : Question) {registry : Registry} {number : Nat}
  {state : σ}

theorem operate?_of_none (missing : registry.schemas[number]? = none) :
    registry.operate? number (fun schema => question.ask engine schema) state =
      ((none, registry), state) := by
  unfold operate?
  rw [missing]
  rfl

theorem operate?_of_some {schema : Schema} (found : registry.schemas[number]? = some schema) :
    registry.operate? number (fun schema => question.ask engine schema) state =
      ((some (question.ask engine schema state).1.1,
        registry.update number (question.ask engine schema state).1.2),
        (question.ask engine schema state).2) := by
  unfold operate?
  rw [found]
  rfl

end Operation

/-! ## Registries in order -/

/-- What is in order in a registry, whatever the engine does: it has the settings that it was made
from, the schema that an index has is about that index, and every schema has a validator that was
asked for, as the registry's own one counts to be. -/
structure Orderly (registry base : Registry) (Asked : Validator → Prop) : Prop where
  settings : registry.cleared = base
  memo (index : String) (number : Nat) : registry.memo.lookup index = some number →
    ∃ schema : Schema, registry.schemas[number]? = some schema ∧ schema.index = index
  default : Asked registry.defaultValidator
  asked : ∀ schema ∈ registry.schemas, Asked schema.validator

/-- A registry without schemas is in order. -/
theorem orderly_of_cleared
    {base : Registry} {Asked : Validator → Prop}
    (empty : base.cleared = base)
    (isDefault : Asked base.defaultValidator) :
    base.Orderly base Asked := by
  refine ⟨empty, fun index number found => ?_, isDefault, fun schema member => ?_⟩
  · rw [← empty] at found
    cases found
  · rw [← empty] at member
    cases member

namespace Orderly

variable {registry base : Registry} {Asked : Validator → Prop}

theorem checkIndex_eq (orderly : registry.Orderly base Asked) (index : String) :
    registry.checkIndex index = base.checkIndex index := by
  rw [← orderly.settings]
  rfl

theorem build_eq (orderly : registry.Orderly base Asked) (index : String) (validator : Validator)
    (connection : Connection) :
    registry.build index validator connection = base.build index validator connection := by
  rw [← orderly.settings]
  rfl

/-- Order is kept when a schema is kept whose validator was asked for. -/
theorem keep
    {schema : Schema}
    (orderly : registry.Orderly base Asked)
    (isAsked : Asked schema.validator) :
    (registry.keep schema).2.Orderly base Asked := by
  refine ⟨orderly.settings, fun index number found => ?_, orderly.default,
    fun other member => ?_⟩
  · by_cases isNew : index = schema.index
    · subst isNew
      rw [lookup_memo_keep, Option.some.injEq] at found
      subst found
      exact ⟨schema, by simp, rfl⟩
    · rw [lookup_memo_keep_of_ne _ _ isNew] at found
      obtain ⟨old, foundOld, sameIndex⟩ := orderly.memo index number found
      obtain ⟨later, foundLater, laterIndex, -⟩ := extends_keep registry schema number old foundOld
      exact ⟨later, foundLater, laterIndex.trans sameIndex⟩
  · rw [schemas_keep, List.mem_append, List.mem_singleton] at member
    rcases member with old | rfl
    · exact orderly.asked other old
    · exact isAsked

/-- Order is kept when a schema is replaced by one of the same index and validator. -/
theorem update
    {number : Nat} {schema later : Schema}
    (orderly : registry.Orderly base Asked)
    (found : registry.schemas[number]? = some schema)
    (sameIndex : later.index = schema.index)
    (sameValidator : later.validator = schema.validator) :
    (registry.update number later).Orderly base Asked := by
  refine ⟨orderly.settings, fun index position listed => ?_, orderly.default,
    fun other member => ?_⟩
  · obtain ⟨old, foundOld, oldIndex⟩ := orderly.memo index position listed
    obtain ⟨last, foundLast, lastIndex, -⟩ :=
      extends_update found sameIndex sameValidator position old foundOld
    exact ⟨last, foundLast, lastIndex.trans oldIndex⟩
  · rcases List.mem_or_eq_of_mem_set member with old | rfl
    · exact orderly.asked other old
    · rw [sameValidator]
      exact orderly.asked schema (List.mem_of_getElem? found)

/-- A request for a schema keeps the order, and gives one for the index that was asked for, with a
validator of the kind that was asked for. -/
theorem obtain
    (orderly : registry.Orderly base Asked)
    (index : String) (validator : Validator)
    (isAsked : Asked validator)
    (engine : Engine (StateM σ)) (state : σ) :
    let outcome := registry.obtain engine index validator state
    outcome.1.2.Orderly base Asked ∧ registry.Extends outcome.1.2 ∧
      ∀ number schema, outcome.1.1 = .ok (number, schema) →
        outcome.1.2.schemas[number]? = some schema ∧ schema.index = index ∧
          schema.validator.kind = validator.kind := by
  cases checked : registry.checkIndex index with
  | error cause =>
      rw [obtain_of_refused engine checked]
      exact ⟨orderly, .refl registry, fun _ _ given => nomatch given⟩
  | ok _ =>
      cases memoized : registry.memoized? index validator with
      | some found =>
          rw [obtain_of_memoized engine checked memoized]
          refine ⟨orderly, .refl registry, ?_⟩
          rintro number schema ⟨⟩
          obtain ⟨listed, stored, sameKind⟩ := memoized?_eq_some memoized
          obtain ⟨other, storedOther, sameIndex⟩ := orderly.memo index number listed
          obtain rfl : schema = other := Option.some.inj (stored.symm.trans storedOther)
          exact ⟨stored, sameIndex, sameKind⟩
      | none =>
          cases connected : (engine.connect state).1 with
          | error cause =>
              rw [obtain_of_connect_error engine checked memoized connected]
              exact ⟨orderly, .refl registry, fun _ _ given => nomatch given⟩
          | ok connection =>
              rw [obtain_of_connect_ok engine checked memoized connected]
              refine ⟨orderly.keep isAsked, extends_keep registry _, ?_⟩
              rintro _ _ ⟨⟩
              exact ⟨by simp, rfl, rfl⟩

/-- A question to a schema of the registry keeps the order. -/
theorem operate
    (orderly : registry.Orderly base Asked)
    (engine : Engine (StateM σ)) (number : Nat) (question : Question) (state : σ) :
    let outcome := registry.operate? number (fun schema => question.ask engine schema) state
    outcome.1.2.Orderly base Asked ∧ registry.Extends outcome.1.2 := by
  cases found : registry.schemas[number]? with
  | none =>
      rw [operate?_of_none engine question found]
      exact ⟨orderly, .refl registry⟩
  | some schema =>
      rw [operate?_of_some engine question found]
      have sameIndex := Question.index_ask engine schema state question
      have sameValidator := Question.validator_ask engine schema state question
      exact ⟨orderly.update found sameIndex sameValidator,
        extends_update found sameIndex sameValidator⟩

/-! ### Sessions -/

/-- An inquiry keeps the order where it gets its schema. -/
theorem acquire
    {session : Session} {source : Session.Source}
    (orderly : session.registry.Orderly base Asked)
    (within : source.Within Asked)
    (engine : Engine (StateM σ)) (state : σ) :
    let outcome := session.acquire engine source state
    outcome.1.2.Orderly base Asked ∧ session.registry.Extends outcome.1.2 := by
  cases source with
  | default index =>
      obtain ⟨orderlyLater, kept, -⟩ := orderly.obtain index _ orderly.default engine state
      exact ⟨orderlyLater, kept⟩
  | custom index validator =>
      obtain ⟨orderlyLater, kept, -⟩ := orderly.obtain index validator within engine state
      exact ⟨orderlyLater, kept⟩
  | again position => exact ⟨orderly, .refl session.registry⟩

/-- An inquiry keeps the order where it asks its schema. -/
theorem serve
    (orderly : registry.Orderly base Asked)
    (engine : Engine (StateM σ)) (question : Question) (handle : Option Session.Handle)
    (state : σ) :
    let outcome := Session.serve engine registry question handle state
    outcome.1.2.Orderly base Asked ∧ registry.Extends outcome.1.2 := by
  match handle with
  | none => exact ⟨orderly, .refl registry⟩
  | some ⟨_, .error _⟩ => exact ⟨orderly, .refl registry⟩
  | some ⟨_, .ok number⟩ => exact orderly.operate engine number question state

/-- An inquiry asks for a handle and then for a reply, and both keep the order. -/
theorem step
    {session : Session} {inquiry : Session.Inquiry}
    (orderly : session.registry.Orderly base Asked)
    (within : inquiry.source.Within Asked)
    (engine : Engine (StateM σ)) (state : σ) :
    (session.step engine inquiry state).1.2.registry.Orderly base Asked :=
  ((orderly.acquire within engine state).1.serve engine inquiry.question _ _).1

/-- Order is kept by every session. -/
theorem run
    {session : Session} {inquiries : List Session.Inquiry}
    (orderly : session.registry.Orderly base Asked)
    (within : ∀ inquiry ∈ inquiries, inquiry.source.Within Asked)
    (engine : Engine (StateM σ)) (state : σ) :
    (session.run engine inquiries state).1.2.registry.Orderly base Asked := by
  induction inquiries generalizing session state with
  | nil => exact orderly
  | cons inquiry rest inductionHypothesis =>
      obtain ⟨firstWithin, restWithin⟩ := List.forall_mem_cons.mp within
      exact inductionHypothesis (orderly.step firstWithin engine state) restWithin _

/-- In a session with a registry in order, every turn has the target that its inquiry names. -/
theorem addressed
    {session : Session} {earlier : List Session.Turn} {inquiries : List Session.Inquiry}
    (orderly : session.registry.Orderly base Asked)
    (within : ∀ inquiry ∈ inquiries, inquiry.source.Within Asked)
    (known : session.handles.map (Option.map Session.Handle.target) =
      earlier.map Session.Turn.target)
    (engine : Engine (StateM σ)) (state : σ) :
    Session.Addressed base.defaultValidator earlier (session.run engine inquiries state).1.1 := by
  induction inquiries generalizing session state earlier with
  | nil => trivial
  | cons inquiry rest inductionHypothesis =>
      obtain ⟨firstWithin, restWithin⟩ := List.forall_mem_cons.mp within
      have sameDefault : session.registry.defaultValidator = base.defaultValidator := by
        rw [← orderly.settings]
        rfl
      refine ⟨?_, inductionHypothesis (orderly.step firstWithin engine state) restWithin ?_ _⟩
      · rw [← sameDefault]
        exact Session.target_step engine state inquiry known
      · change (session.handles ++ [_]).map _ = _
        rw [List.map_append, List.map_append, known]
        rfl

end Orderly
end Registry
end FilterQuery
