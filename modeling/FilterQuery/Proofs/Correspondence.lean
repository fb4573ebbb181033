import FilterQuery.Proofs.Session

/-!
# Engines that do the same

The same operations run in different monads, and their actions can be compared.
Main statement: where two engines do the same, so do all sessions over them. In
this way an engine can be watched, which extends its state by what an observer
notes, and an engine with a state in two parts can be taken for one with a
single state.
-/

namespace FilterQuery

/-- A way to say that actions of two monads do the same. -/
structure Correspondence (m n : Type → Type) [Monad m] [Monad n] where
  Rel {α : Type} (action : m α) (other : n α) : Prop
  rel_pure {α : Type} (value : α) : Rel (pure value : m α) (pure value : n α)
  rel_bind {α β : Type} {action : m α} {other : n α} {next : α → m β} {otherNext : α → n β} :
    Rel action other → (∀ value, Rel (next value) (otherNext value)) →
      Rel (action >>= next) (other >>= otherNext)

namespace Correspondence

section Rules

variable {m n : Type → Type} [Monad m] [Monad n] {same : Correspondence m n}

theorem Rel.pure (value : α) : same.Rel (Pure.pure value : m α) (Pure.pure value : n α) :=
  same.rel_pure value

/-- Actions that do the same, followed by actions that do the same on every value. -/
theorem Rel.bind
    {action : m α} {other : n α} {next : α → m β} {otherNext : α → n β}
    (sameAction : same.Rel action other)
    (sameNext : ∀ value, same.Rel (next value) (otherNext value)) :
    same.Rel (action >>= next) (other >>= otherNext) :=
  same.rel_bind sameAction sameNext

end Rules

/-- An action on an extended state does what another one does on the part of it that is viewed. -/
def mirroring (view : τ → σ) : Correspondence (StateM τ) (StateM σ) where
  Rel watched action := ∀ state, action (view state) = ((watched state).1, view (watched state).2)
  rel_pure _ _ := rfl
  rel_bind := by
    intro α β watched action watchedNext next mirrors mirrorsNext state
    change next (action (view state)).1 (action (view state)).2 = _
    rw [mirrors state]
    exact mirrorsNext _ _

/-- An action on two states as one on a pair of them. -/
def paired (action : StateT ρ (StateM σ) α) : StateM (ρ × σ) α := fun states =>
  let outcome := action states.1 states.2
  (outcome.1.1, outcome.1.2, outcome.2)

/-- An action on a pair of states does what another one does on its two parts. -/
def joining : Correspondence (StateT ρ (StateM σ)) (StateM (ρ × σ)) where
  Rel action joined := joined = paired action
  rel_pure _ := rfl
  rel_bind := by
    intro α β action joined next joinedNext joins joinsNext
    rw [joins, funext joinsNext]
    rfl

end Correspondence

namespace Engine

/-- All actions of an engine do what those of another one do. -/
structure Matches {m n : Type → Type} [Monad m] [Monad n] (same : Correspondence m n)
    (engine : Engine m) (other : Engine n) : Prop where
  connect : same.Rel engine.connect other.connect
  mapping (connection : Connection) (index : String) :
    same.Rel (engine.mapping connection index) (other.mapping connection index)
  search (connection : Connection) (index : String) (query aggregations : Json) :
    same.Rel (engine.search connection index query aggregations)
      (other.search connection index query aggregations)

/-- An engine with its two states in one. -/
def joined (engine : Engine (StateT ρ (StateM σ))) : Engine (StateM (ρ × σ)) where
  connect := Correspondence.paired engine.connect
  mapping connection index := Correspondence.paired (engine.mapping connection index)
  search connection index query aggregations :=
    Correspondence.paired (engine.search connection index query aggregations)

/-- Nothing is lost when the two states of an engine are taken for one. -/
theorem matches_joined (engine : Engine (StateT ρ (StateM σ))) :
    engine.Matches .joining engine.joined :=
  ⟨rfl, fun _ _ => rfl, fun _ _ _ _ => rfl⟩

namespace Matches

variable {m n : Type → Type} [Monad m] [Monad n] {same : Correspondence m n} {engine : Engine m}
  {other : Engine n}

/-! ## Schemas -/

/-- The engine is asked for the mapping once, by the same call. -/
theorem fetch (alike : Matches same engine other) (schema : Schema) :
    same.Rel (schema.fetch engine) (schema.fetch other) :=
  (alike.mapping _ _).bind fun _ => .pure _

/-- The cache of the schema decides whether there is a call; it is the same on both sides. -/
theorem load (alike : Matches same engine other) (schema : Schema) :
    same.Rel (schema.load engine) (schema.load other) := by
  unfold Schema.load
  cases schema.catalog with
  | none => exact alike.fetch schema
  | some catalog => exact .pure _

theorem resolve (alike : Matches same engine other) (schema : Schema) (name : String) :
    same.Rel (schema.resolve engine name) (schema.resolve other name) :=
  (alike.load schema).bind fun _ => .pure _

/-- After the catalog is there, the values are asked for only if the field has them. -/
theorem suggest (alike : Matches same engine other) (schema : Schema) (name : String)
    (search : Option String) :
    same.Rel (schema.suggest engine name search) (schema.suggest other name search) := by
  refine (alike.resolve schema name).bind fun found => ?_
  obtain ⟨cause | field, later⟩ := found
  · exact .pure _
  · by_cases suggests : field.kind.suggests = true
    · simp only [suggests, if_true]
      exact (alike.search _ _ _ _).bind fun _ => .pure _
    · simp only [suggests]
      exact .pure _

/-- An expression that the validator refuses gets to neither engine. -/
theorem compile (alike : Matches same engine other) (schema : Schema) (expr : Expr) :
    same.Rel (schema.compile engine expr) (schema.compile other expr) := by
  unfold Schema.compile
  cases schema.validate expr with
  | error cause => exact .pure _
  | ok _ => exact (alike.load schema).bind fun _ => .pure _

/-- Each question is one of the operations above. -/
theorem ask (alike : Matches same engine other) (schema : Schema) (question : Question) :
    same.Rel (question.ask engine schema) (question.ask other schema) := by
  cases question with
  | resolve name => exact (alike.resolve schema name).bind fun _ => .pure _
  | fields => exact ((alike.fetch schema).bind fun _ => .pure _).bind fun _ => .pure _
  | suggest name search => exact (alike.suggest schema name search).bind fun _ => .pure _
  | validate expr => exact .pure _
  | compile expr => exact (alike.compile schema expr).bind fun _ => .pure _

/-! ## Registries and sessions -/

/-- The index and the memo are looked at first; one call opens the connection of a new schema. -/
theorem obtain (alike : Matches same engine other) (registry : Registry) (index : String)
    (validator : Validator) :
    same.Rel (registry.obtain engine index validator)
      (registry.obtain other index validator) := by
  unfold Registry.obtain
  cases registry.checkIndex index with
  | error cause => exact .pure _
  | ok _ =>
      cases registry.memoized? index validator with
      | some found => exact .pure _
      | none =>
          refine alike.connect.bind fun answer => ?_
          cases answer with
          | error cause => exact .pure _
          | ok connection => exact .pure _

/-- A schema that is asked and put back is the same one on both sides. -/
theorem operate (alike : Matches same engine other) (registry : Registry) (number : Nat)
    (question : Question) :
    same.Rel (registry.operate? number fun schema => question.ask engine schema)
      (registry.operate? number fun schema => question.ask other schema) := by
  unfold Registry.operate?
  cases registry.schemas[number]? with
  | none => exact .pure _
  | some schema => exact (alike.ask schema question).bind fun _ => .pure _

theorem serve (alike : Matches same engine other) (registry : Registry) (question : Question)
    (found : Option Session.Handle) :
    same.Rel (Session.serve engine registry question found)
      (Session.serve other registry question found) := by
  match found with
  | none => exact .pure _
  | some ⟨_, .error cause⟩ => exact .pure _
  | some ⟨_, .ok number⟩ => exact alike.operate registry number question

theorem acquire (alike : Matches same engine other) (session : Session)
    (source : Session.Source) :
    same.Rel (session.acquire engine source) (session.acquire other source) := by
  cases source with
  | default index => exact (alike.obtain _ _ _).bind fun _ => .pure _
  | custom index validator => exact (alike.obtain _ _ _).bind fun _ => .pure _
  | again position => exact .pure _

/-- What one inquiry does, from the handle it asks for to its reply. -/
theorem step (alike : Matches same engine other) (session : Session)
    (inquiry : Session.Inquiry) :
    same.Rel (session.step engine inquiry) (session.step other inquiry) :=
  (alike.acquire session inquiry.source).bind fun _ =>
    (alike.serve _ inquiry.question _).bind fun _ => .pure _

/-- Sessions over two engines that do the same do the same. -/
theorem run (alike : Matches same engine other) (session : Session)
    (inquiries : List Session.Inquiry) :
    same.Rel (session.run engine inquiries) (session.run other inquiries) := by
  induction inquiries generalizing session with
  | nil => exact .pure _
  | cons inquiry rest inductionHypothesis =>
      exact (alike.step session inquiry).bind fun _ =>
        (inductionHypothesis _).bind fun _ => .pure _

end Matches
end Engine
end FilterQuery
