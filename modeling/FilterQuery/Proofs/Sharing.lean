import FilterQuery.Proofs.Order

/-!
# Threads that share a schema

Any number of threads resolve names and list the fields of one schema. A thread
takes a lock before it asks the engine, and one that wants a name looks for the
catalog again once it has the lock. A thread that is alone does what the schema
does. However the steps of several threads are mixed, one thread at a time has
the lock, and there is no catalog while a thread that has found none is about to
store one.
-/

namespace FilterQuery
namespace Sharing

/-! ## The steps of a thread -/

/-- What a thread wants from a schema. -/
inductive Errand where
  | resolve (name : String)
  | fields

/-- Whether a name is to be resolved. -/
def Errand.isLookup : Errand → Bool
  | resolve _ => true
  | fields => false

/-- How far a thread has come. -/
inductive Stage where
  | idle
  /-- About to look for the catalog without the lock. -/
  | looking (name : String)
  /-- About to take the lock. -/
  | waiting (errand : Errand)
  /-- About to look for the catalog again, with the lock. -/
  | checking (name : String)
  /-- About to ask the engine. -/
  | calling (errand : Errand)
  /-- The engine has been asked and has not answered yet. -/
  | fetching (errand : Errand)
  /-- About to store the catalog. -/
  | storing (errand : Errand) (catalog : Catalog)
  /-- About to give the lock back. -/
  | leaving (errand : Errand) (result : Except Error Catalog)
  | returned (errand : Errand) (result : Except Error Catalog)

/-- What a thread does in one step. -/
inductive Action where
  | enter (errand : Errand)
  /-- Look for the catalog, with what is seen. -/
  | read (seen : Option Catalog)
  | acquire
  | start
  /-- Get the engine's answer. -/
  | finish (answer : Except Error Json)
  | write (catalog : Catalog)
  | release

namespace Stage

/-- Whether a thread has no errand, or is done with it. -/
def isAtRest : Stage → Bool
  | idle | returned _ _ => true
  | _ => false

/-- Whether a thread has the lock. -/
def holds : Stage → Bool
  | checking _ | calling _ | fetching _ | storing _ _ | leaving _ _ => true
  | _ => false

/-- Whether a request of a thread is under way. -/
def isFetching : Stage → Bool
  | fetching _ => true
  | _ => false

/-- Whether a request of a thread is under way, or its catalog is not stored yet. -/
def isBusy : Stage → Bool
  | fetching _ | storing _ _ => true
  | _ => false

/-- Whether a thread asks for the mapping because it has seen no catalog. -/
def isFilling : Stage → Bool
  | calling errand | fetching errand | storing errand _ => errand.isLookup
  | _ => false

/-- Whether a thread lists the fields. -/
def isListing : Stage → Bool
  | waiting errand | calling errand | fetching errand | storing errand _ => !errand.isLookup
  | leaving errand _ | returned errand _ => !errand.isLookup
  | _ => false

/-- The step of a thread from one stage to the next. -/
inductive Move (schema : Schema) : Stage → Action → Stage → Prop
  | enterResolve {stage : Stage} (name : String) :
      stage.isAtRest = true → Move schema stage (.enter (.resolve name)) (.looking name)
  | enterFields {stage : Stage} :
      stage.isAtRest = true → Move schema stage (.enter .fields) (.waiting .fields)
  | found (name : String) (catalog : Catalog) :
      Move schema (.looking name) (.read (some catalog)) (.returned (.resolve name) (.ok catalog))
  | missed (name : String) :
      Move schema (.looking name) (.read none) (.waiting (.resolve name))
  | acquireResolve (name : String) :
      Move schema (.waiting (.resolve name)) .acquire (.checking name)
  | acquireFields : Move schema (.waiting .fields) .acquire (.calling .fields)
  | foundLocked (name : String) (catalog : Catalog) :
      Move schema (.checking name) (.read (some catalog)) (.leaving (.resolve name) (.ok catalog))
  | missedLocked (name : String) :
      Move schema (.checking name) (.read none) (.calling (.resolve name))
  | start (errand : Errand) : Move schema (.calling errand) .start (.fetching errand)
  | finish (errand : Errand) {answer : Except Error Json} {catalog : Catalog} :
      (schema.receive answer).1 = .ok catalog →
      Move schema (.fetching errand) (.finish answer) (.storing errand catalog)
  | fail (errand : Errand) {answer : Except Error Json} {cause : Error} :
      (schema.receive answer).1 = .error cause →
      Move schema (.fetching errand) (.finish answer) (.leaving errand (.error cause))
  | write (errand : Errand) (catalog : Catalog) :
      Move schema (.storing errand catalog) (.write catalog) (.leaving errand (.ok catalog))
  | release (errand : Errand) (result : Except Error Catalog) :
      Move schema (.leaving errand result) .release (.returned errand result)

end Stage

/-- A schema, the thread that has its lock, and the stages of all threads. -/
structure Shared where
  schema : Schema
  holder : Option Nat
  stage : Nat → Stage

namespace Action

/-- What an action does to the schema. -/
def store : Action → Schema → Schema
  | write catalog, schema => { schema with catalog := some catalog }
  | _, schema => schema

/-- What an action does to the lock. -/
def hold (thread : Nat) : Action → Option Nat → Option Nat
  | acquire, _ => some thread
  | release, _ => none
  | _, holder => holder

/-- A catalog is seen if it is there, and the lock is taken if it is free. -/
def Permitted (shared : Shared) : Action → Prop
  | read seen => seen = shared.schema.catalog
  | acquire => shared.holder = none
  | _ => True

end Action

namespace Shared

/-- No thread has begun. -/
structure Quiet (shared : Shared) : Prop where
  unlocked : shared.holder = none
  idle (thread : Nat) : shared.stage thread = .idle

/-- An action of a thread that takes it to a stage. -/
def update (shared : Shared) (thread : Nat) (action : Action) (stage : Stage) : Shared where
  schema := action.store shared.schema
  holder := action.hold thread shared.holder
  stage other := if other = thread then stage else shared.stage other

/-- A thread makes a step. -/
inductive Step (shared : Shared) (thread : Nat) (action : Action) : Shared → Prop
  | intro {stage : Stage} :
      action.Permitted shared → Stage.Move shared.schema (shared.stage thread) action stage →
        Step shared thread action (shared.update thread action stage)

end Shared

/-- A step with what was before and after it. -/
structure Moment where
  before : Shared
  thread : Nat
  action : Action
  after : Shared

/-- Steps of any threads in any order. -/
inductive Run (first : Shared) : List Moment → Shared → Prop
  | nil : Run first [] first
  | concat {moments : List Moment} {before after : Shared} {thread : Nat} {action : Action} :
      Run first moments before → before.Step thread action after →
        Run first (moments ++ [⟨before, thread, action, after⟩]) after

/-! ## What one step changes -/

/-- No action takes a catalog away. -/
theorem Action.isLoaded_store (action : Action) {schema : Schema}
    (loaded : schema.isLoaded = true) : (action.store schema).isLoaded = true := by
  cases action with
  | write catalog => rfl
  | _ => exact loaded

namespace Stage

theorem holds_of_isAtRest {stage : Stage} (atRest : stage.isAtRest = true) :
    stage.holds = false := by
  cases stage with
  | idle | returned => rfl
  | _ => cases atRest

/-- The lock changes hands by taking it and giving it back, and by nothing else. -/
theorem Move.holds
    {schema : Schema} {stage next : Stage} {action : Action}
    (move : Move schema stage action next) :
    (action = .acquire ∧ next.holds = true) ∨
      (action = .release ∧ stage.holds = true ∧ next.holds = false) ∨
      ((∀ thread holder, action.hold thread holder = holder) ∧ next.holds = stage.holds) := by
  cases move with
  | enterResolve name atRest | enterFields atRest =>
      rw [holds_of_isAtRest atRest]
      exact .inr (.inr ⟨fun _ _ => rfl, rfl⟩)
  | acquireResolve | acquireFields => exact .inl ⟨rfl, rfl⟩
  | release => exact .inr (.inl ⟨rfl, rfl, rfl⟩)
  | _ => exact .inr (.inr ⟨fun _ _ => rfl, rfl⟩)

/-- A catalog is stored by a thread that is about to store it; else the schema is not changed. -/
theorem Move.store
    {schema : Schema} {stage next : Stage} {action : Action}
    (move : Move schema stage action next) :
    (action.store schema = schema ∧ ∀ catalog, action ≠ .write catalog) ∨
      ∃ errand catalog, stage = .storing errand catalog ∧ action = .write catalog := by
  cases move with
  | write errand catalog => exact .inr ⟨errand, catalog, rfl, rfl⟩
  | _ => exact .inl ⟨rfl, fun _ => Action.noConfusion⟩

/-- A thread fills the cache with the lock in hand. -/
theorem holds_of_isFilling {stage : Stage} (filling : stage.isFilling = true) :
    stage.holds = true := by
  cases stage with
  | calling | fetching | storing => rfl
  | _ => cases filling

theorem holds_of_isBusy {stage : Stage} (busy : stage.isBusy = true) : stage.holds = true := by
  cases stage with
  | fetching | storing => rfl
  | _ => cases busy

/-- A thread begins to fill the cache where it has seen, with the lock, that it is empty. -/
theorem Move.isFilling
    {schema : Schema} {stage next : Stage} {action : Action}
    (move : Move schema stage action next) (filling : next.isFilling = true) :
    action.store schema = schema ∧ (action = .read none ∨ stage.isFilling = true) := by
  cases move with
  | missedLocked name => exact ⟨rfl, .inl rfl⟩
  | start errand => exact ⟨rfl, .inr filling⟩
  | finish errand received => exact ⟨rfl, .inr filling⟩
  | _ => cases filling

end Stage

namespace Shared

@[simp] theorem stage_update_self (shared : Shared) (thread : Nat) (action : Action)
    (stage : Stage) : (shared.update thread action stage).stage thread = stage := by
  simp [update]

@[simp] theorem stage_update_of_ne (shared : Shared) {thread other : Nat} (action : Action)
    (stage : Stage) (differs : other ≠ thread) :
    (shared.update thread action stage).stage other = shared.stage other := by
  simp [update, differs]

/-- A catalog is replaced, never removed. -/
theorem Step.isLoaded
    {before after : Shared} {thread : Nat} {action : Action}
    (step : before.Step thread action after) (loaded : before.schema.isLoaded = true) :
    after.schema.isLoaded = true := by
  obtain ⟨permitted, move⟩ := step
  exact action.isLoaded_store loaded

end Shared

/-! ## One thread alone -/

/-- What a schema is asked on an errand. -/
def Errand.question : Errand → Question
  | resolve name => .resolve name
  | fields => .fields

/-- What comes of an errand that ends with a catalog or an error. -/
def Errand.reply (result : Except Error Catalog) : Errand → Except Error Reply
  | resolve name => (result.bind fun catalog => catalog.resolve name).map .field
  | fields => (result.map Catalog.fields).map .fields

/-- A thread can take a shared schema from one state to another by itself. -/
def Shared.Leads (thread : Nat) (first shared : Shared) : Prop :=
  ∃ moments, Run first moments shared ∧ ∀ moment ∈ moments, moment.thread = thread

/-- A run goes on with any step that some thread can make. -/
theorem Run.move
    {first before : Shared} {moments : List Moment} {stage next : Stage} {action : Action}
    (run : Run first moments before) (thread : Nat) (isStage : before.stage thread = stage)
    (move : Stage.Move before.schema stage action next) (permitted : action.Permitted before) :
    Run first (moments ++ [⟨before, thread, action, before.update thread action next⟩])
      (before.update thread action next) := by
  subst isStage
  exact run.concat (.intro permitted move)

/-- What a thread can do by itself goes on with each of its own steps. -/
theorem Shared.Leads.move
    {first before : Shared} {thread : Nat} {stage next : Stage} {action : Action}
    (leads : first.Leads thread before) (isStage : before.stage thread = stage)
    (move : Stage.Move before.schema stage action next) (permitted : action.Permitted before) :
    first.Leads thread (before.update thread action next) := by
  obtain ⟨moments, run, alone⟩ := leads
  refine ⟨_, run.move thread isStage move permitted, fun moment member => ?_⟩
  rcases List.mem_append.mp member with earlier | isLast
  · exact alone moment earlier
  · rw [List.mem_singleton.mp isLast]

/-- A thread that asks the engine leaves the schema as the answer is received. -/
theorem Shared.Leads.request
    {first before : Shared} {thread : Nat} {errand : Errand}
    (leads : first.Leads thread before) (isCalling : before.stage thread = .calling errand)
    (answer : Except Error Json) :
    ∃ after, first.Leads thread after ∧
      after.stage thread = .returned errand (before.schema.receive answer).1 ∧
      after.schema = (before.schema.receive answer).2 := by
  have asked := leads.move isCalling (.start errand) trivial
  cases received : (before.schema.receive answer).1 with
  | error cause =>
      have failed := asked.move (stage_update_self ..) (.fail errand received) trivial
      have left := failed.move (stage_update_self ..) (.release errand _) trivial
      exact ⟨_, left, stage_update_self .., (Schema.receive_of_error received).symm⟩
  | ok catalog =>
      have answered := asked.move (stage_update_self ..) (.finish errand received) trivial
      have stored := answered.move (stage_update_self ..) (.write errand catalog) trivial
      have left := stored.move (stage_update_self ..) (.release errand _) trivial
      exact ⟨_, left, stage_update_self .., (Schema.receive_of_ok received).symm⟩

/-- A thread that is alone does what the schema does when it is asked. -/
theorem Shared.leads_of_ask
    (engine : Engine (StateM σ)) (state : σ) {shared : Shared} {thread : Nat}
    (free : shared.holder = none) (atRest : (shared.stage thread).isAtRest = true)
    (errand : Errand) :
    ∃ after result, shared.Leads thread after ∧ after.stage thread = .returned errand result ∧
      (errand.question.ask engine shared.schema state).1 = (errand.reply result, after.schema) := by
  have here : shared.Leads thread shared := ⟨[], .nil, by simp⟩
  cases errand with
  | fields =>
      have entered := here.move rfl (.enterFields atRest) trivial
      have locked := entered.move (stage_update_self ..) .acquireFields free
      obtain ⟨after, leads, returned, sameSchema⟩ := locked.request (stage_update_self ..)
        (engine.mapping shared.schema.connection shared.schema.index state).1
      refine ⟨after, _, leads, returned, ?_⟩
      rw [sameSchema]
      rfl
  | resolve name =>
      have entered := here.move rfl (.enterResolve name atRest) trivial
      cases kept : shared.schema.catalog with
      | some catalog =>
          have found := entered.move (stage_update_self ..) (.found name catalog) kept.symm
          refine ⟨_, _, found, stage_update_self .., ?_⟩
          change ((shared.schema.resolve engine name state).1.1.map Reply.field,
            (shared.schema.resolve engine name state).1.2) = _
          rw [Schema.resolve_apply, Schema.load_apply_of_some engine shared.schema state kept]
          rfl
      | none =>
          have missed := entered.move (stage_update_self ..) (.missed name) kept.symm
          have locked := missed.move (stage_update_self ..) (.acquireResolve name) free
          have missedAgain := locked.move (stage_update_self ..) (.missedLocked name) kept.symm
          obtain ⟨after, leads, returned, sameSchema⟩ := missedAgain.request (stage_update_self ..)
            (engine.mapping shared.schema.connection shared.schema.index state).1
          refine ⟨after, _, leads, returned, ?_⟩
          change ((shared.schema.resolve engine name state).1.1.map Reply.field,
            (shared.schema.resolve engine name state).1.2) = _
          rw [sameSchema, Schema.resolve_apply,
            Schema.load_apply_of_none engine shared.schema state kept]
          rfl

/-! ## The lock and the cache -/

namespace Shared

/-- A thread has the lock exactly where its stage says so. -/
def Locked (shared : Shared) : Prop :=
  ∀ thread, (shared.stage thread).holds = true ↔ shared.holder = some thread

/-- Only one thread has the lock. -/
theorem Locked.eq
    {shared : Shared} (locked : shared.Locked) {first second : Nat}
    (firstHolds : (shared.stage first).holds = true)
    (secondHolds : (shared.stage second).holds = true) :
    first = second := by
  have sameHolder := ((locked first).mp firstHolds).symm.trans ((locked second).mp secondHolds)
  exact Option.some.inj sameHolder

theorem Quiet.locked {shared : Shared} (quiet : shared.Quiet) : shared.Locked := by
  intro thread
  rw [quiet.unlocked, quiet.idle thread]
  simp [Stage.holds]

/-- The thread that steps is the only one whose stage changes, and the lock changes with it. -/
theorem Locked.step
    {before after : Shared} {thread : Nat} {action : Action}
    (locked : before.Locked) (step : before.Step thread action after) :
    after.Locked := by
  obtain @⟨stage, permitted, move⟩ := step
  intro other
  have foreign := locked other
  rcases move.holds with ⟨rfl, holds⟩ | ⟨rfl, held, notHolds⟩ | ⟨sameHolder, sameHolds⟩
  · have free : before.holder = none := permitted
    rw [free] at foreign
    by_cases same : other = thread
    · subst same
      simp [update, Action.hold, holds]
    · simpa [update, Action.hold, same, Ne.symm same] using foreign
  · have isHolder := (locked thread).mp held
    rw [isHolder] at foreign
    by_cases same : other = thread
    · subst same
      simp [update, Action.hold, notHolds]
    · simpa [update, Action.hold, same, Ne.symm same] using foreign
  · by_cases same : other = thread
    · subst same
      simpa [update, sameHolder, sameHolds] using foreign
    · simpa [update, sameHolder, same] using foreign

/-- The cache is empty while a thread that has seen it empty is about to fill it. -/
def Vacant (shared : Shared) : Prop :=
  ∀ thread, (shared.stage thread).isFilling = true → shared.schema.catalog = none

theorem Quiet.vacant {shared : Shared} (quiet : shared.Quiet) : shared.Vacant := by
  intro thread filling
  rw [quiet.idle thread] at filling
  cases filling

/-- A catalog appears only by the hand of the thread that has the lock, and no other one fills. -/
theorem Vacant.step
    {before after : Shared} {thread : Nat} {action : Action}
    (locked : before.Locked) (vacant : before.Vacant)
    (step : before.Step thread action after) :
    after.Vacant := by
  obtain @⟨stage, permitted, move⟩ := step
  intro other filling
  by_cases same : other = thread
  · subst same
    rw [stage_update_self] at filling
    obtain ⟨sameSchema, rfl | already⟩ := move.isFilling filling
    · exact permitted.symm
    · rw [update, sameSchema]
      exact vacant other already
  · rw [stage_update_of_ne _ _ _ same] at filling
    rcases move.store with ⟨sameSchema, noWrite⟩ | ⟨errand, catalog, isStoring, -⟩
    · rw [update, sameSchema]
      exact vacant other filling
    · -- The thread that stores a catalog has the lock, so no other one is filling the cache.
      have holds : (before.stage thread).holds = true := by rw [isStoring]; rfl
      exact absurd (locked.eq (Stage.holds_of_isFilling filling) holds) same

end Shared

/-- In every run that begins with all threads at rest, the lock is where the stages say. -/
theorem Run.locked
    {first shared : Shared} {moments : List Moment}
    (quiet : first.Quiet) (run : Run first moments shared) :
    shared.Locked := by
  induction run with
  | nil => exact quiet.locked
  | concat run step inductionHypothesis => exact inductionHypothesis.step step

/-- In every such run, a thread that fills the cache finds it empty. -/
theorem Run.vacant
    {first shared : Shared} {moments : List Moment}
    (quiet : first.Quiet) (run : Run first moments shared) :
    shared.Vacant := by
  induction run with
  | nil => exact quiet.vacant
  | concat run step inductionHypothesis =>
      exact inductionHypothesis.step (run.locked quiet) step

end Sharing
end FilterQuery
