import FilterQuery.Proofs.Sharing
import FilterQuery.Proofs.Transparency

/-!
# Single flight

Main statement: threads that share a schema have at most one request for the
mapping under way at any time, and the catalog is never lost. Where only names
are resolved and no request fails, there is at most one request, and its catalog
answers all. The proofs look at what has happened in a run before.
-/

namespace FilterQuery
namespace Sharing

/-! ## What a thread has done before -/

namespace Moment

/-- The actions of one thread. -/
def own (thread : Nat) (moments : List Moment) : List Action :=
  (moments.filter (·.thread = thread)).map Moment.action

/-- The actions of a thread grow by the moments that are its own. -/
theorem own_concat (thread : Nat) (moments : List Moment) (moment : Moment) :
    own thread (moments ++ [moment]) =
      own thread moments ++ if moment.thread = thread then [moment.action] else [] := by
  by_cases same : moment.thread = thread <;> simp [own, same]

end Moment

namespace Stage

/-- How the actions of a thread end that has come to a stage: it looks for the catalog when it has
just taken the lock, and asks the engine when it has found none. -/
def EndsIn (actions : List Action) : Stage → Prop
  | checking _ => ∃ earlier, actions = earlier ++ [.acquire]
  | calling (.resolve _) => ∃ earlier, actions = earlier ++ [.acquire, .read none]
  | _ => True

/-- A step leaves the thread at a stage that agrees with its actions, the new one included. -/
theorem Move.endsIn
    {schema : Schema} {stage next : Stage} {action : Action} {actions : List Action}
    (move : Move schema stage action next) (ends : stage.EndsIn actions) :
    next.EndsIn (actions ++ [action]) := by
  cases move with
  | acquireResolve name => exact ⟨actions, rfl⟩
  | missedLocked name =>
      obtain ⟨earlier, rfl⟩ := ends
      exact ⟨earlier, by simp⟩
  | _ => trivial

end Stage

/-- The stage of every thread agrees with what it has done. -/
theorem Run.endsIn
    {first shared : Shared} {moments : List Moment}
    (quiet : first.Quiet) (run : Run first moments shared) (thread : Nat) :
    (shared.stage thread).EndsIn (Moment.own thread moments) := by
  induction run with
  | nil =>
      rw [quiet.idle]
      trivial
  | @concat moments before after mover action run step inductionHypothesis =>
      obtain @⟨stage, permitted, move⟩ := step
      by_cases same : thread = mover
      · subst same
        rw [Shared.stage_update_self, Moment.own_concat, if_pos rfl]
        exact move.endsIn inductionHypothesis
      · rw [Shared.stage_update_of_ne _ _ _ same, Moment.own_concat, if_neg (Ne.symm same),
          List.append_nil]
        exact inductionHypothesis

/-! ## Where results come from -/

section Origins

variable (first : Shared) (moments : List Moment)

/-- A catalog is made of an answer that the engine gave in the run. -/
def Received (catalog : Catalog) : Prop :=
  ∃ moment ∈ moments, ∃ answer, moment.action = .finish answer ∧
    (first.schema.receive answer).1 = .ok catalog

/-- A result has its reason in a run: a catalog was there from the beginning or was stored, and an
error is that of a request. -/
def Known : Except Error Catalog → Prop
  | .ok catalog =>
      first.schema.catalog = some catalog ∨ ∃ moment ∈ moments, moment.action = .write catalog
  | .error cause =>
      ∃ moment ∈ moments, ∃ answer, moment.action = .finish answer ∧
        (first.schema.receive answer).1 = .error cause

/-- What a thread has in its hands has its reason in a run. -/
def Stage.Founded : Stage → Prop
  | storing _ catalog => Received first moments catalog
  | leaving _ result | returned _ result => Known first moments result
  | _ => True

end Origins

/-- An answer that was given stays given. -/
theorem Received.mono
    {first : Shared} {moments more : List Moment} {catalog : Catalog}
    (received : Received first moments catalog) :
    Received first (moments ++ more) catalog := by
  obtain ⟨moment, member, received⟩ := received
  exact ⟨moment, List.mem_append_left more member, received⟩

/-- What has its reason in a run has it in every longer run. -/
theorem Known.mono
    {first : Shared} {moments more : List Moment} {result : Except Error Catalog}
    (known : Known first moments result) :
    Known first (moments ++ more) result := by
  cases result with
  | ok catalog =>
      rcases known with atFirst | ⟨moment, member, stored⟩
      · exact .inl atFirst
      · exact .inr ⟨moment, List.mem_append_left more member, stored⟩
  | error cause =>
      obtain ⟨moment, member, failed⟩ := known
      exact ⟨moment, List.mem_append_left more member, failed⟩

theorem Stage.Founded.mono
    {first : Shared} {moments more : List Moment} {stage : Stage}
    (founded : stage.Founded first moments) :
    stage.Founded first (moments ++ more) := by
  cases stage with
  | storing errand catalog => exact Received.mono founded
  | leaving errand result | returned errand result => exact Known.mono founded
  | _ => trivial

/-- What is true of all catalogs and results in a run. -/
structure Founded (first : Shared) (moments : List Moment) (shared : Shared) : Prop where
  receive (answer : Except Error Json) :
    (shared.schema.receive answer).1 = (first.schema.receive answer).1
  stage (thread : Nat) : (shared.stage thread).Founded first moments
  cached {catalog : Catalog} (isCached : shared.schema.catalog = some catalog) :
    Known first moments (.ok catalog)
  stored {moment : Moment} (member : moment ∈ moments) {catalog : Catalog}
    (isStored : moment.action = .write catalog) : Received first moments catalog

/-- How an answer is read does not depend on the catalog that is stored. -/
theorem Action.receive_store (action : Action) (schema : Schema) (answer : Except Error Json) :
    ((action.store schema).receive answer).1 = (schema.receive answer).1 := by
  cases action with
  | write catalog => apply Schema.receive_congr <;> rfl
  | _ => rfl

/-- A thread learns only what it sees in the schema, is answered, or had in its hands before. -/
theorem Founded.move
    {first shared : Shared} {moments : List Moment} {moment : Moment} {next : Stage}
    (founded : Founded first moments shared)
    (permitted : moment.action.Permitted shared)
    (move : Stage.Move shared.schema (shared.stage moment.thread) moment.action next) :
    next.Founded first (moments ++ [moment]) := by
  have last : moment ∈ moments ++ [moment] := by simp
  have before := founded.stage moment.thread
  generalize shared.stage moment.thread = stage at move before
  generalize isAction : moment.action = action at move permitted
  cases move with
  | found name catalog | foundLocked name catalog => exact (founded.cached permitted.symm).mono
  | finish errand received =>
      rw [founded.receive] at received
      exact ⟨moment, last, _, isAction, received⟩
  | fail errand failed =>
      rw [founded.receive] at failed
      exact ⟨moment, last, _, isAction, failed⟩
  | write errand catalog => exact .inr ⟨moment, last, isAction⟩
  | release errand result => exact Known.mono before
  | _ => trivial

/-- At the beginning no thread has anything in its hands. -/
theorem Shared.Quiet.founded {first : Shared} (quiet : first.Quiet) : Founded first [] first where
  receive _ := rfl
  stage thread := by
    rw [quiet.idle]
    trivial
  cached isCached := .inl isCached
  stored member := absurd member List.not_mem_nil

/-- A step of one thread founds what it stores and what it learns, and leaves the others as they
are. -/
theorem Founded.step
    {first before after : Shared} {moments : List Moment} {thread : Nat} {action : Action}
    (founded : Founded first moments before) (step : before.Step thread action after) :
    Founded first (moments ++ [⟨before, thread, action, after⟩]) after := by
  obtain @⟨stage, permitted, move⟩ := step
  generalize isMoment : Moment.mk before thread action _ = moment
  have last : moment ∈ moments ++ [moment] := by simp
  refine ⟨fun answer => ?_, fun other => ?_, fun {catalog} isCached => ?_, ?_⟩
  · exact (action.receive_store before.schema answer).trans (founded.receive answer)
  · by_cases same : other = thread
    · subst same
      rw [Shared.stage_update_self]
      subst isMoment
      exact founded.move permitted move
    · rw [Shared.stage_update_of_ne _ _ _ same]
      exact (founded.stage other).mono
  · rcases move.store with ⟨sameSchema, noWrite⟩ | ⟨errand, stored, -, rfl⟩
    · simp only [Shared.update, sameSchema] at isCached
      exact (founded.cached isCached).mono
    · obtain rfl := Option.some.inj isCached
      exact .inr ⟨moment, last, by rw [← isMoment]⟩
  · intro other member catalog isStored
    rcases List.mem_append.mp member with earlier | isLast
    · exact (founded.stored earlier isStored).mono
    · -- The thread that stores a catalog was about to do so.
      rw [List.mem_singleton.mp isLast, ← isMoment] at isStored
      have made := founded.stage thread
      rcases move.store with ⟨sameSchema, noWrite⟩ | ⟨errand, stored, isStoring, isWrite⟩
      · exact absurd isStored (noWrite catalog)
      · obtain rfl : stored = catalog := Action.write.inj (isWrite.symm.trans isStored)
        rw [isStoring] at made
        exact Received.mono made

/-! ## Requests that are under way -/

namespace Action

def isStart : Action → Bool
  | start => true
  | _ => false

def isFinish : Action → Bool
  | finish _ => true
  | _ => false

theorem isStart_eq_true_iff {action : Action} : action.isStart = true ↔ action = .start := by
  cases action <;> simp [isStart]

end Action

namespace Moment

/-- The number of requests that were begun. -/
def starts (moments : List Moment) : Nat :=
  moments.countP (·.action.isStart)

/-- The number of requests that were answered. -/
def finishes (moments : List Moment) : Nat :=
  moments.countP (·.action.isFinish)

theorem starts_concat (moments : List Moment) (moment : Moment) :
    starts (moments ++ [moment]) = starts moments + moment.action.isStart.toNat := by
  cases isStart : moment.action.isStart <;> simp [starts, isStart]

theorem finishes_concat (moments : List Moment) (moment : Moment) :
    finishes (moments ++ [moment]) = finishes moments + moment.action.isFinish.toNat := by
  cases isFinish : moment.action.isFinish <;> simp [finishes, isFinish]

end Moment

namespace Stage

/-- Requests are made with the lock in hand. -/
theorem holds_of_isFetching {stage : Stage} (fetching : stage.isFetching = true) :
    stage.holds = true := by
  cases stage with
  | fetching => rfl
  | _ => cases fetching

theorem isFetching_of_not_holds {stage : Stage} (unlocked : stage.holds = false) :
    stage.isFetching = false := by
  cases stage with
  | fetching => cases unlocked
  | _ => rfl

/-- A request is under way from where it is begun to where it is answered. -/
theorem Move.isFetching
    {schema : Schema} {stage next : Stage} {action : Action}
    (move : Move schema stage action next) :
    stage.isFetching.toNat + action.isStart.toNat =
      next.isFetching.toNat + action.isFinish.toNat := by
  cases move with
  | enterResolve name atRest | enterFields atRest =>
      rw [isFetching_of_not_holds (holds_of_isAtRest atRest)]
      rfl
  | _ => rfl

end Stage

/-- The number of requests that are under way; the thread that has the lock can have one. -/
def Shared.underway (shared : Shared) : Nat :=
  match shared.holder with
  | none => 0
  | some thread => (shared.stage thread).isFetching.toNat

/-- There is one lock, so there is one request under way at most. -/
theorem Shared.underway_le_one (shared : Shared) : shared.underway ≤ 1 := by
  unfold underway
  cases shared.holder with
  | none => exact Nat.zero_le 1
  | some thread => exact Bool.toNat_le _

/-- In one step a request is begun, is answered, or stays as it is. -/
theorem Shared.Locked.underway_step
    {before after : Shared} {thread : Nat} {action : Action}
    (locked : before.Locked) (step : before.Step thread action after) :
    before.underway + action.isStart.toNat = after.underway + action.isFinish.toNat := by
  obtain @⟨stage, permitted, move⟩ := step
  have own := move.isFetching
  have isHolder := locked thread
  rcases move.holds with ⟨rfl, -⟩ | ⟨rfl, held, notHolds⟩ | ⟨sameHolder, sameHolds⟩
  · have free : before.holder = none := permitted
    have notHeld : (before.stage thread).holds = false := by simpa [free] using isHolder
    rw [Stage.isFetching_of_not_holds notHeld] at own
    simpa [underway, update, Action.hold, free] using own
  · rw [Stage.isFetching_of_not_holds notHolds] at own
    simpa [underway, update, Action.hold, isHolder.mp held] using own
  · by_cases held : before.holder = some thread
    · simpa [underway, update, sameHolder, held] using own
    · have notHeld : (before.stage thread).holds = false := by simpa [held] using isHolder
      rw [Stage.isFetching_of_not_holds notHeld,
        Stage.isFetching_of_not_holds (sameHolds.trans notHeld)] at own
      have sameUnderway : (before.update thread action stage).underway = before.underway := by
        unfold underway update
        simp only [sameHolder]
        cases isOther : before.holder with
        | none => rfl
        | some other =>
            have differs : other ≠ thread := fun same => held (by rw [isOther, same])
            simp only [if_neg differs]
      rw [sameUnderway]
      omega

/-- The requests that were begun are those that were answered and the one that is under way. -/
theorem Run.starts_eq
    {first shared : Shared} {moments : List Moment}
    (quiet : first.Quiet) (run : Run first moments shared) :
    Moment.starts moments = Moment.finishes moments + shared.underway := by
  induction run with
  | nil =>
      rw [Shared.underway, quiet.unlocked]
      rfl
  | concat run step inductionHypothesis =>
      have locked := run.locked quiet
      have balance := locked.underway_step step
      rw [Moment.starts_concat, Moment.finishes_concat]
      dsimp only
      omega

/-- There is no catalog without an answer. -/
theorem Received.finishes_pos
    {first : Shared} {moments : List Moment} {catalog : Catalog}
    (received : Received first moments catalog) :
    0 < Moment.finishes moments := by
  obtain ⟨moment, member, answer, finished, -⟩ := received
  exact List.countP_pos_iff.mpr ⟨moment, member, by rw [finished]; rfl⟩

/-! ## Runs that only resolve names -/

namespace Stage

/-- A thread lists the fields if it was asked to, and then until it is done. -/
theorem Move.isListing
    {schema : Schema} {stage next : Stage} {action : Action}
    (move : Move schema stage action next) (listing : next.isListing = true) :
    action = .enter .fields ∨ stage.isListing = true := by
  cases move with
  | enterFields atRest => exact .inl rfl
  | enterResolve | acquireResolve => cases listing
  | found | missed | foundLocked | missedLocked => cases listing
  | acquireFields => exact .inr rfl
  | start | finish | fail | write | release => exact .inr listing

/-- A thread is busy until it stores its catalog or its request fails. -/
theorem Move.isBusy
    {schema : Schema} {stage next : Stage} {action : Action}
    (move : Move schema stage action next) (busy : stage.isBusy = true) :
    next.isBusy = true ∨ (∃ catalog, action = .write catalog) ∨
      ∃ answer cause, action = .finish answer ∧ (schema.receive answer).1 = .error cause := by
  cases move with
  | finish errand received => exact .inl rfl
  | fail errand failed => exact .inr (.inr ⟨_, _, rfl, failed⟩)
  | write errand catalog => exact .inr (.inl ⟨catalog, rfl⟩)
  | enterResolve name atRest | enterFields atRest =>
      have holds := holds_of_isBusy busy
      rw [holds_of_isAtRest atRest] at holds
      cases holds
  | _ => cases busy

/-- A request is begun by a thread that is about to ask, for the same errand. -/
theorem Move.calling_of_start
    {schema : Schema} {stage next : Stage}
    (move : Move schema stage .start next) :
    ∃ errand, stage = .calling errand ∧ next = .fetching errand := by
  cases move with
  | start errand => exact ⟨errand, rfl, rfl⟩

/-- A thread that asks, but does not list the fields, fills the cache. -/
theorem isFilling_of_not_listing
    {stage : Stage} (notListing : stage.isListing = false)
    (asks : (∃ errand, stage = .calling errand) ∨
      ∃ errand catalog, stage = .storing errand catalog) :
    stage.isFilling = true := by
  rcases asks with ⟨errand, rfl⟩ | ⟨errand, catalog, rfl⟩
  · simpa [isListing, isFilling] using notListing
  · simpa [isListing, isFilling] using notListing

end Stage

/-- Nobody lists the fields, and every answer of the engine is good for a catalog. -/
structure Peaceful (first : Shared) (moments : List Moment) : Prop where
  noListing {moment : Moment} (member : moment ∈ moments) : moment.action ≠ .enter .fields
  noFailure {moment : Moment} (member : moment ∈ moments) {answer : Except Error Json}
    (finished : moment.action = .finish answer) :
    ∃ catalog, (first.schema.receive answer).1 = .ok catalog

/-- A run is peaceful up to each of its moments. -/
theorem Peaceful.of_append
    {first : Shared} {moments more : List Moment}
    (peaceful : Peaceful first (moments ++ more)) : Peaceful first moments where
  noListing member := peaceful.noListing (List.mem_append_left more member)
  noFailure member := peaceful.noFailure (List.mem_append_left more member)

/-- What is true of runs in which names are resolved and no request fails. -/
structure Calm (first : Shared) (moments : List Moment) (shared : Shared) : Prop where
  lookups (thread : Nat) : (shared.stage thread).isListing = false
  /-- After a request was begun, its catalog is stored or some thread is about to store it. -/
  underway (begun : 0 < Moment.starts moments) :
    shared.schema.isLoaded = true ∨ ∃ thread, (shared.stage thread).isBusy = true
  /-- A catalog that was there at some time is still there. -/
  kept {catalog : Catalog} (known : Known first moments (.ok catalog)) :
    shared.schema.catalog = some catalog
  atMostOne : Moment.starts moments ≤ 1
  needless (loaded : first.schema.isLoaded = true) : Moment.starts moments = 0

theorem Shared.Quiet.calm {first : Shared} (quiet : first.Quiet) : Calm first [] first where
  lookups thread := by
    rw [quiet.idle]
    rfl
  underway begun := absurd begun (Nat.lt_irrefl 0)
  kept known := by
    rcases known with atFirst | ⟨moment, member, -⟩
    · exact atFirst
    · cases member
  atMostOne := Nat.zero_le 1
  needless _ := rfl

section CalmStep

variable {first before after : Shared} {moments : List Moment} {thread : Nat} {action : Action}

/-- If no listing of the fields begins, there is none. -/
theorem Calm.lookups_step
    (calm : Calm first moments before) (noListing : action ≠ .enter .fields)
    (step : before.Step thread action after) (other : Nat) :
    (after.stage other).isListing = false := by
  obtain @⟨stage, permitted, move⟩ := step
  by_cases same : other = thread
  · subst same
    rw [Shared.stage_update_self]
    cases listing : stage.isListing with
    | false => rfl
    | true =>
        rcases move.isListing listing with entered | already
        · exact absurd entered noListing
        · rw [calm.lookups] at already
          cases already
  · rw [Shared.stage_update_of_ne _ _ _ same]
    exact calm.lookups other

/-- No request is begun where one was begun before. -/
theorem Calm.starts_of_start
    (calm : Calm first moments before) (locked : before.Locked) (vacant : before.Vacant)
    (step : before.Step thread .start after) :
    before.schema.catalog = none ∧ Moment.starts moments = 0 := by
  obtain @⟨stage, permitted, move⟩ := step
  obtain ⟨errand, isCalling, -⟩ := move.calling_of_start
  have empty := vacant thread
    (Stage.isFilling_of_not_listing (calm.lookups thread) (.inl ⟨errand, isCalling⟩))
  refine ⟨empty, Nat.eq_zero_of_not_pos fun begun => ?_⟩
  rcases calm.underway begun with loaded | ⟨other, busy⟩
  · simp [Schema.isLoaded, empty] at loaded
  · -- The busy thread has the lock, and so has the one that is about to begin a request.
    have holds : (before.stage thread).holds = true := by rw [isCalling]; rfl
    obtain rfl := locked.eq (Stage.holds_of_isBusy busy) holds
    rw [isCalling] at busy
    cases busy

/-- What is stored stays, so that all that is known is stored. -/
theorem Calm.kept_step
    (calm : Calm first moments before) (vacant : before.Vacant)
    (step : before.Step thread action after)
    {catalog : Catalog}
    (known : Known first (moments ++ [⟨before, thread, action, after⟩]) (.ok catalog)) :
    after.schema.catalog = some catalog := by
  have earlierOrLast : Known first moments (.ok catalog) ∨ action = .write catalog := by
    rcases known with atFirst | ⟨moment, member, stored⟩
    · exact .inl (.inl atFirst)
    · rcases List.mem_append.mp member with earlier | isLast
      · exact .inl (.inr ⟨moment, earlier, stored⟩)
      · rw [List.mem_singleton.mp isLast] at stored
        exact .inr stored
  obtain @⟨stage, permitted, move⟩ := step
  rcases move.store with ⟨sameSchema, noWrite⟩ | ⟨errand, stored, isStoring, rfl⟩
  · rcases earlierOrLast with earlier | isLast
    · rw [Shared.update, sameSchema]
      exact calm.kept earlier
    · exact absurd isLast (noWrite catalog)
  · rcases earlierOrLast with earlier | isLast
    · -- The cache is empty before a catalog is stored, so none was known.
      have empty := vacant thread (Stage.isFilling_of_not_listing (calm.lookups thread)
        (.inr ⟨errand, stored, isStoring⟩))
      rw [calm.kept earlier] at empty
      cases empty
    · rw [Action.write.inj isLast]
      rfl

/-- Once a request was begun, a catalog is stored or there is a thread that will store one. -/
theorem Calm.underway_step
    (calm : Calm first moments before)
    (noFailure : ∀ answer, action = .finish answer →
      ∃ catalog, (before.schema.receive answer).1 = .ok catalog)
    (step : before.Step thread action after)
    (begun : 0 < Moment.starts moments + action.isStart.toNat) :
    after.schema.isLoaded = true ∨ ∃ thread, (after.stage thread).isBusy = true := by
  obtain @⟨stage, permitted, move⟩ := step
  cases isStart : action.isStart with
  | true =>
      obtain rfl := Action.isStart_eq_true_iff.mp isStart
      obtain ⟨errand, -, rfl⟩ := move.calling_of_start
      exact .inr ⟨thread, by rw [Shared.stage_update_self]; rfl⟩
  | false =>
      rw [isStart, Bool.toNat_false, Nat.add_zero] at begun
      rcases calm.underway begun with loaded | ⟨other, busy⟩
      · exact .inl (action.isLoaded_store loaded)
      · by_cases same : other = thread
        · subst same
          rcases move.isBusy busy with
            stillBusy | ⟨catalog, rfl⟩ | ⟨answer, cause, finished, failed⟩
          · exact .inr ⟨other, by rw [Shared.stage_update_self]; exact stillBusy⟩
          · exact .inl rfl
          · obtain ⟨catalog, received⟩ := noFailure answer finished
            rw [failed] at received
            cases received
        · exact .inr ⟨other, by rw [Shared.stage_update_of_ne _ _ _ same]; exact busy⟩

/-- A step of a peaceful run leaves it calm: this needs the lock, the double look at the cache, and
that every catalog has its reason. -/
theorem Calm.step
    (calm : Calm first moments before) (locked : before.Locked) (vacant : before.Vacant)
    (founded : Founded first moments before) (step : before.Step thread action after)
    (peaceful : Peaceful first (moments ++ [⟨before, thread, action, after⟩])) :
    Calm first (moments ++ [⟨before, thread, action, after⟩]) after := by
  have last :
      Moment.mk before thread action after ∈ moments ++ [⟨before, thread, action, after⟩] := by
    simp
  have noListing : action ≠ .enter .fields := peaceful.noListing last
  have noFailure (answer : Except Error Json) (finished : action = .finish answer) :
      ∃ catalog, (before.schema.receive answer).1 = .ok catalog := by
    rw [founded.receive]
    exact peaceful.noFailure last finished
  refine ⟨calm.lookups_step noListing step, fun begun => ?_, calm.kept_step vacant step, ?_, ?_⟩
  · rw [Moment.starts_concat] at begun
    exact calm.underway_step noFailure step begun
  · have onlyOne := calm.atMostOne
    have noStart (isStart : action.isStart = true) : Moment.starts moments = 0 := by
      obtain rfl := Action.isStart_eq_true_iff.mp isStart
      exact (calm.starts_of_start locked vacant step).2
    rw [Moment.starts_concat]
    cases isStart : action.isStart with
    | false => simpa [isStart] using onlyOne
    | true => simp [noStart isStart]
  · intro loaded
    have none := calm.needless loaded
    rw [Moment.starts_concat]
    cases isStart : action.isStart with
    | false => simpa [isStart] using none
    | true =>
        obtain rfl := Action.isStart_eq_true_iff.mp isStart
        obtain ⟨catalog, atFirst⟩ := Option.isSome_iff_exists.mp loaded
        have empty := (calm.starts_of_start locked vacant step).1
        rw [calm.kept (.inl atFirst)] at empty
        cases empty

end CalmStep

/-! ## Whole runs -/

namespace Run

variable {first shared : Shared} {moments : List Moment}

theorem founded (quiet : first.Quiet) (run : Run first moments shared) :
    Founded first moments shared := by
  induction run with
  | nil => exact quiet.founded
  | concat run step inductionHypothesis => exact inductionHypothesis.step step

/-- By induction on the run; each of its prefixes is peaceful. -/
theorem calm (quiet : first.Quiet) (run : Run first moments shared)
    (peaceful : Peaceful first moments) :
    Calm first moments shared := by
  induction run with
  | nil => exact quiet.calm
  | concat run step inductionHypothesis =>
      exact (inductionHypothesis peaceful.of_append).step (run.locked quiet) (run.vacant quiet)
        (run.founded quiet) step peaceful

/-- A run is a run up to each of its moments. -/
theorem split
    (run : Run first moments shared) {earlier later : List Moment} {moment : Moment}
    (isSplit : moments = earlier ++ moment :: later) :
    Run first earlier moment.before ∧
      moment.before.Step moment.thread moment.action moment.after := by
  induction run generalizing later with
  | nil => simp at isSplit
  | concat run step inductionHypothesis =>
      rcases List.eq_nil_or_concat later with rfl | ⟨middle, last, rfl⟩
      · obtain ⟨rfl, isLast⟩ := List.append_inj' isSplit rfl
        obtain rfl := List.singleton_inj.mp isLast
        exact ⟨run, step⟩
      · rw [List.concat_eq_append, ← List.cons_append, ← List.append_assoc] at isSplit
        obtain ⟨isEarlier, -⟩ := List.append_inj' isSplit rfl
        exact inductionHypothesis isEarlier

theorem exists_of_append {earlier later : List Moment}
    (run : Run first (earlier ++ later) shared) :
    ∃ middle, Run first earlier middle := by
  cases later with
  | nil =>
      rw [List.append_nil] at run
      exact ⟨shared, run⟩
  | cons moment rest => exact ⟨moment.before, (run.split rfl).1⟩

/-- At every point of a run, as many requests were begun as were answered, or one more. -/
theorem starts_eq_or {earlier later : List Moment}
    (quiet : first.Quiet) (run : Run first (earlier ++ later) shared) :
    Moment.starts earlier = Moment.finishes earlier ∨
      Moment.starts earlier = Moment.finishes earlier + 1 := by
  obtain ⟨middle, runEarlier⟩ := run.exists_of_append
  have balance := runEarlier.starts_eq quiet
  have atMostOne := middle.underway_le_one
  omega

/-- A result in the hands of a thread, at any moment of a peaceful run, is the catalog that is
stored in the end. -/
theorem stored_of_returned
    (quiet : first.Quiet) (run : Run first moments shared) (peaceful : Peaceful first moments)
    {moment : Moment} (member : moment ∈ moments) {thread : Nat} {errand : Errand}
    {result : Except Error Catalog}
    (returned : moment.after.stage thread = .returned errand result) :
    ∃ catalog, result = .ok catalog ∧ shared.schema.catalog = some catalog ∧
      Known first moments (.ok catalog) := by
  obtain ⟨earlier, later, isSplit⟩ := List.append_of_mem member
  obtain ⟨runBefore, step⟩ := run.split isSplit
  have founded := ((runBefore.concat step).founded quiet).stage thread
  rw [returned] at founded
  have known : Known first moments result := by
    have atEnd : Known first (earlier ++ [moment] ++ later) result := Known.mono founded
    rwa [List.append_assoc, List.singleton_append, ← isSplit] at atEnd
  cases result with
  | ok catalog => exact ⟨catalog, rfl, (run.calm quiet peaceful).kept known, known⟩
  | error cause =>
      obtain ⟨other, isOther, answer, finished, failed⟩ := known
      obtain ⟨catalog, received⟩ := peaceful.noFailure isOther finished
      rw [failed] at received
      cases received

/-- Threads that share a schema have at most one request under way at any time: only one thread has
one, and as many were begun as were answered, or one more. The catalog is never removed. A thread
that asks because it wants a name has seen, with the lock, that there is no catalog. If nobody lists
the fields and no request fails, there is at most one request, and all names are resolved from one
catalog: the one that was there, or the one of that request. A thread that is left alone does what
the schema does when it is asked. -/
theorem single_flight (quiet : first.Quiet) (run : Run first moments shared) :
    (∀ moment ∈ moments, ∀ one other, (moment.after.stage one).isFetching = true →
        (moment.after.stage other).isFetching = true → one = other) ∧
      (∀ earlier later, moments = earlier ++ later →
        Moment.starts earlier = Moment.finishes earlier ∨
          Moment.starts earlier = Moment.finishes earlier + 1) ∧
      (∀ moment ∈ moments, moment.before.schema.isLoaded = true →
        moment.after.schema.isLoaded = true) ∧
      (∀ earlier moment later name, moments = earlier ++ moment :: later →
        moment.action = .start → moment.before.stage moment.thread = .calling (.resolve name) →
          moment.before.schema.catalog = none ∧
            ∃ actions, Moment.own moment.thread earlier = actions ++ [.acquire, .read none]) ∧
      (Peaceful first moments →
        Moment.starts moments ≤ 1 ∧
          ∀ moment ∈ moments, ∀ thread name result,
            moment.after.stage thread = .returned (.resolve name) result →
              ∃ catalog, result = .ok catalog ∧ shared.schema.catalog = some catalog ∧
                (first.schema.catalog = some catalog ∧ Moment.starts moments = 0 ∨
                  Moment.starts moments = 1 ∧ Received first moments catalog)) ∧
      ∀ (σ : Type) (engine : Engine (StateM σ)) (state : σ) (thread : Nat) (errand : Errand),
        shared.holder = none → (shared.stage thread).isAtRest = true →
          ∃ after result, shared.Leads thread after ∧
            after.stage thread = .returned errand result ∧
            (errand.question.ask engine shared.schema state).1 =
              (errand.reply result, after.schema) := by
  refine ⟨?_, fun earlier later isSplit => starts_eq_or quiet (isSplit ▸ run),
    fun moment member loaded => ?_, ?_, fun peaceful => ?_, ?_⟩
  · intro moment member one other oneFetching otherFetching
    obtain ⟨earlier, later, isSplit⟩ := List.append_of_mem member
    obtain ⟨runBefore, step⟩ := run.split isSplit
    exact ((runBefore.concat step).locked quiet).eq (Stage.holds_of_isFetching oneFetching)
      (Stage.holds_of_isFetching otherFetching)
  · obtain ⟨earlier, later, isSplit⟩ := List.append_of_mem member
    exact (run.split isSplit).2.isLoaded loaded
  · intro earlier moment later name isSplit isStart isCalling
    obtain ⟨runBefore, -⟩ := run.split isSplit
    have ends := runBefore.endsIn quiet moment.thread
    rw [isCalling] at ends
    exact ⟨runBefore.vacant quiet moment.thread (by rw [isCalling]; rfl), ends⟩
  · have calm := run.calm quiet peaceful
    refine ⟨calm.atMostOne, fun moment member thread name result returned => ?_⟩
    obtain ⟨catalog, isOk, isStored, known⟩ := run.stored_of_returned quiet peaceful member returned
    refine ⟨catalog, isOk, isStored, ?_⟩
    rcases known with atFirst | ⟨other, isOther, written⟩
    · exact .inl ⟨atFirst, calm.needless (by rw [Schema.isLoaded, atFirst]; rfl)⟩
    · have received := (run.founded quiet).stored isOther written
      have answered := received.finishes_pos
      have balance := run.starts_eq quiet
      have notMore := calm.atMostOne
      exact .inr ⟨by omega, received⟩
  · intro σ engine state thread errand free atRest
    exact Shared.leads_of_ask engine state free atRest errand

end Run

namespace Sample

/-- A schema that has not been asked anything. -/
def unused : Shared :=
  ⟨⟨"books", ⟨0⟩, [], .noop, none, 5, none⟩, none, fun _ => .idle⟩

def answer : Except Error Json :=
  .ok (Memory.wrap "books" FilterQuery.Sample.mappings)

def catalog : Catalog :=
  ⟨[⟨"title", .keyword, "keyword", none, false⟩, ⟨"owner", .keyword, "keyword", none, false⟩,
    ⟨"year", .long, "long", none, false⟩]⟩

/-- Two threads see no catalog. The second one gets the lock and asks the engine; the first one
finds the catalog when it gets the lock after that. -/
def race : List (Nat × Action) :=
  [(0, .enter (.resolve "title")), (1, .enter (.resolve "year")), (0, .read none), (1, .read none),
    (1, .acquire), (1, .read none), (1, .start), (1, .finish answer), (1, .write catalog),
    (1, .release), (0, .acquire), (0, .read (some catalog)), (0, .release)]

theorem quiet_unused : unused.Quiet := ⟨rfl, fun _ => rfl⟩

/-- The race can be run to its end, where both threads have the same catalog. -/
theorem exists_race :
    ∃ moments shared, Run unused moments shared ∧
      moments.map (fun moment => (moment.thread, moment.action)) = race ∧
      shared.stage 0 = .returned (.resolve "title") (.ok catalog) ∧
      shared.stage 1 = .returned (.resolve "year") (.ok catalog) := by
  have received : (unused.schema.receive answer).1 = .ok catalog := rfl
  have nothing : Run unused [] unused := .nil
  have entered := nothing.move 0 rfl (.enterResolve "title" rfl) trivial
    |>.move 1 rfl (.enterResolve "year" rfl) trivial
  have missed := entered.move 0 rfl (.missed "title") rfl |>.move 1 rfl (.missed "year") rfl
  have asked := missed.move 1 rfl (.acquireResolve "year") rfl
    |>.move 1 rfl (.missedLocked "year") rfl |>.move 1 rfl (.start _) trivial
  have stored := asked.move 1 rfl (.finish _ received) trivial
    |>.move 1 rfl (.write _ catalog) trivial |>.move 1 rfl (.release _ _) trivial
  have found := stored.move 0 rfl (.acquireResolve "title") rfl
    |>.move 0 rfl (.foundLocked "title" catalog) rfl |>.move 0 rfl (.release _ _) trivial
  exact ⟨_, _, found, rfl, rfl, rfl⟩

/-- Whether a run is peaceful is seen from its actions; those of the race are lookups with good
answers. -/
theorem peaceful_of_race
    {moments : List Moment}
    (isRace : moments.map (fun moment => (moment.thread, moment.action)) = race) :
    Peaceful unused moments := by
  have inRace (moment : Moment) (member : moment ∈ moments) :
      (moment.thread, moment.action) ∈ race := by
    rw [← isRace]
    exact List.mem_map_of_mem member
  refine ⟨fun {moment} member isListing => ?_, fun {moment} member {given} finished => ?_⟩
  · have listed := inRace moment member
    simp [race, isListing] at listed
  · have listed := inRace moment member
    obtain ⟨-, rfl⟩ : moment.thread = 1 ∧ given = answer := by simpa [race, finished] using listed
    exact ⟨catalog, rfl⟩

end Sample

theorem Run.single_flight_race :
    ∃ moments shared, Run Sample.unused moments shared ∧ Peaceful Sample.unused moments ∧
      Moment.starts moments ≤ 1 ∧
      shared.stage 0 = .returned (.resolve "title") (.ok Sample.catalog) ∧
      shared.stage 1 = .returned (.resolve "year") (.ok Sample.catalog) := by
  obtain ⟨moments, shared, run, isRace, firstReturned, secondReturned⟩ := Sample.exists_race
  have peaceful := Sample.peaceful_of_race isRace
  have atMostOne := ((single_flight Sample.quiet_unused run).2.2.2.2.1 peaceful).1
  exact ⟨moments, shared, run, peaceful, atMostOne, firstReturned, secondReturned⟩

end Sharing
end FilterQuery
