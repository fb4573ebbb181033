import FilterQuery.Proofs.Order

/-!
# The memo of the registry

A registry is asked for schemas one after the other, for any indices and with
any of the provided validators. Main statement: a request is given the schema
that its index has got last if that was with a validator of the same kind, and a
new one over a new connection otherwise. No request changes which schema another
index has, and one that fails changes nothing. All that is used of the
validators is that their kinds identify them.
-/

namespace FilterQuery

namespace Engine

/-- An engine that keeps a record of the answers to attempts to connect. -/
def noting (engine : Engine (StateM σ)) :
    Engine (StateM (σ × List (Except Error Connection))) where
  connect := fun (state, answers) =>
    let (answer, state) := engine.connect state
    (answer, (state, answers ++ [answer]))
  mapping connection index := fun (state, answers) =>
    let (answer, state) := engine.mapping connection index state
    (answer, (state, answers))
  search connection index query aggregations := fun (state, answers) =>
    let (answer, state) := engine.search connection index query aggregations state
    (answer, (state, answers))

end Engine

/-- A request for a schema, with what came of it. -/
structure Visit where
  target : Session.Target
  /-- The schema and its number, by which it is told from others. -/
  result : Except Error (Nat × Schema)
  /-- The answers to the attempts to connect that were made for it. -/
  answers : List (Except Error Connection)
  /-- The registry afterwards. -/
  after : Registry

namespace Registry

/-- Ask for a schema. -/
def visit (engine : Engine (StateM σ)) (registry : Registry) (target : Session.Target) :
    StateM σ Visit := fun state =>
  let ((result, after), later) := registry.obtain engine target.index target.validator state
  let (_, (_, answers)) := registry.obtain engine.noting target.index target.validator (state, [])
  (⟨target, result, answers, after⟩, later)

/-- Ask for one schema after the other. -/
def visits (engine : Engine (StateM σ)) (registry : Registry) :
    List Session.Target → StateM σ (List Visit)
  | [] => pure []
  | target :: rest => do
      let visit ← registry.visit engine target
      let later ← visit.after.visits engine rest
      pure (visit :: later)

end Registry

namespace Visit

/-- The number of the schema that a request was given for an index, and its validator. -/
def given? (index : String) (visit : Visit) : Option (Nat × Validator) :=
  match visit.result with
  | .ok (number, _) =>
      if visit.target.index = index then some (number, visit.target.validator) else none
  | .error _ => none

/-- The schema that was given last for an index. -/
def latest? (index : String) (visits : List Visit) : Option (Nat × Validator) :=
  visits.reverse.findSome? (given? index)

/-- A request is given the schema that was given last for its index. -/
def Repeats (earlier : List Visit) (visit : Visit) : Prop :=
  ∃ number schema validator, visit.result = .ok (number, schema) ∧
    latest? visit.target.index earlier = some (number, validator)

/-- What a request may do to a registry after earlier requests. -/
structure Disciplined (registry : Registry) (earlier : List Visit) (visit : Visit) : Prop where
  /-- A schema is for the index that was asked for, judges as the validator does, and is the one
  that the index has from then on. -/
  suits {number : Nat} {schema : Schema} : visit.result = .ok (number, schema) →
    schema.index = visit.target.index ∧
      (∀ expr, schema.validate expr = visit.target.validator.check expr) ∧
      visit.after.memo.lookup visit.target.index = some number ∧
      visit.after.schemas[number]? = some schema
  /-- The schema that was given last is given again if it was asked for with the same kind of
  validator. -/
  repeats : visit.result.isOk = true → (visit.Repeats earlier ↔
    ∃ number validator, latest? visit.target.index earlier = some (number, validator) ∧
      validator.kind = visit.target.validator.kind)
  /-- A schema that is not given again is new, over the one connection that is opened for it. -/
  opens {number : Nat} {schema : Schema} : visit.result = .ok (number, schema) →
    (visit.Repeats earlier ∧ visit.answers = []) ∨
      (¬ visit.Repeats earlier ∧ visit.answers = [.ok schema.connection] ∧
        ∀ other ∈ earlier, ∀ old, other.result = .ok old → old.1 ≠ number)
  /-- A request that fails changes nothing. It fails because of the index or because there is no
  connection. -/
  fails {cause : Error} : visit.result = .error cause →
    visit.after = registry ∧
      ((registry.checkIndex visit.target.index = .error cause ∧ visit.answers = []) ∨
        (registry.checkIndex visit.target.index = .ok () ∧ visit.answers = [.error cause]))
  /-- Other indices keep their schemas, and all schemas their numbers. -/
  keeps : (∀ index, index ≠ visit.target.index →
      visit.after.memo.lookup index = registry.memo.lookup index) ∧
    ∀ (number : Nat) (schema : Schema), registry.schemas[number]? = some schema →
      visit.after.schemas[number]? = some schema
  /-- The indices with a schema are those for which one was given. -/
  indices : visit.after.indices.Nodup ∧ ∀ index, index ∈ visit.after.indices ↔
    ∃ other ∈ earlier ++ [visit], other.target.index = index ∧ other.result.isOk = true

/-- All requests of a sequence are disciplined, after some earlier ones. -/
def Chronicle (registry : Registry) (earlier : List Visit) : List Visit → Prop
  | [] => True
  | visit :: rest =>
      visit.Disciplined registry earlier ∧ Chronicle visit.after (earlier ++ [visit]) rest

/-! ## The schema that was given last -/

theorem latest?_concat (index : String) (earlier : List Visit) (visit : Visit) :
    latest? index (earlier ++ [visit]) = (visit.given? index).or (latest? index earlier) := by
  rw [latest?, List.reverse_append, List.reverse_singleton, List.singleton_append,
    List.findSome?_cons]
  cases visit.given? index <;> rfl

theorem given?_of_ok
    {visit : Visit} {number : Nat} {schema : Schema}
    (succeeded : visit.result = .ok (number, schema)) :
    visit.given? visit.target.index = some (number, visit.target.validator) := by
  simp [given?, succeeded]

theorem given?_of_ne
    {visit : Visit} {index : String}
    (different : index ≠ visit.target.index) :
    visit.given? index = none := by
  unfold given?
  split
  · exact if_neg (Ne.symm different)
  · rfl

theorem given?_eq_some
    {visit : Visit} {index : String} {number : Nat} {validator : Validator}
    (given : visit.given? index = some (number, validator)) :
    visit.target = ⟨index, validator⟩ ∧ ∃ schema, visit.result = .ok (number, schema) := by
  unfold given? at given
  split at given
  · next found schema isResult =>
      split at given
      · next isIndex =>
          simp only [Option.some.injEq, Prod.mk.injEq] at given
          obtain ⟨rfl, rfl⟩ := given
          exact ⟨by rw [← isIndex], schema, isResult⟩
      · contradiction
  · contradiction

theorem mem_of_latest?
    {index : String} {visits : List Visit} {number : Nat} {validator : Validator}
    (found : latest? index visits = some (number, validator)) :
    ∃ visit ∈ visits, visit.target = ⟨index, validator⟩ ∧
      ∃ schema, visit.result = .ok (number, schema) := by
  obtain ⟨visit, member, given⟩ := List.exists_of_findSome?_eq_some found
  exact ⟨visit, List.mem_reverse.mp member, given?_eq_some given⟩

/-- Some schema was given last for an index exactly where one was given at all. -/
theorem latest?_isSome_iff (index : String) (visits : List Visit) :
    (latest? index visits).isSome = true ↔
      ∃ visit ∈ visits, visit.target.index = index ∧ visit.result.isOk = true := by
  constructor
  · intro isGiven
    obtain ⟨⟨number, validator⟩, found⟩ := Option.isSome_iff_exists.mp isGiven
    obtain ⟨visit, member, isTarget, schema, isResult⟩ := mem_of_latest? found
    exact ⟨visit, member, by rw [isTarget], by rw [isResult]; rfl⟩
  · rintro ⟨visit, member, rfl, isOk⟩
    rw [latest?, List.findSome?_isSome_iff]
    refine ⟨visit, List.mem_reverse.mpr member, ?_⟩
    cases isResult : visit.result with
    | error cause => simp [isResult, Except.isOk, Except.toBool] at isOk
    | ok found => rw [given?_of_ok isResult]; rfl

end Visit

namespace Registry

/-! ## One request -/

/-- A request is refused, finds a schema in the memo, fails to connect or builds a schema. -/
theorem visit_cases (engine : Engine (StateM σ)) (registry : Registry) (target : Session.Target)
    (state : σ) :
    let visit := (registry.visit engine target state).1
    (∃ cause, registry.checkIndex target.index = .error cause ∧
      visit = ⟨target, .error cause, [], registry⟩) ∨
    (∃ found, registry.memoized? target.index target.validator = some found ∧
      visit = ⟨target, .ok found, [], registry⟩) ∨
    (registry.checkIndex target.index = .ok () ∧
      ∃ cause, visit = ⟨target, .error cause, [.error cause], registry⟩) ∨
    (registry.memoized? target.index target.validator = none ∧ ∃ connection,
      visit = ⟨target, .ok (registry.schemas.length,
          registry.build target.index target.validator connection), [.ok connection],
        (registry.keep (registry.build target.index target.validator connection)).2⟩) := by
  unfold visit
  cases checked : registry.checkIndex target.index with
  | error cause =>
      rw [obtain_of_refused engine checked, obtain_of_refused engine.noting checked]
      exact .inl ⟨cause, rfl, rfl⟩
  | ok _ =>
      cases memoized : registry.memoized? target.index target.validator with
      | some found =>
          rw [obtain_of_memoized engine checked memoized,
            obtain_of_memoized engine.noting checked memoized]
          exact .inr (.inl ⟨found, rfl, rfl⟩)
      | none =>
          -- The engine that keeps a record answers as the engine itself does.
          have noted (answer : Except Error Connection)
              (answered : (engine.connect state).1 = answer) :
              (engine.noting.connect (state, [])).1 = answer ∧
                (engine.noting.connect (state, [])).2.2 = [answer] :=
            ⟨answered, by rw [← answered]; rfl⟩
          cases connected : (engine.connect state).1 with
          | error cause =>
              obtain ⟨sameAnswer, isNoted⟩ := noted _ connected
              rw [obtain_of_connect_error engine checked memoized connected,
                obtain_of_connect_error engine.noting checked memoized sameAnswer]
              simp only [isNoted]
              exact .inr (.inr (.inl ⟨trivial, cause, rfl⟩))
          | ok connection =>
              obtain ⟨sameAnswer, isNoted⟩ := noted _ connected
              rw [obtain_of_connect_ok engine checked memoized connected,
                obtain_of_connect_ok engine.noting checked memoized sameAnswer]
              simp only [isNoted]
              exact .inr (.inr (.inr ⟨trivial, connection, rfl⟩))

/-- The memo agrees with the requests so far: every index has the schema that was given last for
it, with the validator that was asked for. -/
structure Remembers (registry : Registry) (Asked : Validator → Prop) (earlier : List Visit) :
    Prop where
  lookup (index : String) :
    registry.memo.lookup index = (Visit.latest? index earlier).map Prod.fst
  stored {index : String} {number : Nat} {validator : Validator} :
    Visit.latest? index earlier = some (number, validator) →
      ∃ schema : Schema, registry.schemas[number]? = some schema ∧ schema.index = index ∧
        schema.validator = validator
  numbered : ∀ visit ∈ earlier, ∀ found, visit.result = .ok found →
    found.1 < registry.schemas.length
  nodup : (registry.memo.map Prod.fst).Nodup
  asked : ∀ visit ∈ earlier, Asked visit.target.validator

theorem remembers_nil
    {registry : Registry}
    (empty : registry.cleared = registry)
    (Asked : Validator → Prop) :
    registry.Remembers Asked [] := by
  rw [← empty]
  refine ⟨fun _ => rfl, ?_, ?_, List.nodup_nil, ?_⟩
  · intro index number validator found
    cases found
  · intro visit member
    cases member
  · intro visit member
    cases member

namespace Remembers

variable {registry : Registry} {Asked : Validator → Prop} {earlier : List Visit}

/-- The memo gives the schema that was given last, if its validator is of the right kind. As kinds
identify the validators, it is the validator that was asked for. -/
theorem memoized?_eq_some
    (remembers : registry.Remembers Asked earlier)
    (identified : Validator.Identified Asked)
    {index : String} {validator : Validator} {number : Nat} {schema : Schema}
    (isAsked : Asked validator)
    (found : registry.memoized? index validator = some (number, schema)) :
    Visit.latest? index earlier = some (number, validator) ∧
      registry.schemas[number]? = some schema ∧ schema.index = index ∧
      schema.validator = validator := by
  obtain ⟨listed, stored, sameKind⟩ := Registry.memoized?_eq_some found
  rw [remembers.lookup] at listed
  obtain ⟨⟨last, earlierOne⟩, isLatest, rfl⟩ := Option.map_eq_some_iff.mp listed
  obtain ⟨other, isStored, sameIndex, rfl⟩ := remembers.stored isLatest
  obtain rfl : schema = other := Option.some.inj (stored.symm.trans isStored)
  have earlierAsked : Asked schema.validator := by
    obtain ⟨visit, member, isTarget, -⟩ := Visit.mem_of_latest? isLatest
    have visitAsked := remembers.asked visit member
    rwa [isTarget] at visitAsked
  have sameValidator := identified.eq earlierAsked isAsked sameKind
  exact ⟨by rw [isLatest, sameValidator], stored, sameIndex, sameValidator⟩

/-- The memo gives nothing if the schema that was given last has another kind of validator. -/
theorem kind_ne_of_memoized?
    (remembers : registry.Remembers Asked earlier)
    {index : String} {validator asked : Validator} {number : Nat}
    (fresh : registry.memoized? index validator = none)
    (isLatest : Visit.latest? index earlier = some (number, asked)) :
    asked.kind ≠ validator.kind := by
  intro sameKind
  obtain ⟨schema, stored, -, rfl⟩ := remembers.stored isLatest
  have listed : registry.memo.lookup index = some number := by
    rw [remembers.lookup, isLatest]
    rfl
  simp [memoized?, listed, stored, sameKind] at fresh

theorem mem_indices_iff (remembers : registry.Remembers Asked earlier) (index : String) :
    index ∈ registry.indices ↔
      ∃ visit ∈ earlier, visit.target.index = index ∧ visit.result.isOk = true := by
  have isListed : index ∈ registry.indices ↔ (registry.memo.lookup index).isSome = true := by
    rw [indices, List.mem_mergeSort, List.mem_map, Option.isSome_iff_ne_none, ne_eq,
      List.lookup_eq_none_iff]
    simp
  rw [isListed, remembers.lookup, Option.isSome_map, Visit.latest?_isSome_iff]

theorem nodup_indices (remembers : registry.Remembers Asked earlier) : registry.indices.Nodup :=
  (List.mergeSort_perm _ _).nodup_iff.mpr remembers.nodup

/-- A request that gives no schema, or again the one that was given last, leaves the memo as it has
to be. -/
theorem concat_of_unchanged
    (remembers : registry.Remembers Asked earlier)
    {visit : Visit}
    (isAsked : Asked visit.target.validator)
    (unchanged : ∀ index given, visit.given? index = some given →
      Visit.latest? index earlier = some given) :
    registry.Remembers Asked (earlier ++ [visit]) := by
  have same (index : String) :
      Visit.latest? index (earlier ++ [visit]) = Visit.latest? index earlier := by
    rw [Visit.latest?_concat]
    cases isGiven : visit.given? index with
    | none => rfl
    | some given => exact (unchanged index given isGiven).symm
  refine ⟨fun index => ?_, fun found => ?_, fun other member found isResult => ?_, remembers.nodup,
    List.forall_mem_append.mpr ⟨remembers.asked, List.forall_mem_singleton.mpr isAsked⟩⟩
  · rw [same]
    exact remembers.lookup index
  · rw [same] at found
    exact remembers.stored found
  · rcases List.mem_append.mp member with old | isVisit
    · exact remembers.numbered other old found isResult
    · obtain rfl := List.mem_singleton.mp isVisit
      have isLatest := unchanged _ _ (Visit.given?_of_ok isResult)
      obtain ⟨schema, stored, -⟩ := remembers.stored isLatest
      exact (List.getElem?_eq_some_iff.mp stored).1

/-- A request that builds a schema puts it into the memo. -/
theorem concat_of_built
    (remembers : registry.Remembers Asked earlier)
    {visit : Visit} {schema : Schema}
    (isAsked : Asked visit.target.validator)
    (isResult : visit.result = .ok (registry.schemas.length, schema))
    (sameIndex : schema.index = visit.target.index)
    (sameValidator : schema.validator = visit.target.validator) :
    (registry.keep schema).2.Remembers Asked (earlier ++ [visit]) := by
  refine ⟨fun index => ?_, ?_, fun other member found isFound => ?_, ?_,
    List.forall_mem_append.mpr ⟨remembers.asked, List.forall_mem_singleton.mpr isAsked⟩⟩
  · rw [Visit.latest?_concat]
    by_cases isIndex : index = schema.index
    · subst isIndex
      rw [lookup_memo_keep, sameIndex, Visit.given?_of_ok isResult]
      rfl
    · rw [lookup_memo_keep_of_ne registry schema isIndex, remembers.lookup,
        Visit.given?_of_ne (sameIndex ▸ isIndex), Option.none_or]
  · intro index number validator isLatest
    rw [Visit.latest?_concat] at isLatest
    by_cases isIndex : index = visit.target.index
    · subst isIndex
      rw [Visit.given?_of_ok isResult, Option.some_or] at isLatest
      simp only [Option.some.injEq, Prod.mk.injEq] at isLatest
      obtain ⟨rfl, rfl⟩ := isLatest
      exact ⟨schema, by simp, sameIndex, sameValidator⟩
    · rw [Visit.given?_of_ne isIndex, Option.none_or] at isLatest
      obtain ⟨old, stored, oldIndex, oldValidator⟩ := remembers.stored isLatest
      obtain ⟨later, storedLater, laterIndex, laterValidator⟩ :=
        extends_keep registry schema number old stored
      exact ⟨later, storedLater, laterIndex.trans oldIndex, laterValidator.trans oldValidator⟩
  · rw [schemas_keep, List.length_append, List.length_singleton]
    rcases List.mem_append.mp member with old | isVisit
    · exact Nat.lt_succ_of_lt (remembers.numbered other old found isFound)
    · obtain rfl := List.mem_singleton.mp isVisit
      obtain rfl := Except.ok.inj (isResult.symm.trans isFound)
      exact Nat.lt_succ_self _
  · have kept := remembers.nodup.filter fun index => index != schema.index
    rw [List.filter_map] at kept
    refine List.nodup_cons.mpr ⟨?_, kept⟩
    simp

/-- The memo still agrees after one more request. -/
theorem visit
    (remembers : registry.Remembers Asked earlier)
    (identified : Validator.Identified Asked)
    {target : Session.Target}
    (isAsked : Asked target.validator)
    (engine : Engine (StateM σ)) (state : σ) :
    (registry.visit engine target state).1.after.Remembers Asked
      (earlier ++ [(registry.visit engine target state).1]) := by
  have outcome := visit_cases engine registry target state
  generalize (registry.visit engine target state).1 = visit at outcome ⊢
  rcases outcome with ⟨cause, -, rfl⟩ | ⟨⟨number, schema⟩, memoized, rfl⟩ | ⟨-, cause, rfl⟩ |
    ⟨-, connection, rfl⟩
  · exact remembers.concat_of_unchanged isAsked fun index given isGiven => by cases isGiven
  · refine remembers.concat_of_unchanged isAsked fun index given isGiven => ?_
    simp only [Visit.given?] at isGiven
    split at isGiven
    · next isIndex =>
        rw [← isGiven, ← isIndex]
        exact (remembers.memoized?_eq_some identified isAsked memoized).1
    · contradiction
  · exact remembers.concat_of_unchanged isAsked fun index given isGiven => by cases isGiven
  · exact remembers.concat_of_built isAsked rfl rfl rfl

/-- A request that fails is disciplined. -/
theorem disciplined_of_error
    {visit : Visit} {cause : Error}
    (after : visit.after.Remembers Asked (earlier ++ [visit]))
    (failed : visit.result = .error cause)
    (unchanged : visit.after = registry)
    (reason : (registry.checkIndex visit.target.index = .error cause ∧ visit.answers = []) ∨
      (registry.checkIndex visit.target.index = .ok () ∧ visit.answers = [.error cause])) :
    visit.Disciplined registry earlier where
  suits succeeded := by cases failed.symm.trans succeeded
  repeats succeeded := by simp [failed, Except.isOk, Except.toBool] at succeeded
  opens succeeded := by cases failed.symm.trans succeeded
  fails failedWith := by
    obtain rfl := Except.error.inj (failed.symm.trans failedWith)
    exact ⟨unchanged, reason⟩
  keeps := by
    rw [unchanged]
    exact ⟨fun _ _ => rfl, fun _ _ stored => stored⟩
  indices := ⟨after.nodup_indices, after.mem_indices_iff⟩

/-- A request that finds its schema in the memo is disciplined. -/
theorem disciplined_of_memoized
    (remembers : registry.Remembers Asked earlier)
    (identified : Validator.Identified Asked)
    {target : Session.Target} {number : Nat} {schema : Schema}
    (isAsked : Asked target.validator)
    (memoized : registry.memoized? target.index target.validator = some (number, schema))
    (after : registry.Remembers Asked
      (earlier ++ [⟨target, .ok (number, schema), [], registry⟩])) :
    Visit.Disciplined registry earlier ⟨target, .ok (number, schema), [], registry⟩ := by
  obtain ⟨isLatest, stored, sameIndex, sameValidator⟩ :=
    remembers.memoized?_eq_some identified isAsked memoized
  have repeated : Visit.Repeats earlier ⟨target, .ok (number, schema), [], registry⟩ :=
    ⟨number, schema, target.validator, rfl, isLatest⟩
  refine ⟨?_, fun _ => ?_, ?_, (fun failed => by cases failed), ⟨fun _ _ => rfl, fun _ _ => id⟩,
    after.nodup_indices, after.mem_indices_iff⟩
  · rintro _ _ ⟨⟩
    refine ⟨sameIndex, fun expr => ?_, ?_, stored⟩
    · rw [Schema.validate, sameValidator]
    · rw [remembers.lookup, isLatest]
      rfl
  · exact ⟨fun _ => ⟨number, target.validator, isLatest, rfl⟩, fun _ => repeated⟩
  · exact fun _ => .inl ⟨repeated, rfl⟩

/-- A request that builds a schema is disciplined. -/
theorem disciplined_of_built
    (remembers : registry.Remembers Asked earlier)
    {target : Session.Target} {schema : Schema}
    (fresh : registry.memoized? target.index target.validator = none)
    (sameIndex : schema.index = target.index)
    (sameValidator : schema.validator = target.validator)
    (after : (registry.keep schema).2.Remembers Asked (earlier ++ [⟨target,
      .ok (registry.schemas.length, schema), [.ok schema.connection], (registry.keep schema).2⟩])) :
    Visit.Disciplined registry earlier ⟨target, .ok (registry.schemas.length, schema),
      [.ok schema.connection], (registry.keep schema).2⟩ := by
  -- All numbers that were given before are below the number of schemas.
  have isNew : ∀ other ∈ earlier, ∀ old, other.result = .ok old →
      old.1 ≠ registry.schemas.length :=
    fun other member old isResult => Nat.ne_of_lt (remembers.numbered other member old isResult)
  have notRepeated : ¬ Visit.Repeats earlier ⟨target, .ok (registry.schemas.length, schema),
      [.ok schema.connection], (registry.keep schema).2⟩ := by
    rintro ⟨_, _, validator, ⟨⟩, isLatest⟩
    obtain ⟨other, member, -, _, isResult⟩ := Visit.mem_of_latest? isLatest
    exact isNew other member _ isResult rfl
  refine ⟨?_, fun _ => ?_, ?_, (fun failed => by cases failed), ⟨fun index different => ?_, ?_⟩,
    after.nodup_indices, after.mem_indices_iff⟩
  · rintro _ _ ⟨⟩
    refine ⟨sameIndex, fun expr => ?_, ?_, by simp⟩
    · rw [Schema.validate, sameValidator]
    · rw [← sameIndex]
      exact lookup_memo_keep registry schema
  · refine ⟨fun repeated => absurd repeated notRepeated, ?_⟩
    rintro ⟨number, validator, isLatest, sameKind⟩
    exact absurd sameKind (remembers.kind_ne_of_memoized? fresh isLatest)
  · rintro _ _ ⟨⟩
    exact .inr ⟨notRepeated, rfl, isNew⟩
  · exact lookup_memo_keep_of_ne registry schema (sameIndex ▸ different)
  · intro number old stored
    rw [schemas_keep, List.getElem?_append_left (List.getElem?_eq_some_iff.mp stored).1, stored]

/-- Every request is disciplined. -/
theorem disciplined
    (remembers : registry.Remembers Asked earlier)
    (identified : Validator.Identified Asked)
    {target : Session.Target}
    (isAsked : Asked target.validator)
    (engine : Engine (StateM σ)) (state : σ) :
    (registry.visit engine target state).1.Disciplined registry earlier := by
  have outcome := visit_cases engine registry target state
  have after := remembers.visit identified isAsked engine state
  generalize (registry.visit engine target state).1 = visit at outcome after ⊢
  rcases outcome with ⟨cause, refused, rfl⟩ | ⟨⟨number, schema⟩, memoized, rfl⟩ |
    ⟨admitted, cause, rfl⟩ | ⟨fresh, connection, rfl⟩
  · exact disciplined_of_error after rfl rfl (.inl ⟨refused, rfl⟩)
  · exact remembers.disciplined_of_memoized identified isAsked memoized after
  · exact disciplined_of_error after rfl rfl (.inr ⟨admitted, rfl⟩)
  · exact remembers.disciplined_of_built fresh rfl rfl after

/-! ## All requests -/

/-- If kinds identify the validators, all requests are disciplined. -/
theorem chronicle
    (remembers : registry.Remembers Asked earlier)
    (identified : Validator.Identified Asked)
    {targets : List Session.Target}
    (asked : ∀ target ∈ targets, Asked target.validator)
    (engine : Engine (StateM σ)) (state : σ) :
    Visit.Chronicle registry earlier (registry.visits engine targets state).1 := by
  induction targets generalizing registry earlier state with
  | nil => trivial
  | cons target rest inductionHypothesis =>
      obtain ⟨isAsked, restAsked⟩ := List.forall_mem_cons.mp asked
      exact ⟨remembers.disciplined identified isAsked engine state,
        inductionHypothesis (remembers.visit identified isAsked engine state) restAsked _⟩

end Remembers

theorem map_target_visits (engine : Engine (StateM σ)) (registry : Registry)
    (targets : List Session.Target) (state : σ) :
    (registry.visits engine targets state).1.map Visit.target = targets := by
  induction targets generalizing registry state with
  | nil => rfl
  | cons target rest inductionHypothesis =>
      exact congrArg (target :: ·) (inductionHypothesis _ _)

/-- The memo of a registry is disciplined, whichever of the provided validators are asked for and
whatever the engine answers: every request in a sequence is given the right schema, again or for the
first time, or changes nothing. -/
theorem memo_disciplined
    {settings : RegistrySettings} {validator : Validator} {registry : Registry}
    (built : ofSettings settings validator = .ok registry)
    (engine : Engine (StateM σ)) (state : σ) (targets : List Session.Target)
    (provided : ∀ target ∈ targets, target.validator.Provided) :
    (registry.visits engine targets state).1.map Visit.target = targets ∧
      registry.indices = [] ∧
      Visit.Chronicle registry [] (registry.visits engine targets state).1 := by
  obtain ⟨policy, -, isBuilt⟩ := ofSettings_eq_ok built
  have empty := cleared_of_ofSettings built
  refine ⟨map_target_visits engine registry targets state, ?_, ?_⟩
  · simp [isBuilt, indices]
  · exact (remembers_nil empty _).chronicle Validator.identified_provided provided engine state

end Registry

namespace Sample

/-- Two indices with changing validators, and one that is excluded. -/
def targets : List Session.Target :=
  [⟨"books", .noop⟩, ⟨"diary", .depthLimit 3⟩, ⟨"books", .depthLimit 3⟩, ⟨"vault", .noop⟩,
    ⟨"diary", .depthLimit 3⟩, ⟨"books", .depthLimit 33⟩, ⟨"books", .depthLimit 33⟩]

theorem provided_targets : ∀ target ∈ targets, target.validator.Provided := by
  simp [targets, Validator.Provided.noop, Validator.Provided.depthLimit]

end Sample

namespace Registry

theorem memo_disciplined_sample :
    ∃ registry, ofSettings Sample.settings .noop = .ok registry ∧
      ((registry.visits Memory.engine Sample.targets Sample.memory).1.map fun visit =>
        (visit.result.toOption.map Prod.fst, visit.answers.length)) =
          [(some 0, 1), (some 1, 1), (some 2, 1), (none, 0), (some 1, 0), (some 3, 1),
            (some 3, 0)] ∧
      Visit.Chronicle registry []
        (registry.visits Memory.engine Sample.targets Sample.memory).1 := by
  have built : ofSettings Sample.settings .noop = .ok _ := rfl
  exact ⟨_, built, by decide +kernel,
    (memo_disciplined built Memory.engine Sample.memory Sample.targets
      Sample.provided_targets).2.2⟩

end Registry
end FilterQuery
