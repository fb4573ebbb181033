import FilterQuery.Proofs.Confinement
import FilterQuery.Proofs.Correspondence

/-!
# Field limits and aliases

An alias is answered for under the name of its index. The policy is asked about
that name as well, the field limits only about the name of the alias. Main
statement: through an alias exactly those fields are kept from callers that are
listed for the alias itself, so the limits of an index hold through it only
where the alias repeats them.
-/

namespace FilterQuery

namespace Engine

/-- All that an engine answers about a name is one entry, under the name of an index. -/
def Redirects (engine : Engine (StateM σ)) (name concrete : String) : Prop :=
  ∀ (connection : Connection) (state : σ) (response : Json),
    (engine.mapping connection name state).1 = .ok response →
      ∃ entry, response = .object [(concrete, entry)]

/-- An engine that gives the same answer to all requests for a mapping. -/
def constant (response : Json) : Engine (StateM Unit) where
  connect := pure (.ok ⟨0⟩)
  mapping _ _ := pure (.ok response)
  search _ _ _ _ := pure (.ok .null)

theorem redirects_constant_wrap (name concrete : String) (mappings : Json) :
    (constant (Memory.wrap concrete mappings)).Redirects name concrete := by
  intro connection state response answered
  exact ⟨_, (Except.ok.inj answered).symm⟩

/-- To record the requests does not change the answers. -/
theorem matches_recorded (engine : Engine (StateM σ)) :
    engine.recorded.Matches (.mirroring Prod.fst) engine :=
  ⟨fun _ => rfl, fun _ _ _ => rfl, fun _ _ _ _ _ => rfl⟩

end Engine

namespace Question

/-- A reply from which a caller learns of a field: it is resolved, listed or searched for values. -/
def Shows (name : String) : Question → Reply → Prop
  | resolve asked, .field field => asked = name ∧ field.name = name
  | fields, .fields found => ∃ field ∈ found, field.name = name
  | suggest asked _, .suggestions _ => asked = name
  | _, _ => False

/-- The questions whose replies can show a field. -/
def about (name : String) : List Question :=
  [resolve name, fields, suggest name none]

/-- A discreet reply shows no hidden field. -/
theorem Discreet.not_shows
    {hidden : List String} {name : String} {question : Question} {reply : Reply}
    (discreet : question.Discreet hidden reply)
    (isHidden : name ∈ hidden) :
    ¬ question.Shows name reply := by
  intro shows
  cases question with
  | resolve asked =>
      cases reply with
      | field field => exact discreet.2 (shows.1 ▸ isHidden)
      | _ => exact shows
  | fields =>
      cases reply with
      | fields found =>
          obtain ⟨field, member, rfl⟩ := shows
          exact discreet field member isHidden
      | _ => exact shows
  | suggest asked search =>
      cases reply with
      | suggestions values =>
          obtain rfl : asked = name := shows
          exact discreet isHidden
      | _ => exact shows
  | validate expr | compile expr => exact shows

end Question

namespace Registry

/-- No reply about a name shows a field, whatever an engine answers that redirects the name. -/
def Shields (registry : Registry) (name concrete field : String) : Prop :=
  ∀ (σ : Type) (engine : Engine (StateM σ)) (state : σ) (inquiries : List Session.Inquiry),
    engine.Redirects name concrete →
      ∀ turn ∈ ((Session.start registry).run engine inquiries state).1.1, ∀ validator reply,
        turn.target = some ⟨name, validator⟩ → turn.reply = some (.ok reply) →
          ¬ turn.inquiry.question.Shows field reply

/-- With some engine that redirects the name, a field is resolved, listed and searched for
values. -/
def Exposes (registry : Registry) (name concrete field : String) : Prop :=
  ∃ engine : Engine (StateM Unit), engine.Redirects name concrete ∧
    ∀ question ∈ Question.about field,
      ∃ reply, ((Session.start registry).run engine [⟨.custom name .noop, question⟩] ()).1.1 =
          [⟨⟨.custom name .noop, question⟩, some ⟨name, .noop⟩, some (.ok reply)⟩] ∧
        question.Shows field reply

theorem Exposes.not_shields
    {registry : Registry} {name concrete field : String}
    (exposes : registry.Exposes name concrete field) :
    ¬ registry.Shields name concrete field := by
  intro shields
  obtain ⟨engine, redirects, shown⟩ := exposes
  obtain ⟨reply, isRun, shows⟩ := shown .fields (by simp [Question.about])
  exact shields Unit engine () _ redirects _ (isRun ▸ List.mem_singleton_self _) _ reply rfl rfl
    shows

/-! ## Names that are listed -/

/-- In every session, no reply about an index shows a field that is hidden in it. -/
theorem shields_of_hidden
    {registry : Registry} {name field : String}
    (empty : registry.cleared = registry)
    (isHidden : field ∈ registry.limits.hidden name)
    (concrete : String) :
    registry.Shields name concrete field := by
  intro σ engine state inquiries _ turn member validator reply isTarget isReply
  have mirrored := engine.matches_recorded.run (.start registry) inquiries (state, [])
  rw [mirrored] at member
  have holds : (registry.confinement engine).HoldsIn (fun _ => True) (state, [])
      (.start registry) :=
    (registry.confinement engine).holdsIn_start (Call.confined_nil registry) empty trivial
  rcases (holds.run (Session.within_true inquiries)).2 turn member with
    ⟨noTarget, -⟩ | ⟨target, replied, isFound, isReplied, -, account⟩
  · cases isTarget.symm.trans noTarget
  · obtain rfl := Option.some.inj (isTarget.symm.trans isFound)
    obtain rfl := Option.some.inj (isReply.symm.trans isReplied)
    rcases account with ⟨_, -, -, answer⟩ | ⟨cause, isError, -⟩
    · exact (answer reply rfl).not_shows isHidden
    · cases isError

end Registry

/-! ## Names that are not listed -/

namespace Mapping

/-- The mapping of an index with one keyword field. -/
def single (name : String) : Json :=
  .object [("properties", .object [(name, .object [("type", .string "keyword")])])]

/-- The field of that index. -/
def singleField (name : String) : Field :=
  ⟨name, .keyword, "keyword", none, false⟩

theorem fields_single (name : String) : fields (single name) = .ok [singleField name] := rfl

end Mapping

namespace Schema

theorem mappingOf_wrap (index name : String) (mappings : Json) :
    mappingOf index (Memory.wrap name mappings) = .ok (name, mappings) := by
  have chosen (entry : Json) : entry? index [(name, entry)] = some (name, entry) := by
    unfold entry?
    by_cases same : index = name
    · subst same
      simp
    · have notName : (index == name) = false := by simpa using same
      simp [List.lookup_cons, notName]
  simp [mappingOf, Memory.wrap, Json.members?, chosen, Json.member?]

/-- A schema that is redirected has all fields of the index but those hidden under its own name. -/
theorem catalogOf_wrap
    {schema : Schema} {name : String} {mappings : Json} {fields : List Field}
    (allowed : schema.forbids name = false)
    (read : Mapping.fields mappings = .ok fields) :
    schema.catalogOf (Memory.wrap name mappings) = .ok (.ofFields fields schema.hidden) := by
  rw [catalogOf, mappingOf_wrap]
  simp only [allowed, read]
  rfl

theorem fetch_constant
    {schema : Schema} {response : Json} {catalog : Catalog}
    (described : schema.catalogOf response = .ok catalog) :
    schema.fetch (.constant response) () =
      ((.ok catalog, { schema with catalog := catalog }), ()) := by
  rw [fetch_apply]
  change (schema.receive (.ok response), ()) = _
  simp only [receive, described]

end Schema

/-- All replies of a new schema about its only field show it. -/
theorem Question.shows_of_catalogOf
    {schema : Schema} {response : Json} {name : String}
    (unloaded : schema.catalog = none)
    (described : schema.catalogOf response = .ok ⟨[Mapping.singleField name]⟩) :
    ∀ question ∈ about name, ∃ reply,
      (question.ask (.constant response) schema ()).1.1 = .ok reply ∧
        question.Shows name reply := by
  have fetched := Schema.fetch_constant described
  have loaded := (Schema.load_apply_of_none _ _ () unloaded).trans fetched
  have resolved : ((schema.load (.constant response) ()).1.1.bind fun catalog =>
      catalog.resolve name) = .ok (Mapping.singleField name) := by
    rw [loaded]
    simp [Except.bind, Catalog.resolve, Catalog.get?, Mapping.singleField]
  intro question member
  simp only [about, List.mem_cons, List.not_mem_nil, or_false] at member
  rcases member with rfl | rfl | rfl
  · exact ⟨.field (Mapping.singleField name), congrArg (Except.map Reply.field) resolved, rfl, rfl⟩
  · refine ⟨.fields [Mapping.singleField name], ?_, _, List.mem_singleton_self _, rfl⟩
    change ((schema.fetch (.constant response) ()).1.1.map Catalog.fields).map Reply.fields = _
    rw [fetched]
    rfl
  · refine ⟨.suggestions [], ?_, rfl⟩
    change (schema.suggest (.constant response) name none ()).1.1.map Reply.suggestions = _
    rw [Schema.suggest_apply_of_ok _ _ () none resolved]
    rfl

namespace Registry

/-- The only turn of a session with one inquiry about an index without a schema. -/
theorem run_single
    {registry : Registry} {index : String} {validator : Validator} {response : Json}
    (admitted : registry.checkIndex index = .ok ())
    (fresh : registry.memoized? index validator = none)
    (question : Question) :
    ((Session.start registry).run (.constant response) [⟨.custom index validator, question⟩] ()).1.1
      = [⟨⟨.custom index validator, question⟩, some ⟨index, validator⟩,
        some (question.ask (.constant response) (registry.build index validator ⟨0⟩) ()).1.1⟩] := by
  have obtained := @obtain_of_connect_ok Unit (.constant response) registry index validator ()
    ⟨0⟩ admitted fresh rfl
  have requested : Session.request (.constant response) registry ⟨index, validator⟩ () =
      ((some ⟨⟨index, validator⟩, .ok registry.schemas.length⟩,
        (registry.keep (registry.build index validator ⟨0⟩)).2), ()) := by
    unfold Session.request
    rw [bind_apply, obtained]
    rfl
  have served : (Session.serve (.constant response)
      (registry.keep (registry.build index validator ⟨0⟩)).2 question
      (some ⟨⟨index, validator⟩, .ok registry.schemas.length⟩) ()).1.1 =
        some (question.ask (.constant response) (registry.build index validator ⟨0⟩) ()).1.1 := by
    simp only [Session.serve, operate?, schemas_keep, List.getElem?_concat_length]
    rfl
  simp only [Session.run, Session.step, Session.acquire, Session.start, bind_apply, requested]
  exact congrArg (fun reply => [Session.Turn.mk _ _ reply]) served

/-- A field that is not listed for an alias is seen through it. -/
theorem exposes_of_not_hidden
    {registry : Registry} {name concrete field : String}
    (empty : registry.cleared = registry)
    (admitted : registry.Admits name)
    (allowed : registry.policy.excludes concrete = false)
    (visible : field ∉ registry.limits.hidden name) :
    registry.Exposes name concrete field := by
  have fresh : registry.memoized? name .noop = none := by
    rw [← empty]
    rfl
  have notForbidden : (registry.build name .noop ⟨0⟩).forbids concrete = false := by
    simp [Schema.forbids, build, allowed]
  have described : (registry.build name .noop ⟨0⟩).catalogOf
      (Memory.wrap concrete (Mapping.single field)) = .ok ⟨[Mapping.singleField field]⟩ := by
    rw [Schema.catalogOf_wrap notForbidden (Mapping.fields_single field)]
    simp [Catalog.ofFields, build, visible, Mapping.singleField]
  refine ⟨_, Engine.redirects_constant_wrap name concrete (Mapping.single field), ?_⟩
  intro question member
  obtain ⟨reply, replied, shows⟩ := Question.shows_of_catalogOf rfl described question member
  refine ⟨reply, ?_, shows⟩
  rw [run_single ((registry.checkIndex_eq_ok_iff name).mpr admitted) fresh question, replied]

/-- Field limits hold for the name that is asked for, whatever index it stands for. A field is kept
from callers exactly where it is listed for that name, else it is seen in every way. So the limits
of an index hold through an alias exactly where the alias repeats them. -/
theorem shields_iff_listed
    {settings : RegistrySettings} {validator : Validator} {registry : Registry}
    {name concrete : String}
    (built : ofSettings settings validator = .ok registry)
    (admitted : registry.Admits name)
    (allowed : registry.policy.excludes concrete = false) :
    (∀ field, registry.Shields name concrete field ↔ field ∈ settings.limits.hidden name) ∧
      (∀ field, field ∉ settings.limits.hidden name → registry.Exposes name concrete field) ∧
      ((∀ field ∈ settings.limits.hidden concrete, registry.Shields name concrete field) ↔
        settings.limits.hidden concrete ⊆ settings.limits.hidden name) := by
  obtain ⟨policy, isPolicy, isBuilt⟩ := ofSettings_eq_ok built
  have empty := cleared_of_ofSettings built
  have sameLimits : settings.limits = registry.limits := by rw [isBuilt]
  rw [sameLimits]
  have exposes : ∀ field, field ∉ registry.limits.hidden name →
      registry.Exposes name concrete field :=
    fun field visible => exposes_of_not_hidden empty admitted allowed visible
  have shields : ∀ field, registry.Shields name concrete field ↔
      field ∈ registry.limits.hidden name := by
    intro field
    refine ⟨fun shields => ?_, fun isHidden => shields_of_hidden empty isHidden concrete⟩
    apply Decidable.byContradiction
    intro visible
    exact (exposes field visible).not_shields shields
  exact ⟨shields, exposes, forall_congr' fun field => imp_congr_right fun _ => shields field⟩

end Registry

namespace Sample

/-- Two fields of an index are hidden, and one of them also in an alias. -/
def lending : RegistrySettings :=
  ⟨["*"], [], (FieldLimits.none.insert "books" ["isbn", "price"]).insert "library" ["price"], 5⟩

end Sample

namespace Registry

theorem shields_iff_listed_sample :
    ∃ registry, ofSettings Sample.lending .noop = .ok registry ∧ registry.Admits "library" ∧
      registry.policy.excludes "books" = false ∧ registry.Shields "library" "books" "price" ∧
      registry.Exposes "library" "books" "isbn" := by
  have built : ofSettings Sample.lending .noop = .ok _ := rfl
  refine ⟨_, built, ⟨by decide +kernel, rfl⟩, rfl, ?_⟩
  obtain ⟨shields, exposes, -⟩ := @shields_iff_listed _ _ _ "library" "books" built
    ⟨by decide +kernel, rfl⟩ rfl
  exact ⟨(shields "price").mpr (by decide), exposes "isbn" (by decide)⟩

/-- A field that is hidden in an index is seen through an alias of it. -/
theorem not_shields_alias :
    ∃ registry, ofSettings Sample.lending .noop = .ok registry ∧ registry.Admits "library" ∧
      registry.policy.excludes "books" = false ∧ "isbn" ∈ registry.limits.hidden "books" ∧
      ¬ registry.Shields "library" "books" "isbn" := by
  refine ⟨_, rfl, ⟨by decide +kernel, rfl⟩, rfl, by decide, ?_⟩
  exact (exposes_of_not_hidden rfl ⟨by decide +kernel, rfl⟩ rfl (by decide)).not_shields

end Registry
end FilterQuery
