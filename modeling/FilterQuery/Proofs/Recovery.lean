import FilterQuery.Proofs.Accounting
import FilterQuery.Proofs.Leaves

/-!
# Loads that fail

The answer to a request for the mapping can be of no use in six ways. Main
statement: a question whose load fails is refused with the reason of that
failure, and the schema is the same afterwards. A loaded schema goes on to
resolve names from the catalog that it has; one that is not loaded asks again,
and is loaded as soon as an answer can be used.
-/

namespace FilterQuery

/-! ## What can be wrong with an answer -/

namespace Schema

/-- The entry of a mapping response that counts for an index: its own, or the only one. -/
inductive Concerns (index : String) (entries : List (String × Json)) : String → Json → Prop
  | own {entry : Json} : entries.lookup index = some entry → Concerns index entries index entry
  | only {name : String} {entry : Json} :
      entries.lookup index = none → entries = [(name, entry)] → Concerns index entries name entry

/-- The name and the mapping of the index that the entries are about. -/
def Describes (index : String) (entries : List (String × Json)) (name : String)
    (mappings : Json) : Prop :=
  ∃ entry, Concerns index entries name entry ∧ entry.member? "mappings" = some mappings

/-- The ways in which the answer to a request for the mapping is of no use, with the reason that is
given for each. -/
inductive Fault (schema : Schema) : Except Error Json → Error → Prop
  /-- The engine has failed. -/
  | engine (cause : Error) : Fault schema (.error cause) cause
  | notObject {response : Json} :
      response.members? = none →
      Fault schema (.ok response) (.schema (.mappingFetch "mapping response is not an object"))
  /-- No entry has the name of the index, and there is not just one entry. -/
  | noEntry {entries : List (String × Json)} :
      entries.lookup schema.index = none → entries.length ≠ 1 →
      Fault schema (.ok (.object entries))
        (.schema (.mappingFetch ("no mapping for index " ++ schema.index)))
  | noSection {entries : List (String × Json)} {name : String} {entry : Json} :
      Concerns schema.index entries name entry → entry.member? "mappings" = none →
      Fault schema (.ok (.object entries))
        (.schema (.mappingFetch ("no mappings section for index " ++ schema.index)))
  /-- The index is an alias of one that the policy excludes. -/
  | excluded {entries : List (String × Json)} {name : String} {mappings : Json}
      {policy : IndexPolicy} :
      Describes schema.index entries name mappings → name ≠ schema.index →
      schema.policy = some policy → policy.excludes name = true →
      Fault schema (.ok (.object entries)) (.schema (.indexExcluded name))
  /-- A field of an unknown type is declared somewhere in the mapping. -/
  | unknownType {entries : List (String × Json)} {name : String} {mappings : Json}
      {entry : Mapping.Entry} :
      Describes schema.index entries name mappings → schema.forbids name = false →
      (Mapping.collect Mapping.leafEntries [] mappings).find? (!·.isKnown) = some entry →
      Fault schema (.ok (.object entries)) (.schema (.unknownFieldType entry.tag))

theorem entry?_eq_some_iff
    {index name : String} {entries : List (String × Json)} {entry : Json} :
    entry? index entries = some (name, entry) ↔ Concerns index entries name entry := by
  unfold entry?
  constructor
  · intro found
    split at found
    · next own =>
        obtain ⟨rfl, rfl⟩ := Prod.mk.inj (Option.some.inj found)
        exact .own own
    · next notOwn =>
        exact .only notOwn (congrArg (fun only => [only]) (Option.some.inj found))
    · contradiction
  · intro concerns
    cases concerns with
    | own own => rw [own]
    | only notOwn isOnly => rw [notOwn, isOnly]

theorem entry?_eq_none_iff {index : String} {entries : List (String × Json)} :
    entry? index entries = none ↔ entries.lookup index = none ∧ entries.length ≠ 1 := by
  unfold entry?
  cases entries.lookup index with
  | some entry => simp
  | none =>
    match entries with
    | [] => simp
    | [only] => simp
    | _ :: _ :: _ => simp

theorem forbids_eq_true_iff {schema : Schema} {name : String} :
    schema.forbids name = true ↔
      name ≠ schema.index ∧
        ∃ policy, schema.policy = some policy ∧ policy.excludes name = true := by
  unfold forbids
  cases schema.policy <;> simp

theorem mappingOf_of_concerns
    {index name : String} {entries : List (String × Json)} {entry mappings : Json}
    (concerns : Concerns index entries name entry)
    (inside : entry.member? "mappings" = some mappings) :
    mappingOf index (.object entries) = .ok (name, mappings) := by
  simp only [mappingOf, Json.members?_object, entry?_eq_some_iff.mpr concerns, inside]

theorem mappingOf_of_missing
    {index name : String} {entries : List (String × Json)} {entry : Json}
    (concerns : Concerns index entries name entry)
    (missing : entry.member? "mappings" = none) :
    mappingOf index (.object entries) =
      .error (.mappingFetch ("no mappings section for index " ++ index)) := by
  simp only [mappingOf, Json.members?_object, entry?_eq_some_iff.mpr concerns, missing]

theorem catalogOf_of_describes
    {schema : Schema} {entries : List (String × Json)} {name : String} {mappings : Json}
    (describes : Describes schema.index entries name mappings) :
    schema.catalogOf (.object entries) =
      if schema.forbids name then .error (.indexExcluded name)
      else (Mapping.fields mappings).map fun fields => .ofFields fields schema.hidden := by
  obtain ⟨entry, concerns, inside⟩ := describes
  unfold catalogOf
  simp only [mappingOf_of_concerns concerns inside]

theorem receive_of_catalogOf_error
    {schema : Schema} {response : Json} {cause : SchemaError}
    (failed : schema.catalogOf response = .error cause) :
    schema.receive (.ok response) = (.error (.schema cause), schema) := by
  simp only [receive, failed]

/-- No catalog is made of an answer with a fault. -/
theorem receive_of_fault
    {schema : Schema} {answer : Except Error Json} {cause : Error}
    (fault : schema.Fault answer cause) :
    schema.receive answer = (.error cause, schema) := by
  cases fault with
  | engine => rfl
  | notObject notObject =>
      apply receive_of_catalogOf_error
      simp only [catalogOf, mappingOf, notObject]
  | noEntry notOwn notOnly =>
      apply receive_of_catalogOf_error
      simp only [catalogOf, mappingOf, Json.members?_object,
        entry?_eq_none_iff.mpr ⟨notOwn, notOnly⟩]
  | noSection concerns missing =>
      apply receive_of_catalogOf_error
      simp only [catalogOf, mappingOf_of_missing concerns missing]
  | excluded describes isAlias isPolicy isExcluded =>
      apply receive_of_catalogOf_error
      rw [catalogOf_of_describes describes,
        if_pos (forbids_eq_true_iff.mpr ⟨isAlias, _, isPolicy, isExcluded⟩)]
  | unknownType describes allowed first =>
      apply receive_of_catalogOf_error
      have unread := Mapping.fields_eq_error_iff.mpr ⟨_, first, rfl⟩
      rw [catalogOf_of_describes describes, allowed, if_neg Bool.false_ne_true, unread]
      rfl

theorem fault_of_describes
    {schema : Schema} {entries : List (String × Json)} {name : String} {mappings : Json}
    {cause : SchemaError}
    (describes : Describes schema.index entries name mappings)
    (failed : schema.catalogOf (.object entries) = .error cause) :
    schema.Fault (.ok (.object entries)) (.schema cause) := by
  rw [catalogOf_of_describes describes] at failed
  cases forbidden : schema.forbids name with
  | true =>
      rw [forbidden, if_pos rfl] at failed
      rw [← Except.error.inj failed]
      obtain ⟨isAlias, policy, isPolicy, isExcluded⟩ := forbids_eq_true_iff.mp forbidden
      exact .excluded describes isAlias isPolicy isExcluded
  | false =>
      rw [forbidden, if_neg Bool.false_ne_true] at failed
      cases read : Mapping.fields mappings with
      | ok fields => simp [read, Except.map] at failed
      | error reason =>
          obtain ⟨entry, first, rfl⟩ := Mapping.fields_eq_error_iff.mp read
          rw [read] at failed
          rw [← Except.error.inj failed]
          exact .unknownType describes forbidden first

theorem fault_of_catalogOf
    {schema : Schema} {response : Json} {cause : SchemaError}
    (failed : schema.catalogOf response = .error cause) :
    schema.Fault (.ok response) (.schema cause) := by
  cases isObject : response.members? with
  | none =>
      simp only [catalogOf, mappingOf, isObject] at failed
      rw [← Except.error.inj failed]
      exact .notObject isObject
  | some entries =>
      obtain rfl := Json.eq_object_of_members? isObject
      cases chosen : entry? schema.index entries with
      | none =>
          simp only [catalogOf, mappingOf, isObject, chosen] at failed
          rw [← Except.error.inj failed]
          obtain ⟨notOwn, notOnly⟩ := entry?_eq_none_iff.mp chosen
          exact .noEntry notOwn notOnly
      | some found =>
          have concerns := entry?_eq_some_iff.mp chosen
          cases inside : found.2.member? "mappings" with
          | none =>
              simp only [catalogOf, mappingOf_of_missing concerns inside] at failed
              rw [← Except.error.inj failed]
              exact .noSection concerns inside
          | some mappings => exact fault_of_describes ⟨found.2, concerns, inside⟩ failed

/-- An answer that no catalog is made of has one of the faults. -/
theorem fault_of_receive
    {schema : Schema} {answer : Except Error Json} {cause : Error}
    (failed : (schema.receive answer).1 = .error cause) :
    schema.Fault answer cause := by
  cases answer with
  | error reason =>
      obtain rfl : reason = cause := Except.error.inj failed
      exact .engine reason
  | ok response =>
      cases outcome : schema.catalogOf response with
      | ok catalog => simp [receive, outcome] at failed
      | error reason =>
          rw [receive_of_catalogOf_error outcome] at failed
          obtain rfl : .schema reason = cause := Except.error.inj failed
          exact fault_of_catalogOf outcome

end Schema

/-! ## Questions whose load fails -/

namespace Question

variable (engine : Engine (StateM σ)) {schema : Schema} (state : σ)

/-- A schema that is asked where a request is demanded loads its catalog by a request. -/
theorem load_eq_fetch_of_not_loaded
    (unloaded : (if schema.isLoaded then 0 else 1) = 1) :
    schema.load engine state = schema.fetch engine state := by
  apply Schema.load_apply_of_none
  unfold Schema.isLoaded at unloaded
  cases kept : schema.catalog with
  | none => rfl
  | some catalog => simp [kept] at unloaded

/-- A question that demands a request leaves the schema as the request left it. -/
theorem schema_ask_of_demand
    {question : Question}
    (asks : question.demand schema = 1) :
    (question.ask engine schema state).1.2 = (schema.fetch engine state).1.2 := by
  cases question with
  | fields => rfl
  | resolve name =>
      rw [← load_eq_fetch_of_not_loaded engine state asks]
      rfl
  | suggest name search =>
      rw [← load_eq_fetch_of_not_loaded engine state asks]
      exact Schema.suggest_schema engine schema state name search
  | validate expr => cases asks
  | compile expr =>
      cases accepted : schema.validate expr with
      | error cause => simp [demand, accepted] at asks
      | ok _ =>
          simp only [demand, accepted] at asks
          rw [← load_eq_fetch_of_not_loaded engine state asks]
          exact congrArg (fun result => result.1.2)
            (Schema.compile_apply_of_ok engine schema state accepted)

/-- A question that demands a request is refused with the reason why the request has failed. -/
theorem ask_of_fetch_error
    {question : Question} {cause : Error}
    (asks : question.demand schema = 1)
    (failed : (schema.fetch engine state).1.1 = .error cause) :
    (question.ask engine schema state).1.1 = .error cause := by
  cases question with
  | fields =>
      change ((schema.fetch engine state).1.1.map Catalog.fields).map Reply.fields = .error cause
      rw [failed]
      rfl
  | resolve name =>
      rw [← load_eq_fetch_of_not_loaded engine state asks] at failed
      rw [ask, bind_apply, Schema.resolve_apply, failed]
      rfl
  | suggest name search =>
      rw [← load_eq_fetch_of_not_loaded engine state asks] at failed
      rw [ask, bind_apply, Schema.suggest_apply_of_error engine schema state search
        (by rw [failed]; rfl)]
      rfl
  | validate expr => cases asks
  | compile expr =>
      cases accepted : schema.validate expr with
      | error reason => simp [demand, accepted] at asks
      | ok _ =>
          simp only [demand, accepted] at asks
          rw [← load_eq_fetch_of_not_loaded engine state asks] at failed
          rw [ask, bind_apply, Schema.compile_apply_of_ok engine schema state accepted, failed]
          rfl

/-- A request for the mapping is made where it is demanded, and the answer is the engine's. -/
theorem eq_of_mem_ask
    {question : Question} {index : String} {answer : Except Error Json}
    (asked : .mapping index answer ∈ (question.ask engine.recorded schema (state, [])).2.2) :
    question.demand schema = 1 ∧
      answer = (engine.mapping schema.connection schema.index state).1 := by
  obtain ⟨searches, noFetch, made⟩ := calls_ask engine schema state question []
  rw [made, List.nil_append] at asked
  rcases List.mem_append.mp asked with isRequest | isSearch
  · obtain ⟨demanded, same⟩ := List.mem_replicate.mp isRequest
    have atMostOne := demand_le_one schema question
    exact ⟨by omega, (Call.mapping.inj same).2⟩
  · cases noFetch _ isSearch

end Question

/-! ## After a load that has failed -/

/-- What is true of a question whose load has failed, and of the schema afterwards. -/
structure Use.Unharmed (engine : Engine (StateM σ)) (cause : Error) (use : Use) : Prop where
  refused : use.reply = .error cause
  unchanged : use.after = use.before
  /-- A name is resolved from the catalog that there was, and the engine is not asked. -/
  answers (catalog : Catalog) (kept : use.before.catalog = some catalog) (name : String)
    (later : σ) :
    use.after.resolve engine name later = ((catalog.resolve name, use.after), later)
  /-- Without a catalog the engine is asked again. -/
  asksAgain (unloaded : use.before.catalog = none) (name : String) (later : σ) :
    Call.fetches (use.after.resolve engine.recorded name (later, [])).2.2 = 1
  /-- An answer without a fault is as good as it would have been before. -/
  loads (unloaded : use.before.catalog = none) (name : String) (later : σ) (response : Json)
    (catalog : Catalog)
    (answered : (engine.mapping use.after.connection use.after.index later).1 = .ok response)
    (described : use.after.catalogOf response = .ok catalog) :
    use.after.resolve engine name later =
      ((catalog.resolve name, { use.before with catalog := some catalog }),
        (engine.mapping use.after.connection use.after.index later).2)

namespace Schema

variable (engine : Engine (StateM σ)) {schema : Schema} {state : σ} {question : Question}
  {index : String} {answer : Except Error Json}

/-- A schema that is not loaded takes a name from the catalog that it makes of the answer. -/
theorem resolve_of_described
    {response : Json} {catalog : Catalog}
    (unloaded : schema.catalog = none)
    (answered : (engine.mapping schema.connection schema.index state).1 = .ok response)
    (described : schema.catalogOf response = .ok catalog)
    (name : String) :
    schema.resolve engine name state =
      ((catalog.resolve name, { schema with catalog := some catalog }),
        (engine.mapping schema.connection schema.index state).2) := by
  rw [resolve_apply, load_apply_of_none engine schema state unloaded, fetch_apply, answered]
  simp only [receive, described]
  rfl

/-- A question whose load fails leaves the schema unharmed. -/
theorem unharmed_use
    {cause : Error}
    (asked : .mapping index answer ∈ (schema.use engine question state).1.calls)
    (fault : schema.Fault answer cause) :
    (schema.use engine question state).1.Unharmed engine cause := by
  obtain ⟨asks, rfl⟩ := Question.eq_of_mem_ask engine state asked
  have fetched : (schema.fetch engine.recorded (state, [])).1 = (.error cause, schema) :=
    receive_of_fault fault
  have same : (schema.use engine question state).1.after = schema := by
    have ofFetch := Question.schema_ask_of_demand engine.recorded (state, []) asks
    rw [fetched] at ofFetch
    exact ofFetch
  refine ⟨?_, same, ?_, ?_, ?_⟩
  · exact Question.ask_of_fetch_error engine.recorded (state, []) asks (by rw [fetched])
  · intro catalog kept name later
    rw [same, resolve_apply, load_apply_of_some engine schema later kept]
    rfl
  · intro unloaded name later
    have made := calls_load engine schema later []
    have notLoaded : schema.isLoaded = false := by
      unfold isLoaded
      rw [show schema.catalog = none from unloaded]
      rfl
    rw [notLoaded] at made
    rw [same]
    exact congrArg Call.fetches made
  · intro unloaded name later response catalog answered described
    rw [same] at answered described ⊢
    exact resolve_of_described engine unloaded answered described name

/-- A question whose load does not fail leaves the schema with the catalog of the answer. -/
theorem after_use_of_described
    {response : Json} {catalog : Catalog}
    (asked : .mapping index (.ok response) ∈ (schema.use engine question state).1.calls)
    (described : schema.catalogOf response = .ok catalog) :
    (schema.use engine question state).1.after = { schema with catalog := some catalog } := by
  obtain ⟨asks, answered⟩ := Question.eq_of_mem_ask engine state asked
  have ofFetch := Question.schema_ask_of_demand engine.recorded (state, []) asks
  have received : (schema.fetch engine.recorded (state, [])).1 = schema.receive (.ok response) := by
    rw [answered]
    rfl
  rw [received] at ofFetch
  simp only [receive, described] at ofFetch
  exact ofFetch

/-- What stands in a record of uses is a use of some schema. -/
theorem exists_of_mem_uses
    {questions : List Question} {use : Use}
    (member : use ∈ (schema.uses engine questions state).1) :
    ∃ earlier, use = (use.before.use engine use.question earlier).1 := by
  induction questions generalizing schema state with
  | nil => cases member
  | cons question rest inductionHypothesis =>
      rcases List.mem_cons.mp member with rfl | inRest
      · exact ⟨state, rfl⟩
      · exact inductionHypothesis inRest

/-- Whatever is asked of a schema and whatever the engine answers, an answer that no catalog can be
made of changes nothing. Any other answer replaces the catalog, and nothing else. -/
theorem failed_load_changes_nothing
    (engine : Engine (StateM σ)) (schema : Schema) (state : σ) (questions : List Question)
    {use : Use} (member : use ∈ (schema.uses engine questions state).1)
    {index : String} {answer : Except Error Json} (asked : .mapping index answer ∈ use.calls) :
    (∀ cause, use.before.Fault answer cause ↔ (use.before.receive answer).1 = .error cause) ∧
      (∀ cause, use.before.Fault answer cause → use.Unharmed engine cause) ∧
      ((¬∃ cause, use.before.Fault answer cause) →
        ∃ response catalog, answer = .ok response ∧
          use.before.catalogOf response = .ok catalog ∧
          use.after = { use.before with catalog := some catalog }) := by
  obtain ⟨earlier, isUse⟩ := exists_of_mem_uses engine member
  rw [isUse] at asked
  refine ⟨fun cause => ⟨fun fault => ?_, fault_of_receive⟩, fun cause fault => ?_, ?_⟩
  · rw [receive_of_fault fault]
  · rw [isUse]
    exact unharmed_use engine asked fault
  · intro noFault
    cases received : (use.before.receive answer).1 with
    | error cause => exact absurd ⟨cause, fault_of_receive received⟩ noFault
    | ok catalog =>
        obtain ⟨response, rfl, described⟩ := receive_eq_ok received
        refine ⟨response, catalog, rfl, described, ?_⟩
        have replaced := after_use_of_described engine asked described
        rwa [← isUse] at replaced

end Schema

namespace Sample

/-- An engine that gives one prepared answer after the other. -/
def prepared : Engine (StateM (List (Except Error Json))) where
  connect := pure (.ok ⟨0⟩)
  mapping _ _ := fun answers =>
    match answers with
    | [] => (.error (.schema (.mappingFetch "no answer")), [])
    | answer :: rest => (answer, rest)
  search _ _ _ _ := pure (.ok .null)

/-- Two known fields, and an unknown one below a property. -/
def damaged : Json :=
  .object [("properties", .object
    [("title", .object [("type", .string "keyword")]),
      ("parts", .object [("properties", .object
        [("page", .object [("type", .string "long")]),
          ("shape", .object [("type", .string "geo_shape")])])])])]

end Sample

namespace Schema

/-- A name is resolved after a load that failed deep inside a mapping. -/
theorem failed_load_changes_nothing_sample :
    let schema : Schema := ⟨"books", ⟨0⟩, [], .noop, none, 5, none⟩
    let answers := [.ok (Memory.wrap "books" Sample.damaged),
      .ok (Memory.wrap "books-2" Sample.mappings)]
    let cause := .schema (.unknownFieldType "geo_shape")
    ∃ first second,
      (schema.uses Sample.prepared [.resolve "title", .resolve "title"] answers).1 =
        [first, second] ∧
      first.Unharmed Sample.prepared cause ∧
      second.reply = .ok (.field ⟨"title", .keyword, "keyword", none, false⟩) := by
  intro schema answers cause
  refine ⟨_, _, rfl, ?_, rfl⟩
  have fault : schema.Fault (.ok (Memory.wrap "books" Sample.damaged)) cause :=
    fault_of_receive rfl
  exact (failed_load_changes_nothing Sample.prepared schema answers
    [.resolve "title", .resolve "title"] List.mem_cons_self (List.mem_singleton_self _)).2.1
    cause fault

end Schema
end FilterQuery
