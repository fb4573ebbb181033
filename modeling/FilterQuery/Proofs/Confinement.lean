import FilterQuery.Proofs.Law
import FilterQuery.Proofs.Meaning

/-!
# Confinement to the policy and the field limits

An engine may answer whatever it likes, also about an alias under the name of
another index. Main statement: in every session, all calls to the engine are
about indices that may be used, all catalogs that are kept describe such
indices, and no hidden field is searched or appears in a reply.
-/

namespace FilterQuery

/-! ## The fields of a compiled document -/

namespace Form

/-- All conditions of a form are about the given field. -/
theorem field_of_mem_leaves
    {field : String} {value : Literal} {form : Form} {condition : Leaf}
    (member : condition ∈ (form.query field value).leaves) :
    condition.field = field := by
  cases form with
  | oneOf =>
      cases value <;> simp only [query, BoolQuery.leaves, List.mem_map] at member <;>
        obtain ⟨_, _, rfl⟩ := member <;> rfl
  | equals | range _ | contains | startsWith | endsWith =>
      obtain rfl := List.mem_singleton.mp member
      rfl

end Form

namespace Field

/-- All conditions of a comparison are about the field that is compared. -/
theorem field_of_lookup
    {field : Field} {operator : Operator} {value : Literal} {fragment : Fragment}
    (found : field.lookup operator value = .ok fragment)
    {condition : Leaf}
    (member : condition ∈ fragment.query.leaves) :
    condition.field = field.name := by
  obtain ⟨_, ⟨_, ofNull⟩ | ⟨_, ofValue⟩⟩ := lookup_eq_ok_iff.mp found
  · obtain ⟨_, ⟨_, rfl⟩ | ⟨_, rfl⟩⟩ := lookupNull_eq_ok_iff.mp ofNull <;>
      obtain rfl := List.mem_singleton.mp member <;> rfl
  · obtain ⟨_, _, converted, _, rfl⟩ := lookupValue_eq_ok_iff.mp ofValue
    exact Form.field_of_mem_leaves member

end Field

namespace Expr

theorem mem_leaves_clause {fragment : Fragment} {condition : Leaf} :
    condition ∈ (clause fragment).leaves ↔ condition ∈ fragment.query.leaves := by
  cases inverted : fragment.inverted <;>
    simp [clause, inverted, BoolQuery.leaves, BoolQuery.clauseLeaves]

/-- The conditions of a joined query are those of its sides. -/
theorem mem_leaves_join {connective : Connective} {left right : BoolQuery} {condition : Leaf} :
    condition ∈ (join connective left right).leaves ↔
      condition ∈ left.leaves ∨ condition ∈ right.leaves := by
  cases connective <;> simp [join, BoolQuery.leaves, BoolQuery.clauseLeaves]

/-- Every condition of a compiled query is about a field that some name was resolved to. -/
theorem resolved_of_mem_leaves
    {resolve : String → Except Error Field} {expr : Expr} {fragment : Fragment}
    (compiled : expr.compile resolve = .ok fragment)
    {condition : Leaf}
    (member : condition ∈ fragment.query.leaves) :
    ∃ name field, resolve name = .ok field ∧ condition.field = field.name := by
  induction expr generalizing fragment with
  | logical connective left right leftHypothesis rightHypothesis =>
      obtain ⟨first, second, leftCompiled, rightCompiled, rfl⟩ :=
        compile_logical_eq_ok_iff.mp compiled
      rcases mem_leaves_join.mp member with inLeft | inRight
      · exact leftHypothesis leftCompiled inLeft
      · exact rightHypothesis rightCompiled inRight
  | comparison name operator value =>
      obtain ⟨field, found, resolved, lookedUp, rfl⟩ := compile_comparison_eq_ok_iff.mp compiled
      exact ⟨name.dotted, field, resolved,
        Field.field_of_lookup lookedUp (mem_leaves_clause.mp member)⟩

/-- A document can be read, and every condition in it is about a field that some name was resolved
to. -/
theorem resolved_of_document
    {resolve : String → Except Error Field} {expr : Expr} {document : Json}
    (compiled : expr.document resolve = .ok document) :
    ∃ query, BoolQuery.ofDocument? document = some query ∧
      ∀ condition ∈ query.leaves, ∃ name field,
        resolve name = .ok field ∧ condition.field = field.name := by
  obtain ⟨fragment, built, rfl⟩ := document_eq_ok_iff.mp compiled
  refine ⟨_, BoolQuery.ofDocument?_document _, fun condition member => ?_⟩
  rw [BoolQuery.leaves_ofDocument? (BoolQuery.ofDocument?_document _)] at member
  exact resolved_of_mem_leaves built member

end Expr

/-! ## Calls to an engine -/

/-- A request that reached an engine. -/
inductive Call where
  /-- A request for a mapping, with what was answered. -/
  | mapping (index : String) (answer : Except Error Json)
  | search (index : String) (query aggregations : Json)

namespace Call

/-- The index that a call is about. -/
def index : Call → String
  | mapping index _ => index
  | search index _ _ => index

end Call

namespace Engine

/-- An engine that keeps a record of the requests that reach it. -/
def recorded (engine : Engine (StateM σ)) : Engine (StateM (σ × List Call)) where
  connect := fun (state, calls) =>
    let (connection, state) := engine.connect state
    (connection, (state, calls))
  mapping connection index := fun (state, calls) =>
    let (answer, state) := engine.mapping connection index state
    (answer, (state, calls ++ [.mapping index answer]))
  search connection index query aggregations := fun (state, calls) =>
    let (answer, state) := engine.search connection index query aggregations state
    (answer, (state, calls ++ [.search index query aggregations]))

end Engine

namespace Registry

/-- An index may be used: its name is a good one, and the policy does not exclude it. -/
def Admits (registry : Registry) (index : String) : Prop :=
  Index.isName index = true ∧ registry.policy.excludes index = false

/-- The check lets through exactly the indices that are admitted. -/
theorem checkIndex_eq_ok_iff (registry : Registry) (index : String) :
    registry.checkIndex index = .ok () ↔ registry.Admits index := by
  rw [Admits, ← Index.checkName_eq_ok_iff, ← IndexPolicy.check_eq_ok_iff]
  unfold checkIndex
  cases Index.checkName index <;> simp

end Registry

namespace Catalog

/-- A catalog has the visible fields of an index from a recorded answer. The entry of the answer
that describes them has the name of an index that the policy does not exclude. -/
def Sourced (base : Registry) (calls : List Call) (index : String) (catalog : Catalog) : Prop :=
  ∃ entries name entry mappings fields,
    Call.mapping index (.ok (.object entries)) ∈ calls ∧ (name, entry) ∈ entries ∧
      base.policy.excludes name = false ∧ entry.member? "mappings" = some mappings ∧
      Mapping.fields mappings = .ok fields ∧
      catalog = .ofFields fields (base.limits.hidden index)

/-- A catalog keeps its source while more calls are made. -/
theorem Sourced.later
    {base : Registry} {calls after : List Call} {index : String} {catalog : Catalog}
    (sourced : catalog.Sourced base calls index)
    (kept : calls ⊆ after) :
    catalog.Sourced base after index := by
  obtain ⟨entries, name, entry, mappings, fields, answered, rest⟩ := sourced
  exact ⟨entries, name, entry, mappings, fields, kept answered, rest⟩

/-- No field of such a catalog is hidden. -/
theorem Sourced.visible
    {base : Registry} {calls : List Call} {index : String} {catalog : Catalog} {field : Field}
    (sourced : catalog.Sourced base calls index)
    (member : field ∈ catalog.fields) :
    field.name ∉ base.limits.hidden index := by
  obtain ⟨_, _, _, _, fields, _, _, _, _, _, rfl⟩ := sourced
  have shown := (List.mem_filter.mp member).2
  simpa using shown

/-- Resolved fields are in the catalog, under the name that was asked for. -/
theorem resolve_eq_ok
    {catalog : Catalog} {name : String} {field : Field}
    (resolved : catalog.resolve name = .ok field) :
    field ∈ catalog.fields ∧ field.name = name := by
  unfold resolve at resolved
  cases found : catalog.get? name with
  | none => simp [found] at resolved
  | some other =>
      obtain rfl : other = field := by simpa [found] using resolved
      exact ⟨List.mem_reverse.mp (List.mem_of_find?_eq_some found), name_of_get? found⟩

end Catalog

/-! ## What a response is taken for -/

namespace Schema

theorem mem_of_entry?
    {index name : String} {entries : List (String × Json)} {entry : Json}
    (found : entry? index entries = some (name, entry)) :
    (name, entry) ∈ entries := by
  unfold entry? at found
  split at found
  · next listed =>
      obtain ⟨rfl, rfl⟩ : index = name ∧ _ = entry := by simpa using found
      obtain ⟨before, after, rfl, -⟩ := List.lookup_eq_some_iff.mp listed
      simp
  · next only _ =>
      obtain rfl : only = (name, entry) := by simpa using found
      exact List.mem_singleton_self _
  · contradiction

/-- Mappings are taken out of the response, from an entry that it has. -/
theorem mappingOf_eq_ok
    {index name : String} {response mappings : Json}
    (found : mappingOf index response = .ok (name, mappings)) :
    ∃ entries entry, response = .object entries ∧ (name, entry) ∈ entries ∧
      entry.member? "mappings" = some mappings := by
  unfold mappingOf at found
  cases response with
  | object entries =>
      simp only [Json.members?] at found
      cases chosen : entry? index entries with
      | none => simp [chosen] at found
      | some pair =>
          obtain ⟨key, entry⟩ := pair
          simp only [chosen] at found
          cases inside : entry.member? "mappings" with
          | none => simp [inside] at found
          | some inner =>
              obtain ⟨rfl, rfl⟩ : key = name ∧ inner = mappings := by simpa [inside] using found
              exact ⟨entries, entry, rfl, mem_of_entry? chosen, inside⟩
  | _ => simp [Json.members?] at found

/-- The index that an answer is about may be used, under whatever name it was answered for. -/
theorem Follows.excludes_eq_false
    {base : Registry} {schema : Schema} {name : String}
    (follows : schema.Follows base)
    (allowed : schema.forbids name = false) :
    base.policy.excludes name = false := by
  by_cases isIndex : name = schema.index
  · rw [isIndex]
    exact ((base.checkIndex_eq_ok_iff _).mp follows.admitted).2
  · simpa [forbids, isIndex, follows.policy] using allowed

/-- What a response says where a catalog is made of it. -/
theorem catalogOf_eq_ok
    {schema : Schema} {response : Json} {catalog : Catalog}
    (described : schema.catalogOf response = .ok catalog) :
    ∃ name mappings fields, mappingOf schema.index response = .ok (name, mappings) ∧
      schema.forbids name = false ∧ Mapping.fields mappings = .ok fields ∧
      catalog = .ofFields fields schema.hidden := by
  unfold catalogOf at described
  cases outcome : mappingOf schema.index response with
  | error cause => simp [outcome] at described
  | ok found =>
      obtain ⟨name, mappings⟩ := found
      simp only [outcome] at described
      cases allowed : schema.forbids name with
      | true => simp [allowed] at described
      | false =>
          rw [allowed, if_neg Bool.false_ne_true] at described
          obtain ⟨fields, read, rfl⟩ := eq_ok_of_map described
          exact ⟨name, mappings, fields, rfl, allowed, read, rfl⟩

/-- Catalogs are made of responses, never of failures. -/
theorem receive_eq_ok
    {schema : Schema} {answer : Except Error Json} {catalog : Catalog}
    (received : (schema.receive answer).1 = .ok catalog) :
    ∃ response, answer = .ok response ∧ schema.catalogOf response = .ok catalog := by
  cases answer with
  | error cause => simp [receive] at received
  | ok response =>
      refine ⟨response, rfl, ?_⟩
      simp only [receive] at received
      cases outcome : schema.catalogOf response with
      | error cause => simp [outcome] at received
      | ok found => simpa [outcome] using received

/-- A catalog that a schema makes of a recorded answer is from an index that may be used. -/
theorem Follows.sourced_of_receive
    {base : Registry} {schema : Schema} {calls : List Call} {answer : Except Error Json}
    {catalog : Catalog}
    (follows : schema.Follows base)
    (answered : .mapping schema.index answer ∈ calls)
    (received : (schema.receive answer).1 = .ok catalog) :
    catalog.Sourced base calls schema.index := by
  obtain ⟨response, rfl, described⟩ := receive_eq_ok received
  obtain ⟨name, mappings, fields, located, allowed, read, rfl⟩ := catalogOf_eq_ok described
  obtain ⟨entries, entry, rfl, listed, inside⟩ := mappingOf_eq_ok located
  refine ⟨entries, name, entry, mappings, fields, answered, listed,
    follows.excludes_eq_false allowed, inside, read, ?_⟩
  rw [follows.hidden]

end Schema

/-! ## Confined records and schemas -/

namespace Call

/-- A call that may follow earlier ones. Its index may be used; a search is for the values of a
keyword field that an earlier answer described and that is not hidden. -/
def Allowed (base : Registry) (earlier : List Call) : Call → Prop
  | mapping index _ => base.Admits index
  | search index query aggregations =>
      base.Admits index ∧ ∃ (catalog : Catalog) (field : Field) (text : Option String),
        catalog.Sourced base earlier index ∧ field ∈ catalog.fields ∧ field.kind = .keyword ∧
          field.name ∉ base.limits.hidden index ∧
          query = Suggestion.query field.name text ∧
          aggregations = Suggestion.aggregations field.name base.suggestionSize

theorem Allowed.admits
    {base : Registry} {earlier : List Call} {call : Call}
    (allowed : call.Allowed base earlier) :
    base.Admits call.index := by
  cases call with
  | mapping index answer => exact allowed
  | search index query aggregations => exact allowed.1

/-- Every call of a record is allowed after the calls before it. -/
def Confined (base : Registry) (calls : List Call) : Prop :=
  ∀ (earlier later : List Call) (call : Call), calls = earlier ++ call :: later →
    call.Allowed base earlier

theorem confined_nil (base : Registry) : Confined base [] := by
  intro earlier later call isSplit
  simp at isSplit

/-- A call is confined by the calls before it. -/
theorem Confined.concat
    {base : Registry} {calls : List Call} {call : Call}
    (confined : Confined base calls)
    (allowed : call.Allowed base calls) :
    Confined base (calls ++ [call]) := by
  intro earlier later other isSplit
  rcases List.eq_nil_or_concat later with rfl | ⟨rest, last, rfl⟩
  · obtain ⟨rfl, same⟩ := List.append_inj' isSplit rfl
    rwa [← List.singleton_inj.mp same]
  · rw [List.concat_eq_append, ← List.cons_append, ← List.append_assoc] at isSplit
    exact confined earlier rest other (List.append_inj' isSplit rfl).1

/-- A record that was continued with allowed calls. -/
structure Grows (base : Registry) (before after : List Call) : Prop where
  kept : before ⊆ after
  confined : Confined base before → Confined base after

theorem Grows.refl (base : Registry) (calls : List Call) : Grows base calls calls :=
  ⟨List.Subset.refl calls, id⟩

theorem Grows.trans
    {base : Registry} {before middle after : List Call}
    (first : Grows base before middle) (second : Grows base middle after) :
    Grows base before after :=
  ⟨List.Subset.trans first.kept second.kept, second.confined ∘ first.confined⟩

/-- An allowed call keeps what was confined. -/
theorem grows_concat
    {base : Registry} {calls : List Call} {call : Call}
    (allowed : call.Allowed base calls) :
    Grows base calls (calls ++ [call]) :=
  ⟨List.subset_append_left calls [call], fun confined => confined.concat allowed⟩

end Call

namespace Schema

/-- A schema keeps to a registry, and what it has kept is from the record. -/
structure Confined (base : Registry) (calls : List Call) (schema : Schema) : Prop where
  follows : schema.Follows base
  sourced : ∀ catalog, schema.catalog = some catalog → catalog.Sourced base calls schema.index

theorem Confined.later
    {base : Registry} {calls after : List Call} {schema : Schema}
    (confined : schema.Confined base calls)
    (kept : calls ⊆ after) :
    schema.Confined base after :=
  ⟨confined.follows, fun catalog isKept => (confined.sourced catalog isKept).later kept⟩

/-- Taking a recorded answer in keeps a schema confined. -/
theorem Confined.receive
    {base : Registry} {calls : List Call} {schema : Schema} {answer : Except Error Json}
    (confined : schema.Confined base calls)
    (answered : .mapping schema.index answer ∈ calls) :
    (schema.receive answer).2.Confined base calls := by
  cases outcome : (schema.receive answer).1 with
  | error cause =>
      rw [receive_of_error outcome]
      exact confined
  | ok catalog =>
      have sourced := confined.follows.sourced_of_receive answered outcome
      rw [receive_of_ok outcome]
      refine ⟨confined.follows.of_uncached rfl, fun kept isKept => ?_⟩
      obtain rfl : catalog = kept := Option.some.inj isKept
      exact sourced

variable (engine : Engine (StateM σ)) (state : σ)

/-- Fetching asks for the mapping of an index that may be used. -/
theorem Confined.fetch
    {base : Registry} {calls : List Call} {schema : Schema}
    (confined : schema.Confined base calls) :
    let outcome := schema.fetch engine.recorded (state, calls)
    Call.Grows base calls outcome.2.2 ∧ outcome.1.2.Confined base outcome.2.2 ∧
      ∀ catalog, outcome.1.1 = .ok catalog → catalog.Sourced base outcome.2.2 schema.index := by
  let answer := (engine.mapping schema.connection schema.index state).1
  have admits := (base.checkIndex_eq_ok_iff _).mp confined.follows.admitted
  have grows : Call.Grows base calls (calls ++ [.mapping schema.index answer]) :=
    Call.grows_concat admits
  have answered : .mapping schema.index answer ∈ calls ++ [.mapping schema.index answer] := by simp
  exact ⟨grows, (confined.later grows.kept).receive answered, fun catalog received =>
    confined.follows.sourced_of_receive answered received⟩

/-- The catalog of a confined schema is loaded by a call about its own index. -/
theorem Confined.load
    {base : Registry} {calls : List Call} {schema : Schema}
    (confined : schema.Confined base calls) :
    let outcome := schema.load engine.recorded (state, calls)
    Call.Grows base calls outcome.2.2 ∧ outcome.1.2.Confined base outcome.2.2 ∧
      ∀ catalog, outcome.1.1 = .ok catalog → catalog.Sourced base outcome.2.2 schema.index := by
  cases loaded : schema.catalog with
  | none =>
      rw [load_apply_of_none _ _ _ loaded]
      exact confined.fetch engine state
  | some kept =>
      rw [load_apply_of_some _ _ _ loaded]
      refine ⟨.refl base calls, confined, fun catalog isKept => ?_⟩
      obtain rfl : kept = catalog := Except.ok.inj isKept
      exact confined.sourced kept loaded

end Schema

/-! ## Questions -/

namespace Question

/-- A reply to a question in which no hidden field appears. -/
def Discreet (hidden : List String) : Question → Reply → Prop
  | resolve name, .field field => field.name = name ∧ name ∉ hidden
  | fields, .fields found => ∀ field ∈ found, field.name ∉ hidden
  | suggest name _, .suggestions _ => name ∉ hidden
  | validate _, .accepted => True
  | compile _, .document document => ∃ query, BoolQuery.ofDocument? document = some query ∧
      ∀ condition ∈ query.leaves, condition.field ∉ hidden
  | _, _ => False

end Question

namespace Schema

variable (engine : Engine (StateM σ)) (state : σ)

/-- Suggestions are searched for in a keyword field that is not hidden. -/
theorem Confined.suggest
    {base : Registry} {calls : List Call} {schema : Schema}
    (confined : schema.Confined base calls)
    (name : String) (search : Option String) :
    let outcome := schema.suggest engine.recorded name search (state, calls)
    Call.Grows base calls outcome.2.2 ∧ outcome.1.2.Confined base outcome.2.2 ∧
      ∀ suggestions, outcome.1.1 = .ok suggestions → name ∉ base.limits.hidden schema.index := by
  obtain ⟨grows, confinedLater, sourced⟩ := confined.load engine state
  cases outcome : (schema.load engine.recorded (state, calls)).1.1.bind fun catalog =>
    catalog.resolve name with
  | error cause =>
      rw [suggest_apply_of_error _ _ _ _ outcome]
      exact ⟨grows, confinedLater, fun _ replied => nomatch replied⟩
  | ok field =>
      rw [suggest_apply_of_ok _ _ _ _ outcome]
      obtain ⟨catalog, loaded, resolved⟩ := eq_ok_of_bind outcome
      obtain ⟨member, rfl⟩ := Catalog.resolve_eq_ok resolved
      have visible := (sourced catalog loaded).visible member
      cases suggests : field.kind.suggests with
      | false => exact ⟨grows, confinedLater, fun _ _ => visible⟩
      | true =>
          have isKeyword : field.kind = .keyword := by
            cases kind : field.kind <;> simp [kind, FieldKind.suggests] at suggests ⊢
          have sameIndex : (schema.load engine.recorded (state, calls)).1.2.index = schema.index :=
            congrArg (fun schema => schema.index) (uncached_load engine.recorded schema _)
          simp only [sameIndex, confinedLater.follows.suggestionSize, if_true]
          have admits := (base.checkIndex_eq_ok_iff _).mp confined.follows.admitted
          have allowed : Call.Allowed base _ (.search schema.index _ _) :=
            ⟨admits, catalog, field, search, sourced catalog loaded, member, isKeyword, visible,
              rfl, rfl⟩
          have growsSearch := Call.grows_concat allowed
          exact ⟨grows.trans growsSearch, confinedLater.later growsSearch.kept, fun _ _ => visible⟩

/-- Compilation makes no call but the one for the mapping. -/
theorem Confined.compile
    {base : Registry} {calls : List Call} {schema : Schema}
    (confined : schema.Confined base calls)
    (expr : Expr) :
    let outcome := schema.compile engine.recorded expr (state, calls)
    Call.Grows base calls outcome.2.2 ∧ outcome.1.2.Confined base outcome.2.2 ∧
      ∀ document, outcome.1.1 = .ok document →
        (Question.compile expr).Discreet (base.limits.hidden schema.index) (.document document) := by
  cases accepted : schema.validate expr with
  | error cause =>
      rw [compile_apply_of_error _ _ _ accepted]
      exact ⟨.refl base calls, confined, fun _ replied => nomatch replied⟩
  | ok _ =>
      rw [compile_apply_of_ok _ _ _ accepted]
      obtain ⟨grows, confinedLater, sourced⟩ := confined.load engine state
      refine ⟨grows, confinedLater, fun document compiled => ?_⟩
      obtain ⟨catalog, loaded, isDocument⟩ := eq_ok_of_bind compiled
      obtain ⟨query, isRead, resolved⟩ := Expr.resolved_of_document isDocument
      refine ⟨query, isRead, fun condition member => ?_⟩
      obtain ⟨name, field, found, sameField⟩ := resolved condition member
      rw [sameField]
      exact (sourced catalog loaded).visible (Catalog.resolve_eq_ok found).1

/-- Whatever a schema is asked, its calls are allowed and its reply is discreet. -/
theorem Confined.ask
    {base : Registry} {calls : List Call} {schema : Schema}
    (confined : schema.Confined base calls)
    (question : Question) :
    let outcome := question.ask engine.recorded schema (state, calls)
    Call.Grows base calls outcome.2.2 ∧ outcome.1.2.Confined base outcome.2.2 ∧
      ∀ reply, outcome.1.1 = .ok reply →
        question.Discreet (base.limits.hidden schema.index) reply := by
  cases question with
  | resolve name =>
      obtain ⟨grows, confinedLater, sourced⟩ := confined.load engine state
      refine ⟨grows, confinedLater, fun reply replied => ?_⟩
      obtain ⟨field, found, rfl⟩ := eq_ok_of_map replied
      obtain ⟨catalog, loaded, resolved⟩ := eq_ok_of_bind found
      obtain ⟨member, rfl⟩ := Catalog.resolve_eq_ok resolved
      exact ⟨rfl, (sourced catalog loaded).visible member⟩
  | fields =>
      obtain ⟨grows, confinedLater, sourced⟩ := confined.fetch engine state
      refine ⟨grows, confinedLater, fun reply replied => ?_⟩
      obtain ⟨found, listed, rfl⟩ := eq_ok_of_map replied
      obtain ⟨catalog, fetched, rfl⟩ := eq_ok_of_map listed
      exact fun field member => (sourced catalog fetched).visible member
  | suggest name search =>
      obtain ⟨grows, confinedLater, visible⟩ := confined.suggest engine state name search
      refine ⟨grows, confinedLater, fun reply replied => ?_⟩
      obtain ⟨suggestions, found, rfl⟩ := eq_ok_of_map replied
      exact visible suggestions found
  | validate expr =>
      refine ⟨.refl base calls, confined, fun reply replied => ?_⟩
      obtain ⟨_, _, rfl⟩ := eq_ok_of_map replied
      trivial
  | compile expr =>
      obtain ⟨grows, confinedLater, discreet⟩ := confined.compile engine state expr
      refine ⟨grows, confinedLater, fun reply replied => ?_⟩
      obtain ⟨document, compiled, rfl⟩ := eq_ok_of_map replied
      exact discreet document compiled

end Schema

/-! ## Sessions -/

namespace Registry

/-- All calls are allowed, all schemas confined and all replies discreet. -/
def confinement (base : Registry) (engine : Engine (StateM σ)) : Law base engine.recorded where
  Sound state := Call.Confined base state.2
  Proper state schema := schema.Confined base state.2
  Refusal _ _ := True
  Answer target question reply := ∀ value, reply = .ok value →
    question.Discreet (base.limits.hidden target.index) value
  connect_later confined := ⟨confined, fun _ proper => proper⟩
  connect_ok := by
    intro state connection _ _ index validator admitted
    exact ⟨Schema.follows_build validator connection admitted, fun _ kept => nomatch kept⟩
  connect_error _ _ _ := trivial
  check_error _ := trivial
  ask_later := by
    intro state schema question confined proper
    have grows := (proper.ask engine state.1 question).1
    exact ⟨grows.confined confined, fun _ other => other.later grows.kept⟩
  ask_proper := by
    intro state schema question _ proper
    exact (proper.ask engine state.1 question).2.1
  ask_answer := by
    intro state schema question _ proper
    exact (proper.ask engine state.1 question).2.2

/-- The policy and the field limits confine every session, whatever the engine answers. All calls
are about indices that may be used; every catalog that is kept is from an answer for such an index,
also where the name in the answer is another one; searches are for visible keyword fields; and no
hidden field of an index appears in a reply about it. -/
theorem session_confined
    {settings : RegistrySettings} {validator : Validator} {registry : Registry}
    (built : ofSettings settings validator = .ok registry)
    (engine : Engine (StateM σ)) (state : σ) (inquiries : List Session.Inquiry) :
    let outcome := (Session.start registry).run engine.recorded inquiries (state, [])
    let turns := outcome.1.1
    let calls := outcome.2.2
    settings.policy = .ok registry.policy ∧ settings.limits = registry.limits ∧
      turns.map Session.Turn.inquiry = inquiries ∧ Session.Addressed validator [] turns ∧
      (∀ call ∈ calls, Index.isName call.index = true ∧
        registry.policy.excludes call.index = false) ∧
      Call.Confined registry calls ∧
      (∀ schema ∈ outcome.1.2.registry.schemas, ∀ catalog, schema.catalog = some catalog →
        catalog.Sourced registry calls schema.index) ∧
      ∀ turn ∈ turns, ∀ target reply, turn.target = some target → turn.reply = some (.ok reply) →
        turn.inquiry.question.Discreet (registry.limits.hidden target.index) reply := by
  obtain ⟨policy, isPolicy, isBuilt⟩ := ofSettings_eq_ok built
  have empty := cleared_of_ofSettings built
  have holds : (registry.confinement engine).HoldsIn (fun _ => True) (state, [])
      (.start registry) :=
    (registry.confinement engine).holdsIn_start (Call.confined_nil registry) empty trivial
  obtain ⟨holdsRun, accounts⟩ := holds.run (Session.within_true inquiries)
  have confined : Call.Confined registry _ := holdsRun.registry.sound
  refine ⟨by rw [isPolicy, isBuilt], by rw [isBuilt], Session.map_inquiry_run _ _ _ _, ?_, ?_,
    confined, ?_, ?_⟩
  · have sameDefault : registry.defaultValidator = validator := by rw [isBuilt]
    rw [← sameDefault]
    exact holds.registry.toOrderly.addressed (Session.within_true inquiries) rfl _ _
  · intro call member
    obtain ⟨earlier, later, isSplit⟩ := List.append_of_mem member
    exact (confined earlier later call isSplit).admits
  · intro schema member
    exact (holdsRun.registry.proper schema member).sourced
  · intro turn member target reply isTarget isReply
    rcases accounts turn member with
      ⟨noTarget, -⟩ | ⟨found, replied, isFound, isReplied, -, account⟩
    · cases isTarget.symm.trans noTarget
    · obtain rfl := Option.some.inj (isTarget.symm.trans isFound)
      obtain rfl := Option.some.inj (isReply.symm.trans isReplied)
      rcases account with ⟨_, -, -, answer⟩ | ⟨cause, isError, -⟩
      · exact answer reply rfl
      · cases isError

theorem session_confined_sample :
    ∃ registry, ofSettings Sample.settings .noop = .ok registry ∧
      let outcome := (Session.start registry).run Memory.engine.recorded Sample.inquiries
        (Sample.memory, [])
      outcome.2.2.map Call.index = ["books", "books", "books", "books", "diary"] ∧
        Call.Confined registry outcome.2.2 ∧
        (∀ schema ∈ outcome.1.2.registry.schemas, ∀ catalog, schema.catalog = some catalog →
          catalog.Sourced registry outcome.2.2 schema.index) ∧
        ∀ turn ∈ outcome.1.1, ∀ target reply, turn.target = some target →
          turn.reply = some (.ok reply) →
            turn.inquiry.question.Discreet (registry.limits.hidden target.index) reply := by
  have built : ofSettings Sample.settings .noop = .ok _ := rfl
  refine ⟨_, built, by decide +kernel, ?_⟩
  exact (session_confined built Memory.engine Sample.memory Sample.inquiries).2.2.2.2.2

end Registry
end FilterQuery
