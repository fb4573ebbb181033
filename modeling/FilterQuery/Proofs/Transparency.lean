import FilterQuery.Proofs.Law

/-!
# Transparency of caching

Schemas are kept by the registry and catalogs by the schemas. Over an engine
with fixed answers nobody can tell. Main statement: every reply of a session is
the one that a registry without schemas gives to the same question. The proof
compares both with the reply that is worked out from the engine's answers alone.
The registry tells validators apart by their kinds only, so the validators of a
session have to keep to the contract of kinds.
-/

namespace FilterQuery

namespace Schema

/-- The catalog that a response describes depends only on the index, its hidden fields and the
policy. -/
theorem receive_congr
    {first second : Schema}
    (sameIndex : first.index = second.index)
    (sameHidden : first.hidden = second.hidden)
    (samePolicy : first.policy = second.policy)
    (answer : Except Error Json) :
    (first.receive answer).1 = (second.receive answer).1 := by
  cases answer with
  | error cause => rfl
  | ok response =>
      have sameCatalog : first.catalogOf response = second.catalogOf response := by
        cases first
        cases second
        subst sameIndex sameHidden samePolicy
        rfl
      simp only [receive, sameCatalog]
      cases second.catalogOf response <;> rfl

/-- What is kept is what the engine would answer. -/
def Agrees (schema : Schema) (memory : Memory) : Prop :=
  ∀ catalog, schema.catalog = some catalog →
    (schema.receive (memory.mapping schema.index)).1 = .ok catalog

/-- A response that is taken in makes a schema agree with the engine. -/
theorem agrees_receive
    {schema : Schema} {memory : Memory}
    (agrees : schema.Agrees memory) :
    (schema.receive (memory.mapping schema.index)).2.Agrees memory := by
  cases outcome : (schema.receive (memory.mapping schema.index)).1 with
  | error cause =>
      rw [receive_of_error outcome]
      exact agrees
  | ok catalog =>
      rw [receive_of_ok outcome]
      intro kept isKept
      obtain rfl : catalog = kept := Option.some.inj isKept
      rw [← outcome]
      apply receive_congr <;> rfl

/-- Fetching and loading give the same over an engine with fixed answers. -/
theorem load_eq_receive
    {schema : Schema} {memory : Memory}
    (agrees : schema.Agrees memory) :
    (schema.load Memory.engine memory).1.1 = (schema.receive (memory.mapping schema.index)).1 := by
  cases kept : schema.catalog with
  | none =>
      rw [load_apply_of_none _ _ _ kept]
      rfl
  | some catalog =>
      rw [load_apply_of_some _ _ _ kept, agrees catalog kept]

/-- A schema loads the catalog that the memory has for its index. -/
theorem agrees_load
    {schema : Schema} {memory : Memory}
    (agrees : schema.Agrees memory) :
    (schema.load Memory.engine memory).1.2.Agrees memory := by
  cases kept : schema.catalog with
  | none =>
      rw [load_apply_of_none _ _ _ kept]
      exact agrees_receive agrees
  | some catalog =>
      rw [load_apply_of_some _ _ _ kept]
      exact agrees

end Schema

namespace Memory

/-- The answers are the same, whatever has been asked so far. -/
def SameAnswers (first second : Memory) : Prop :=
  first.mapping = second.mapping ∧ first.response = second.response

theorem SameAnswers.refl (memory : Memory) : memory.SameAnswers memory := ⟨rfl, rfl⟩

theorem SameAnswers.trans
    {first second third : Memory}
    (left : first.SameAnswers second) (right : second.SameAnswers third) :
    first.SameAnswers third :=
  ⟨left.1.trans right.1, left.2.trans right.2⟩

/-- Schemas agree with the answers, whatever has been asked. -/
theorem SameAnswers.agrees_iff
    {first second : Memory}
    (same : first.SameAnswers second) (schema : Schema) :
    schema.Agrees first ↔ schema.Agrees second := by
  simp only [Schema.Agrees, same.1]

theorem sameAnswers_load (schema : Schema) (memory : Memory) :
    (schema.load engine memory).2.SameAnswers memory := by
  cases kept : schema.catalog with
  | none =>
      rw [Schema.load_apply_of_none _ _ _ kept]
      exact ⟨rfl, rfl⟩
  | some catalog =>
      rw [Schema.load_apply_of_some _ _ _ kept]
      exact .refl memory

end Memory

namespace Question

/-- The reply to a question that is worked out from a validator, a catalog and the response to a
search. -/
def answer (validator : Validator) (catalog : Except Error Catalog)
    (response : Except Error Json) : Question → Except Error Reply
  | resolve name => (catalog.bind fun catalog => catalog.resolve name).map .field
  | fields => (catalog.map Catalog.fields).map .fields
  | suggest name _ =>
      match catalog.bind fun catalog => catalog.resolve name with
      | .error cause => .error cause
      | .ok field =>
          if field.kind.suggests then (response.map Suggestion.ofResponse).map .suggestions
          else .error (.schema (.notSuggestable name))
  | validate expr => (validator.check expr).map fun _ => .accepted
  | compile expr =>
      match validator.check expr with
      | .error cause => .error cause
      | .ok () => (catalog.bind fun catalog => expr.document catalog.resolve).map .document

/-- Over fixed answers, a schema replies what follows from the engine's answers alone. -/
theorem ask_eq_answer
    {schema : Schema} {memory : Memory}
    (agrees : schema.Agrees memory) (question : Question) :
    (question.ask Memory.engine schema memory).1.1 =
      question.answer schema.validator (schema.receive (memory.mapping schema.index)).1
        memory.response := by
  rw [← Schema.load_eq_receive agrees]
  cases question with
  | resolve name => rfl
  | fields =>
      rw [Schema.load_eq_receive agrees]
      rfl
  | suggest name search =>
      change (schema.suggest Memory.engine name search memory).1.1.map Reply.suggestions = _
      simp only [answer]
      cases outcome : (schema.load Memory.engine memory).1.1.bind fun catalog =>
        catalog.resolve name with
      | error cause =>
          rw [Schema.suggest_apply_of_error _ _ _ _ outcome]
          rfl
      | ok field =>
          rw [Schema.suggest_apply_of_ok _ _ _ _ outcome]
          have sameResponse := (Memory.sameAnswers_load schema memory).2
          by_cases suggests : field.kind.suggests = true
          · rw [if_pos suggests, ← sameResponse]
            simp only [suggests, if_true]
            rfl
          · rw [if_neg suggests]
            simp only [suggests]
            rfl
  | validate expr => rfl
  | compile expr =>
      change (schema.compile Memory.engine expr memory).1.1.map Reply.document = _
      simp only [answer]
      cases outcome : schema.validator.check expr with
      | error cause =>
          rw [Schema.compile_apply_of_error _ _ _ outcome]
          rfl
      | ok _ => rw [Schema.compile_apply_of_ok _ _ _ outcome]

/-- A schema that agrees with the engine goes on to do so when it is asked. -/
theorem agrees_ask
    {schema : Schema} {memory : Memory}
    (agrees : schema.Agrees memory) (question : Question) :
    (question.ask Memory.engine schema memory).1.2.Agrees memory := by
  rcases schema_ask Memory.engine schema memory question with same | same | same
  · rw [same]
    exact agrees
  · rw [same]
    exact Schema.agrees_load agrees
  · rw [same]
    exact Schema.agrees_receive agrees

/-- To ask does not change what would be answered. -/
theorem sameAnswers_ask (schema : Schema) (memory : Memory) (question : Question) :
    (question.ask Memory.engine schema memory).2.SameAnswers memory := by
  cases question with
  | resolve name => exact Memory.sameAnswers_load schema memory
  | fields => exact ⟨rfl, rfl⟩
  | suggest name search =>
      change (schema.suggest Memory.engine name search memory).2.SameAnswers memory
      cases outcome : (schema.load Memory.engine memory).1.1.bind fun catalog =>
        catalog.resolve name with
      | error cause =>
          rw [Schema.suggest_apply_of_error _ _ _ _ outcome]
          exact Memory.sameAnswers_load schema memory
      | ok field =>
          rw [Schema.suggest_apply_of_ok _ _ _ _ outcome]
          cases field.kind.suggests <;> exact Memory.sameAnswers_load schema memory
  | validate expr => exact .refl memory
  | compile expr =>
      change (schema.compile Memory.engine expr memory).2.SameAnswers memory
      cases outcome : schema.validate expr with
      | error cause =>
          rw [Schema.compile_apply_of_error _ _ _ outcome]
          exact .refl memory
      | ok _ =>
          rw [Schema.compile_apply_of_ok _ _ _ outcome]
          exact Memory.sameAnswers_load schema memory

end Question

namespace Registry

/-- The reply to a question about an index that is worked out from the settings of a registry and
the answers of an engine. -/
def answer (registry : Registry) (memory : Memory) (target : Session.Target)
    (question : Question) : Except Error Reply :=
  (registry.checkIndex target.index).bind fun _ =>
    question.answer target.validator
      ((registry.build target.index target.validator ⟨0⟩).receive (memory.mapping target.index)).1
      memory.response

/-- A schema that follows the registry and agrees with the engine replies what follows from the
settings. -/
theorem ask_eq_registry_answer
    {base : Registry} {memory state : Memory} {schema : Schema}
    (same : state.SameAnswers memory)
    (follows : schema.Follows base)
    (agrees : schema.Agrees memory)
    (question : Question) :
    (question.ask Memory.engine schema state).1.1 =
      base.answer memory ⟨schema.index, schema.validator⟩ question := by
  have sameCatalog : (schema.receive (memory.mapping schema.index)).1 =
      ((base.build schema.index schema.validator ⟨0⟩).receive (memory.mapping schema.index)).1 := by
    refine Schema.receive_congr ?_ follows.hidden follows.policy _
    rfl
  rw [Question.ask_eq_answer ((same.agrees_iff schema).mpr agrees) question, same.1, same.2,
    sameCatalog, answer, follows.admitted]
  rfl

/-- Over fixed answers, every schema agrees with the engine and every reply follows from the
settings. -/
def transparent (base : Registry) (memory : Memory) : Law base Memory.engine where
  Sound state := state.SameAnswers memory
  Proper _ schema := schema.Follows base ∧ schema.Agrees memory
  Refusal index cause := base.checkIndex index = .error cause
  Answer target question reply := reply = base.answer memory target question
  connect_later same := ⟨same, fun _ proper => proper⟩
  connect_ok := by
    intro state connection _ _ index validator admitted
    exact ⟨Schema.follows_build validator connection admitted, fun _ kept => nomatch kept⟩
  connect_error _ failed := nomatch failed
  check_error refused := refused
  ask_later := by
    intro state schema question same _
    exact ⟨(Question.sameAnswers_ask schema state question).trans same, fun _ proper => proper⟩
  ask_proper := by
    intro state schema question same proper
    refine ⟨proper.1.of_uncached (Question.uncached_ask Memory.engine schema state question), ?_⟩
    rw [← same.agrees_iff]
    exact Question.agrees_ask ((same.agrees_iff schema).mpr proper.2) question
  ask_answer := by
    intro state schema question same proper
    exact ask_eq_registry_answer same proper.1 proper.2 question

/-- Every reply of a session follows from the settings and the engine's answers, if the kinds of the
validators identify them: the schema that replies then has the very validator that was asked for. -/
theorem reply_eq_answer
    {base : Registry} {Asked : Validator → Prop} {inquiries : List Session.Inquiry}
    (empty : base.cleared = base)
    (identified : Validator.Identified Asked)
    (isDefault : Asked base.defaultValidator)
    (within : ∀ inquiry ∈ inquiries, inquiry.source.Within Asked)
    (memory : Memory)
    {turn : Session.Turn}
    (member : turn ∈ ((Session.start base).run Memory.engine inquiries memory).1.1) :
    (turn.target = none ∧ turn.reply = none) ∨
      ∃ target, turn.target = some target ∧ Asked target.validator ∧
        turn.reply = some (base.answer memory target turn.inquiry.question) := by
  have holds := (base.transparent memory).holdsIn_start (.refl memory) empty isDefault
  rcases (holds.run within).2 turn member with
    nowhere | ⟨target, reply, isTarget, isReply, isAsked, account⟩
  · exact .inl nowhere
  · refine .inr ⟨target, isTarget, isAsked, isReply.trans (congrArg some ?_)⟩
    rcases account with ⟨validator, schemaAsked, sameKind, replied⟩ | ⟨cause, isError, refused⟩
    · rwa [identified.eq schemaAsked isAsked sameKind] at replied
    · have refused : base.checkIndex target.index = .error cause := refused
      rw [isError, answer, refused]
      rfl

/-- Caching cannot be observed, if the kinds of the validators that are asked for identify them. In
every session over an engine with fixed answers each reply is the one that a registry without
schemas gives when it is asked the same about the same index with the same validator. -/
theorem replies_of_session_eq_first_replies
    {settings : RegistrySettings} {validator : Validator} {registry : Registry}
    (built : ofSettings settings validator = .ok registry)
    (memory : Memory) (inquiries : List Session.Inquiry)
    (identified : Validator.Identified (Session.Asks validator inquiries)) :
    let turns := ((Session.start registry).run Memory.engine inquiries memory).1.1
    turns.map Session.Turn.inquiry = inquiries ∧
      Session.Addressed validator [] turns ∧
      ∀ turn ∈ turns, turn.reply = turn.target.bind fun target =>
        ((Session.start registry).step Memory.engine
          ⟨.custom target.index target.validator, turn.inquiry.question⟩ memory).1.1.reply := by
  obtain ⟨policy, -, isBuilt⟩ := ofSettings_eq_ok built
  have empty := cleared_of_ofSettings built
  have sameDefault : registry.defaultValidator = validator := by rw [isBuilt]
  have isDefault : Session.Asks validator inquiries registry.defaultValidator := .inl sameDefault
  have within : ∀ inquiry ∈ inquiries,
      inquiry.source.Within (Session.Asks validator inquiries) :=
    fun _ member => Session.within_asks validator member
  refine ⟨Session.map_inquiry_run _ _ _ _, ?_, fun turn member => ?_⟩
  · rw [← sameDefault]
    exact (orderly_of_cleared empty isDefault).addressed within rfl Memory.engine memory
  · rcases reply_eq_answer empty identified isDefault within memory member with
      ⟨noTarget, noReply⟩ | ⟨target, isTarget, isAsked, isReply⟩
    · rw [noTarget, noReply, Option.bind_none]
    · rw [isTarget, isReply, Option.bind_some]
      -- The first reply is that of a session with a single inquiry.
      have first := @reply_eq_answer _ _
        [⟨.custom target.index target.validator, turn.inquiry.question⟩] empty identified isDefault
        (List.forall_mem_singleton.mpr isAsked) memory _ List.mem_cons_self
      rcases first with ⟨noTarget, -⟩ | ⟨other, isOther, -, firstReply⟩
      · cases noTarget
      · obtain rfl : target = other := Option.some.inj isOther
        exact firstReply.symm

end Registry

namespace Sample

/-- A validator that lets through single comparisons of one field. -/
def only (field : String) : Validator where
  kind := "only(" ++ field ++ ")"
  check
    | .comparison name _ _ =>
        if name.dotted = field then .ok () else .error (.expression (.rejected name.dotted))
    | .logical _ _ _ => .error (.expression (.rejected "more than one comparison"))

/-- A comparison of one field. -/
def ofYear : Expr := .comparison ⟨["year"]⟩ .equal (.int 1)

/-- The same is asked about one index with all kinds of validators. -/
def judgements : List Session.Inquiry :=
  inquiries ++ [⟨.custom "books" (only "title"), .compile ofYear⟩,
    ⟨.custom "books" (only "year"), .compile ofYear⟩]

/-- The four validators that are asked for have different kinds. -/
theorem identified_judgements : Validator.Identified (Session.Asks .noop judgements) := by
  have asked (validator : Validator) (isAsked : Session.Asks .noop judgements validator) :
      validator = .noop ∨ validator = .depthLimit 3 ∨ validator = only "title" ∨
        validator = only "year" := by
    rcases isAsked with rfl | ⟨inquiry, member, index, isSource⟩
    · exact .inl rfl
    · simp only [judgements, inquiries, List.cons_append, List.nil_append, List.mem_cons,
        List.not_mem_nil, or_false] at member
      rcases member with rfl | rfl | rfl | rfl | rfl | rfl | rfl | rfl <;> cases isSource <;> simp
  intro first second firstAsked secondAsked same
  rcases asked first firstAsked with rfl | rfl | rfl | rfl <;>
    rcases asked second secondAsked with rfl | rfl | rfl | rfl <;>
    first | rfl | exact absurd same (by decide)

end Sample

namespace Registry

theorem replies_of_session_eq_first_replies_sample :
    ∃ registry, ofSettings Sample.settings .noop = .ok registry ∧
      Validator.Identified (Session.Asks .noop Sample.judgements) ∧
      let turns := ((Session.start registry).run Memory.engine Sample.judgements Sample.memory).1.1
      (turns.map fun turn => turn.reply.map Except.isOk) =
          [some true, some true, some true, some false, some false, some false, some false,
            some true] ∧
        ∀ turn ∈ turns, turn.reply = turn.target.bind fun target =>
          ((Session.start registry).step Memory.engine
            ⟨.custom target.index target.validator, turn.inquiry.question⟩
            Sample.memory).1.1.reply := by
  have built : ofSettings Sample.settings .noop = .ok _ := rfl
  have identified := Sample.identified_judgements
  refine ⟨_, built, identified, by decide +kernel, ?_⟩
  exact (replies_of_session_eq_first_replies built Sample.memory Sample.judgements identified).2.2

-- Two validators that share a kind: the second one is given the schema of the first one, whose
-- verdict is not the one that the second one gives in a new registry.
example :
    let inquiry (field : String) : Session.Inquiry :=
      ⟨.custom "books" { Sample.only field with kind := "only" }, .validate Sample.ofYear⟩
    ∃ registry, ofSettings Sample.settings .noop = .ok registry ∧
      let replies (inquiries : List Session.Inquiry) : List (Option Bool) :=
        ((Session.start registry).run Memory.engine inquiries Sample.memory).1.1.map fun turn =>
          turn.reply.map Except.isOk
      replies [inquiry "title", inquiry "year"] = [some false, some false] ∧
        replies [inquiry "year"] = [some true] :=
  ⟨_, rfl, by decide +kernel, by decide +kernel⟩

end Registry
end FilterQuery
