import FilterQuery.Proofs.Order

/-!
# Laws of sessions

What is true of every session follows from what is true of one question. A law
states what holds of the engine, of every schema, of every refusal and of every
reply; a session keeps to each law that connecting to the engine and asking one
schema keep to.
-/

namespace FilterQuery

/-- Rules for the use of an engine by the schemas of a registry. -/
structure Law (base : Registry) (engine : Engine (StateM σ)) where
  /-- What holds of the engine. -/
  Sound : σ → Prop
  /-- What holds of a schema. -/
  Proper : σ → Schema → Prop
  /-- For which causes there is no schema for an index. -/
  Refusal : String → Error → Prop
  /-- What is replied to a question about an index. -/
  Answer : Session.Target → Question → Except Error Reply → Prop
  /-- Nothing is lost when a connection is opened. -/
  connect_later {state : σ} : Sound state → Sound (engine.connect state).2 ∧
    ∀ schema, Proper state schema → Proper (engine.connect state).2 schema
  /-- A schema over a new connection is proper. -/
  connect_ok {state : σ} {connection : Connection} :
    Sound state → (engine.connect state).1 = .ok connection →
      ∀ index validator, base.checkIndex index = .ok () →
        Proper (engine.connect state).2 (base.build index validator connection)
  connect_error {state : σ} {cause : Error} :
    Sound state → (engine.connect state).1 = .error cause → ∀ index, Refusal index cause
  check_error {index : String} {cause : Error} :
    base.checkIndex index = .error cause → Refusal index cause
  /-- Nothing is lost when a schema is asked. -/
  ask_later {state : σ} {schema : Schema} (question : Question) :
    Sound state → Proper state schema → Sound (question.ask engine schema state).2 ∧
      ∀ other, Proper state other → Proper (question.ask engine schema state).2 other
  /-- A schema that was asked stays proper. -/
  ask_proper {state : σ} {schema : Schema} (question : Question) :
    Sound state → Proper state schema →
      Proper (question.ask engine schema state).2 (question.ask engine schema state).1.2
  ask_answer {state : σ} {schema : Schema} (question : Question) :
    Sound state → Proper state schema →
      Answer ⟨schema.index, schema.validator⟩ question (question.ask engine schema state).1.1

namespace Law

variable {base : Registry} {engine : Engine (StateM σ)} {Asked : Validator → Prop}

/-- A law holds while a registry is in use: the registry is in order, and all its schemas are
proper. -/
structure Holds (law : Law base engine) (Asked : Validator → Prop) (state : σ)
    (registry : Registry) : Prop extends registry.Orderly base Asked where
  sound : law.Sound state
  proper : ∀ schema ∈ registry.schemas, law.Proper state schema

/-- A law holds of a registry without schemas. -/
theorem holds_cleared
    (law : Law base engine) {state : σ}
    (sound : law.Sound state)
    (empty : base.cleared = base)
    (isDefault : Asked base.defaultValidator) :
    law.Holds Asked state base := by
  refine ⟨Registry.orderly_of_cleared empty isDefault, sound, fun schema member => ?_⟩
  rw [← empty] at member
  cases member

/-! ## One inquiry -/

/-- A law goes on to hold when a schema is asked for, and if there is none, the cause is one for
which it may be refused. -/
theorem Holds.obtain
    {law : Law base engine} {state : σ} {registry : Registry}
    (holds : law.Holds Asked state registry)
    (index : String) (validator : Validator)
    (isAsked : Asked validator) :
    let outcome := registry.obtain engine index validator state
    law.Holds Asked outcome.2 outcome.1.2 ∧
      ∀ cause, outcome.1.1 = .error cause → law.Refusal index cause := by
  have orderly := (holds.toOrderly.obtain index validator isAsked engine state).1
  have sameCheck := holds.checkIndex_eq index
  cases checked : registry.checkIndex index with
  | error cause =>
      rw [Registry.obtain_of_refused engine checked]
      refine ⟨holds, ?_⟩
      rintro _ ⟨⟩
      exact law.check_error (sameCheck ▸ checked)
  | ok _ =>
      cases memoized : registry.memoized? index validator with
      | some found =>
          rw [Registry.obtain_of_memoized engine checked memoized]
          exact ⟨holds, fun _ refused => nomatch refused⟩
      | none =>
          obtain ⟨sound, kept⟩ := law.connect_later holds.sound
          have properLater : ∀ schema ∈ registry.schemas,
              law.Proper (engine.connect state).2 schema :=
            fun schema member => kept schema (holds.proper schema member)
          cases connected : (engine.connect state).1 with
          | error cause =>
              rw [Registry.obtain_of_connect_error engine checked memoized connected]
              refine ⟨⟨holds.toOrderly, sound, properLater⟩, ?_⟩
              rintro _ ⟨⟩
              exact law.connect_error holds.sound connected index
          | ok connection =>
              rw [Registry.obtain_of_connect_ok engine checked memoized connected] at orderly ⊢
              refine ⟨⟨orderly, sound, fun schema member => ?_⟩, fun _ refused => nomatch refused⟩
              rw [Registry.schemas_keep, List.mem_append, List.mem_singleton] at member
              rcases member with old | rfl
              · exact properLater schema old
              · rw [holds.build_eq]
                exact law.connect_ok holds.sound connected index validator (sameCheck ▸ checked)

/-- A question to a schema of the registry is answered, and a law goes on to hold. -/
theorem Holds.operate
    {law : Law base engine} {state : σ} {registry : Registry} {number : Nat} {schema : Schema}
    (holds : law.Holds Asked state registry)
    (found : registry.schemas[number]? = some schema)
    (question : Question) :
    let outcome := registry.operate? number (fun schema => question.ask engine schema) state
    law.Holds Asked outcome.2 outcome.1.2 ∧
      ∃ reply, outcome.1.1 = some reply ∧
        law.Answer ⟨schema.index, schema.validator⟩ question reply := by
  have orderly := (holds.toOrderly.operate engine number question state).1
  have proper := holds.proper schema (List.mem_of_getElem? found)
  obtain ⟨sound, kept⟩ := law.ask_later question holds.sound proper
  rw [Registry.operate?_of_some engine question found] at orderly ⊢
  refine ⟨⟨orderly, sound, fun other member => ?_⟩, _, rfl,
    law.ask_answer question holds.sound proper⟩
  rcases List.mem_or_eq_of_mem_set member with old | rfl
  · exact kept other (holds.proper other old)
  · exact law.ask_proper question holds.sound proper

/-- A handle leads to a schema for its index with a validator of its kind, or says why there may be
none. -/
structure Fits (law : Law base engine) (Asked : Validator → Prop) (registry : Registry)
    (handle : Session.Handle) : Prop where
  asked : Asked handle.target.validator
  leads {number : Nat} : handle.number = .ok number →
    ∃ schema : Schema, registry.schemas[number]? = some schema ∧
      schema.index = handle.target.index ∧ schema.validator.kind = handle.target.validator.kind
  refusal {cause : Error} : handle.number = .error cause → law.Refusal handle.target.index cause

theorem Fits.later
    {law : Law base engine} {before after : Registry} {handle : Session.Handle}
    (fits : law.Fits Asked before handle)
    (kept : before.Extends after) :
    law.Fits Asked after handle := by
  refine ⟨fits.asked, fun {number} isNumber => ?_, fits.refusal⟩
  obtain ⟨schema, found, sameIndex, sameKind⟩ := fits.leads isNumber
  obtain ⟨later, foundLater, laterIndex, laterValidator⟩ := kept number schema found
  exact ⟨later, foundLater, laterIndex.trans sameIndex, by rw [laterValidator, sameKind]⟩

/-- A law holds in a session: it holds of the registry, and all handles fit. -/
structure HoldsIn (law : Law base engine) (Asked : Validator → Prop) (state : σ)
    (session : Session) : Prop where
  registry : law.Holds Asked state session.registry
  handles : ∀ handle, some handle ∈ session.handles → law.Fits Asked session.registry handle

/-- What a law says about a turn: an inquiry that went somewhere got a refusal, or the answer of a
schema with a validator that was asked for and is of the kind of the inquiry's one. -/
def Accounts (law : Law base engine) (Asked : Validator → Prop) (turn : Session.Turn) : Prop :=
  (turn.target = none ∧ turn.reply = none) ∨
    ∃ target reply, turn.target = some target ∧ turn.reply = some reply ∧
      Asked target.validator ∧
      ((∃ validator, Asked validator ∧ validator.kind = target.validator.kind ∧
          law.Answer ⟨target.index, validator⟩ turn.inquiry.question reply) ∨
        ∃ cause, reply = .error cause ∧ law.Refusal target.index cause)

theorem Holds.request
    {law : Law base engine} {state : σ} {registry : Registry} {target : Session.Target}
    (holds : law.Holds Asked state registry)
    (isAsked : Asked target.validator) :
    let outcome := Session.request engine registry target state
    law.Holds Asked outcome.2 outcome.1.2 ∧
      ∀ handle, outcome.1.1 = some handle → law.Fits Asked outcome.1.2 handle := by
  obtain ⟨holdsLater, refusal⟩ := holds.obtain target.index target.validator isAsked
  obtain ⟨-, -, given⟩ :=
    holds.toOrderly.obtain target.index target.validator isAsked engine state
  refine ⟨holdsLater, ?_⟩
  rintro _ ⟨⟩
  refine ⟨isAsked, fun isNumber => ?_, fun isError => ?_⟩
  · obtain ⟨⟨number, schema⟩, isGiven, rfl⟩ := eq_ok_of_map isNumber
    obtain ⟨stored, sameIndex, sameKind⟩ := given number schema isGiven
    exact ⟨schema, stored, sameIndex, sameKind⟩
  · exact refusal _ (eq_error_of_map isError)

theorem HoldsIn.acquire
    {law : Law base engine} {state : σ} {session : Session} {source : Session.Source}
    (holds : law.HoldsIn Asked state session)
    (within : source.Within Asked) :
    let outcome := session.acquire engine source state
    law.Holds Asked outcome.2 outcome.1.2 ∧
      ∀ handle, outcome.1.1 = some handle → law.Fits Asked outcome.1.2 handle := by
  cases source with
  | default index =>
      have isDefault : Asked session.registry.defaultValidator := holds.registry.default
      exact holds.registry.request isDefault
  | custom index validator => exact holds.registry.request within
  | again position =>
      refine ⟨holds.registry, fun handle found => holds.handles handle ?_⟩
      change session.handles.getD position none = some handle at found
      rw [List.getD_eq_getElem?_getD] at found
      cases stored : session.handles[position]? with
      | none => simp [stored] at found
      | some kept =>
          simp only [stored, Option.getD_some] at found
          subst found
          exact List.mem_of_getElem? stored

theorem Holds.serve
    {law : Law base engine} {state : σ} {registry : Registry} {found : Option Session.Handle}
    (holds : law.Holds Asked state registry)
    (fits : ∀ handle, found = some handle → law.Fits Asked registry handle)
    (inquiry : Session.Inquiry) :
    let outcome := Session.serve engine registry inquiry.question found state
    law.Holds Asked outcome.2 outcome.1.2 ∧
      law.Accounts Asked ⟨inquiry, found.map Session.Handle.target, outcome.1.1⟩ := by
  match found, fits with
  | none, _ => exact ⟨holds, .inl ⟨rfl, rfl⟩⟩
  | some ⟨target, .error cause⟩, fits =>
      have fits := fits _ rfl
      exact ⟨holds, .inr ⟨target, .error cause, rfl, rfl, fits.asked,
        .inr ⟨cause, rfl, fits.refusal rfl⟩⟩⟩
  | some ⟨target, .ok number⟩, fits =>
      have fits := fits _ rfl
      obtain ⟨schema, stored, sameIndex, sameKind⟩ := fits.leads rfl
      obtain ⟨holdsLater, reply, replied, answer⟩ := holds.operate stored inquiry.question
      have isAsked := holds.asked schema (List.mem_of_getElem? stored)
      rw [sameIndex] at answer
      exact ⟨holdsLater, .inr ⟨target, reply, rfl, replied, fits.asked,
        .inl ⟨schema.validator, isAsked, sameKind, answer⟩⟩⟩

/-- One inquiry keeps to a law. -/
theorem HoldsIn.step
    {law : Law base engine} {state : σ} {session : Session} {inquiry : Session.Inquiry}
    (holds : law.HoldsIn Asked state session)
    (within : inquiry.source.Within Asked) :
    let outcome := session.step engine inquiry state
    law.HoldsIn Asked outcome.2 outcome.1.2 ∧ law.Accounts Asked outcome.1.1 := by
  obtain ⟨holdsAcquired, fits⟩ := holds.acquire within
  obtain ⟨holdsServed, accounts⟩ := holdsAcquired.serve fits inquiry
  have keptAcquired := (holds.registry.toOrderly.acquire within engine state).2
  have keptServed := (holdsAcquired.toOrderly.serve engine inquiry.question
    (session.acquire engine inquiry.source state).1.1
    (session.acquire engine inquiry.source state).2).2
  refine ⟨⟨holdsServed, fun handle member => ?_⟩, accounts⟩
  rcases List.mem_append.mp member with old | new
  · exact (holds.handles handle old).later (keptAcquired.trans keptServed)
  · exact (fits handle (List.mem_singleton.mp new).symm).later keptServed

/-- A session keeps to a law, in every turn. -/
theorem HoldsIn.run
    {law : Law base engine} {state : σ} {session : Session} {inquiries : List Session.Inquiry}
    (holds : law.HoldsIn Asked state session)
    (within : ∀ inquiry ∈ inquiries, inquiry.source.Within Asked) :
    let outcome := session.run engine inquiries state
    law.HoldsIn Asked outcome.2 outcome.1.2 ∧ ∀ turn ∈ outcome.1.1, law.Accounts Asked turn := by
  induction inquiries generalizing session state with
  | nil => exact ⟨holds, fun turn member => absurd member List.not_mem_nil⟩
  | cons inquiry rest inductionHypothesis =>
      obtain ⟨firstWithin, restWithin⟩ := List.forall_mem_cons.mp within
      obtain ⟨holdsStep, accounts⟩ := holds.step firstWithin
      obtain ⟨holdsRun, restAccount⟩ := inductionHypothesis holdsStep restWithin
      refine ⟨holdsRun, fun turn member => ?_⟩
      rcases List.mem_cons.mp member with rfl | later
      · exact accounts
      · exact restAccount turn later

/-- A law holds in a session with a registry without schemas. -/
theorem holdsIn_start
    (law : Law base engine) {state : σ}
    (sound : law.Sound state)
    (empty : base.cleared = base)
    (isDefault : Asked base.defaultValidator) :
    law.HoldsIn Asked state (.start base) :=
  ⟨law.holds_cleared sound empty isDefault, fun handle member => by simp [Session.start] at member⟩

end Law
end FilterQuery
