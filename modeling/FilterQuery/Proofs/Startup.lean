import FilterQuery.Http.Service
import FilterQuery.Proofs.Steadiness
import FilterQuery.Settings.Config

/-!
# What startup settles

A configuration that passes the check has a registry, and an engine with hosts
to connect to. Main statements: after startup no request fails because of the
configuration, whatever the engine answers; but the check does not look at the
index that is fixed for all requests, and one that cannot be used fails every
one of them.
-/

namespace FilterQuery

/-! ## The check at startup -/

namespace Config

/-- A configuration without a fault has a policy, and a host to connect to. -/
theorem of_check_eq_ok {config : Config} (accepted : config.check = .ok ()) :
    (∃ policy, config.index.policy = .ok policy) ∧ config.access.check = .ok () ∧
      config.connection.hosts ≠ [] := by
  unfold check at accepted
  cases isPolicy : config.index.policy with
  | error cause => simp [isPolicy] at accepted
  | ok policy =>
      cases hasIndex : config.access.check with
      | error cause => simp [isPolicy, hasIndex] at accepted
      | ok _ =>
          refine ⟨⟨policy, rfl⟩, rfl, fun noHosts => ?_⟩
          simp [isPolicy, hasIndex, noHosts] at accepted

/-- Building a registry fails for what the check finds and for nothing else. -/
theorem registry_eq_error_iff {config : Config} {cause : ConfigError} :
    config.registry = .error cause ↔ config.check = .error cause := by
  unfold registry
  cases checked : config.check with
  | error found => simp
  | ok _ =>
      obtain ⟨⟨policy, isPolicy⟩, -⟩ := of_check_eq_ok checked
      simp [Registry.ofSettings, isPolicy, Except.map]

theorem exists_registry_iff {config : Config} :
    (∃ registry, config.registry = .ok registry) ↔ config.check = .ok () := by
  have sameErrors := @registry_eq_error_iff config
  cases built : config.registry with
  | error cause => simp [sameErrors.mp built]
  | ok registry =>
      cases checked : config.check with
      | error cause => simp [sameErrors.mpr checked] at built
      | ok _ => simp

/-- A new registry is built from its section of the configuration. -/
theorem of_registry_eq_ok {config : Config} {registry : Registry}
    (built : config.registry = .ok registry) :
    config.check = .ok () ∧ Registry.ofSettings config.index config.validator = .ok registry := by
  have accepted := exists_registry_iff.mp ⟨registry, built⟩
  refine ⟨accepted, ?_⟩
  rwa [Config.registry, accepted] at built

section Use

variable {config : Config} {registry : Registry} (built : config.registry = .ok registry)
  {transport : Transport (StateM σ)} (ready : transport.Ready config.connection.timeoutSeconds)

/-- The law that holds of the registry of a configuration. -/
def law : Law registry (Remote.engine transport).joined :=
  registry.steadiness
    (Remote.steady_engine (of_check_eq_ok (of_registry_eq_ok built).1).2.2 ready)

/-- The law holds from the start, after every session, and in all of its turns. -/
theorem law_holds
    {Asked : Validator → Prop} {inquiries : List Session.Inquiry}
    (isDefault : Asked config.validator)
    (within : ∀ inquiry ∈ inquiries, inquiry.source.Within Asked)
    (network : σ) :
    let used := (Session.start registry).run (Remote.engine transport) inquiries
      { settings := config.connection } network
    (law built ready).HoldsIn Asked (used.1.2, used.2) used.1.1.2 ∧
      ∀ turn ∈ used.1.1.1, (law built ready).Accounts Asked turn := by
  obtain ⟨policy, -, isBuilt⟩ := Registry.ofSettings_eq_ok (of_registry_eq_ok built).2
  have empty := Registry.cleared_of_ofSettings (of_registry_eq_ok built).2
  have holds := (law built ready).holdsIn_start
    (show (law built ready).Sound ({ settings := config.connection }, network) from rfl) empty
    (show Asked registry.defaultValidator by rwa [isBuilt])
  have sameRun := (Remote.engine transport).matches_joined.run (.start registry) inquiries
  have kept := holds.run within
  rw [sameRun] at kept
  exact kept

end Use

/-- Errors of the configuration are found at startup. Building the registry fails for what the check
finds and for nothing else; and where it succeeds, every inquiry of every session is dealt with, and
whatever is replied to it concerns that inquiry only, as long as requests can be sent at all. The
validators are those that a configuration can ask for. -/
theorem config_errors_at_startup_only (config : Config) :
    (∀ cause, config.registry = .error cause ↔ config.check = .error cause) ∧
      ((∃ registry, config.registry = .ok registry) ↔ config.check = .ok ()) ∧
      ∀ registry, config.registry = .ok registry →
        ∀ (σ : Type) (transport : Transport (StateM σ)),
          transport.Ready config.connection.timeoutSeconds →
            ∀ (network : σ) (inquiries : List Session.Inquiry),
              (∀ inquiry ∈ inquiries, inquiry.source.Within Validator.Provided) →
              let turns := ((Session.start registry).run (Remote.engine transport) inquiries
                { settings := config.connection } network).1.1.1
              turns.map Session.Turn.inquiry = inquiries ∧
                ∀ turn ∈ turns, ∀ cause, turn.reply = some (.error cause) →
                  cause.isRecoverable = true := by
  refine ⟨fun cause => registry_eq_error_iff, exists_registry_iff, ?_⟩
  intro registry built σ transport ready network inquiries within
  have sameRun := (Remote.engine transport).matches_joined.run (.start registry) inquiries
  have asked := Session.map_inquiry_run (Remote.engine transport).joined (.start registry)
    ({ settings := config.connection }, network) inquiries
  rw [sameRun] at asked
  refine ⟨asked, ?_⟩
  intro turn member cause replied
  rcases (law_holds built ready config.validator_provided within network).2 turn member with
    ⟨-, noReply⟩ | ⟨target, reply, -, isReply, -, account⟩
  · cases replied.symm.trans noReply
  · obtain rfl := Option.some.inj (replied.symm.trans isReply)
    rcases account with ⟨validator, provided, -, recovers⟩ | ⟨refusal, sameCause, refused⟩
    · exact recovers provided.recovers_check
    · -- There is no schema, which only the check of the index can be the reason for.
      obtain rfl := Except.error.inj sameCause
      have recovers := registry.recovers_checkIndex target.index
      rw [show registry.checkIndex target.index = .error cause from refused] at recovers
      exact recovers

end Config

namespace Sample

/-- One index is served, and expressions are not deep. -/
def guarded : Config where
  index := ⟨["books"], [], .none, 5⟩
  maxDepth := some 2

/-- Nothing that is sent arrives. -/
def offline : Transport (StateM Unit) where
  setUp _ := pure (.ok ())
  send _ := pure (.error "connection refused")

end Sample

namespace Config

/-- A served index, one that is not served and one that cannot be, while nothing arrives. -/
theorem config_errors_at_startup_only_sample :
    Sample.guarded.check = .ok () ∧
      ∃ registry, Sample.guarded.registry = .ok registry ∧
        let turns := ((Session.start registry).run (Remote.engine Sample.offline)
          [⟨.default "books", .fields⟩, ⟨.default "vault", .fields⟩, ⟨.custom "" .noop, .fields⟩]
          { settings := Sample.guarded.connection } ()).1.1.1
        turns.length = 3 ∧
          ∀ turn ∈ turns, ∀ cause, turn.reply = some (.error cause) →
            cause.isRecoverable = true := by
  obtain ⟨-, builds, recovers⟩ := config_errors_at_startup_only Sample.guarded
  have accepted : Sample.guarded.check = .ok () := rfl
  obtain ⟨registry, built⟩ := builds.mpr accepted
  obtain ⟨asked, recoversAll⟩ := recovers registry built Unit Sample.offline (fun _ => rfl) ()
    [⟨.default "books", .fields⟩, ⟨.default "vault", .fields⟩, ⟨.custom "" .noop, .fields⟩]
    (by simpa [Session.Source.Within] using Validator.Provided.noop)
  refine ⟨accepted, registry, built, ?_, recoversAll⟩
  simpa using congrArg List.length asked

/-! ## The index that is fixed -/

/-- Where no request may name an index, there is one for all of them. -/
theorem resolve_of_fixed
    {config : Config} (accepted : config.check = .ok ())
    (fixed : config.access.acceptsIndex = false) :
    ∃ index, config.access.defaultIndex = some index ∧
      ∀ requested, config.access.resolve requested = .ok index := by
  have hasIndex := (of_check_eq_ok accepted).2.1
  cases isDefault : config.access.defaultIndex with
  | none => simp [AccessSettings.check, fixed, isDefault] at hasIndex
  | some index =>
      refine ⟨index, rfl, fun requested => ?_⟩
      rw [AccessSettings.resolve_eq_of_fixed fixed requested none]
      simp [AccessSettings.resolve, isDefault]

end Config

/-- With an engine that can be reached, a schema is given for exactly the indices that may be
used. -/
theorem Registry.obtain_of_holds
    {base registry : Registry} {engine : Engine (StateM σ)} {Sound : σ → Prop}
    {steady : engine.Steady Sound} {state : σ}
    (holds : (base.steadiness steady).Holds (fun _ => True) state registry)
    (index : String) (validator : Validator) :
    (registry.obtain engine index validator state).1.1.map (fun found => found.2.index) =
      (base.checkIndex index).map fun _ => index := by
  obtain ⟨holdsLater, refusal⟩ := holds.obtain index validator trivial
  obtain ⟨-, -, given⟩ := holds.toOrderly.obtain index validator trivial engine state
  cases outcome : (registry.obtain engine index validator state).1.1 with
  | error cause =>
      rw [show base.checkIndex index = .error cause from refusal cause outcome]
      rfl
  | ok found =>
      obtain ⟨stored, rfl, -⟩ := given found.1 found.2 outcome
      have admitted := holdsLater.proper found.2 (List.mem_of_getElem? stored)
      rw [show base.checkIndex found.2.index = .ok () from admitted]
      rfl

namespace Service

theorem status_of_exprOf {request : Request} {status : Nat}
    (refused : exprOf request = .error status) :
    status = 400 ∨ status = 413 := by
  unfold exprOf at refused
  split at refused
  · exact .inl (Except.error.inj refused).symm
  · split at refused
    · exact .inl (Except.error.inj refused).symm
    · split at refused
      · exact .inr (Except.error.inj refused).symm
      · split at refused
        · cases refused
        · exact .inl (Except.error.inj refused).symm

/-- What cannot be read is refused with a status of its own. -/
theorem status_of_read {request : Request} {status : Nat} (refused : read request = .error status) :
    status = 400 ∨ status = 404 ∨ status = 413 := by
  unfold read at refused
  split at refused
  · exact .inr (.inl (Except.error.inj refused).symm)
  · next route _ =>
      split at refused
      · cases route with
        | mappings => cases refused
        | suggestions field => cases refused
        | query =>
            cases isExpr : exprOf request with
            | ok expr => simp [taskOf, isExpr, Except.map] at refused
            | error other =>
                simp only [taskOf, isExpr, Except.map, Except.error.injEq] at refused
                subst refused
                exact (status_of_exprOf isExpr).imp_right .inr
      · exact .inl (Except.error.inj refused).symm

/-- Where the index of all requests may not be used, each one is refused before the engine or the
registry come into it. -/
theorem answer_of_refused [Monad m] [LawfulMonad m] (engine : Engine m)
    {access : AccessSettings} {registry : Registry} {index : String} {cause : Error}
    (resolved : ∀ requested, access.resolve requested = .ok index)
    (refused : registry.checkIndex index = .error cause)
    (request : Request) :
    ∃ response : Response, response.status ≠ 200 ∧
      answer engine access registry request = pure (response, registry) := by
  unfold answer
  cases isRead : read request with
  | error status =>
      refine ⟨.bare status, ?_, rfl⟩
      change status ≠ 200
      have isStatus := status_of_read isRead
      omega
  | ok task =>
      refine ⟨.ofResult (.error cause), by simp [Response.ofResult], ?_⟩
      simp [resolved, Registry.operate, Registry.obtain, refused]

end Service

namespace Config

/-- With a fixed index, a configuration that passes the check can serve exactly where that index has
a proper name and is not excluded, which the check does not look at. Every request is then about
this index, and at any time there is a schema for it. Otherwise there never is one, and every request
is refused before the engine is asked. -/
theorem serves_iff_fixed_index_admitted
    {config : Config} (accepted : config.check = .ok ())
    (fixed : config.access.acceptsIndex = false) :
    ∃ index registry, config.access.defaultIndex = some index ∧ config.registry = .ok registry ∧
      (∀ requested, config.access.resolve requested = .ok index) ∧
      (∀ (σ : Type) (transport : Transport (StateM σ)),
        transport.Ready config.connection.timeoutSeconds →
          ∀ (network : σ) (inquiries : List Session.Inquiry) (validator : Validator),
            let used := (Session.start registry).run (Remote.engine transport) inquiries
              { settings := config.connection } network
            let given := (used.1.1.2.registry.obtain (Remote.engine transport) index validator
              used.1.2 used.2).1.1.1
            given.map (fun found => found.2.index) =
              if Index.isName index = true then
                if registry.policy.excludes index = true then
                  .error (.schema (.indexExcluded index))
                else .ok index
              else .error (.schema (.invalidIndexName index))) ∧
      (¬ registry.Admits index →
        ∀ (m : Type → Type) [Monad m] [LawfulMonad m] (engine : Engine m) (request : Request),
          ∃ response : Response, response.status ≠ 200 ∧
            Service.answer engine config.access registry request = pure (response, registry)) := by
  obtain ⟨index, isDefault, resolved⟩ := resolve_of_fixed accepted fixed
  obtain ⟨registry, built⟩ := exists_registry_iff.mpr accepted
  refine ⟨index, registry, isDefault, built, resolved, ?_, ?_⟩
  · intro σ transport ready network inquiries validator used given
    have holds := (law_holds built ready trivial (Session.within_true inquiries) network).1
    have sameObtain :=
      (Remote.engine transport).matches_joined.obtain used.1.1.2.registry index validator
    have obtained := Registry.obtain_of_holds holds.registry index validator
    rw [sameObtain, Registry.checkIndex_eq] at obtained
    refine obtained.trans ?_
    split
    · split <;> rfl
    · rfl
  · intro refused m _ _ engine request
    obtain ⟨cause, checked⟩ := Registry.exists_of_not_admits refused
    exact Service.answer_of_refused engine resolved checked request

end Config

namespace Sample

/-- One index is served, and all requests are about a given one. -/
def fixedTo (index : String) : Config where
  index := ⟨["books"], [], .none, 5⟩
  access := ⟨false, some index⟩

end Sample

namespace Config

/-- The served index is also the one that all requests are about. -/
theorem serves_iff_fixed_index_admitted_sample :
    (Sample.fixedTo "books").check = .ok () ∧
      (Sample.fixedTo "books").access.acceptsIndex = false ∧
      ∃ registry, (Sample.fixedTo "books").registry = .ok registry ∧
        ((registry.obtain (Remote.engine Sample.offline) "books" .noop
          { settings := (Sample.fixedTo "books").connection } ()).1.1.1.map
            fun found => found.2.index) = .ok "books" := by
  have accepted : (Sample.fixedTo "books").check = .ok () := rfl
  obtain ⟨index, registry, isDefault, built, -, given, -⟩ :=
    serves_iff_fixed_index_admitted accepted rfl
  obtain rfl : "books" = index := Option.some.inj isDefault
  refine ⟨accepted, rfl, registry, built, ?_⟩
  have isRegistry : (Sample.fixedTo "books").registry = .ok _ := rfl
  obtain rfl := Except.ok.inj (built.symm.trans isRegistry)
  have isName : Index.isName "books" = true := by decide +kernel
  have obtained := given Unit Sample.offline (fun _ => rfl) () [] .noop
  rw [if_pos isName] at obtained
  exact obtained

/-- A configuration passes the check and fixes an index, but no request can get a schema for it. -/
def StartsInVain (config : Config) (index : String) : Prop :=
  config.check = .ok () ∧ config.access.acceptsIndex = false ∧
    (∀ requested, config.access.resolve requested = .ok index) ∧
    ∃ registry, config.registry = .ok registry ∧
      ∀ (σ : Type) (engine : Engine (StateM σ)) (state : σ) (validator : Validator),
        ∃ cause, (registry.obtain engine index validator state).1.1 = .error cause

theorem startsInVain_fixedTo
    {index : String} (unusable : Index.isName index = false ∨ index ≠ "books") :
    (Sample.fixedTo index).StartsInVain index := by
  have built : (Sample.fixedTo index).registry =
      .ok ⟨.only ["books"], .none, 5, .noop, [], []⟩ := rfl
  have refused : ¬ (Registry.mk (.only ["books"]) .none 5 .noop [] []).Admits index := by
    rintro ⟨isName, admitted⟩
    rcases unusable with noName | notServed
    · rw [noName] at isName
      cases isName
    · simp [IndexPolicy.excludes, IndexPolicy.everyIndex, notServed] at admitted
  refine ⟨rfl, rfl, ?_, _, built, ?_⟩
  · intro requested
    exact AccessSettings.resolve_eq_of_fixed rfl requested none
  · intro σ engine state validator
    obtain ⟨cause, checked⟩ := Registry.exists_of_not_admits refused
    rw [Registry.obtain_of_refused engine checked]
    exact ⟨cause, rfl⟩

/-- An empty, a malformed and an excluded index pass the check. -/
theorem check_accepts_unusable_index :
    (Sample.fixedTo "").StartsInVain "" ∧ (Sample.fixedTo "a*").StartsInVain "a*" ∧
      (Sample.fixedTo "vault").StartsInVain "vault" := by
  refine ⟨startsInVain_fixedTo (.inl ?_), startsInVain_fixedTo (.inl ?_),
    startsInVain_fixedTo (.inr ?_)⟩
  all_goals decide +kernel

end Config
end FilterQuery
