import Mathlib.Data.List.Forall2
import Mathlib.Data.List.Nodup

/-!
# Lists and results

Facts about look-ups in lists of named values, about parts of lists, and about
lists that are read item by item until something fails.
-/

namespace FilterQuery

/-! ## Results -/

/-- A result that is changed is one to begin with. -/
theorem eq_ok_of_map
    {result : Except ε α} {change : α → β} {value : β}
    (succeeds : result.map change = .ok value) :
    ∃ found, result = .ok found ∧ change found = value := by
  cases result with
  | error cause => cases succeeds
  | ok found => exact ⟨found, rfl, Except.ok.inj succeeds⟩

theorem eq_error_of_map
    {result : Except ε α} {change : α → β} {cause : ε}
    (fails : result.map change = .error cause) :
    result = .error cause := by
  cases result with
  | error found => exact congrArg Except.error (Except.error.inj fails)
  | ok value => cases fails

theorem eq_ok_of_bind
    {result : Except ε α} {next : α → Except ε β} {value : β}
    (succeeds : result.bind next = .ok value) :
    ∃ found, result = .ok found ∧ next found = .ok value := by
  cases result with
  | error cause => cases succeeds
  | ok found => exact ⟨found, rfl, succeeds⟩

theorem exists_eq_ok_iff {outcome : Except ε α} :
    (∃ value, outcome = .ok value) ↔ ∀ cause, outcome ≠ .error cause := by
  cases outcome <;> simp

/-! ## Look-ups -/

/-- Entries for other names do not matter to a look-up. -/
theorem lookup_filter_ne
    {index name : String} (different : index ≠ name) (entries : List (String × α)) :
    (entries.filter fun entry => entry.1 != name).lookup index = entries.lookup index := by
  induction entries with
  | nil => rfl
  | cons entry rest inductionHypothesis =>
      obtain ⟨key, value⟩ := entry
      by_cases isName : key = name
      · subst isName
        have notKey : (index == key) = false := by simpa using different
        simp only [List.filter_cons, bne_self_eq_false, Bool.false_eq_true, if_false,
          List.lookup_cons, notKey]
        exact inductionHypothesis
      · have kept : (key != name) = true := by simpa using isName
        simp only [List.filter_cons, kept, if_true, List.lookup_cons, inductionHypothesis]

/-- Where keys are distinct, each member is found by its key. -/
theorem lookup_eq_some_of_mem
    {members : List (String × α)} {member : String × α}
    (distinct : (members.map Prod.fst).Nodup)
    (isMember : member ∈ members) :
    members.lookup member.1 = some member.2 := by
  obtain ⟨before, after, rfl⟩ := List.append_of_mem isMember
  refine List.lookup_eq_some_iff.mpr ⟨before, after, rfl, ?_⟩
  intro other isOther
  rw [List.map_append, List.map_cons, List.nodup_append] at distinct
  have different : member.1 ≠ other.1 :=
    (distinct.2.2 _ (List.mem_map_of_mem isOther) _ List.mem_cons_self).symm
  simpa using different

/-- A member does not matter to the look-up of another key. -/
theorem lookup_append_cons_of_ne
    {name key : String} {value : α}
    (different : key ≠ name) (before after : List (String × α)) :
    (before ++ (name, value) :: after).lookup key = (before ++ after).lookup key := by
  have notName : (key == name) = false := beq_eq_false_iff_ne.mpr different
  rw [List.lookup_append, List.lookup_append, List.lookup_cons, notName]

/-- Names are given to items in order; those that are left over have none. -/
theorem map_lookup_zip
    {names : List String} {items : List α}
    (distinct : names.Nodup)
    (fits : items.length ≤ names.length) :
    names.map (fun name => (names.zip items).lookup name) =
      items.map some ++ List.replicate (names.length - items.length) none := by
  induction names generalizing items with
  | nil =>
      obtain rfl := List.eq_nil_of_length_eq_zero (Nat.le_zero.mp fits)
      rfl
  | cons name rest inductionHypothesis =>
      obtain ⟨isNew, restDistinct⟩ := List.nodup_cons.mp distinct
      cases items with
      | nil => simp [List.replicate_succ]
      | cons item others =>
          have sameRest : rest.map (fun key => ((name, item) :: rest.zip others).lookup key) =
              rest.map (fun key => (rest.zip others).lookup key) := by
            refine List.map_congr_left fun key isKey => ?_
            have different : key ≠ name := by
              rintro rfl
              exact isNew isKey
            exact lookup_append_cons_of_ne different [] _
          rw [List.zip_cons_cons, List.map_cons, List.lookup_cons_self, sameRest,
            inductionHypothesis restDistinct (Nat.le_of_succ_le_succ fits), List.length_cons,
            List.length_cons, Nat.add_sub_add_right]
          rfl

theorem nodup_zip
    {names : List String} (distinct : names.Nodup) (items : List α) :
    ((names.zip items).map Prod.fst).Nodup := by
  rw [List.zip_eq_zip_take_min, List.map_fst_zip (by simp)]
  exact distinct.sublist (List.take_sublist _ _)

/-! ## Parts -/

/-- A run of items is split off where it ends. -/
theorem takeWhile_append_of_ends
    {holds : α → Bool} {run rest : List α}
    (throughout : ∀ c ∈ run, holds c = true)
    (ends : ∀ c ∈ rest.head?, holds c = false) :
    (run ++ rest).takeWhile holds = run ∧ (run ++ rest).dropWhile holds = rest := by
  rw [List.takeWhile_append_of_pos throughout, List.dropWhile_append_of_pos throughout]
  cases rest with
  | nil => simp
  | cons c others => simp [ends c rfl]

theorem exists_intercalate_append
    (separator first : List α) (others : List (List α)) (rest : List α) :
    ∃ more, separator.intercalate (first :: others) ++ rest = first ++ more := by
  cases others with
  | nil => exact ⟨rest, by rw [List.intercalate_singleton]⟩
  | cons second others =>
      refine ⟨separator ++ separator.intercalate (second :: others) ++ rest, ?_⟩
      rw [List.intercalate_cons_cons, List.append_assoc, List.append_assoc, List.append_assoc]

/-! ## Lists that are read -/

theorem mapM_cons_eq_ok_iff
    {read : α → Except ε β} {item : α} {rest : List α} {values : List β} :
    (item :: rest).mapM read = .ok values ↔
      ∃ value others, read item = .ok value ∧ rest.mapM read = .ok others ∧
        value :: others = values := by
  rw [List.mapM_cons]
  cases read item with
  | error cause => simp [bind, Except.bind]
  | ok value => cases rest.mapM read <;> simp [bind, Except.bind, pure, Except.pure]

/-- What is read of a list is told by what is read of its items. -/
theorem map_eq_of_mapM_eq_ok
    {read : α → Except ε β} {items : List α} {values : List β}
    (isRead : items.mapM read = .ok values)
    {told : β → γ} {known : α → γ}
    (agree : ∀ item ∈ items, ∀ {value}, read item = .ok value → told value = known item) :
    values.map told = items.map known := by
  induction items generalizing values with
  | nil =>
      obtain rfl : [] = values := Except.ok.inj isRead
      rfl
  | cons item rest inductionHypothesis =>
      obtain ⟨value, others, readItem, readRest, rfl⟩ := mapM_cons_eq_ok_iff.mp isRead
      obtain ⟨itemAgrees, restAgrees⟩ := List.forall_mem_cons.mp agree
      rw [List.map_cons, List.map_cons, itemAgrees readItem,
        inductionHypothesis readRest restAgrees]

/-- A list is read to the values that its items are read to. -/
theorem mapM_eq_ok_iff {read : α → Except ε β} {items : List α} {values : List β} :
    items.mapM read = .ok values ↔
      items.map (fun item => (read item).toOption) = values.map some := by
  induction items generalizing values with
  | nil => cases values <;> simp [pure, Except.pure]
  | cons item rest inductionHypothesis =>
      rw [mapM_cons_eq_ok_iff, List.map_cons]
      simp only [inductionHypothesis]
      constructor
      · rintro ⟨value, others, isValue, areOthers, rfl⟩
        rw [isValue, areOthers]
        rfl
      · intro same
        cases values with
        | nil => cases same
        | cons value others =>
            obtain ⟨isValue, areOthers⟩ := List.cons.inj same
            refine ⟨value, others, ?_, areOthers, rfl⟩
            cases isRead : read item with
            | error cause => simp [isRead, Except.toOption] at isValue
            | ok other =>
                rw [isRead] at isValue
                rw [Option.some.inj isValue]

/-- Reading a list fails with the first item that cannot be read. -/
theorem mapM_eq_error_iff {read : α → Except ε β} {items : List α} {cause : ε} :
    items.mapM read = .error cause ↔
      ∃ item, items.find? (fun item => !(read item).isOk) = some item ∧
        read item = .error cause := by
  induction items with
  | nil => simp [pure, Except.pure]
  | cons item rest inductionHypothesis =>
      rw [List.mapM_cons, List.find?_cons]
      cases readItem : read item with
      | error reason =>
          simp [readItem, bind, Except.bind, Except.isOk, Except.toBool]
      | ok value =>
          simp only [Except.isOk, Except.toBool, Bool.not_true] at inductionHypothesis ⊢
          rw [← inductionHypothesis]
          cases rest.mapM read <;> simp [bind, Except.bind, pure, Except.pure]

/-- The first item of a list that has a fault has this one. -/
def FirstFault (fault : α → ε → Prop) (items : List α) (cause : ε) : Prop :=
  ∃ before item after, items = before ++ item :: after ∧
    (∀ earlier ∈ before, ∀ other, ¬fault earlier other) ∧ fault item cause

/-- Reading a list fails with the first fault, where the faults of the items are their errors. -/
theorem mapM_eq_error_iff_firstFault
    {read : α → Except ε β} {fault : α → ε → Prop} {items : List α}
    (isFault : ∀ item ∈ items, ∀ cause, read item = .error cause ↔ fault item cause)
    (cause : ε) :
    items.mapM read = .error cause ↔ FirstFault fault items cause := by
  simp only [mapM_eq_error_iff, List.find?_eq_some_iff_append]
  constructor
  · rintro ⟨item, ⟨_, before, after, rfl, areRead⟩, fails⟩
    refine ⟨before, item, after, rfl, ?_, (isFault item (by simp) cause).mp fails⟩
    intro earlier isEarlier other faulty
    have failsEarlier := (isFault earlier (by simp [isEarlier]) other).mpr faulty
    have isRead := areRead earlier isEarlier
    simp [failsEarlier, Except.isOk, Except.toBool] at isRead
  · rintro ⟨before, item, after, rfl, fine, faulty⟩
    have fails := (isFault item (by simp) cause).mpr faulty
    refine ⟨item, ⟨by simp [fails, Except.isOk, Except.toBool], before, after, rfl, ?_⟩, fails⟩
    intro earlier isEarlier
    cases readEarlier : read earlier with
    | ok value => simp [Except.isOk, Except.toBool]
    | error other =>
        have faultyEarlier := (isFault earlier (by simp [isEarlier]) other).mp readEarlier
        exact (fine earlier isEarlier other faultyEarlier).elim

/-- A list is read item by item. -/
theorem mapM_eq_ok_iff_forall₂ {read : α → Except ε β} {items : List α} {values : List β} :
    items.mapM read = .ok values ↔
      List.Forall₂ (fun item value => read item = .ok value) items values := by
  induction items generalizing values with
  | nil => simp [pure, Except.pure, eq_comm]
  | cons item rest inductionHypothesis =>
      rw [mapM_cons_eq_ok_iff, List.forall₂_cons_left_iff]
      simp only [inductionHypothesis]
      grind

/-- Each value that is read of a list is read of one of its items. -/
theorem exists_mem_of_mapM_eq_ok
    {read : α → Except ε β} {items : List α} {values : List β} {value : β}
    (isRead : items.mapM read = .ok values)
    (member : value ∈ values) :
    ∃ item ∈ items, read item = .ok value := by
  induction items generalizing values with
  | nil =>
      obtain rfl : [] = values := Except.ok.inj isRead
      contradiction
  | cons item rest inductionHypothesis =>
      obtain ⟨first, others, readItem, readRest, rfl⟩ := mapM_cons_eq_ok_iff.mp isRead
      rcases List.mem_cons.mp member with rfl | inOthers
      · exact ⟨item, List.mem_cons_self, readItem⟩
      · obtain ⟨found, isFound, readFound⟩ := inductionHypothesis readRest inOthers
        exact ⟨found, List.mem_cons_of_mem item isFound, readFound⟩

/-- A list can be read when each of its items can. -/
theorem exists_mapM_eq_ok_iff {read : α → Except ε β} {items : List α} :
    (∃ values, items.mapM read = .ok values) ↔ ∀ item ∈ items, ∃ value, read item = .ok value := by
  induction items with
  | nil => simp [pure, Except.pure]
  | cons item rest inductionHypothesis =>
      rw [List.forall_mem_cons, ← inductionHypothesis]
      simp only [mapM_cons_eq_ok_iff]
      grind

end FilterQuery
