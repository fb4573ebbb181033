import FilterQuery.Proofs.Printing
import FilterQuery.Proofs.Records
import FilterQuery.Settings.Config
import Mathlib.Logic.Relation

/-!
# Configurations in JSON

The order in which the hidden fields of the indices are written is not fixed,
and the order of the other members does not matter either. Main statement: a
configuration is found again in every order of what is written for it, and in
the text of it, so a configuration that was read, in whichever way its sections
were given, is the same after it is written and read again.
-/

namespace FilterQuery

/-! ## Plain values -/

namespace Json

/-- Every order of a plain value is plain. -/
theorem Plain.reordered
    {levels : Nat} {json written : Json}
    (plain : json.Plain levels)
    (reordered : json.Reordered written) :
    written.Plain levels := by
  induction plain generalizing written with
  | null levels => exact reordered.eq_of_parts_eq_nil rfl ▸ .null levels
  | bool levels value => exact reordered.eq_of_parts_eq_nil rfl ▸ .bool levels value
  | int low high => exact reordered.eq_of_parts_eq_nil rfl ▸ .int low high
  | string levels value => exact reordered.eq_of_parts_eq_nil rfl ▸ .string levels value
  | array plainItems inductionHypothesis =>
      cases reordered with
      | refl => exact .array plainItems
      | array related => exact .array (Reordered.forall_mem_of_forall₂ related inductionHypothesis)
  | object _ inductionHypothesis =>
      obtain ⟨-, others, rfl, -⟩ := reordered.exists_object
      refine .object fun member isMember => ?_
      obtain ⟨source, isSource, -, same⟩ := reordered.exists_source isMember
      exact inductionHypothesis source isSource same

/-- A list of texts is one level deep. -/
theorem plain_ofStrings (levels : Nat) (texts : List String) :
    (ofStrings texts).Plain (levels + 1) :=
  .array (List.forall_mem_map.mpr fun text _ => .string levels text)

/-- A text that may be missing is written as a text or as `null`. -/
theorem plain_ofString? (levels : Nat) (text : Option String) : (ofString? text).Plain levels := by
  cases text with
  | none => exact .null levels
  | some value => exact .string levels value

/-- Numbers that fit into 64 bits are written digit by digit. -/
theorem plain_natCast (levels : Nat) {number : Nat} (fits : number < UInt64.size) :
    (int number).Plain levels :=
  .int (by omega) (Int.ofNat_lt.mpr fits)

/-- A number that may be missing is written as a number or as `null`. -/
theorem plain_ofUInt64? (levels : Nat) (number : Option UInt64) :
    (ofUInt64? number).Plain levels := by
  cases number with
  | none => exact .null levels
  | some value => exact plain_natCast levels value.toNat_lt

end Json

/-! ## Field limits -/

namespace FieldLimits

/-- Setting the entry of a new index adds it. -/
theorem perm_insertEntry
    {index : String} (names : List String) {entries : List (String × List String)}
    (fresh : index ∉ entries.map Prod.fst) :
    (insertEntry index names entries).Perm ((index, names) :: entries) := by
  induction entries with
  | nil => exact .refl _
  | cons entry rest inductionHypothesis =>
      obtain ⟨key, value⟩ := entry
      rw [List.map_cons, List.mem_cons, not_or] at fresh
      rw [insertEntry]
      split
      · exact .refl _
      · rw [if_neg fresh.1]
        exact ((inductionHypothesis fresh.2).cons (key, value)).trans (.swap _ _ rest)

/-- An entry as a member of an object. -/
def memberOf (entry : String × List String) : String × Json :=
  (entry.1, .ofStrings entry.2)

/-- Entries of new indices are all added. -/
theorem exists_insertMembers?
    {entries : List (String × List String)} {limits : FieldLimits}
    (distinct : ((limits.entries ++ entries).map Prod.fst).Nodup) :
    ∃ extended, limits.insertMembers? (entries.map memberOf) = some extended ∧
      extended.entries.Perm (limits.entries ++ entries) := by
  induction entries generalizing limits with
  | nil => exact ⟨limits, rfl, by rw [List.append_nil]⟩
  | cons entry rest inductionHypothesis =>
      have movedDistinct := (List.perm_middle.map Prod.fst).nodup_iff.mp distinct
      have fresh : entry.1 ∉ limits.entries.map Prod.fst := by
        intro isUsed
        rw [List.map_cons, List.nodup_cons, List.map_append] at movedDistinct
        exact movedDistinct.1 (List.mem_append_left _ isUsed)
      have inserted : ((limits.insert entry.1 entry.2).entries ++ rest).Perm
          (limits.entries ++ entry :: rest) :=
        ((perm_insertEntry entry.2 fresh).append_right rest).trans List.perm_middle.symm
      obtain ⟨extended, isRead, permuted⟩ :=
        inductionHypothesis ((inserted.map Prod.fst).nodup_iff.mpr distinct)
      refine ⟨extended, ?_, permuted.trans inserted⟩
      rw [List.map_cons, memberOf, insertMembers?, Json.strings?_ofStrings]
      exact isRead

theorem nodup_entries (limits : FieldLimits) : (limits.entries.map Prod.fst).Nodup := by
  refine List.pairwise_map.mpr (limits.ascending.imp ?_)
  intro first second before same
  rw [Before, same] at before
  exact String.lt_irrefl _ before

/-- Field limits with the same entries are the same. -/
theorem eq_of_perm
    {first second : FieldLimits}
    (permuted : first.entries.Perm second.entries) :
    first = second := by
  cases first with
  | mk firstEntries firstAscending =>
      cases second with
      | mk secondEntries secondAscending =>
          have same : firstEntries = secondEntries :=
            permuted.eq_of_pairwise
              (fun _ _ _ _ less more => absurd (String.lt_trans less more) (String.lt_irrefl _))
              firstAscending secondAscending
          subst same
          rfl

/-- What is written for field limits holds their entries in some order. -/
theorem exists_entries_of_reordered
    {limits : FieldLimits} {written : Json}
    (reordered : limits.toJson.Reordered written) :
    ∃ entries : List (String × List String),
      written = .object (entries.map memberOf) ∧ entries.Perm limits.entries := by
  obtain ⟨between, others, rfl, sameNames, related, permuted⟩ := reordered.exists_object
  have sameValues := Json.Reordered.eq_of_forall₂ related (by
    simp only [List.map_map, List.forall_mem_map]
    exact fun entry _ other same => same.eq_ofStrings)
  have isBetween : between = limits.entries.map memberOf :=
    (List.zip_of_prod sameNames.symm sameValues).trans (List.zip_of_prod rfl rfl).symm
  rw [isBetween] at permuted
  have isImage := congrFun₂ (List.eq_map_comp_perm memberOf) others limits.entries
  obtain ⟨entries, isOthers, sameEntries⟩ := isImage.mpr permuted.symm
  exact ⟨entries, congrArg Json.object isOthers, sameEntries⟩

/-- Field limits are found again in every order of their entries. -/
theorem ofJson?_of_reordered
    {limits : FieldLimits} {written : Json}
    (reordered : limits.toJson.Reordered written) :
    ofJson? written = some limits := by
  obtain ⟨entries, rfl, sameEntries⟩ := exists_entries_of_reordered reordered
  have distinct : ((none.entries ++ entries).map Prod.fst).Nodup :=
    (sameEntries.map Prod.fst).nodup_iff.mpr limits.nodup_entries
  obtain ⟨extended, isRead, readEntries⟩ := exists_insertMembers? distinct
  rw [ofJson?, isRead, eq_of_perm (readEntries.trans sameEntries)]

/-- The limits are an object whose members are lists of texts. -/
theorem plain_toJson (limits : FieldLimits) (levels : Nat) : limits.toJson.Plain (levels + 2) :=
  .object (List.forall_mem_map.mpr fun entry _ => Json.plain_ofStrings levels entry.2)

end FieldLimits

/-! ## Sections -/

namespace Json

/-- A number below its bound is read back. -/
theorem nat?_toNat {number bound : Nat} (isBelow : number < bound) :
    nat? bound (.int number) = some number := by
  rw [nat?, if_pos ⟨Int.natCast_nonneg number, Int.ofNat_lt.mpr isBelow⟩, Int.toNat_natCast]

theorem uint64?_toNat (number : UInt64) : uint64? (.int number.toNat) = some number := by
  have isBelow : number.toNat < UInt64.size := number.toNat_lt
  rw [uint64?, nat?_toNat isBelow, Option.map_some, UInt64.ofNat_toNat]

theorem uint16?_toNat (number : UInt16) : uint16? (.int number.toNat) = some number := by
  have isBelow : number.toNat < UInt16.size := number.toNat_lt
  rw [uint16?, nat?_toNat isBelow, Option.map_some, UInt16.ofNat_toNat]

namespace Reordered

variable {written : Json}

/-- A text has no members that could change their places. -/
theorem string? {text : String} (reordered : (Json.string text).Reordered written) :
    written.string? = some text := by
  rw [reordered.eq_of_parts_eq_nil rfl, string?_string]

theorem bool? {value : Bool} (reordered : (Json.bool value).Reordered written) :
    written.bool? = some value := by
  rw [reordered.eq_of_parts_eq_nil rfl, bool?_bool]

/-- The elements of a list keep their places. -/
theorem strings? {texts : List String} (reordered : (ofStrings texts).Reordered written) :
    written.strings? = some texts := by
  rw [reordered.eq_ofStrings, strings?_ofStrings]

theorem uint16? {number : UInt16} (reordered : (Json.int number.toNat).Reordered written) :
    written.uint16? = some number := by
  rw [reordered.eq_of_parts_eq_nil rfl, uint16?_toNat]

theorem uint64? {number : UInt64} (reordered : (Json.int number.toNat).Reordered written) :
    written.uint64? = some number := by
  rw [reordered.eq_of_parts_eq_nil rfl, uint64?_toNat]

/-- A missing text is read back as missing. -/
theorem optional_string?
    {text : Option String} (reordered : (ofString? text).Reordered written) :
    optional Json.string? (some written) = some text := by
  cases text with
  | none => rw [reordered.eq_of_parts_eq_nil rfl]; rfl
  | some value => rw [reordered.eq_of_parts_eq_nil rfl]; rfl

/-- A missing number is read back as missing. -/
theorem optional_uint64?
    {number : Option UInt64} (reordered : (ofUInt64? number).Reordered written) :
    optional Json.uint64? (some written) = some number := by
  cases number with
  | none =>
      rw [reordered.eq_of_parts_eq_nil rfl]
      rfl
  | some value =>
      rw [reordered.eq_of_parts_eq_nil rfl, ofUInt64?, optional, uint64?_toNat, Option.map_some]
      exact nofun

end Reordered
end Json

/-- A section is read back wherever its members stand. -/
theorem ServerSettings.ofJson?_of_reordered
    {settings : ServerSettings} {written : Json}
    (reordered : settings.toJson.Reordered written) :
    ofJson? written = some settings := by
  obtain ⟨values, isRecord, related⟩ := Json.record?_of_reordered names rfl (by decide) reordered
  rcases related with _ | ⟨isHost, _ | ⟨isPort, _ | _⟩⟩
  rw [ofJson?, isRecord]
  simp only [List.map_cons, List.map_nil, Option.bind_eq_bind, Option.bind_some,
    Json.defaulted_some, isHost.string?, isPort.uint16?]
  rfl

theorem RegistrySettings.ofJson?_of_reordered
    {settings : RegistrySettings} {written : Json}
    (reordered : settings.toJson.Reordered written) :
    ofJson? written = some settings := by
  obtain ⟨values, isRecord, related⟩ := Json.record?_of_reordered names rfl (by decide) reordered
  rcases related with _ | ⟨isIncluded, _ | ⟨isExcluded, _ | ⟨isLimits, _ | ⟨isSize, _ | _⟩⟩⟩⟩
  rw [ofJson?, isRecord]
  simp only [List.map_cons, List.map_nil, Option.bind_eq_bind, Option.bind_some,
    Json.defaulted_some, isIncluded.strings?, isExcluded.strings?,
    FieldLimits.ofJson?_of_reordered isLimits, isSize.uint64?]
  rfl

theorem ConnectionSettings.ofJson?_of_reordered
    {settings : ConnectionSettings} {written : Json}
    (reordered : settings.toJson.Reordered written) :
    ofJson? written = some settings := by
  obtain ⟨values, isRecord, related⟩ := Json.record?_of_reordered names rfl (by decide) reordered
  rcases related with
    _ | ⟨isHosts, _ | ⟨isUser, _ | ⟨isPassword, _ | ⟨isKey, _ | ⟨isTimeout, _ | _⟩⟩⟩⟩⟩
  rw [ofJson?, isRecord]
  simp only [List.map_cons, List.map_nil, Option.bind_eq_bind, Option.bind_some,
    Json.defaulted_some, isHosts.strings?, isUser.optional_string?, isPassword.optional_string?,
    isKey.optional_string?, isTimeout.optional_uint64?]
  rfl

/-- The settings of access have no object of their own: they are two members of the whole. -/
theorem AccessSettings.ofMembers?_of_reordered
    {settings : AccessSettings} {accepts index : Json}
    (isAccepts : (Json.bool settings.acceptsIndex).Reordered accepts)
    (isIndex : (Json.ofString? settings.defaultIndex).Reordered index) :
    ofMembers? (some accepts) (some index) = some settings := by
  rw [ofMembers?, Json.defaulted_some, isAccepts.bool?, isIndex.optional_string?]
  rfl

theorem ServerSettings.plain_toJson (settings : ServerSettings) (levels : Nat) :
    settings.toJson.Plain (levels + 1) := by
  refine .object ?_
  simp only [List.forall_mem_cons]
  have fits : settings.port.toNat < UInt64.size := settings.port.toNat_lt.trans (by decide)
  exact ⟨.string _ _, Json.plain_natCast _ fits, List.forall_mem_nil _⟩

/-- The deepest section, since the limits of the fields are a part of it. -/
theorem RegistrySettings.plain_toJson (settings : RegistrySettings) (levels : Nat) :
    settings.toJson.Plain (levels + 3) := by
  refine .object ?_
  simp only [List.forall_mem_cons]
  exact ⟨Json.plain_ofStrings _ _, Json.plain_ofStrings _ _, settings.limits.plain_toJson _,
    Json.plain_natCast _ settings.suggestionSize.toNat_lt, List.forall_mem_nil _⟩

theorem ConnectionSettings.plain_toJson (settings : ConnectionSettings) (levels : Nat) :
    settings.toJson.Plain (levels + 2) := by
  refine .object ?_
  simp only [List.forall_mem_cons]
  exact ⟨Json.plain_ofStrings _ _, Json.plain_ofString? _ _, Json.plain_ofString? _ _,
    Json.plain_ofString? _ _, Json.plain_ofUInt64? _ _, List.forall_mem_nil _⟩

/-! ## Members that are known -/

namespace Json.Written

/-- The members of a written object are written one by one. -/
theorem ofMembers_eq_map (members : List (String × Json)) :
    ofMembers members = members.map fun member => (piecesOf member.1, ofJson member.2) := by
  induction members with
  | nil => rfl
  | cons member rest inductionHypothesis =>
      rw [ofMembers, inductionHypothesis, List.map_cons]

/-- Nothing is dropped from an object that has only known members. -/
theorem restrict_of_reordered
    {names : List String} {members : List (String × Json)} {written : Json}
    (reordered : (Json.object members).Reordered written)
    (areNames : members.map Prod.fst = names) :
    restrict names (ofJson written) = ofJson written := by
  obtain ⟨-, others, rfl, -⟩ := reordered.exists_object
  have known : ∀ member ∈ others, member.1 ∈ names := by
    intro member isMember
    obtain ⟨source, isSource, sameName, -⟩ := reordered.exists_source isMember
    rw [← areNames, ← sameName]
    exact List.mem_map_of_mem isSource
  rw [ofJson, restrict, ofMembers_eq_map, List.filter_eq_self.mpr]
  refine List.forall_mem_map.mpr fun member isMember => ?_
  simp [known member isMember]

/-- To change a member in a way that leaves it as it is changes nothing. -/
theorem mapMember_eq_self
    {name : String} {change : Written → Written} {members : List (String × Json)}
    (unchanged : ∀ json, (name, json) ∈ members → change (ofJson json) = ofJson json) :
    mapMember name change (ofJson (.object members)) = ofJson (.object members) := by
  rw [ofJson, mapMember, ofMembers_eq_map, List.map_map]
  refine congrArg object (List.map_congr_left fun member isMember => ?_)
  simp only [Function.comp_apply, text?_piecesOf, Option.some.injEq]
  split
  · next isNamed =>
      subst isNamed
      rw [unchanged member.2 isMember]
  · rfl

/-- Nothing is left out of a section whose members are all known. -/
theorem mapMember_restrict_of_reordered
    (names : List String) {members others inner : List (String × Json)} {name : String}
    (reordered : (Json.object members).Reordered (.object others))
    (distinct : (members.map Prod.fst).Nodup)
    (isSection : (name, .object inner) ∈ members)
    (areNames : inner.map Prod.fst = names) :
    mapMember name (restrict names) (ofJson (.object others)) = ofJson (.object others) := by
  refine mapMember_eq_self fun json isMember => ?_
  exact restrict_of_reordered (reordered.of_mem distinct isSection isMember) areNames

end Json.Written

namespace Config

/-- A configuration is found again in every order of what is written for it. -/
theorem ofJson?_of_reordered
    {config : Config} {written : Json}
    (reordered : config.toJson.Reordered written) :
    ofJson? written = some config := by
  obtain ⟨values, isRecord, related⟩ := Json.record?_of_reordered names rfl (by decide) reordered
  obtain ⟨-, others, rfl, -⟩ := reordered.exists_object
  rcases related with _ | ⟨isServer, _ | ⟨isIndex, _ | ⟨isConnection,
    _ | ⟨isAccepts, _ | ⟨isDefault, _ | ⟨isDepth, _ | _⟩⟩⟩⟩⟩⟩
  rw [ofJson?, ofMembers?, isRecord]
  simp only [List.map_cons, List.map_nil, Option.bind_eq_bind, Option.bind_some,
    Json.defaulted_some, ServerSettings.ofJson?_of_reordered isServer,
    RegistrySettings.ofJson?_of_reordered isIndex,
    ConnectionSettings.ofJson?_of_reordered isConnection,
    AccessSettings.ofMembers?_of_reordered isAccepts isDefault, isDepth.optional_uint64?]
  rfl

end Config

/-! ## Other ways to give a configuration -/

/-- What the members of the section are where they are left out. -/
def ServerSettings.defaults : List (String × Json) :=
  [("host", .string "127.0.0.1"), ("port", .int 8000)]

/-- A section has the same settings in whatever way its record is given. -/
theorem ServerSettings.ofJson?_of_recast
    {json other : Json}
    (recast : Json.Recast defaults json other) :
    ofJson? json = ofJson? other := by
  refine Json.bind_record?_of_recast recast (by decide) ?_
  intro first second same
  have host : Json.defaulted "127.0.0.1" Json.string? (first "host") = _ :=
    (same "host" (by decide)).defaulted rfl fun _ _ => congrArg _
  have port : Json.defaulted 8000 Json.uint16? (first "port") = _ :=
    (same "port" (by decide)).defaulted rfl fun _ _ => congrArg _
  simp only [defaults, List.map_cons, List.map_nil, host, port]

/-- What the members of the section are where they are left out. -/
def RegistrySettings.defaults : List (String × Json) :=
  [("include_indices", .array []), ("exclude_indices", .array []), ("field_limits", .object []),
    ("suggestion_size", .int 10)]

theorem RegistrySettings.ofJson?_of_recast
    {json other : Json}
    (recast : Json.Recast defaults json other) :
    ofJson? json = ofJson? other := by
  refine Json.bind_record?_of_recast recast (by decide) ?_
  intro first second same
  have included : Json.defaulted [] Json.strings? (first "include_indices") = _ :=
    (same "include_indices" (by decide)).defaulted rfl fun _ _ => congrArg _
  have excluded : Json.defaulted [] Json.strings? (first "exclude_indices") = _ :=
    (same "exclude_indices" (by decide)).defaulted rfl fun _ _ => congrArg _
  have limits : Json.defaulted .none FieldLimits.ofJson? (first "field_limits") = _ :=
    (same "field_limits" (by decide)).defaulted rfl fun _ _ => congrArg _
  have size : Json.defaulted defaultSuggestionSize Json.uint64? (first "suggestion_size") = _ :=
    (same "suggestion_size" (by decide)).defaulted rfl fun _ _ => congrArg _
  simp only [defaults, List.map_cons, List.map_nil, included, excluded, limits, size]

/-- What the members of the section are where they are left out. -/
def ConnectionSettings.defaults : List (String × Json) :=
  [("hosts", .ofStrings ["http://localhost:9200"]), ("username", .null), ("password", .null),
    ("api_key", .null), ("timeout_secs", .null)]

theorem ConnectionSettings.ofJson?_of_recast
    {json other : Json}
    (recast : Json.Recast defaults json other) :
    ofJson? json = ofJson? other := by
  refine Json.bind_record?_of_recast recast (by decide) ?_
  intro first second same
  have hosts : Json.defaulted ["http://localhost:9200"] Json.strings? (first "hosts") = _ :=
    (same "hosts" (by decide)).defaulted rfl fun _ _ => congrArg _
  have username : Json.optional Json.string? (first "username") = _ :=
    (same "username" (by decide)).optional rfl fun _ _ => id
  have password : Json.optional Json.string? (first "password") = _ :=
    (same "password" (by decide)).optional rfl fun _ _ => id
  have apiKey : Json.optional Json.string? (first "api_key") = _ :=
    (same "api_key" (by decide)).optional rfl fun _ _ => id
  have timeout : Json.optional Json.uint64? (first "timeout_secs") = _ :=
    (same "timeout_secs" (by decide)).optional rfl fun _ _ => id
  simp only [defaults, List.map_cons, List.map_nil, hosts, username, password, apiKey, timeout]

namespace Config

/-- What the members of a configuration are where they are left out. Without its section every index
is served, while a section that does not name any serves none. -/
def defaults : List (String × Json) :=
  [("server", .object ServerSettings.defaults), ("index", RegistrySettings.everyIndex.toJson),
    ("connection", .object ConnectionSettings.defaults), ("accept_index_param", .bool true),
    ("default_index", .null), ("max_depth", .null)]

/-- The members that the sections have. -/
def sections : List (String × List (String × Json)) :=
  [("server", ServerSettings.defaults), ("index", RegistrySettings.defaults),
    ("connection", ConnectionSettings.defaults)]

/-- Two ways to give the section of a name. -/
def SameSection (name : String) (json other : Json) : Prop :=
  ∃ known, sections.lookup name = some known ∧ Json.Recast known json other

/-- The members of a section are known from its name. -/
theorem SameSection.recast
    {name : String} {known : List (String × Json)} {json other : Json}
    (same : SameSection name json other)
    (isSection : sections.lookup name = some known) :
    Json.Recast known json other := by
  obtain ⟨found, isFound, recast⟩ := same
  obtain rfl := Option.some.inj (isFound.symm.trans isSection)
  exact recast

/-- A configuration is read in the same way from each of its forms. -/
theorem ofJson?_of_varied
    {json other : Json}
    (varied : Json.Varied defaults SameSection json other) :
    ofJson? json = ofJson? other := by
  have sameBuild := fun build => @Json.bind_record?_of_varied _ _ _ _ Config build varied
  obtain ⟨members, others, rfl, rfl, -⟩ := varied.exists_objects
  refine sameBuild _ ?_
  intro first second same
  have server : Json.defaulted {} ServerSettings.ofJson? (first "server") = _ :=
    (same "server" (by decide)).defaulted rfl fun _ _ sameSection =>
      ServerSettings.ofJson?_of_recast (sameSection.recast rfl)
  have index : Json.defaulted .everyIndex RegistrySettings.ofJson? (first "index") = _ :=
    (same "index" (by decide)).defaulted rfl fun _ _ sameSection =>
      RegistrySettings.ofJson?_of_recast (sameSection.recast rfl)
  have connection : Json.defaulted {} ConnectionSettings.ofJson? (first "connection") = _ :=
    (same "connection" (by decide)).defaulted rfl fun _ _ sameSection =>
      ConnectionSettings.ofJson?_of_recast (sameSection.recast rfl)
  have accepts : Json.defaulted true Json.bool? (first "accept_index_param") = _ :=
    (same "accept_index_param" (by decide)).defaulted rfl fun _ _ ⟨_, isSection, _⟩ =>
      nomatch isSection
  have defaultIndex : Json.optional Json.string? (first "default_index") = _ :=
    (same "default_index" (by decide)).optional rfl fun _ _ ⟨_, isSection, _⟩ => nomatch isSection
  have depth : Json.optional Json.uint64? (first "max_depth") = _ :=
    (same "max_depth" (by decide)).optional rfl fun _ _ ⟨_, isSection, _⟩ => nomatch isSection
  simp only [defaults, List.map_cons, List.map_nil, AccessSettings.ofMembers?, server, index,
    connection, accepts, defaultIndex, depth]

/-! ## Text -/

/-- A configuration is one level deeper than the registry's section. -/
theorem plain_toJson (config : Config) (levels : Nat) : config.toJson.Plain (levels + 4) := by
  refine .object ?_
  simp only [AccessSettings.toMembers, List.cons_append, List.nil_append, List.forall_mem_cons]
  exact ⟨config.server.plain_toJson _, config.index.plain_toJson _,
    config.connection.plain_toJson _, .bool _ _, Json.plain_ofString? _ _,
    Json.plain_ofUInt64? _ _, List.forall_mem_nil _⟩

/-- A configuration is found again in the text of it. -/
theorem ofText?_of_reordered
    {config : Config} {written : Json}
    (reordered : config.toJson.Reordered written) :
    ofText? written.render = some config := by
  have plain : written.Plain Json.Written.nestingLimit :=
    (config.plain_toJson 123).reordered reordered
  have isConfig := ofJson?_of_reordered reordered
  obtain ⟨-, others, rfl, -⟩ := reordered.exists_object
  have distinct : names.Nodup := by decide
  have keepsServer := Json.Written.mapMember_restrict_of_reordered ServerSettings.names
    reordered distinct List.mem_cons_self rfl
  have keepsIndex := Json.Written.mapMember_restrict_of_reordered RegistrySettings.names
    reordered distinct (.tail _ List.mem_cons_self) rfl
  have keepsConnection := Json.Written.mapMember_restrict_of_reordered ConnectionSettings.names
    reordered distinct (.tail _ (.tail _ List.mem_cons_self)) rfl
  rw [ofText?, Json.Written.read?_render plain]
  simp only [Option.bind_eq_bind, Option.bind_some, keepsServer, keepsIndex, keepsConnection,
    Json.Written.bounded?_ofJson plain, isConfig]

/-- A configuration survives being written: it is found again in what is written for it, whatever
the order of the members is, and in the text of that. It does not matter how a configuration is
given: with sections that are objects or arrays, without members that have their defaults, with
members that are not known. So one that was read is the same when it is written and read again; it
is judged in the same way, the same indices are served, and requests are checked alike. -/
theorem survives_writing :
    (∀ (config : Config) (written : Json), config.toJson.Reordered written →
      ofJson? written = some config ∧ parse written.render = .ok config) ∧
    (∀ json given : Json, Relation.ReflTransGen (Json.Varied defaults SameSection) json given →
      ofJson? given = ofJson? json) ∧
    ∀ config : Config,
      ((∃ json, ofJson? json = some config) ∨ ∃ text, parse text = .ok config) →
      ∀ written, config.toJson.Reordered written →
        ∃ again, ofJson? written = some again ∧ parse written.render = .ok again ∧
          again = config ∧ again.check = config.check ∧
          again.index.policy = config.index.policy ∧
          again.registry.map (fun registry => registry.defaultValidator.kind) =
            config.registry.map (fun registry => registry.defaultValidator.kind) := by
  have survives (config : Config) (written : Json) (reordered : config.toJson.Reordered written) :
      ofJson? written = some config ∧ parse written.render = .ok config := by
    refine ⟨ofJson?_of_reordered reordered, ?_⟩
    rw [parse, ofText?_of_reordered reordered]
  refine ⟨survives, ?_, ?_⟩
  · intro json given forms
    induction forms with
    | refl => rfl
    | tail _ varied inductionHypothesis => rw [← ofJson?_of_varied varied, inductionHypothesis]
  · intro config _ written reordered
    obtain ⟨isRead, isParsed⟩ := survives config written reordered
    exact ⟨config, isRead, isParsed, rfl, rfl, rfl, rfl⟩

end Config

namespace Sample

/-- The sections and members that do not have their defaults, and one that has. -/
def tidy : Json :=
  .object [("server", .object [("host", .string "0.0.0.0")]),
    ("index", .object [("include_indices", .ofStrings ["logs-*"]),
      ("field_limits", .object [("logs-b", .ofStrings ["secret"]), ("logs-a", .array [])])]),
    ("default_index", .null), ("max_depth", .int 5)]

/-- The same with a section as an array, a member that is not known, and without the default. -/
def sparse : Json :=
  .object [("server", .array [.string "0.0.0.0"]),
    ("index", .object [("comment", .float 1), ("include_indices", .ofStrings ["logs-*"]),
      ("field_limits", .object [("logs-b", .ofStrings ["secret"]), ("logs-a", .array [])])]),
    ("max_depth", .int 5)]

/-- The configuration that these give. -/
def sparseConfig : Config where
  server := ⟨"0.0.0.0", 8000⟩
  index := ⟨["logs-*"], [], (FieldLimits.none.insert "logs-a" []).insert "logs-b" ["secret"], 10⟩
  maxDepth := some 5

/-- What is written for it, with the hidden fields of the later index first. -/
def rewritten : Json :=
  .object [("server", .object [("host", .string "0.0.0.0"), ("port", .int 8000)]),
    ("index", .object [("include_indices", .ofStrings ["logs-*"]),
      ("exclude_indices", .ofStrings []),
      ("field_limits", .object [("logs-b", .ofStrings ["secret"]), ("logs-a", .ofStrings [])]),
      ("suggestion_size", .int 10)]),
    ("connection", .object [("hosts", .ofStrings ["http://localhost:9200"]), ("username", .null),
      ("password", .null), ("api_key", .null), ("timeout_secs", .null)]),
    ("accept_index_param", .bool true), ("default_index", .null), ("max_depth", .int 5)]

end Sample

namespace Config

theorem survives_writing_sample :
    ofJson? Sample.tidy = some Sample.sparseConfig ∧
    Relation.ReflTransGen (Json.Varied defaults SameSection) Sample.tidy Sample.sparse ∧
    ofJson? Sample.sparse = some Sample.sparseConfig ∧
    Sample.sparseConfig.toJson.Reordered Sample.rewritten ∧
    ofJson? Sample.rewritten = some Sample.sparseConfig ∧
    parse Sample.rewritten.render = .ok Sample.sparseConfig ∧
    ∃ again, ofJson? Sample.rewritten = some again ∧ parse Sample.rewritten.render = .ok again ∧
      again = Sample.sparseConfig ∧ again.check = Sample.sparseConfig.check ∧
      again.index.policy = Sample.sparseConfig.index.policy ∧
      again.registry.map (fun registry => registry.defaultValidator.kind) =
        Sample.sparseConfig.registry.map (fun registry => registry.defaultValidator.kind) := by
  obtain ⟨survives, forms, rereads⟩ := survives_writing
  have isRead : ofJson? Sample.tidy = some Sample.sparseConfig := rfl
  have varied : Relation.ReflTransGen (Json.Varied defaults SameSection)
      Sample.tidy Sample.sparse := by
    have asArray : SameSection "server" (.object [("host", .string "0.0.0.0")])
        (.array [.string "0.0.0.0"]) :=
      ⟨_, rfl, @Json.Recast.array ServerSettings.defaults [.string "0.0.0.0"] (by decide)⟩
    refine .head (@Json.Varied.inner _ _ [] _ "server" _ _ asArray) ?_
    refine .head (@Json.Varied.omitted _ _ [_, _] _ "default_index" .null rfl (by decide)) ?_
    refine .single (@Json.Varied.inner _ _ [_] _ "index" _ _ ?_)
    refine ⟨RegistrySettings.defaults, rfl, .varied ?_⟩
    exact @Json.Varied.unknown _ _ [] _ "comment" (.float 1) (by decide)
  have unchanged (values : List Json) : List.Forall₂ Json.Reordered values values :=
    List.forall₂_same.mpr fun json _ => .refl json
  have limits : Sample.sparseConfig.index.limits.toJson.Reordered
      (.object [("logs-b", .ofStrings ["secret"]), ("logs-a", .ofStrings [])]) :=
    .object rfl (unchanged _) (.swap _ _ [])
  have reordered : Sample.sparseConfig.toJson.Reordered Sample.rewritten := by
    refine .object ?_ ?_ (.refl _)
    · rfl
    · refine .cons (.refl _) (.cons (.object ?_ ?_ (.refl _)) (unchanged _))
      · rfl
      · exact .cons (.refl _) (.cons (.refl _) (.cons limits (unchanged _)))
  exact ⟨isRead, varied, (forms _ _ varied).trans isRead, reordered, (survives _ _ reordered).1,
    (survives _ _ reordered).2, rereads _ (.inl ⟨_, isRead⟩) _ reordered⟩

end Config

end FilterQuery
