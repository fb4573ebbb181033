import FilterQuery.Engine.Remote
import FilterQuery.Proofs.Paths

/-!
# What the address of a request leads to

An engine finds the indices of a request in the first segment of its path. It
reads that segment as a list, and a part of the list as a pattern, an exclusion
or a name of another kind where it holds certain characters. A text that the check
of index names lets through is read as itself: it survives the reader of
addresses, and the engine takes it for the name of a single index.
-/

namespace FilterQuery

namespace Index

/-- What an engine takes a part of a list of indices for. -/
inductive Designation where
  /-- No index is named. -/
  | nothing
  /-- All indices whose names match. -/
  | pattern (text : String)
  /-- Indices that are taken out of the list. -/
  | exclusion (text : String)
  /-- A name that is reserved for the engine's own interface. -/
  | interface (text : String)
  /-- An index of another cluster. -/
  | remote (text : String)
  /-- A name that is computed from the date. -/
  | dateMath (text : String)
  /-- The index that has the name. -/
  | name (text : String)
deriving DecidableEq

/-- How an engine reads a part of a list of indices. -/
def Designation.ofText (text : List Char) : Designation :=
  let written := String.ofList text
  if text.isEmpty then nothing
  else if text.contains '*' then pattern written
  else if text.head? = some '-' then exclusion written
  else if text.head? = some '+' ∨ text.head? = some '_' then interface written
  else if text.contains ':' then remote written
  else if text.contains '<' ∨ text.contains '>' then dateMath written
  else name written

/-- What a request is about. -/
structure Target where
  /-- The parts of the list in the first segment of the path. -/
  indices : List Designation
  /-- The other segments. -/
  rest : List String
deriving DecidableEq

/-- What an engine finds in the segments of a path, once they are decoded. -/
def Target.ofSegments? : List String → Option Target
  | [] => none
  | first :: rest => some ⟨(Text.splitAt ',' first.toList).map Designation.ofText, rest⟩

/-- The characters of a path that matter: those before a query or a fragment. -/
def pathText (path : String) : List Char :=
  (path.toList.filter (!Url.isDropped ·)).takeWhile fun c => c != '?' && c != '#'

/-- What an engine is asked for at a path. -/
def target? (path : String) : Option Target :=
  match Url.pathAfter (.server 80) (pathText path) with
  | .whole _ => none
  | .segments parts => Target.ofSegments? (parts.map fun part => Percent.decodeText part.toList)

section Reading

open Url (Names pathOf)

/-- A character of the path was in the text, is not dropped from it, and does not end the path. -/
theorem mem_pathText {path : String} {c : Char} (isMember : c ∈ pathText path) :
    c ∈ path.toList ∧ Url.isDropped c = false ∧ (c != '?' && c != '#') = true := by
  have isKept := List.mem_filter.mp (List.takeWhile_subset _ isMember)
  have isBefore := List.all_eq_true.mp List.all_takeWhile c isMember
  exact ⟨isKept.1, by simpa using isKept.2, isBefore⟩

/-- Names have no character that a path drops or ends with, so a path made of two names is kept
whole. -/
theorem pathText_pathOf
    {first second : List Char}
    {firstName secondName : String}
    (isFirst : Names first firstName)
    (isSecond : Names second secondName) :
    pathText (String.ofList (pathOf first second)) = pathOf first second := by
  have isKept := Url.kept_pathOf isFirst isSecond
  rw [pathText, String.toList_ofList, List.filter_eq_self.mpr, List.takeWhile_eq_self_iff.mpr]
  · exact fun c isMember => (isKept c isMember).2
  · exact fun c isMember => by simp [(isKept c isMember).1]

/-- A path of two names is read as the first one, taken apart at commas, and the second one. -/
theorem target?_pathOf
    {first second : List Char}
    {firstName secondName : String}
    (isFirst : Names first firstName)
    (isSecond : Names second secondName) :
    target? (String.ofList (pathOf first second)) =
      some ⟨(Text.splitAt ',' firstName.toList).map Designation.ofText, [secondName]⟩ := by
  rw [target?, pathText_pathOf isFirst isSecond, Url.pathAfter_pathOf 80 isFirst isSecond]
  simp only [Url.Path.ofSegments, List.map_cons, List.map_nil, String.toList_ofList,
    isFirst.isDecoded, isSecond.isDecoded]
  rfl

/-- The characters that make a part of a list something else than a name. -/
def Designation.special : List Char := ['*', ':', '<', '>']

/-- A text stands for itself unless its beginning or one of its characters has a meaning. -/
theorem Designation.ofText_eq_name_iff {text : List Char} {written : String} :
    ofText text = .name written ↔
      String.ofList text = written ∧ text ≠ [] ∧ startsWell text = true ∧
        ∀ c ∈ text, c ∉ special := by
  cases text with
  | nil => simp [ofText]
  | cons first rest =>
      simp only [ofText, startsWell, special, forbiddenFirst]
      grind

/-- The characters of a name are those that paths, lists of names and patterns leave alone. -/
theorem isNameChar_iff (c : Char) :
    isNameChar c = true ↔
      (Text.isBlank c = false ∧ Text.isControl c = false ∧ c ∉ ['"', '|', '%']) ∧
        c ∉ Url.breaks ∧ c ≠ ',' ∧ c ∉ Designation.special := by
  have isControl : c = '\t' ∨ c = '\n' ∨ c = '\r' → Text.isControl c = true := by
    rintro (rfl | rfl | rfl) <;> rfl
  simp only [isNameChar, forbidden, Url.breaks, Designation.special]
  grind

/-- A text that could be the name of an index, as far as the reader of a path does not matter. -/
structure Ordinary (index : String) : Prop where
  fits : index.utf8ByteSize ≤ maxNameBytes
  isPrintable : ∀ c ∈ index.toList,
    Text.isBlank c = false ∧ Text.isControl c = false ∧ c ∉ ['"', '|', '%']

/-- A name is an ordinary text that is neither a relative segment, nor taken apart, nor read as a
pattern. -/
theorem isName_iff (index : String) :
    isName index = true ↔
      Ordinary index ∧ index ≠ "." ∧ index ≠ ".." ∧
        (∀ c ∈ index.toList, c ∉ Url.breaks) ∧ ',' ∉ index.toList ∧
        Designation.ofText index.toList = .name index := by
  have isOrdinary : Ordinary index ↔ index.utf8ByteSize ≤ maxNameBytes ∧ ∀ c ∈ index.toList,
      Text.isBlank c = false ∧ Text.isControl c = false ∧ c ∉ ['"', '|', '%'] :=
    ⟨fun ordinary => ⟨ordinary.fits, ordinary.isPrintable⟩, fun ⟨fits, isPrintable⟩ =>
      ⟨fits, isPrintable⟩⟩
  have notEmpty : index.toList ≠ [] ↔ index ≠ "" := by simp
  simp only [isName, Bool.and_eq_true, decide_eq_true_eq, List.all_eq_true, isNameChar_iff,
    isOrdinary, Designation.ofText_eq_name_iff, String.ofList_toList, true_and, notEmpty]
  grind

/-- The name of an index is a segment that stands for itself. -/
theorem names_of_isName {index : String} (valid : isName index = true) :
    Names index.toList index := by
  obtain ⟨ordinary, notHere, notAbove, unbroken, -, -⟩ := (isName_iff index).mp valid
  refine .of_plain unbroken (fun isMember => ?_) notHere notAbove
  exact (ordinary.isPrintable _ isMember).2.2 (by simp)

/-- A name is read as a list of one designation, which is the name. -/
theorem designations_of_isName {index : String} (valid : isName index = true) :
    (Text.splitAt ',' index.toList).map Designation.ofText = [.name index] := by
  obtain ⟨-, -, -, -, noComma, isName⟩ := (isName_iff index).mp valid
  rw [Text.splitAt_of_not_mem noComma, List.map_singleton, isName]

/-- What is read as one name is no dots, and has no character that means something to the reader
of a path or to the engine. -/
theorem read_of_target?
    {path index : String}
    {rest : List String}
    (noSign : '%' ∉ path.toList)
    (isRead : target? path = some ⟨[.name index], rest⟩) :
    index ≠ "." ∧ index ≠ ".." ∧ (∀ c ∈ index.toList, c ∉ Url.breaks) ∧ ',' ∉ index.toList ∧
      Designation.ofText index.toList = .name index := by
  unfold target? at isRead
  split at isRead
  · exact absurd isRead (by simp)
  · next parts isPath =>
      cases parts with
      | nil => exact absurd isRead (by simp [Target.ofSegments?])
      | cons part parts =>
          obtain ⟨segment, isSegment, ofText, notHere, notAbove⟩ :=
            Url.exists_of_mem_pathAfter (fun isMember => noSign (mem_pathText isMember).1) isPath
              List.mem_cons_self
          have isList : (Text.splitAt ',' segment).map Designation.ofText = [.name index] := by
            simpa [Target.ofSegments?, isSegment] using congrArg (·.map Target.indices) isRead
          obtain ⟨only, isOnly, isName⟩ := List.map_eq_singleton_iff.mp isList
          obtain rfl : segment = only := by
            rw [← Text.joinWith_splitAt ',' segment, isOnly, Text.joinWith]
          obtain rfl := (Designation.ofText_eq_name_iff.mp isName).1
          have noComma : ',' ∉ segment :=
            Text.not_mem_of_mem_splitAt (isOnly ▸ List.mem_singleton_self segment)
          simp only [String.toList_ofList, ne_eq, ← String.toList_inj]
          refine ⟨notHere, notAbove, fun c isMember => ?_, noComma, isName⟩
          obtain ⟨isMember, notSlash⟩ := ofText c isMember
          obtain ⟨-, notDropped, isBefore⟩ := mem_pathText isMember
          exact Url.not_mem_breaks_iff.mpr ⟨notDropped, isBefore, notSlash⟩

/-- The check lets through exactly the ordinary texts that an engine reads as themselves. -/
theorem isName_iff_target?
    {index api : String}
    (isApi : Names api.toList api)
    (noSign : '%' ∉ api.toList) :
    isName index = true ↔
      Ordinary index ∧ target? ("/" ++ index ++ "/" ++ api) = some ⟨[.name index], [api]⟩ := by
  have isPath : "/" ++ index ++ "/" ++ api = String.ofList (pathOf index.toList api.toList) := by
    simp [pathOf, ← String.toList_inj]
  constructor
  · intro valid
    refine ⟨((isName_iff index).mp valid).1, ?_⟩
    rw [isPath, target?_pathOf (names_of_isName valid) isApi, designations_of_isName valid]
  · rintro ⟨ordinary, isRead⟩
    refine (isName_iff index).mpr ⟨ordinary, read_of_target? ?_ isRead⟩
    rw [isPath, String.toList_ofList]
    have isPlain : ∀ c ∈ pathOf index.toList api.toList, c ≠ '%' := by
      refine Url.forall_mem_pathOf.mpr ⟨by decide, ?_, ?_⟩
      · rintro _ isMember rfl
        exact (ordinary.isPrintable _ isMember).2.2 (by simp)
      · rintro _ isMember rfl
        exact noSign isMember
    exact fun isMember => isPlain _ isMember rfl

-- A text that is refused, since it leads to another index.
example : target? "/x/../secret/_search" = some ⟨[.name "secret"], ["_search"]⟩ := by
  cbv

end Reading

end Index

/-! ## Requests -/

/-- The credentials are no part of what is addressed. -/
theorem Url.resource_takeCredentials (url : Url) :
    url.takeCredentials.2.resource = url.resource := by
  unfold takeCredentials
  split <;> rfl

theorem Url.isHttp_takeCredentials (url : Url) : url.takeCredentials.2.isHttp = url.isHttp := by
  unfold takeCredentials
  split <;> rfl

/-- A request is built exactly where its address can be read, has a host and a scheme for it, and
the key can be sent. -/
theorem Remote.build_eq_ok_iff
    {settings : ConnectionSettings}
    {turn : Nat}
    {index name : String}
    (body : Option Json)
    {request : EngineRequest} :
    build settings turn index name body = .ok request ↔
      ∃ url, Url.read? (address ((host? settings turn).getD "") index name) = some url ∧
        url.hasHost = true ∧ keyFits settings = true ∧ url.isHttp = true ∧
        request = ⟨url.takeCredentials.2, url.takeCredentials.1, body, settings⟩ := by
  simp only [build, Url.isHttp_takeCredentials]
  split
  · next isRead => simp [isRead]
  · next url isRead => grind

namespace Index

/-- The parts of an engine's interface that requests are made to. -/
def apis : List String := ["_mapping", "_search"]

section Requests

open Url (Names pathOf)

variable {index api : String}

/-- The names of the operations are written in a path as they are. -/
theorem names_of_mem_apis (isApi : api ∈ apis) :
    Names api.toList api ∧ '%' ∉ api.toList ∧
      Url.isEdge (api.toList.getLast?.getD '/') = false := by
  have isPlain : (api.toList.all fun c => c ∉ '%' :: Url.breaks) = true ∧ api ≠ "." ∧ api ≠ ".." ∧
      Url.isEdge (api.toList.getLast?.getD '/') = false := by
    simp only [apis, List.mem_cons, List.not_mem_nil, or_false] at isApi
    rcases isApi with rfl | rfl <;> decide
  obtain ⟨isPlain, notHere, notAbove, isLast⟩ := isPlain
  simp only [List.all_eq_true, decide_eq_true_eq, List.mem_cons, not_or] at isPlain
  have noSign : '%' ∉ api.toList := fun isMember => (isPlain _ isMember).1 rfl
  exact ⟨.of_plain (fun c isMember => (isPlain c isMember).2) noSign notHere notAbove, noSign,
    isLast⟩

/-- What a server is asked for: the name and the interface, escaped. -/
theorem resource_of_build
    {settings : ConnectionSettings}
    {turn : Nat}
    {host : String}
    {body : Option Json}
    {request : EngineRequest}
    (valid : isName index = true)
    (isApi : api ∈ apis)
    (isHost : Remote.host? settings turn = some host)
    (isServer : Url.IsServer host)
    (isBuilt : Remote.build settings turn index api body = .ok request) :
    request.url.resource = String.ofList (pathOf
      (Percent.escape Url.Path.reserved index.toList)
      (Percent.escape Url.Path.reserved api.toList)) := by
  obtain ⟨apiNames, -, apiLast⟩ := names_of_mem_apis isApi
  have indexNames := names_of_isName valid
  obtain ⟨url, isRead, -, -, -, rfl⟩ := (Remote.build_eq_ok_iff body).mp isBuilt
  have isAddress : Remote.address ((Remote.host? settings turn).getD "") index api =
      host ++ String.ofList (pathOf index.toList api.toList) := by
    simp [isHost, Remote.address, pathOf, ← String.toList_inj]
  rw [isAddress] at isRead
  have isLast : Url.isEdge ((index.toList ++ '/' :: api.toList).getLast?.getD '/') = false := by
    simpa [List.getLast?_append, List.getLast?_cons] using apiLast
  obtain ⟨noQuery, port, isPath⟩ :=
    Url.read?_of_isServer isServer (Url.kept_pathOf indexNames apiNames) isLast isRead
  have isSegments := isPath.trans (Url.pathAfter_pathOf port indexNames apiNames)
  rw [Url.resource_takeCredentials, Url.resource, noQuery, isSegments]
  simp [Url.renderPart, Url.Path.render, Url.Path.ofSegments, pathOf, ← String.toList_inj,
    String.join]

/-- The names that are accepted are the ordinary texts that an engine reads as the one index of
that name. Every request about such a name that is sent to a server asks it for that index and
nothing else. -/
theorem accepted_iff_read_as_itself (isApi : api ∈ apis) :
    (checkName index = .ok () ↔
      Ordinary index ∧ target? ("/" ++ index ++ "/" ++ api) = some ⟨[.name index], [api]⟩) ∧
    ∀ {settings turn host body request}, checkName index = .ok () →
      Remote.host? settings turn = some host → Url.IsServer host →
      Remote.build settings turn index api body = .ok request →
      target? request.url.resource = some ⟨[.name index], [api]⟩ := by
  obtain ⟨apiNames, noSign, -⟩ := names_of_mem_apis isApi
  refine ⟨(checkName_eq_ok_iff index).trans (isName_iff_target? apiNames noSign), ?_⟩
  intro settings turn host body request accepted isHost isServer isBuilt
  have valid := (checkName_eq_ok_iff index).mp accepted
  rw [resource_of_build valid isApi isHost isServer isBuilt,
    target?_pathOf (names_of_isName valid).escaped apiNames.escaped, designations_of_isName valid]

theorem accepted_iff_read_as_itself_sample :
    checkName "bücher\x7bv.2\x7d" = .ok () ∧
    target? "/bücher\x7bv.2\x7d/_search" = some ⟨[.name "bücher\x7bv.2\x7d"], ["_search"]⟩ ∧
    ∃ request, Remote.build ⟨["http://[::1]:9200/"], none, none, none, none⟩ 3 "bücher\x7bv.2\x7d"
        "_search" none = .ok request ∧
      request.url.resource = "/b%C3%BCcher%7Bv.2%7D/_search" ∧
      target? request.url.resource = some ⟨[.name "bücher\x7bv.2\x7d"], ["_search"]⟩ := by
  have accepted : checkName "bücher\x7bv.2\x7d" = .ok () :=
    (checkName_eq_ok_iff _).mpr (by decide)
  have isParsed : Url.read? (Remote.address ((Remote.host?
      ⟨["http://[::1]:9200/"], none, none, none, none⟩ 3).getD "") "bücher\x7bv.2\x7d" "_search") =
        some ⟨"http", some ⟨"", "", .ipv6 ⟨[0, 0, 0, 0, 0, 0, 0, 1]⟩, some 9200⟩,
          .segments ["b%C3%BCcher%7Bv.2%7D", "_search"], none, none⟩ := by
    decide +kernel
  have unbroken : ("[::1]:9200".toList.all fun c => c ∉ Url.breaks) = true := by decide
  have isServer : Url.IsServer "http://[::1]:9200" :=
    ⟨"http", by decide, "[::1]:9200", by simp, by simpa using unbroken, by decide⟩
  obtain ⟨isRead, isSent⟩ := @accepted_iff_read_as_itself "bücher\x7bv.2\x7d" "_search" (by decide)
  have isBuilt := (Remote.build_eq_ok_iff none).mpr ⟨_, isParsed, rfl, rfl, rfl, rfl⟩
  refine ⟨accepted, (isRead.mp accepted).2, _, isBuilt, ?_, ?_⟩
  · rw [Url.resource_takeCredentials]
    decide
  · exact isSent accepted (by decide) isServer isBuilt

end Requests

end Index
end FilterQuery
