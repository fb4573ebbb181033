import FilterQuery.Proofs.Escapes
import FilterQuery.Proofs.RoundTrip
import FilterQuery.Url.Reader

/-!
# How paths are read

Segments that hold no character which means something to the reader of an address,
and are not dots, are found again as they were written. In the other direction, a
path without escapes never leads to dots or to a segment with a slash. An address
that is made of a server and a path is read as that path.
-/

namespace FilterQuery

namespace Text

theorem mem_joinWith_of_mem
    {separator c : Char}
    {part : List Char}
    {parts : List (List Char)}
    (isPart : part ∈ parts)
    (isMember : c ∈ part) :
    c ∈ joinWith separator parts := by
  fun_induction joinWith separator parts with
  | case1 => simp at isPart
  | case2 only => exact List.mem_singleton.mp isPart ▸ isMember
  | case3 first rest _ inductionHypothesis =>
      rcases List.mem_cons.mp isPart with rfl | isPart
      · exact List.mem_append_left _ isMember
      · exact List.mem_append_right _ (List.mem_cons_of_mem _ (inductionHypothesis isPart))

end Text

namespace Url

/-- Characters that the reader of a path drops or stops at. -/
def breaks : List Char := ['\t', '\n', '\r', '?', '#', '/', '\\']

/-- The characters that pass through are neither dropped nor the end of a segment or of the path. -/
theorem not_mem_breaks_iff {c : Char} :
    c ∉ breaks ↔ isDropped c = false ∧ (c != '?' && c != '#') = true ∧ c ≠ '/' ∧ c ≠ '\\' := by
  simp only [breaks, isDropped]
  grind

theorem isSlash_server_iff (port : UInt16) (c : Char) :
    (Rules.server port).isSlash c = true ↔ c = '/' ∨ c = '\\' := by
  simp [Rules.isSlash]

namespace Path

/-- Without backslashes, the segments of a path are its parts between slashes. -/
theorem split_server_of_not_mem
    (port : UInt16)
    {text : List Char}
    (noBackslash : '\\' ∉ text) :
    split (Rules.server port).isSlash text = Text.splitAt '/' text := by
  have isKept : ∀ c ∈ text, (if (Rules.server port).isSlash c then '/' else c) = c := by
    intro c isMember
    have notBackslash : c ≠ '\\' := fun isBackslash => noBackslash (isBackslash ▸ isMember)
    simp only [isSlash_server_iff, notBackslash, or_false]
    grind
  rw [split, List.map_congr_left isKept, List.map_id']

/-- Segments are made of the characters of the path other than slashes. -/
theorem mem_of_mem_split
    {port : UInt16}
    {text segment : List Char}
    {c : Char}
    (isSegment : segment ∈ split (Rules.server port).isSlash text)
    (isMember : c ∈ segment) :
    c ∈ text ∧ c ≠ '/' ∧ c ≠ '\\' := by
  have notSlash : c ≠ '/' := fun isSlash =>
    Text.not_mem_of_mem_splitAt isSegment (isSlash ▸ isMember)
  have isMapped := @Text.mem_joinWith_of_mem '/' _ _ _ isSegment isMember
  rw [split, Text.joinWith_splitAt] at isMapped
  obtain ⟨original, isOriginal, rfl⟩ := List.mem_map.mp isMapped
  grind [isSlash_server_iff]

theorem placed_false (walked : List (List Char)) (segment : List Char) :
    placed false walked segment = segment := by
  unfold placed
  split <;> simp

/-- Without dots, following segments only adds them. -/
theorem walk_of_not_dots
    {segments : List (List Char)}
    (walked : List (List Char))
    (notDots : ∀ segment ∈ segments, isHere segment = false ∧ isAbove segment = false) :
    walk false walked segments = segments.reverse ++ walked := by
  induction segments generalizing walked with
  | nil => rfl
  | cons segment rest inductionHypothesis =>
      obtain ⟨⟨notHere, notAbove⟩, restNotDots⟩ := List.forall_mem_cons.mp notDots
      simp [walk, notHere, notAbove, placed_false, inductionHypothesis _ restNotDots]

theorem mem_of_mem_above {walked : List (List Char)} {segment : List Char}
    (isMember : segment ∈ above walked) : segment ∈ walked := by
  cases walked with
  | nil => exact isMember
  | cons last rest =>
      simp only [above] at isMember
      split at isMember
      · exact isMember
      · exact List.mem_cons_of_mem _ isMember

/-- Segments never lead to dots. -/
theorem mem_walk
    {segments walked : List (List Char)}
    {segment : List Char}
    (isMember : segment ∈ walk false walked segments) :
    segment ∈ walked ∨ segment = [] ∨
      (segment ∈ segments ∧ isHere segment = false ∧ isAbove segment = false) := by
  induction segments generalizing walked with
  | nil => exact .inl isMember
  | cons next rest inductionHypothesis =>
      -- One segment adds itself at most, and only if it is no dots.
      have isStep : ∀ s, s ∈ (if isAbove next then above walked else if isHere next then walked
          else placed false walked next :: walked) →
          s ∈ walked ∨ (s = next ∧ isHere s = false ∧ isAbove s = false) := by
        intro s isMember
        split at isMember
        · exact .inl (mem_of_mem_above isMember)
        · split at isMember
          · exact .inl isMember
          · rw [placed_false] at isMember
            grind
      simp only [walk] at isMember
      split at isMember
      · grind
      · grind

/-- After `.` and `..` are resolved, a segment is empty or one of those that were written. -/
theorem mem_resolve
    {segments : List (List Char)}
    {segment : List Char}
    (isMember : segment ∈ resolve false segments) :
    segment = [] ∨ ∃ original ∈ segments, segment = Percent.escape reserved original ∧
      isHere segment = false ∧ isAbove segment = false := by
  rcases mem_walk (List.mem_reverse.mp isMember) with isMember | isEmpty | ⟨isMember, notDots⟩
  · simp at isMember
  · exact .inl isEmpty
  · obtain ⟨original, isOriginal, rfl⟩ := List.mem_map.mp isMember
    exact .inr ⟨original, isOriginal, rfl, notDots⟩

end Path

/-- A segment that stands for a name: the reader of a path keeps it whole, and the name is what
the server decodes it to. -/
structure Names (segment : List Char) (name : String) : Prop where
  unbroken : ∀ c ∈ segment, c ∉ breaks
  isDecoded : Percent.decodeText (Percent.escape Path.reserved segment) = name
  notHere : name ≠ "."
  notAbove : name ≠ ".."

namespace Names

/-- A text is a segment that names itself if nothing in it is dropped, decoded or walked. -/
theorem of_plain
    {name : String}
    (unbroken : ∀ c ∈ name.toList, c ∉ breaks)
    (noSign : '%' ∉ name.toList)
    (notHere : name ≠ ".")
    (notAbove : name ≠ "..") :
    Names name.toList name where
  unbroken := unbroken
  isDecoded := by rw [Percent.decodeText_escape _ noSign, String.ofList_toList]
  notHere := notHere
  notAbove := notAbove

/-- A segment stands for the same name once it is escaped. -/
theorem escaped {segment : List Char} {name : String} (names : Names segment name) :
    Names (Percent.escape Path.reserved segment) name where
  unbroken c isMember := by
    rcases Percent.mem_escape isMember with rfl | ⟨value, isDigit, rfl⟩ | ⟨isMember, -⟩
    · decide
    · interval_cases value <;> decide
    · exact names.unbroken c isMember
  isDecoded := by rw [Path.escape_escape, names.isDecoded]
  notHere := names.notHere
  notAbove := names.notAbove

/-- A segment by which a path is walked is decoded to `.` or `..`, and these name nothing. -/
theorem not_dots {segment : List Char} {name : String} (names : Names segment name) :
    Path.isHere (Percent.escape Path.reserved segment) = false ∧
      Path.isAbove (Percent.escape Path.reserved segment) = false := by
  constructor
  · refine Bool.eq_false_iff.mpr fun here => names.notHere ?_
    rw [← names.isDecoded, Path.decodeText_of_isHere here]
  · refine Bool.eq_false_iff.mpr fun above => names.notAbove ?_
    rw [← names.isDecoded, Path.decodeText_of_isAbove above]

end Names

/-- A path of two segments as it is written. -/
def pathOf (first second : List Char) : List Char :=
  '/' :: first ++ '/' :: second

section TwoSegments

variable {first second : List Char} {firstName secondName : String}

theorem forall_mem_pathOf {p : Char → Prop} :
    (∀ c ∈ pathOf first second, p c) ↔ p '/' ∧ (∀ c ∈ first, p c) ∧ ∀ c ∈ second, p c := by
  simp only [pathOf]
  grind

/-- Nothing is dropped from a path of two names, and nothing ends it. -/
theorem kept_pathOf (isFirst : Names first firstName) (isSecond : Names second secondName) :
    ∀ c ∈ pathOf first second, isDropped c = false ∧ (c != '?' && c != '#') = true := by
  refine forall_mem_pathOf.mpr ⟨by decide, fun c isMember => ?_, fun c isMember => ?_⟩
  · exact (not_mem_breaks_iff.mp (isFirst.unbroken c isMember)).imp_right And.left
  · exact (not_mem_breaks_iff.mp (isSecond.unbroken c isMember)).imp_right And.left

/-- The reader of paths finds segments that stand for names, and escapes them. -/
theorem pathAfter_pathOf
    (port : UInt16)
    (isFirst : Names first firstName)
    (isSecond : Names second secondName) :
    pathAfter (.server port) (pathOf first second) =
      .ofSegments [Percent.escape Path.reserved first, Percent.escape Path.reserved second] := by
  have isSplit : Path.split (Rules.server port).isSlash (first ++ '/' :: second) =
      [first, second] := by
    have slashless : '/' ∉ first ∧ '/' ∉ second :=
      ⟨fun isMember => isFirst.unbroken _ isMember (by decide),
        fun isMember => isSecond.unbroken _ isMember (by decide)⟩
    have noBackslash : '\\' ∉ first ++ '/' :: second := by
      simp only [List.mem_append, List.mem_cons]
      rintro (isMember | isSlash | isMember)
      · exact isFirst.unbroken _ isMember (by decide)
      · exact absurd isSlash (by decide)
      · exact isSecond.unbroken _ isMember (by decide)
    rw [Path.split_server_of_not_mem port noBackslash, Text.splitAt_append slashless.1,
      Text.splitAt_of_not_mem slashless.2]
  have isResolved : Path.resolve false [first, second] =
      [Percent.escape Path.reserved first, Percent.escape Path.reserved second] := by
    rw [Path.resolve, Path.walk_of_not_dots [] (by simp [isFirst.not_dots, isSecond.not_dots])]
    simp
  simp only [pathAfter, pathOf, List.cons_append]
  rw [if_pos (by simp [isSlash_server_iff]), isSplit, isResolved]

end TwoSegments

/-- Whatever is written at a path, without escapes no segment is decoded to dots or to a text with a
slash. -/
theorem exists_of_mem_pathAfter
    {port : UInt16}
    {text : List Char}
    {parts : List String}
    {part : String}
    (noSign : '%' ∉ text)
    (isRead : pathAfter (.server port) text = .segments parts)
    (isPart : part ∈ parts) :
    ∃ segment, Percent.decodeText part.toList = String.ofList segment ∧
      (∀ c ∈ segment, c ∈ text ∧ c ≠ '/' ∧ c ≠ '\\') ∧ segment ≠ ['.'] ∧ segment ≠ ['.', '.'] := by
  have isEmpty : Percent.decodeText [] = String.ofList [] := by
    rw [Percent.decodeText, Utf8.encode_ofList]
    rfl
  cases text with
  | nil =>
      obtain rfl : parts = [""] := by simpa [pathAfter, Path.ofSegments] using isRead.symm
      obtain rfl := List.mem_singleton.mp isPart
      exact ⟨[], isEmpty, by simp⟩
  | cons first rest =>
      -- The reader looks behind the first slash.
      obtain ⟨relative, isRelative, rfl⟩ : ∃ relative ⊆ first :: rest, parts =
          (Path.resolve false (Path.split (Rules.server port).isSlash relative)).map
            String.ofList := by
        refine ⟨_, ?_, (Path.segments.inj isRead).symm⟩
        split <;> simp
      obtain ⟨segment, isSegment, rfl⟩ := List.mem_map.mp isPart
      rw [String.toList_ofList]
      rcases Path.mem_resolve isSegment with rfl | ⟨original, isOriginal, rfl, notHere, notAbove⟩
      · exact ⟨[], isEmpty, by simp⟩
      have ofText : ∀ c ∈ original, c ∈ first :: rest ∧ c ≠ '/' ∧ c ≠ '\\' :=
        fun c isMember => (Path.mem_of_mem_split isOriginal isMember).imp_left (isRelative ·)
      refine ⟨original, Percent.decodeText_escape _ fun isMember => noSign (ofText _ isMember).1,
        ofText, ?_, ?_⟩
      · rintro rfl
        exact absurd notHere (by decide)
      · rintro rfl
        exact absurd notAbove (by decide)

/-! ## Servers -/

theorem subset_of_atLast? {mark : Char} {text before behind : List Char}
    (isSplit : atLast? mark text = some (before, behind)) : behind ⊆ text := by
  unfold atLast? at isSplit
  split at isSplit
  · obtain ⟨-, rfl⟩ := Prod.mk.inj (Option.some.inj isSplit)
    intro c isMember
    exact List.mem_reverse.mp (List.takeWhile_subset _ (List.mem_reverse.mp isMember))
  · simp at isSplit

/-- Without backslashes, a port is read to the end of the authority. -/
theorem port?_behind {rules : Rules} {text behind : List Char} {port : Option UInt16}
    (noBackslash : '\\' ∉ text)
    (isRead : port? rules text = some (port, behind)) :
    behind = [] := by
  cases text with
  | nil => exact (Prod.mk.inj (Option.some.inj isRead)).2.symm
  | cons mark rest =>
      simp only [port?] at isRead
      split at isRead
      · next isEnd =>
          obtain ⟨-, rfl⟩ := Prod.mk.inj (Option.some.inj isRead)
          rcases isEnd.1 with isEmpty | isBackslash
          · exact List.isEmpty_iff.mp isEmpty
          · refine absurd (List.mem_cons_of_mem mark ?_) noBackslash
            exact List.mem_of_mem_drop (List.mem_of_mem_head? isBackslash)
      · simp at isRead

/-- Behind a server without a backslash there is nothing left. -/
theorem authority?_behind {rules : Rules} {text behind : List Char} {authority : Authority}
    (noBackslash : '\\' ∉ text)
    (isRead : authority? rules text = some (authority, behind)) :
    behind = [] := by
  have isServer : ((atLast? '@' text).getD ([], text)).2 ⊆ text := by
    cases isSplit : atLast? '@' text with
    | none => simp
    | some parts => exact subset_of_atLast? isSplit
  unfold authority? at isRead
  simp only [Option.bind_eq_bind, Option.pure_def] at isRead
  split at isRead
  · simp at isRead
  · obtain ⟨⟨port, rest⟩, isPort, isRead⟩ := Option.bind_eq_some_iff.mp isRead
    obtain ⟨host, -, isRead⟩ := Option.bind_eq_some_iff.mp isRead
    obtain ⟨-, rfl⟩ := Prod.mk.inj (Option.some.inj isRead)
    exact port?_behind (fun isMember => noBackslash (isServer (List.mem_of_mem_drop isMember)))
      isPort

/-- A text is clean if its ends and the characters between them are kept. -/
theorem clean_of_kept
    {text : List Char}
    (isHead : ∀ c ∈ text.head?, isEdge c = false)
    (isLast : ∀ c ∈ text.getLast?, isEdge c = false)
    (isKept : ∀ c ∈ text, isDropped c = false) :
    clean text = text := by
  have isFront : ∀ row : List Char, (∀ c ∈ row.head?, isEdge c = false) →
      row.dropWhile isEdge = row := by
    intro row isHead
    cases row with
    | nil => rfl
    | cons c rest => exact List.dropWhile_cons_of_neg (by simp [isHead c rfl])
  rw [clean, isFront text isHead, isFront text.reverse (by simpa using isLast),
    List.reverse_reverse, List.filter_eq_self.mpr]
  exact fun c isMember => by simp [isKept c isMember]

/-- Behind a server comes its path. -/
theorem path_of_location?
    {port : UInt16}
    {server path : List Char}
    {authority : Option Authority}
    {found : Path}
    (notEmpty : server ≠ [])
    (unbroken : ∀ c ∈ server, c ∉ breaks)
    (isRead : location? (.server port) ('/' :: '/' :: server ++ '/' :: path) =
      some (authority, found)) :
    found = pathAfter (.server port) ('/' :: path) := by
  have notSlash : ∀ c ∈ server, (Rules.server port).isSlash c = false := by
    intro c isMember
    rw [Bool.eq_false_iff, ne_eq, isSlash_server_iff]
    grind [not_mem_breaks_iff]
  have isSlash : (Rules.server port).isSlash '/' = true :=
    (isSlash_server_iff port '/').mpr (.inl rfl)
  have isBehind : ('/' :: '/' :: server ++ '/' :: path).dropWhile (Rules.server port).isSlash =
      server ++ '/' :: path := by
    cases server with
    | nil => exact absurd rfl notEmpty
    | cons c rest => simp [isSlash, notSlash c]
  have isServer : (server ++ '/' :: path).takeWhile (!(Rules.server port).isSlash ·) = server := by
    rw [List.takeWhile_append_of_pos (fun c isMember => by simp [notSlash c isMember]),
      List.takeWhile_cons_of_neg (by simp [isSlash]), List.append_nil]
  simp only [location?, isBehind, isServer, List.drop_left, Option.bind_eq_bind,
    Option.pure_def] at isRead
  obtain ⟨⟨authority, behind⟩, isAuthority, isRead⟩ := Option.bind_eq_some_iff.mp isRead
  have isEmpty : behind = [] := authority?_behind (by grind [not_mem_breaks_iff]) isAuthority
  obtain ⟨-, rfl⟩ := Prod.mk.inj (Option.some.inj isRead)
  rw [isEmpty, List.nil_append]

/-- The schemes of the web. -/
def webSchemes : List String := ["http", "https"]

/-- A server that is reached through the web, by an address at which nothing else is named. -/
def IsServer (address : String) : Prop :=
  ∃ scheme ∈ webSchemes, ∃ server : String, server ≠ "" ∧
    (∀ c ∈ server.toList, c ∉ breaks) ∧ address = scheme ++ "://" ++ server

/-- The schemes of the web are read as they stand, and a server is named behind them. -/
theorem scheme?_of_web
    {scheme : String}
    (isWeb : scheme ∈ webSchemes)
    (rest : List Char) :
    scheme? (scheme.toList ++ ':' :: rest) = some (scheme, rest) ∧
      ∃ port, Rules.ofScheme scheme = .server port := by
  simp only [webSchemes, List.mem_cons, List.not_mem_nil, or_false] at isWeb
  rcases isWeb with rfl | rfl
  · exact ⟨rfl, 80, rfl⟩
  · exact ⟨rfl, 443, rfl⟩

/-- An address of the web begins well, so only its last character and its inside matter. -/
theorem clean_of_web
    {scheme : String}
    {rest : List Char}
    (isWeb : scheme ∈ webSchemes)
    (isLast : isEdge (rest.getLast?.getD ':') = false)
    (isKept : ∀ c ∈ rest, isDropped c = false) :
    clean (scheme.toList ++ ':' :: rest) = scheme.toList ++ ':' :: rest := by
  have isScheme : scheme.toList.head? = some 'h' ∧ scheme.toList.all (!isDropped ·) = true := by
    simp only [webSchemes, List.mem_cons, List.not_mem_nil, or_false] at isWeb
    rcases isWeb with rfl | rfl <;> decide
  refine clean_of_kept ?_ ?_ ?_
  · have isEdge : isEdge 'h' = false := by decide
    simpa [List.head?_append, isScheme.1] using isEdge
  · simpa [List.getLast?_append, List.getLast?_cons] using isLast
  · have schemeKept : ∀ c ∈ scheme.toList, isDropped c = false := by simpa using isScheme.2
    have markKept : isDropped ':' = false := by decide
    simp only [List.mem_append, List.mem_cons]
    rintro c (isMember | rfl | isMember)
    · exact schemeKept c isMember
    · exact markKept
    · exact isKept c isMember

/-- Behind a server, what is read is the path that is written there. -/
theorem read?_of_isServer
    {server : String}
    {path : List Char}
    {url : Url}
    (isServer : IsServer server)
    (isPath : ∀ c ∈ '/' :: path, isDropped c = false ∧ (c != '?' && c != '#') = true)
    (isLast : isEdge (path.getLast?.getD '/') = false)
    (isRead : read? (server ++ String.ofList ('/' :: path)) = some url) :
    url.query = none ∧ ∃ port, url.path = pathAfter (.server port) ('/' :: path) := by
  obtain ⟨scheme, isWeb, host, notEmpty, unbroken, rfl⟩ := isServer
  obtain ⟨isScheme, port, isRules⟩ :=
    scheme?_of_web isWeb ('/' :: '/' :: host.toList ++ '/' :: path)
  have isText : (scheme ++ "://" ++ host ++ String.ofList ('/' :: path)).toList =
      scheme.toList ++ ':' :: ('/' :: '/' :: host.toList ++ '/' :: path) := by
    simp
  have isKept : ∀ c ∈ '/' :: '/' :: host.toList ++ '/' :: path,
      isDropped c = false ∧ (c != '?' && c != '#') = true := by
    have isHost : ∀ c ∈ host.toList, isDropped c = false ∧ (c != '?' && c != '#') = true :=
      fun c isMember => (not_mem_breaks_iff.mp (unbroken c isMember)).imp_right And.left
    have isSlash : isDropped '/' = false ∧ ('/' != '?' && '/' != '#') = true := by decide
    grind
  have isClean := clean_of_web isWeb
    (by simpa [List.getLast?_append, List.getLast?_cons] using isLast)
    fun c isMember => (isKept c isMember).1
  have isWhole : ('/' :: '/' :: host.toList ++ '/' :: path).takeWhile
      (fun c => c != '?' && c != '#') = '/' :: '/' :: host.toList ++ '/' :: path :=
    List.takeWhile_eq_self_iff.mpr fun c isMember => (isKept c isMember).2
  rw [read?, isText, isClean, isScheme] at isRead
  simp only [Option.bind_eq_bind, Option.bind_some, isRules, isWhole, List.drop_length,
    List.takeWhile_nil, Option.pure_def] at isRead
  obtain ⟨⟨authority, found⟩, isLocation, isRead⟩ := Option.bind_eq_some_iff.mp isRead
  obtain rfl := Option.some.inj isRead
  exact ⟨rfl, port, path_of_location? (by simpa using notEmpty) unbroken isLocation⟩

end Url
end FilterQuery
