import FilterQuery.Json.Record

/-!
# Field limits

The names of the fields that are hidden in each index, kept in ascending order
of the indices.
-/

namespace FilterQuery
namespace FieldLimits

/-- The order of entries: by index. -/
def Before (first second : String × List String) : Prop := first.1 < second.1

/-- Set the entry of an index in an ascending list. -/
def insertEntry (index : String) (names : List String) :
    List (String × List String) → List (String × List String)
  | [] => [(index, names)]
  | (key, value) :: rest =>
      if index < key then (index, names) :: (key, value) :: rest
      else if index = key then (index, names) :: rest
      else (key, value) :: insertEntry index names rest

/-- An entry of the new list is the new one or one of the old list. -/
theorem mem_insertEntry
    {index : String} {names : List String} {entries : List (String × List String)}
    {entry : String × List String}
    (member : entry ∈ insertEntry index names entries) :
    entry = (index, names) ∨ entry ∈ entries := by
  induction entries with
  | nil => simpa [insertEntry] using member
  | cons head tail inductionHypothesis =>
      obtain ⟨key, value⟩ := head
      simp only [insertEntry] at member
      split at member
      · simpa using member
      · split at member
        · rcases List.mem_cons.mp member with isNew | isOld
          · exact .inl isNew
          · exact .inr (List.mem_cons_of_mem _ isOld)
        · rcases List.mem_cons.mp member with isHead | inTail
          · exact .inr (by simp [isHead])
          · rcases inductionHypothesis inTail with isNew | isOld
            · exact .inl isNew
            · exact .inr (List.mem_cons_of_mem _ isOld)

/-- Setting an entry keeps the order. -/
theorem pairwise_insertEntry
    (index : String) (names : List String) {entries : List (String × List String)}
    (ascending : entries.Pairwise Before) :
    (insertEntry index names entries).Pairwise Before := by
  induction entries with
  | nil => simp [insertEntry]
  | cons head tail inductionHypothesis =>
      obtain ⟨key, value⟩ := head
      obtain ⟨headBefore, tailAscending⟩ := List.pairwise_cons.mp ascending
      simp only [insertEntry]
      split
      · next smaller =>
          refine List.pairwise_cons.mpr ⟨?_, ascending⟩
          intro entry member
          rcases List.mem_cons.mp member with isHead | inTail
          · subst isHead
            exact smaller
          · exact String.lt_trans smaller (headBefore entry inTail)
      · next notSmaller =>
          split
          · next same =>
              subst same
              exact List.pairwise_cons.mpr ⟨headBefore, tailAscending⟩
          · next different =>
              refine List.pairwise_cons.mpr ⟨?_, inductionHypothesis tailAscending⟩
              intro entry member
              rcases mem_insertEntry member with isNew | isOld
              · subst isNew
                refine String.not_le.mp fun atMost => different ?_
                exact String.le_antisymm atMost (String.not_lt.mp notSmaller)
              · exact headBefore entry isOld

end FieldLimits

/-- The fields that are hidden in each index. -/
structure FieldLimits where
  entries : List (String × List String)
  ascending : entries.Pairwise FieldLimits.Before

namespace FieldLimits

/-- No field is hidden. -/
def none : FieldLimits := ⟨[], .nil⟩

/-- Set the fields that are hidden in an index. -/
def insert (limits : FieldLimits) (index : String) (names : List String) : FieldLimits :=
  ⟨insertEntry index names limits.entries, pairwise_insertEntry index names limits.ascending⟩

/-- The fields that are hidden in an index. -/
def hidden (limits : FieldLimits) (index : String) : List String :=
  (limits.entries.lookup index).getD []

/-- Set the hidden fields of one index after the other; the last entry of an index counts. -/
def insertMembers? (limits : FieldLimits) : List (String × Json) → Option FieldLimits
  | [] => some limits
  | (index, value) :: rest => do
      let names ← value.strings?
      insertMembers? (limits.insert index names) rest

/-- Read field limits from JSON. -/
def ofJson? : Json → Option FieldLimits
  | .object members => none.insertMembers? members
  | _ => Option.none

/-- Write field limits as JSON. -/
def toJson (limits : FieldLimits) : Json :=
  .object (limits.entries.map fun (index, names) => (index, .ofStrings names))

end FieldLimits
end FilterQuery
