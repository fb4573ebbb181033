import FilterQuery.Error

/-!
# Search engines

What a schema asks of an engine: the mapping of an index and the aggregations
of a search. How the answers come about is left to a monad, so the same
operations run over a network, on fixed answers, or inside a proof.
-/

namespace FilterQuery

/-- A connection to an engine, by its number. -/
structure Connection where
  number : Nat
deriving DecidableEq, Inhabited

/-- A search engine whose answers are actions of `m`. -/
structure Engine (m : Type → Type) where
  /-- Open one more connection. -/
  connect : m (Except Error Connection)
  /-- The response to a request for the mapping of an index. -/
  mapping (connection : Connection) (index : String) : m (Except Error Json)
  /-- The response to a search with a query and aggregations. -/
  search (connection : Connection) (index : String) (query aggregations : Json) :
    m (Except Error Json)

/-! ## Engines in memory -/

/-- A search that was made. -/
structure SearchRecord where
  index : String
  query : Json
  aggregations : Json

/-- Fixed answers, and what has been asked so far. -/
structure Memory where
  /-- The response to a request for the mapping of an index. -/
  mapping : String → Except Error Json
  /-- The response to every search. -/
  response : Except Error Json
  fetches : Nat := 0
  searches : List SearchRecord := []
  connections : Nat := 0

namespace Memory

/-- The response in which an engine gives the mapping of one index. -/
def wrap (index : String) (mappings : Json) : Json :=
  .object [(index, .object [("mappings", mappings)])]

/-- An engine that knows the mappings of some indices and has one answer to all searches. -/
def ofMappings (mappings : List (String × Json)) (response : Json) : Memory where
  mapping index :=
    match mappings.lookup index with
    | some body => .ok (wrap index body)
    | none => .error (.schema (.mappingFetch ("no such index [" ++ index ++ "]")))
  response := .ok response

/-- Change the answer for one index. -/
def setMapping (memory : Memory) (index : String) (response : Except Error Json) : Memory :=
  { memory with mapping := fun name => if name = index then response else memory.mapping name }

/-- The engine: all connections share the same answers. -/
def engine : Engine (StateM Memory) where
  connect := fun memory =>
    (.ok ⟨memory.connections⟩, { memory with connections := memory.connections + 1 })
  mapping _ index := fun memory =>
    (memory.mapping index, { memory with fetches := memory.fetches + 1 })
  search _ index query aggregations := fun memory =>
    (memory.response,
      { memory with searches := memory.searches ++ [⟨index, query, aggregations⟩] })

end Memory
end FilterQuery
