import TreeQuery.Query.Parser

/-!
# A cache of queries

Queries that were read are kept under their text, up to a limit. **At the limit the whole cache is
emptied** before a further query is kept. A text that is no query leaves the cache as it is.

Each reading of a text gets a serial number of its own, which tells whether two answers are the
very same query or the same text read twice.

## Main definitions

* `Cache.get` — the query of a text, from the cache or read and kept.
* `Cache.clear` — the empty cache.
-/

namespace TreeQuery

/-- A query with the number of the reading from which it comes. -/
structure KeptQuery where
  /-- The number of the reading. -/
  serial : Nat
  /-- The query. -/
  query : Query

/-- Queries under their texts. -/
structure Cache where
  /-- The queries kept, the newest first. -/
  kept : List (String × KeptQuery) := []
  /-- The number of the next reading. -/
  nextSerial : Nat := 0

namespace Cache

/-- How many queries are kept at most. -/
def capacity : Nat := 256

/-- The number of queries kept. -/
def size (cache : Cache) : Nat := cache.kept.length

/-- The query kept under a text. -/
def find? (cache : Cache) (text : String) : Option KeptQuery := cache.kept.lookup text

/-- Keeps a query that was just read. -/
def keep (cache : Cache) (text : String) (query : Query) : Cache where
  kept :=
    (text, ⟨cache.nextSerial, query⟩) :: if capacity ≤ cache.size then [] else cache.kept
  nextSerial := cache.nextSerial + 1

/-- The query of a text and the cache behind. -/
def get (cache : Cache) (text : String) : Except ParseError KeptQuery × Cache :=
  match cache.find? text with
  | some found => (.ok found, cache)
  | none =>
    match Query.ofText text with
    | .ok query => (.ok ⟨cache.nextSerial, query⟩, cache.keep text query)
    | .error error => (.error error, cache)

/-- Drops all queries. -/
def clear (cache : Cache) : Cache := { cache with kept := [] }

end Cache

end TreeQuery
