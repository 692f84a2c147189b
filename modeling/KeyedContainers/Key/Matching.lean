import KeyedContainers.Key.Matches

/-!
# Queries and matchings

A map compares a query with its stored keys by two means only: the hash of the query, and the
answer of a stored key to the question whether it accepts the query. A matching says both for
queries that are themselves keys. Two keys are related when their hashes are equal and the
first, as a stored key, accepts the second; no law is asked of this relation.
-/

namespace KeyedContainers

/-- A query as a map sees it. -/
structure Query (K : Type) where
  hash : UInt64
  /-- Whether a stored key accepts the query. -/
  accepts : K → Bool

/-- How keys are hashed, and which stored key accepts which query. -/
structure Matching (K : Type) where
  hash : K → UInt64
  agrees : K → K → Bool

/-- A value as a query. -/
def Query.of {K Q : Type} [Feed Q] [Matches K Q] (hasher : Hasher) (q : Q) : Query K :=
  ⟨hasher.hash q, fun stored => agrees stored q⟩

namespace Matching

variable {K : Type}

/-- The matching of a type with its own bytes and its own relation. -/
def standard [Feed K] [Matches K K] (hasher : Hasher) : Matching K :=
  ⟨fun k => hasher.hash k, fun stored q => Matches.agrees stored q⟩

/-- The matching by equality. -/
def byEquality [Feed K] [BEq K] (hasher : Hasher) : Matching K :=
  ⟨fun k => hasher.hash k, fun stored q => stored == q⟩

/-- A key as a query. -/
def query (M : Matching K) (k : K) : Query K :=
  ⟨M.hash k, fun stored => M.agrees stored k⟩

/-- Whether a stored key and a query have equal hashes and the key accepts the query. -/
def related (M : Matching K) (stored q : K) : Bool :=
  M.hash stored == M.hash q && M.agrees stored q

end Matching

end KeyedContainers
