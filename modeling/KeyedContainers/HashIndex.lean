/-!
# Hash indexes

An index keeps elements in buckets, each under a hash that the caller gives. It does not keep
the hashes: when it grows it asks for the hash of each element anew, and to erase an element the
caller names the hash again. A look-up offers all elements of one bucket as candidates, among
them every element under the asked hash, in the order in which they were put there.
-/

namespace KeyedContainers

/-- Buckets of elements and the number of elements. -/
structure HashIndex (α : Type) where
  buckets : Array (List α)
  count : Nat
deriving DecidableEq, Repr

namespace HashIndex

variable {α : Type}

/-- The index without buckets. -/
def empty : HashIndex α := ⟨#[], 0⟩

/-- An index without elements that has room for so many. -/
def withCapacity (capacity : Nat) : HashIndex α := ⟨Array.replicate capacity [], 0⟩

/-- The bucket of a hash among so many. -/
def bucketOf (size : Nat) (hash : UInt64) : Nat := hash.toNat % size

/-- The elements of the bucket of a hash. -/
def candidates (index : HashIndex α) (hash : UInt64) : List α :=
  (index.buckets[bucketOf index.buckets.size hash]?).getD []

/-- All elements, bucket after bucket. -/
def toList (index : HashIndex α) : List α := index.buckets.toList.flatten

/-- Buckets with one more element, the last of its bucket. -/
def place (buckets : Array (List α)) (hash : UInt64) (a : α) : Array (List α) :=
  buckets.modify (bucketOf buckets.size hash) (· ++ [a])

/-- So many buckets with the given elements, each under its own hash. -/
def distribute (size : Nat) (hashOf : α → UInt64) (elements : List α) : Array (List α) :=
  elements.foldl (fun buckets a => place buckets (hashOf a) a) (Array.replicate size [])

/-- The buckets with room for one more element: twice as many once there are as many elements as
buckets. -/
def room (index : HashIndex α) (hashOf : α → UInt64) : Array (List α) :=
  if index.count < index.buckets.size then index.buckets
  else distribute (max 4 (2 * index.buckets.size)) hashOf index.toList

/-- Adds an element under a hash. Should the index grow, the other elements go under the hashes
that `hashOf` gives. -/
def insert (index : HashIndex α) (hash : UInt64) (a : α) (hashOf : α → UInt64) : HashIndex α :=
  ⟨place (index.room hashOf) hash a, index.count + 1⟩

/-- Takes out an element that is under the given hash. -/
def erase [BEq α] (index : HashIndex α) (hash : UInt64) (a : α) : HashIndex α :=
  if (index.candidates hash).contains a then
    ⟨index.buckets.modify (bucketOf index.buckets.size hash) (·.erase a), index.count - 1⟩
  else index

end HashIndex

end KeyedContainers
