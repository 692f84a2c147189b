import KeyedContainers.Arena
import KeyedContainers.Bindings
import KeyedContainers.Error
import KeyedContainers.HashIndex
import KeyedContainers.Text.Listing
import KeyedContainers.Trace

/-!
# Maps keyed by a matching

A map whose keys are placed by their hash and found by a relation of the caller's choice. The
entries live in an arena, each with its key, its value and the hash of its key; an index
holds their handles under those hashes. A query matches an entry when their hashes are equal and
the stored key accepts the query. The relation is asked about entries of the query's own hash
only, until one of them accepts, and each answer is passed on to the trace.
-/

namespace KeyedContainers

open Text

/-- A stored key with its value and the hash under which it was placed. -/
structure Entry (K V : Type) where
  key : K
  value : V
  hash : UInt64
deriving DecidableEq, Repr

/-- Entries in an arena, and an index of their handles. -/
structure MatchMap (K V : Type) where
  index : HashIndex Handle
  arena : Arena (Entry K V)
deriving DecidableEq, Repr

namespace MatchMap

variable {K V : Type}

/-- The map without entries. -/
def empty : MatchMap K V := ⟨.empty, .empty⟩

/-- A map without entries that has room for so many. -/
def withCapacity (capacity : Nat) : MatchMap K V := ⟨.withCapacity capacity, .empty⟩

/-- The number of entries. -/
def length (m : MatchMap K V) : Nat := m.arena.count

/-- Whether there is no entry. -/
def isEmpty (m : MatchMap K V) : Bool := m.length == 0

/-! ## The entries in storage order -/

/-- The stored keys with their values. -/
def toList (m : MatchMap K V) : List (K × V) :=
  m.arena.contents.map fun entry => (entry.key, entry.value)

/-- The stored keys. -/
def keys (m : MatchMap K V) : List K := m.arena.contents.map (·.key)

/-- The values. -/
def values (m : MatchMap K V) : List V := m.arena.contents.map (·.value)

/-- The first entries, and how many are left after them. -/
def firstEntries (m : MatchMap K V) (n : Nat) : List (K × V) × Nat :=
  (m.toList.take n, m.length - n)

/-- A map is listed as a table of its entries. -/
instance [Listed K] [Listed V] : Listed (MatchMap K V) where
  listing m :=
    .table (m.toList.map fun entry => (Listed.listing entry.1, Listed.listing entry.2))

/-! ## Access by handle -/

/-- The entry of a handle, unless the handle is stale. -/
def entry? (m : MatchMap K V) (h : Handle) : Option (Entry K V) := m.arena.get? h

/-- The stored key of a handle, exactly as it was inserted. -/
def key? (m : MatchMap K V) (h : Handle) : Option K := (m.entry? h).map (·.key)

/-- The value of a handle. -/
def value? (m : MatchMap K V) (h : Handle) : Option V := (m.entry? h).map (·.value)

/-- Writes the value of a handle. -/
def setValue (m : MatchMap K V) (h : Handle) (v : V) : MatchMap K V :=
  { m with arena := m.arena.modify h fun entry => { entry with value := v } }

/-- Writes the value of a handle; answers the value that it had. -/
def exchange (m : MatchMap K V) (h : Handle) (v : V) : Option V × MatchMap K V :=
  (m.value? h, m.setValue h v)

/-- Takes out the entry of a handle. -/
def removeHandle (m : MatchMap K V) (h : Handle) : Option (K × V) × MatchMap K V :=
  match m.arena.remove h with
  | (none, _) => (none, m)
  | (some entry, arena) => (some (entry.key, entry.value), ⟨m.index.erase entry.hash h, arena⟩)

/-- Changes the values of the first entries, or of all, one entry after another. The change is
given the place of the entry in the order, its key and its value. -/
def updateFirst (m : MatchMap K V) (limit : Option Nat) (f : Nat → K → V → V) : MatchMap K V :=
  let handles := limit.elim m.arena.handles m.arena.handles.take
  let change (arena : Arena (Entry K V)) (h : Handle × Nat) :=
    arena.modify h.1 fun entry => { entry with value := f h.2 entry.key entry.value }
  { m with arena := handles.zipIdx.foldl change m.arena }

/-- Takes out all entries. -/
def clear (m : MatchMap K V) : MatchMap K V := ⟨.empty, m.arena.clear⟩

/-! ## Access by query -/

/-- The first of some handles whose entry has the hash of the query and accepts it. -/
def ask (arena : Arena (Entry K V)) (q : Query K) : List Handle → Traced (Option Handle)
  | [] => return none
  | h :: handles =>
    match arena.get? h with
    | none => ask arena q handles
    | some entry =>
      if entry.hash = q.hash then do
        if ← .answer (q.accepts entry.key) then return some h else ask arena q handles
      else ask arena q handles

/-- Whether the entry of a handle matches a query. -/
def answers (arena : Arena (Entry K V)) (q : Query K) (h : Handle) : Bool :=
  (arena.get? h).any fun entry => entry.hash == q.hash && q.accepts entry.key

/-- Asking finds the first handle whose entry matches. -/
theorem value_ask (arena : Arena (Entry K V)) (q : Query K) (handles : List Handle) :
    (ask arena q handles).value = handles.find? (answers arena q) := by
  induction handles with
  | nil => rfl
  | cons h handles ih =>
    rw [List.find?_cons]
    cases hentry : arena.get? h with
    | none => simp [ask, answers, hentry, ih]
    | some entry =>
      by_cases hhash : entry.hash = q.hash
      · cases haccepts : q.accepts entry.key with
        | true => simp [ask, answers, hentry, hhash, haccepts]
        | false => simp [ask, answers, hentry, hhash, haccepts, ih]
      · have hbeq : (entry.hash == q.hash) = false := beq_eq_false_iff_ne.mpr hhash
        simp [ask, answers, hentry, hhash, hbeq, ih]

/-- Asking reports no event. -/
theorem events_ask (arena : Arena (Entry K V)) (q : Query K) (handles : List Handle) :
    (ask arena q handles).trace.events = [] := by
  induction handles with
  | nil => rfl
  | cons h handles ih =>
    cases hentry : arena.get? h with
    | none => simp [ask, hentry, ih]
    | some entry =>
      by_cases hhash : entry.hash = q.hash
      · cases haccepts : q.accepts entry.key with
        | true => simp [ask, hentry, hhash, haccepts]
        | false => simp [ask, hentry, hhash, haccepts, ih]
      · simp [ask, hentry, hhash, ih]

/-- The handle of an entry that matches a query. -/
def find (m : MatchMap K V) (q : Query K) : Traced (Option Handle) :=
  ask m.arena q (m.index.candidates q.hash)

/-- Whether an entry matches a query. -/
def contains (m : MatchMap K V) (q : Query K) : Traced Bool :=
  return (← m.find q).isSome

/-- The value of the entry that matches a query. -/
def get? (m : MatchMap K V) (q : Query K) : Traced (Option V) :=
  return (← m.find q).bind m.value?

/-- The value of the entry that matches a query, or the hash that was not found. -/
def tryGet (m : MatchMap K V) (q : Query K) : Traced (Except KeyNotFound V) := do
  match ← m.get? q with
  | some v => return .ok v
  | none => return .error ⟨q.hash⟩

/-- The value of an entry that must be there. -/
def demand (m : MatchMap K V) (q : Query K) : Traced (Except Fault V) :=
  return (← m.tryGet q).mapError .missingKey

/-- The stored key and the value of the entry that matches a query. -/
def getKeyValue? (m : MatchMap K V) (q : Query K) : Traced (Option (K × V)) :=
  return ((← m.find q).bind m.entry?).map fun entry => (entry.key, entry.value)

/-- Writes the value of the entry that matches a query; answers the value that it had. -/
def set (m : MatchMap K V) (q : Query K) (v : V) : Traced (Option V × MatchMap K V) := do
  match ← m.find q with
  | none => return (none, m)
  | some h => return m.exchange h v

/-- Takes out the entry that matches a query. -/
def remove (m : MatchMap K V) (q : Query K) : Traced (Option (K × V) × MatchMap K V) := do
  match ← m.find q with
  | none => return (none, m)
  | some h => return m.removeHandle h

/-! ## Insertion -/

/-- The hash under which a handle was placed; zero for a stale one. -/
def placedUnder (arena : Arena (Entry K V)) (h : Handle) : UInt64 :=
  (arena.get? h).elim 0 (·.hash)

/-- Adds an entry that matches none of the others. -/
def add (m : MatchMap K V) (entry : Entry K V) : MatchMap K V :=
  let (h, arena) := m.arena.insert entry
  ⟨m.index.insert entry.hash h (placedUnder arena), arena⟩

/-- Binds a key to a value. An entry that matches the key keeps its own key object and gets the
value, which is reported; its old value is answered. -/
def insert (M : Matching K) (m : MatchMap K V) (k : K) (v : V) :
    Traced (Option V × MatchMap K V) := do
  match ← m.find (M.query k) with
  | some h =>
    .report (.replacedValue (M.hash k))
    return m.exchange h v
  | none => return (none, m.add ⟨k, v, M.hash k⟩)

/-- Binds keys one after another. -/
def extend (M : Matching K) (m : MatchMap K V) : List (K × V) → Traced (MatchMap K V)
  | [] => return m
  | pair :: pairs => do
    let (_, m) ← m.insert M pair.1 pair.2
    m.extend M pairs

/-- The map that arises from a list of pairs; its size is reported. -/
def ofPairs (M : Matching K) (pairs : List (K × V)) : Traced (MatchMap K V) := do
  let m ← empty.extend M pairs
  .report (.builtFromPairs m.length)
  return m

/-! ## The conventional table -/

/-- The entries bound one after another, in storage order, under another matching of the keys. -/
def conventional (native : Matching K) (m : MatchMap K V) : Bindings K V :=
  .ofPairs native m.toList

end MatchMap

end KeyedContainers
