import KeyedContainers.MatchMap
import KeyedContainers.MatchMap.Setting

/-!
# Steps on a map

The operations of a map as data, each with its reply. A step changes the map or leaves it as it
is, and its trace shows the events that it reported and the answers of the relation that it
asked for. A handle in a step may be any handle whatever.
-/

namespace KeyedContainers.MatchMap

open Text

/-- One operation on a map of keys `K` and values `V`, which is asked for keys by requests `Q`. -/
inductive Step (K Q V : Type) where
  /-- Binds a key. -/
  | insert (k : K) (v : V)
  /-- Binds keys one after another. -/
  | extend (pairs : List (K × V))
  /-- Makes way for a map built from pairs. -/
  | build (pairs : List (K × V))
  /-- Whether an entry matches. -/
  | contains (q : Q)
  /-- The value of the matching entry. -/
  | get (q : Q)
  /-- The value of the matching entry, or the hash that was not found. -/
  | tryGet (q : Q)
  /-- The value of an entry that must be there. -/
  | demand (q : Q)
  /-- The stored key and value of the matching entry. -/
  | getKeyValue (q : Q)
  /-- Writes the value of the matching entry. -/
  | set (q : Q) (v : V)
  /-- Takes out the matching entry. -/
  | remove (q : Q)
  /-- The handle of the matching entry. -/
  | find (q : Q)
  /-- The stored key of a handle. -/
  | keyOf (h : Handle)
  /-- The value of a handle. -/
  | valueOf (h : Handle)
  /-- Writes the value of a handle. -/
  | exchange (h : Handle) (v : V)
  /-- Takes out the entry of a handle. -/
  | removeHandle (h : Handle)
  /-- The number of entries. -/
  | size
  /-- Takes out all entries. -/
  | clear
  /-- All entries. -/
  | entries
  /-- The first entries. -/
  | firstEntries (n : Nat)
  /-- Changes the values of the first entries, or of all. -/
  | updateFirst (limit : Option Nat) (f : Nat → K → V → V)
  /-- All stored keys. -/
  | keys
  /-- All values. -/
  | values
  /-- The listing of the map. -/
  | inspect (style : Listing.Style)
  /-- The conventional table of the entries, and what it has for some keys. -/
  | conventional (keys : Option (List K))
  /-- The same, with the map emptied for it. -/
  | intoConventional (keys : Option (List K))

/-- What an operation answers. -/
inductive Reply (K V : Type) where
  | done
  | flag (b : Bool)
  | value (v : Option V)
  | lookup (v : Except KeyNotFound V)
  | demanded (v : Except Fault V)
  | entry (entry : Option (K × V))
  | handle (h : Option Handle)
  | key (k : Option K)
  | size (length : Nat) (isEmpty : Bool)
  | entries (entries : List (K × V))
  | firstEntries (entries : List (K × V)) (left : Nat)
  | left (left : Nat)
  | keys (keys : List K)
  | values (values : List V)
  | text (text : String)
  | table (entries : List (K × V)) (found : Option (List (Option V)))

variable {K Q V : Type}

/-- A conventional table with what it has for some keys. -/
def tabulate (S : Setting K Q) (m : MatchMap K V) (keys : Option (List K)) : Reply K V :=
  let table := m.conventional S.native
  .table (table.sorted S.le)
    (keys.map fun keys => keys.map fun k => table.get? S.native (S.native.query k))

/-- An answer about an unchanged map. -/
def answering {α : Type} (m : MatchMap K V) (reply : α → Reply K V) (x : Traced α) :
    Traced (Reply K V × MatchMap K V) :=
  return (reply (← x), m)

/-- The reply to an operation, and the map after it. -/
def step [Listed K] [Listed V] (S : Setting K Q) (m : MatchMap K V) :
    Step K Q V → Traced (Reply K V × MatchMap K V)
  | .insert k v => return (← m.insert S.matching k v).map .value id
  | .extend pairs => return (.done, ← m.extend S.matching pairs)
  | .build pairs => return (.done, ← ofPairs S.matching pairs)
  | .contains q => m.answering .flag (m.contains (S.query q))
  | .get q => m.answering .value (m.get? (S.query q))
  | .tryGet q => m.answering .lookup (m.tryGet (S.query q))
  | .demand q => m.answering .demanded (m.demand (S.query q))
  | .getKeyValue q => m.answering .entry (m.getKeyValue? (S.query q))
  | .set q v => return (← m.set (S.query q) v).map .value id
  | .remove q => return (← m.remove (S.query q)).map .entry id
  | .find q => m.answering .handle (m.find (S.query q))
  | .keyOf h => return (.key (m.key? h), m)
  | .valueOf h => return (.value (m.value? h), m)
  | .exchange h v => return (m.exchange h v).map .value id
  | .removeHandle h => return (m.removeHandle h).map .entry id
  | .size => return (.size m.length m.isEmpty, m)
  | .clear => return (.done, m.clear)
  | .entries => return (.entries m.toList, m)
  | .firstEntries n => return (.firstEntries (m.firstEntries n).1 (m.firstEntries n).2, m)
  | .updateFirst limit f =>
    return (.left (limit.elim 0 (m.length - ·)), m.updateFirst limit f)
  | .keys => return (.keys m.keys, m)
  | .values => return (.values m.values, m)
  | .inspect style => return (.text ((Listed.listing m).render style), m)
  | .conventional keys => return (m.tabulate S keys, m)
  | .intoConventional keys => return (m.tabulate S keys, empty)

/-- The replies to a list of operations, and the map after them. -/
def run [Listed K] [Listed V] (S : Setting K Q) (m : MatchMap K V) :
    List (Step K Q V) → Traced (List (Reply K V) × MatchMap K V)
  | [] => return ([], m)
  | s :: steps => do
    let (reply, m) ← m.step S s
    let (replies, m) ← m.run S steps
    return (reply :: replies, m)

end KeyedContainers.MatchMap
