import KeyedContainers.MatchMap.Step

/-!
# Ledgers

What a map is for, told without an index and without slots: bindings in a list, each with a name
by which it can be reached afterwards. A key is looked up by walking the list. A name is chosen
freely when a binding is added, except that no name is given twice; everything else is
determined, up to the order in which a change goes through all bindings.
-/

namespace KeyedContainers

/-- Bindings whose keys have names. -/
structure Ledger (K V : Type) where
  bindings : Bindings (Handle × K) V
  /-- The names that were ever given. -/
  issued : List Handle
deriving DecidableEq, Repr

namespace Ledger

variable {K V : Type}

/-- The ledger without bindings. -/
def empty : Ledger K V := ⟨.empty, []⟩

/-- The keys with their values. -/
def pairs (l : Ledger K V) : List (K × V) := l.bindings.entries.map fun e => (e.1.2, e.2)

/-- Keys with names match as they do without. -/
def named (M : Matching K) : Matching (Handle × K) :=
  ⟨fun k => M.hash k.2, fun stored q => M.agrees stored.2 q.2⟩

/-- A key as a query for keys with names. -/
def query (M : Matching K) (k : K) : Query (Handle × K) :=
  ⟨M.hash k, fun stored => M.agrees stored.2 k⟩

/-- The binding of a related key. -/
def find? (M : Matching K) (l : Ledger K V) (k : K) : Option ((Handle × K) × V) :=
  l.bindings.find? (named M) (query M k)

/-- The value of a related key. -/
def get? (M : Matching K) (l : Ledger K V) (k : K) : Option V :=
  l.bindings.get? (named M) (query M k)

/-- Binds a key, under a new name if no key is related to it; answers the value that it had. -/
def insert (M : Matching K) (l : Ledger K V) (name : Handle) (k : K) (v : V) :
    Option V × Ledger K V :=
  match l.bindings.insert (named M) (name, k) v with
  | (some old, bindings) => (some old, { l with bindings := bindings })
  | (none, bindings) => (none, ⟨bindings, name :: l.issued⟩)

/-- Writes the value of a related key. -/
def set (M : Matching K) (l : Ledger K V) (k : K) (v : V) : Ledger K V :=
  { l with bindings := l.bindings.update (named M) (query M k) v }

/-- Takes out the binding of a related key. -/
def remove (M : Matching K) (l : Ledger K V) (k : K) : Ledger K V :=
  { l with bindings := (l.bindings.remove (named M) (query M k)).2 }

/-- Binding a related key writes its value. -/
theorem insert_of_get?_eq_some {M : Matching K} {l : Ledger K V} {k : K} {old : V}
    (hget : l.get? M k = some old) (name : Handle) (v : V) :
    l.insert M name k v = (some old, l.set M k v) := by
  have hlookup : l.bindings.get? (named M) ((named M).query (name, k)) = some old := hget
  rw [insert, Bindings.insert, hlookup]
  rfl

/-- Binding an unrelated key adds it under the name. -/
theorem insert_of_get?_eq_none {M : Matching K} {l : Ledger K V} {k : K}
    (hget : l.get? M k = none) (name : Handle) (v : V) :
    l.insert M name k v =
      (none, ⟨⟨l.bindings.entries ++ [((name, k), v)]⟩, name :: l.issued⟩) := by
  have hlookup : l.bindings.get? (named M) ((named M).query (name, k)) = none := hget
  rw [insert, Bindings.insert_of_get?_eq_none hlookup]

/-- The binding of a name. -/
def entry? (l : Ledger K V) (name : Handle) : Option (K × V) :=
  (l.bindings.entries.find? fun e => e.1.1 == name).map fun e => (e.1.2, e.2)

/-- Writes the value of a name. -/
def write (l : Ledger K V) (name : Handle) (v : V) : Ledger K V :=
  { l with bindings := ⟨l.bindings.entries.map fun e => if e.1.1 = name then (e.1, v) else e⟩ }

/-- Writing a value keeps the names. -/
theorem map_name_write (l : Ledger K V) (name : Handle) (v : V) :
    ((l.write name v).bindings.entries.map fun e => e.1.1) =
      l.bindings.entries.map fun e => e.1.1 := by
  rw [write, List.map_map]
  refine List.map_congr_left fun e _ => ?_
  by_cases he : e.1.1 = name
  · rw [Function.comp, if_pos he]
  · rw [Function.comp, if_neg he]

/-- Takes out the binding of a name. -/
def erase (l : Ledger K V) (name : Handle) : Ledger K V :=
  { l with bindings := ⟨l.bindings.entries.filter fun e => e.1.1 ≠ name⟩ }

/-- Takes out all bindings. -/
def clear (l : Ledger K V) : Ledger K V := { l with bindings := .empty }

/-- Bindings in some order, with the values of the first, or of all, changed. -/
def rewriteFirst (limit : Option Nat) (f : Nat → K → V → V) (order : List ((Handle × K) × V)) :
    List ((Handle × K) × V) :=
  order.zipIdx.map fun e =>
    (e.1.1, if limit.all (e.2 < ·) then f e.2 e.1.1.2 e.1.2 else e.1.2)

/-- Changing values keeps the names. -/
theorem map_name_rewriteFirst (limit : Option Nat) (f : Nat → K → V → V)
    (order : List ((Handle × K) × V)) :
    ((rewriteFirst limit f order).map fun e => e.1.1) = order.map fun e => e.1.1 := by
  have hplaces := congrArg (List.map fun e : (Handle × K) × V => e.1.1)
    (List.zipIdx_map_fst 0 order)
  rw [List.map_map] at hplaces
  rw [rewriteFirst, List.map_map]
  exact hplaces

open MatchMap

/-- Keys are bound one after another, each under a name that was not given before. -/
inductive Extends (M : Matching K) : Ledger K V → List (K × V) → Ledger K V → Prop
  | nil (l : Ledger K V) : Extends M l [] l
  | cons {l l' : Ledger K V} {k : K} {v : V} {pairs : List (K × V)} (name : Handle)
      (hname : name ∉ l.issued) (hrest : Extends M (l.insert M name k v).2 pairs l') :
      Extends M l ((k, v) :: pairs) l'

/-- A ledger carries out an operation of a map, with a reply and a ledger after it. -/
inductive Performs (M : Matching K) (l : Ledger K V) :
    Step K K V → Reply K V → Ledger K V → Prop
  | insert (k : K) (v : V) (name : Handle) (hname : name ∉ l.issued) :
      Performs M l (.insert k v) (.value (l.insert M name k v).1) (l.insert M name k v).2
  | extend {pairs : List (K × V)} {l' : Ledger K V} (hpairs : Extends M l pairs l') :
      Performs M l (.extend pairs) .done l'
  | contains (k : K) : Performs M l (.contains k) (.flag (l.find? M k).isSome) l
  | get (k : K) : Performs M l (.get k) (.value (l.get? M k)) l
  | tryGet (k : K) :
      Performs M l (.tryGet k) (.lookup ((l.get? M k).elim (.error ⟨M.hash k⟩) .ok)) l
  | demand (k : K) :
      Performs M l (.demand k)
        (.demanded ((l.get? M k).elim (.error (.missingKey ⟨M.hash k⟩)) .ok)) l
  | getKeyValue (k : K) :
      Performs M l (.getKeyValue k) (.entry ((l.find? M k).map fun e => (e.1.2, e.2))) l
  | set (k : K) (v : V) : Performs M l (.set k v) (.value (l.get? M k)) (l.set M k v)
  | remove (k : K) :
      Performs M l (.remove k) (.entry ((l.find? M k).map fun e => (e.1.2, e.2))) (l.remove M k)
  | find (k : K) : Performs M l (.find k) (.handle ((l.find? M k).map fun e => e.1.1)) l
  | keyOf (name : Handle) : Performs M l (.keyOf name) (.key ((l.entry? name).map (·.1))) l
  | valueOf (name : Handle) : Performs M l (.valueOf name) (.value ((l.entry? name).map (·.2))) l
  | exchange (name : Handle) (v : V) :
      Performs M l (.exchange name v) (.value ((l.entry? name).map (·.2))) (l.write name v)
  | removeHandle (name : Handle) :
      Performs M l (.removeHandle name) (.entry (l.entry? name)) (l.erase name)
  | size : Performs M l .size (.size l.pairs.length l.pairs.isEmpty) l
  | clear : Performs M l .clear .done l.clear
  | updateFirst (limit : Option Nat) (f : Nat → K → V → V) {order : List ((Handle × K) × V)}
      (horder : order.Perm l.bindings.entries) :
      Performs M l (.updateFirst limit f) (.left (limit.elim 0 (l.pairs.length - ·)))
        { l with bindings := ⟨rewriteFirst limit f order⟩ }
  | entries {order : List (K × V)} (horder : order.Perm l.pairs) :
      Performs M l .entries (.entries order) l
  | firstEntries (n : Nat) {order : List (K × V)} (horder : order.Perm l.pairs) :
      Performs M l (.firstEntries n) (.firstEntries (order.take n) (l.pairs.length - n)) l
  | keys {order : List (K × V)} (horder : order.Perm l.pairs) :
      Performs M l .keys (.keys (order.map (·.1))) l
  | values {order : List (K × V)} (horder : order.Perm l.pairs) :
      Performs M l .values (.values (order.map (·.2))) l

/-- Whether an operation is one that a ledger carries out: it works on the map that is there, and
is not about its listing or its conventional table. -/
def records {Q : Type} : Step K Q V → Bool
  | .build _ | .inspect _ | .conventional _ | .intoConventional _ => false
  | _ => true

/-- A run of a map is one of a ledger: the ledger gives the same reply to every operation, and
after it has the same keys with the same values. -/
def Explains [Listed K] [Listed V] (S : Setting K K) (l : Ledger K V)
    (m : MatchMap K V) : List (Step K K V) → Prop
  | [] => True
  | s :: steps => ∃ l' : Ledger K V,
    Performs S.matching l s (m.step S s).value.1 l' ∧
    (m.step S s).value.2.toList.Perm l'.pairs ∧
    Explains S l' (m.step S s).value.2 steps

end Ledger

end KeyedContainers
