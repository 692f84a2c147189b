import KeyedContainers.Proofs.MatchMap.Requests
import Mathlib.Data.Finmap

/-!
# Directories

What a map is for where no two different keys match each other: a finite map from keys to values,
whose keys also have names. A name is chosen freely when a key is added, except that no name is
given twice, and stands for its key until this is taken out; everything else is determined.
-/

namespace KeyedContainers

open MatchMap

/-- A finite map that gives each of its keys a name and a value. -/
structure Directory (K V : Type) where
  table : Finmap fun _ : K => Handle × V
  /-- The names that were ever given. -/
  issued : List Handle

namespace Directory

variable {K Q V : Type}

/-- The directory without keys. -/
def empty : Directory K V := ⟨∅, []⟩

/-- Takes out all keys. -/
def clear (d : Directory K V) : Directory K V := { d with table := ∅ }

variable [DecidableEq K]

/-- The name of a key. -/
def name? (d : Directory K V) (k : K) : Option Handle := (d.table.lookup k).map (·.1)

/-- The value of a key. -/
def value? (d : Directory K V) (k : K) : Option V := (d.table.lookup k).map (·.2)

/-- Writes the value of a key, if it is there. -/
def write (d : Directory K V) (k : K) (v : V) : Directory K V :=
  match d.name? k with
  | some name => { d with table := d.table.insert k (name, v) }
  | none => d

/-- Writes the value of a key, which is given the name if it is not there. -/
def insert (d : Directory K V) (name : Handle) (k : K) (v : V) : Directory K V :=
  match d.name? k with
  | some _ => d.write k v
  | none => ⟨d.table.insert k (name, v), name :: d.issued⟩

/-- Takes out a key. -/
def erase (d : Directory K V) (k : K) : Directory K V := { d with table := d.table.erase k }

/-- Taking out a key that is not there does nothing. -/
theorem erase_of_lookup_eq_none {d : Directory K V} {k : K} (hlookup : d.table.lookup k = none) :
    d.erase k = d := by
  have htable : d.table.erase k = d.table := by
    apply Finmap.ext_lookup
    intro k'
    by_cases hk : k' = k
    · rw [hk, Finmap.lookup_erase, hlookup]
    · rw [Finmap.lookup_erase_ne hk]
  rw [erase, htable]

/-- Keys are written one after another, each with a name at hand that was not given before. -/
inductive Extends : Directory K V → List (K × V) → Directory K V → Prop
  | nil (d : Directory K V) : Extends d [] d
  | cons {d d' : Directory K V} {k : K} {v : V} {pairs : List (K × V)} (name : Handle)
      (hname : name ∉ d.issued) (hrest : Extends (d.insert name k v) pairs d') :
      Extends d ((k, v) :: pairs) d'

/-- A directory carries out an operation of a map, with a reply and a directory after it. -/
inductive Performs (d : Directory K V) : Step K K V → Reply K V → Directory K V → Prop
  | insert (k : K) (v : V) (name : Handle) (hname : name ∉ d.issued) :
      Performs d (.insert k v) (.value (d.value? k)) (d.insert name k v)
  | extend {pairs : List (K × V)} {d' : Directory K V} (hpairs : Extends d pairs d') :
      Performs d (.extend pairs) .done d'
  | contains (k : K) : Performs d (.contains k) (.flag (d.value? k).isSome) d
  | get (k : K) : Performs d (.get k) (.value (d.value? k)) d
  | set (k : K) (v : V) : Performs d (.set k v) (.value (d.value? k)) (d.write k v)
  | remove (k : K) :
      Performs d (.remove k) (.entry ((d.value? k).map fun v => (k, v))) (d.erase k)
  | find (k : K) : Performs d (.find k) (.handle (d.name? k)) d
  /-- The name of a key stands for it. -/
  | removeHandle {k : K} {name : Handle} {v : V} (hlookup : d.table.lookup k = some (name, v)) :
      Performs d (.removeHandle name) (.entry (some (k, v))) (d.erase k)
  /-- What is the name of no key stands for nothing. -/
  | removeStale {name : Handle} (hstale : ∀ k, d.name? k ≠ some name) :
      Performs d (.removeHandle name) (.entry none) d
  | clear : Performs d .clear .done d.clear

/-- Whether an operation is one that a directory carries out. -/
def records : Step K Q V → Bool
  | .insert .. | .extend _ | .contains _ | .get _ | .set .. | .remove _ | .find _
  | .removeHandle _ | .clear => true
  | _ => false

/-- A run of a map is one of a directory, which gives the same reply to every operation when it is
asked for the keys for which the requests stand. -/
def Explains [Listed K] [Listed V] (S : Setting K Q) (key : Q → K) (d : Directory K V)
    (m : MatchMap K V) : List (Step K Q V) → Prop
  | [] => True
  | s :: steps => ∃ d' : Directory K V,
    Performs d (s.mapRequest key) (m.step S s).value.1 d' ∧
    Explains S key d' (m.step S s).value.2 steps

end Directory

end KeyedContainers
