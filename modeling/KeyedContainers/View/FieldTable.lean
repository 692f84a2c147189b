/-!
# The table of field positions

A finite table from field names to positions. Setting a name that is already there moves it to
the new position. Two tables are equal when they have the same names at the same positions,
in whatever order these were set.
-/

namespace KeyedContainers

/-- A finite table from names to positions. -/
structure FieldTable where
  entries : List (String × Nat)
deriving Repr

namespace FieldTable

/-- The table without names. -/
def empty : FieldTable := ⟨[]⟩

/-- The position of a name. -/
def find? (table : FieldTable) (name : String) : Option Nat := table.entries.lookup name

/-- The table in which a name has the given position. -/
def set (table : FieldTable) (name : String) (position : Nat) : FieldTable :=
  ⟨(name, position) :: table.entries.filter fun entry => entry.1 != name⟩

/-- The positions of a list of names, counted from zero; of equal names the last one counts. -/
def ofNames (names : List String) : FieldTable :=
  names.zipIdx.foldl (fun table entry => table.set entry.1 entry.2) empty

/-- The number of names. -/
def size (table : FieldTable) : Nat := table.entries.length

instance : BEq FieldTable where
  beq table other :=
    table.size == other.size &&
      table.entries.all fun entry => other.find? entry.1 == some entry.2

@[simp] theorem find?_empty (name : String) : empty.find? name = none := rfl

@[simp] theorem find?_set_self (table : FieldTable) (name : String) (position : Nat) :
    (table.set name position).find? name = some position := by
  simp [find?, set]

end FieldTable

end KeyedContainers
