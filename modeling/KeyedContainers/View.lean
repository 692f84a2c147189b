import KeyedContainers.Binary64.Style
import KeyedContainers.View.Layout

/-!
# Views

A view reads and writes a buffer through the names of a layout. Named access finds the
position in the layout and goes on as positional access, so both reach the same element. An
access fails softly when the layout does not declare the name, and faults when the caller
demanded a name or a position that is not there. A buffer is viewed only at the length of the
layout, and no operation changes that length.

An element of a buffer has a plain text, a listing for inspection, and a zero with which a fresh
buffer is filled. Texts are plain without quotation marks and listed with them; double-precision
numbers are plain in the plain style and listed in the exact one.
-/

namespace KeyedContainers

/-- What a view asks of the elements of its buffer. -/
class Element (α : Type) extends Listed α where
  display : α → String
  zero : α

instance : Element Int64 where
  display n := n.toInt.repr
  zero := 0

instance : Listed Binary64 := ⟨fun x => .atom (x.text .exact)⟩

instance : Element Binary64 where
  display x := x.text .plain
  zero := .zero

instance : Element Bool where
  display := truthWord
  zero := false

instance : Element String where
  display s := s
  zero := ""

/-- A buffer seen through a layout. -/
structure View (α : Type) where
  layout : Layout
  buffer : Array α
deriving Repr

namespace Layout

variable {α : Type}

/-- The view of a buffer, whose length must be the number of fields. -/
def view (layout : Layout) (buffer : Array α) : Except ViewError (View α) :=
  if buffer.size = layout.length then .ok ⟨layout, buffer⟩
  else .error (.lengthMismatch layout.length buffer.size)

/-- A view of a fresh buffer of zeros. -/
def zeros [Element α] (layout : Layout) : View α :=
  ⟨layout, Array.replicate layout.length Element.zero⟩

end Layout

namespace View

/-- Why an access does not succeed: it is refused with an error, or it ends in a fault. -/
inductive Failure where
  | refused (error : ViewError)
  | fault (fault : Fault)
deriving DecidableEq, Repr

/-- The failure of an access that the caller promised would succeed. -/
def Failure.escalate : Failure → Failure
  | refused error => fault (.undeclared error)
  | fault f => fault f

variable {α : Type}

/-- The number of fields. -/
def length (v : View α) : Nat := v.layout.length

/-- Whether there is no field. -/
def isEmpty (v : View α) : Bool := v.layout.isEmpty

/-- The position of a field. -/
def position (v : View α) (field : String) : Except Failure Nat :=
  (v.layout.resolve field).mapError .refused

/-- The element at a position. -/
def elementAt (v : View α) (i : Nat) : Except Failure α :=
  match v.buffer[i]? with
  | some a => .ok a
  | none => .error (.fault (.outOfBounds v.buffer.size i))

/-- The element of a field. -/
def get (v : View α) (field : String) : Except Failure α := do
  v.elementAt (← v.position field)

/-- The element of a field that must be there. -/
def demand (v : View α) (field : String) : Except Failure α :=
  (v.get field).mapError .escalate

/-- The fields with their elements, in declared order. -/
def pairs (v : View α) : List (String × α) := v.layout.fields.zip v.buffer.toList

/-- Changes the element at a position. -/
def modifyAt (v : View α) (i : Nat) (f : α → α) : Except Failure (View α) :=
  if i < v.buffer.size then .ok { v with buffer := v.buffer.modify i f }
  else .error (.fault (.outOfBounds v.buffer.size i))

/-- Writes the element at a position. -/
def setAt (v : View α) (i : Nat) (a : α) : Except Failure (View α) :=
  v.modifyAt i fun _ => a

/-- Changes the element of a field in its place. -/
def modify (v : View α) (field : String) (f : α → α) : Except Failure (View α) := do
  v.modifyAt (← v.position field) f

/-- Writes the element of a field. -/
def set (v : View α) (field : String) (a : α) : Except Failure (View α) :=
  v.modify field fun _ => a

/-- Writes the element of a field that must be there. -/
def demandSet (v : View α) (field : String) (a : α) : Except Failure (View α) :=
  (v.modify field fun _ => a).mapError .escalate

/-- Turns the buffer around. -/
def reverse (v : View α) : View α := { v with buffer := v.buffer.reverse }

/-- Writes one element to every position. -/
def fill (v : View α) (a : α) : View α :=
  { v with buffer := Array.replicate v.buffer.size a }

/-- Writes all elements; there must be one for each position. -/
def assign (v : View α) (values : Array α) : Except Failure (View α) :=
  if v.buffer.size = values.size then .ok { v with buffer := values }
  else .error (.refused (.lengthMismatch v.buffer.size values.size))

/-- Fields with the texts of their elements, as `name=text` and separated by commas. -/
def assignments (text : α → String) (v : View α) : String :=
  ", ".intercalate (v.pairs.map fun pair => pair.1 ++ "=" ++ text pair.2)

/-- The name of the layout with the plain texts of the elements. -/
def display [Element α] (v : View α) : String :=
  v.layout.name ++ "(" ++ v.assignments Element.display ++ ")"

/-- The name of the layout with the listings of the elements, between angle brackets. -/
def debug [Listed α] (v : View α) : String :=
  "<" ++ v.layout.name ++ "(" ++ v.assignments inspect ++ ")>"

end View

/-- A buffer is viewed exactly when its length is the number of fields. -/
theorem Layout.view_eq_ok_iff {α : Type} (layout : Layout) (buffer : Array α) (v : View α) :
    layout.view buffer = .ok v ↔ buffer.size = layout.length ∧ v = ⟨layout, buffer⟩ := by
  unfold Layout.view
  split
  · rename_i h
    simp only [Except.ok.injEq, h, true_and]
    exact eq_comm
  · rename_i h
    simp [h]

end KeyedContainers
