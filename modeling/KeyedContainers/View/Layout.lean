import KeyedContainers.Error
import KeyedContainers.FieldName.Repeated
import KeyedContainers.FieldName.Sanitize
import KeyedContainers.Trace
import KeyedContainers.View.FieldTable

/-!
# Layouts

A layout gives names to the positions of a flat buffer. It is defined from a list of field
names that must not repeat; unless it is told to take the names as they are, the fields get
the sanitized names, which must not repeat either. The order in which the names were declared
is the order of the positions, and a table kept beside it answers where a name is.
-/

namespace KeyedContainers

open Text

/-- A name and an ordered list of field names, with the table of their positions. -/
structure Layout where
  name : String
  fields : List String
  table : FieldTable
deriving BEq, Repr

/-- How a layout is defined. -/
structure LayoutOptions where
  /-- Whether field names are sanitized. -/
  sanitize : Bool
deriving DecidableEq, Repr

namespace Layout

/-- Field names are sanitized unless the caller asks otherwise. -/
def defaultOptions : LayoutOptions := ⟨true⟩

/-- Refuses a list of names with repetitions. -/
def ensureUnique (stage : NameStage) (names : List String) : Except ViewError Unit :=
  match FieldName.repeated names with
  | [] => .ok ()
  | duplicates => .error (.duplicateField stage duplicates)

/-- The field names of a layout declared with the given raw names. -/
def fieldNames (options : LayoutOptions) (raw : List String) : Except ViewError (List String) := do
  ensureUnique .raw raw
  if options.sanitize then
    let sanitized := raw.map FieldName.sanitize
    ensureUnique .sanitized sanitized
    return sanitized
  else
    return raw

/-- The layout of a name and a list of field names. -/
def ofFields (name : String) (fields : List String) : Layout :=
  ⟨name, fields, .ofNames fields⟩

/-- Defines a layout; a success is reported. -/
def defineWith (options : LayoutOptions) (name : String) (raw : List String) :
    Traced (Except ViewError Layout) := do
  match fieldNames options raw with
  | .error e => return .error e
  | .ok fields =>
    .report (.definedLayout name fields.length (fields != raw))
    return .ok (ofFields name fields)

/-- Defines a layout with sanitized field names. -/
def define (name : String) (raw : List String) : Traced (Except ViewError Layout) :=
  defineWith defaultOptions name raw

/-- What a caller writes down to have a layout defined. -/
structure Declaration where
  name : String
  fields : List String
  options : LayoutOptions
deriving DecidableEq, Repr

/-- Defines the declared layout. -/
def Declaration.define (d : Declaration) : Traced (Except ViewError Layout) :=
  defineWith d.options d.name d.fields

/-- The number of fields. -/
def length (layout : Layout) : Nat := layout.fields.length

/-- Whether there is no field. -/
def isEmpty (layout : Layout) : Bool := layout.fields.isEmpty

/-- The position of a field, from the table. -/
def position? (layout : Layout) (field : String) : Option Nat := layout.table.find? field

/-- The position of a field, or the error that names the declared fields. -/
def resolve (layout : Layout) (field : String) : Except ViewError Nat :=
  match layout.position? field with
  | some i => .ok i
  | none => .error (.undeclaredField layout.name field layout.fields)

/-- The name of the layout followed by the tuple of its fields. -/
def display (layout : Layout) : String := layout.name ++ tuple layout.fields

/-- Names without repetitions pass. -/
theorem ensureUnique_eq_ok_iff (stage : NameStage) (names : List String) :
    ensureUnique stage names = .ok () ↔ FieldName.repeated names = [] := by
  unfold ensureUnique
  cases h : FieldName.repeated names with
  | nil => simp
  | cons name rest => simp

end Layout

end KeyedContainers
