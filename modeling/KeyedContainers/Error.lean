import KeyedContainers.Text.Hex
import KeyedContainers.Text.Listing

/-!
# Errors and faults

A layout is not defined when field names repeat, as they were given or after sanitizing; a
buffer is not viewed, nor written whole, when its length is wrong; and a name that the layout
does not declare reads and writes nothing. A query that no stored key matches is reported by its
hash, in sixteen hexadecimal digits.

A fault ends an access that the caller promised would succeed: a position beyond the end of a
buffer, a name demanded from a layout that does not declare it, a key demanded from a map that
does not hold it. Nothing is changed by an access that ends in a fault.
-/

namespace KeyedContainers

open Text

/-- The two sets of names in which a repetition may be found. -/
inductive NameStage where
  | raw
  | sanitized
deriving DecidableEq, Repr

/-- The stage as a word in a sentence. -/
def NameStage.word : NameStage → String
  | .raw => "raw"
  | .sanitized => "sanitized"

/-- The stage as the name of a case. -/
def NameStage.label : NameStage → String
  | .raw => "Raw"
  | .sanitized => "Sanitized"

/-- Why a layout is not defined, or a buffer not read or written through one. -/
inductive ViewError where
  /-- Some names of the stage occur more than once. -/
  | duplicateField (stage : NameStage) (duplicates : List String)
  /-- So many elements were expected and so many were there. -/
  | lengthMismatch (expected actual : Nat)
  /-- The layout of this name has these fields, and the asked one is not among them. -/
  | undeclaredField (layout name : String) (fields : List String)
deriving DecidableEq, Repr

namespace ViewError

/-- The name of the kind of error. -/
def kind : ViewError → String
  | duplicateField .. => "DuplicateField"
  | lengthMismatch .. => "LengthMismatch"
  | undeclaredField .. => "UndeclaredField"

/-- The sentence that explains the error. Names stand in it as they are. -/
def message : ViewError → String
  | duplicateField stage duplicates =>
    "field names must be unique; duplicated " ++ stage.word ++ " names: " ++ tuple duplicates
  | lengthMismatch expected actual =>
    "buffer length " ++ actual.repr ++ " does not match the " ++ expected.repr ++
      " declared fields"
  | undeclaredField layout name fields =>
    apostrophes name ++ " is not a field of " ++ layout ++ "; the fields are " ++ tuple fields

/-- Names as a sequence of quoted strings. -/
def listNames (names : List String) : Listing :=
  .sequence (names.map fun name => .atom (quoteString name))

/-- The error with its parts. -/
def listing (e : ViewError) : Listing :=
  .record e.kind <|
    match e with
    | duplicateField stage duplicates =>
      [("stage", .atom stage.label), ("duplicates", listNames duplicates)]
    | lengthMismatch expected actual =>
      [("expected", .atom expected.repr), ("actual", .atom actual.repr)]
    | undeclaredField layout name fields =>
      [("type_name", .atom (quoteString layout)), ("name", .atom (quoteString name)),
        ("fields", listNames fields)]

end ViewError

/-- No stored key matches a query of this hash. -/
structure KeyNotFound where
  hash : UInt64
deriving DecidableEq, Repr

namespace KeyNotFound

/-- The sentence that explains the miss. -/
def message (e : KeyNotFound) : String :=
  "key not found (hash 0x" ++ hexWord e.hash ++ ")"

/-- The miss with its hash in decimal. -/
def listing (e : KeyNotFound) : Listing :=
  .record "KeyNotFound" [("hash", .atom e.hash.toNat.repr)]

end KeyNotFound

/-- Why a promised access did not succeed. -/
inductive Fault where
  /-- A buffer of this length has no such position. -/
  | outOfBounds (length index : Nat)
  /-- The layout does not declare the demanded name. -/
  | undeclared (error : ViewError)
  /-- The map does not hold the demanded key. -/
  | missingKey (error : KeyNotFound)
deriving DecidableEq, Repr

/-- The sentence that explains a fault. -/
def Fault.message : Fault → String
  | outOfBounds length index =>
    "index out of bounds: the len is " ++ length.repr ++ " but the index is " ++ index.repr
  | undeclared error => error.message
  | missingKey error => error.message

end KeyedContainers
