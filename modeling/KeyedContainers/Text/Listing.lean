import KeyedContainers.Text.Quoted

/-!
# Listings of structured values

A listing is the shape in which a value is shown for inspection: an atom of text, a
record of named parts, a wrapper around one value, a sequence, or a table of rows.
It has two styles. `compact` puts all on one line. `indented` gives each part a line
of its own, four spaces deeper than its holder and followed by a comma. Both show a
holder without parts as its bare brackets.

A type is listed when each of its values has a listing. Truth values and whole numbers are
their usual words and digits, texts and characters are quoted, and lists and arrays are
sequences.
-/

namespace KeyedContainers

namespace Text

/-- The shape of a shown value. -/
inductive Listing where
  /-- Text shown as it is. -/
  | atom (text : String)
  /-- A name and its named parts. -/
  | record (name : String) (parts : List (String × Listing))
  /-- A name around one value. -/
  | wrapped (name : String) (inner : Listing)
  /-- Values in order. -/
  | sequence (items : List Listing)
  /-- Rows of a left and a right value. -/
  | table (rows : List (Listing × Listing))
deriving Repr, Inhabited

namespace Listing

/-- A holder on one line: its parts between the brackets, separated by commas. -/
def flat (opening closing : String) (parts : List String) : String :=
  opening ++ ", ".intercalate parts ++ closing

/-- The line break that begins a line at the given depth. -/
def newline (depth : Nat) : String :=
  String.ofList ('\n' :: List.replicate (4 * depth) ' ')

/-- A holder whose parts each take a line, one level deeper than the holder. -/
def block (depth : Nat) (opening closing : String) (parts : List String) : String :=
  opening ++ String.join (parts.map fun part => newline (depth + 1) ++ part ++ ",") ++
    newline depth ++ closing

mutual

/-- The listing on one line. -/
def compact : Listing → String
  | atom text => text
  | record name [] => name
  | record name (part :: parts) =>
    flat (name ++ " \x7b ") " \x7d" (compactParts (part :: parts))
  | wrapped name inner => name ++ "(" ++ compact inner ++ ")"
  | sequence items => flat "[" "]" (compactItems items)
  | table rows => flat "\x7b" "\x7d" (compactRows rows)

/-- The named parts of a record, each on one line. -/
def compactParts : List (String × Listing) → List String
  | [] => []
  | (name, part) :: parts => (name ++ ": " ++ compact part) :: compactParts parts

/-- The items of a sequence, each on one line. -/
def compactItems : List Listing → List String
  | [] => []
  | item :: items => compact item :: compactItems items

/-- The rows of a table, each on one line. -/
def compactRows : List (Listing × Listing) → List String
  | [] => []
  | (left, right) :: rows => (compact left ++ ": " ++ compact right) :: compactRows rows

end

mutual

/-- The listing over several lines, where it stands at the given depth. -/
def indented (depth : Nat) : Listing → String
  | atom text => text
  | record name [] => name
  | record name (part :: parts) =>
    block depth (name ++ " \x7b") "\x7d" (indentedParts (depth + 1) (part :: parts))
  | wrapped name inner => block depth (name ++ "(") ")" [indented (depth + 1) inner]
  | sequence [] => "[]"
  | sequence (item :: items) =>
    block depth "[" "]" (indentedItems (depth + 1) (item :: items))
  | table [] => "\x7b\x7d"
  | table (row :: rows) =>
    block depth "\x7b" "\x7d" (indentedRows (depth + 1) (row :: rows))

/-- The named parts of a record, each over as many lines as it needs. -/
def indentedParts (depth : Nat) : List (String × Listing) → List String
  | [] => []
  | (name, part) :: parts => (name ++ ": " ++ indented depth part) :: indentedParts depth parts

/-- The items of a sequence, each over as many lines as it needs. -/
def indentedItems (depth : Nat) : List Listing → List String
  | [] => []
  | item :: items => indented depth item :: indentedItems depth items

/-- The rows of a table, each over as many lines as it needs. -/
def indentedRows (depth : Nat) : List (Listing × Listing) → List String
  | [] => []
  | (left, right) :: rows =>
    (indented depth left ++ ": " ++ indented depth right) :: indentedRows depth rows

end

/-- The two ways to lay out a listing. -/
inductive Style where
  | oneLine
  | manyLines
deriving DecidableEq, Repr

/-- The text of a listing in a style. -/
def render (listing : Listing) : Style → String
  | .oneLine => listing.compact
  | .manyLines => listing.indented 0

end Listing

end Text

open Text

/-- Types whose values can be shown for inspection. -/
class Listed (α : Type) where
  listing : α → Listing

/-- The listing of a value on one line. -/
def inspect {α : Type} [Listed α] (a : α) : String := (Listed.listing a).compact

/-- A truth value as a word. -/
def truthWord (b : Bool) : String := if b then "true" else "false"

instance : Listed Bool := ⟨fun b => .atom (truthWord b)⟩

instance : Listed Int64 := ⟨fun n => .atom n.toInt.repr⟩

instance : Listed Char := ⟨fun c => .atom (quoteChar c)⟩

instance : Listed String := ⟨fun s => .atom (quoteString s)⟩

instance {α : Type} [Listed α] : Listed (List α) := ⟨fun as => .sequence (as.map Listed.listing)⟩

instance {α : Type} [Listed α] : Listed (Array α) := ⟨fun as => Listed.listing as.toList⟩

end KeyedContainers
