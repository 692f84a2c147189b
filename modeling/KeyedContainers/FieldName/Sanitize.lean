import KeyedContainers.Text.CharacterClass

/-!
# Identifier-shaped field names

Sanitizing keeps the letters and numbers of a name, writes one underscore for every run of
other characters, and puts an underscore in front of what could not begin an identifier:
nothing at all, or a number.
-/

namespace KeyedContainers.FieldName

open Text

/-- Letters and numbers as they are, and one underscore for each run of other characters. The
flag says that an underscore has just been written, so that the run is already accounted for. -/
def collapse (afterUnderscore : Bool) : List Char → List Char
  | [] => []
  | c :: cs =>
    if isAlphanumeric c then c :: collapse false cs
    else if afterUnderscore then collapse true cs
    else '_' :: collapse true cs

/-- Whether a name of these characters may begin as it does. -/
def beginsWell : List Char → Bool
  | [] => false
  | c :: _ => isAlphabetic c || c == '_'

/-- The characters, after an underscore if they do not begin well. -/
def mendStart (cs : List Char) : List Char :=
  if beginsWell cs then cs else '_' :: cs

/-- The identifier-shaped form of a name. -/
def sanitize (name : String) : String :=
  String.ofList (mendStart (collapse false name.toList))

@[simp] theorem toList_sanitize (name : String) :
    (sanitize name).toList = mendStart (collapse false name.toList) := by
  simp [sanitize]

@[simp] theorem collapse_nil (after : Bool) : collapse after [] = [] := rfl

theorem collapse_alphanumeric {after : Bool} {c : Char} (h : isAlphanumeric c = true)
    (cs : List Char) : collapse after (c :: cs) = c :: collapse false cs := by
  simp [collapse, h]

/-- The first character of a run becomes the underscore of the run. -/
theorem collapse_false_other {c : Char} (h : isAlphanumeric c = false) (cs : List Char) :
    collapse false (c :: cs) = '_' :: collapse true cs := by
  simp [collapse, h]

/-- The further characters of a run disappear. -/
theorem collapse_true_other {c : Char} (h : isAlphanumeric c = false) (cs : List Char) :
    collapse true (c :: cs) = collapse true cs := by
  simp [collapse, h]

/-- A mended name begins well. -/
theorem beginsWell_mendStart (cs : List Char) : beginsWell (mendStart cs) = true := by
  unfold mendStart
  split
  · assumption
  · rfl

end KeyedContainers.FieldName
