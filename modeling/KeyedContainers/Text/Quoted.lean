import KeyedContainers.Text.CharacterClass

/-!
# Quoted text and names

A text is quoted by setting it between two marks. Inside, the mark itself, the backslash
and four control characters have a two-character form; a combining mark and every
unprintable character is written by its code point. All other characters stand for
themselves, the other kind of mark included. Strings use the double mark and single
characters the apostrophe.

A list of names is shown as a tuple: each name between apostrophes and taken as it is, a comma
and a space between two names. A single name is followed by a comma, which tells the tuple of one
name from a name in parentheses.
-/

namespace KeyedContainers.Text

/-- A character written by its code point: `\u`, then the hexadecimal digits in braces. -/
def escapeCodePoint (c : Char) : List Char :=
  ['\\', 'u', '\x7b'] ++ Nat.toDigits 16 c.toNat ++ ['\x7d']

/-- How one character is written between two marks. -/
def escapeChar (mark c : Char) : List Char :=
  if c = mark ∨ c = '\\' then ['\\', c]
  else if c = '\x00' then ['\\', '0']
  else if c = '\t' then ['\\', 't']
  else if c = '\n' then ['\\', 'n']
  else if c = '\r' then ['\\', 'r']
  else if isCombiningMark c || !isPrintable c then escapeCodePoint c
  else [c]

/-- Characters between two marks. -/
def quoteWith (mark : Char) (cs : List Char) : String :=
  String.ofList (mark :: cs.flatMap (escapeChar mark) ++ [mark])

/-- A string in double quotation marks. -/
def quoteString (s : String) : String :=
  quoteWith '"' s.toList

/-- A single character in apostrophes. -/
def quoteChar (c : Char) : String :=
  quoteWith '\'' [c]

/-- One name between apostrophes. -/
def apostrophes (name : String) : String :=
  "'" ++ name ++ "'"

/-- A list of names as a tuple. -/
def tuple (names : List String) : String :=
  "(" ++ ", ".intercalate (names.map apostrophes) ++ (if names.length = 1 then ",)" else ")")

end KeyedContainers.Text
