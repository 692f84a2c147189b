import KeyedContainers.Text.Quoted
import Mathlib.Data.List.DropRight

/-!
# Reading a shown list back

Names are shown as they are, with nothing escaped, after a name that is itself arbitrary. What was
shown is found again by the last opening parenthesis: the name in front stands before it, and the
listed names are the words after it, the stretches without a blank, a comma, an apostrophe or a
parenthesis. This holds for all names that are words, and asks nothing of the name in front.
-/

namespace KeyedContainers.Text

/-- The characters that stand around and between listed names. -/
def isMark (c : Char) : Bool :=
  c == ' ' || c == ',' || c == '\'' || c == '(' || c == ')'

/-- The stretches of characters between marks. -/
def words (cs : List Char) : List (List Char) :=
  (cs.splitOnP isMark).filter (· ≠ [])

/-- A text that is one word: it has characters, and no marks among them. -/
structure IsWord (text : String) : Prop where
  nonempty : text.toList ≠ []
  unmarked : ∀ c ∈ text.toList, isMark c = false

/-- What stands before the last opening parenthesis of a text, and the words after it. -/
def readBack (text : String) : String × List String :=
  (String.ofList (text.toList.rdropWhile (· != '(')).dropLast,
    (words (text.toList.rtakeWhile (· != '('))).map String.ofList)

@[simp] theorem words_nil : words [] = [] := by
  simp [words]

/-- A mark ends one word and begins another. -/
private theorem words_append_mark {c : Char} (hc : isMark c = true) (xs ys : List Char) :
    words (xs ++ c :: ys) = words xs ++ words ys := by
  rw [words, List.splitOnP_append_cons xs ys hc, List.filter_append]
  rfl

/-- A mark at the beginning is no part of a word. -/
private theorem words_mark_cons {c : Char} (hc : isMark c = true) (cs : List Char) :
    words (c :: cs) = words cs := by
  simpa using words_append_mark hc [] cs

/-- Marks at the end are no part of a word. -/
theorem words_append_marks {marks : List Char} (hmarks : ∀ c ∈ marks, isMark c = true)
    (cs : List Char) : words (cs ++ marks) = words cs := by
  induction marks generalizing cs with
  | nil => rw [List.append_nil]
  | cons c marks ih =>
    obtain ⟨hc, hrest⟩ := List.forall_mem_cons.mp hmarks
    rw [List.append_cons, ih hrest, words_append_mark hc, words_nil, List.append_nil]

theorem IsWord.words_toList {text : String} (h : IsWord text) :
    words text.toList = [text.toList] := by
  rw [words, List.splitOnP_eq_singleton h.unmarked]
  simp [h.nonempty]

/-- A word has no parenthesis. -/
theorem IsWord.not_mem {text : String} (h : IsWord text) : '(' ∉ text.toList :=
  fun hmem => absurd (h.unmarked _ hmem) (by decide)

private theorem toList_apostrophes (name : String) :
    (apostrophes name).toList = '\'' :: (name.toList ++ ['\'']) := by
  simp [apostrophes]

/-- A word in apostrophes has no further word. -/
theorem IsWord.words_apostrophes {name : String} (h : IsWord name) :
    words (apostrophes name).toList = [name.toList] := by
  rw [toList_apostrophes, words_mark_cons rfl, words_append_mark rfl, words_nil, List.append_nil,
    h.words_toList]

/-- Pieces with a comma and a blank between them have their own words. -/
theorem words_intercalate (pieces : List String) :
    words (", ".intercalate pieces).toList = pieces.flatMap fun piece => words piece.toList := by
  induction pieces with
  | nil => simp
  | cons piece rest ih =>
    cases rest with
    | nil => simp
    | cons next rest =>
      have hcut : (", ".intercalate (piece :: next :: rest)).toList =
          piece.toList ++ ',' :: ' ' :: (", ".intercalate (next :: rest)).toList := by
        simp [String.intercalate_cons_cons]
      rw [hcut, words_append_mark rfl, words_mark_cons rfl, ih, List.flatMap_cons (x := piece)]

/-- An enumeration has no character but its own two that is in no piece. -/
private theorem not_mem_intercalate {c : Char} (hcomma : c ≠ ',') (hblank : c ≠ ' ')
    {pieces : List String} (hpieces : ∀ piece ∈ pieces, c ∉ piece.toList) :
    c ∉ (", ".intercalate pieces).toList := by
  induction pieces with
  | nil => simp
  | cons piece rest ih =>
    obtain ⟨hpiece, hrest⟩ := List.forall_mem_cons.mp hpieces
    cases rest with
    | nil => simpa using hpiece
    | cons next rest =>
      have hbetween : c ∉ ", ".toList := by simp [hcomma, hblank]
      simp only [String.intercalate_cons_cons, String.toList_append, List.mem_append, not_or]
      exact ⟨⟨hpiece, hbetween⟩, ih hrest⟩

/-- A search for a character goes through a stretch that does not have it. -/
theorem bne_of_not_mem {stop : Char} {cs : List Char} (hstop : stop ∉ cs) :
    ∀ c ∈ cs, (c != stop) = true := by
  intro c hc
  exact bne_iff_ne.mpr fun heq => hstop (heq ▸ hc)

/-- An opening parenthesis with none after it is the last one. -/
private theorem cut_append_parenthesis (xs : List Char) {ys : List Char} (hys : '(' ∉ ys) :
    (xs ++ '(' :: ys).rdropWhile (· != '(') = xs ++ ['('] ∧
      (xs ++ '(' :: ys).rtakeWhile (· != '(') = ys := by
  have hrest : ∀ c ∈ ys.reverse, (c != '(') = true :=
    bne_of_not_mem fun hmem => hys (List.mem_reverse.mp hmem)
  constructor
  · simp [List.rdropWhile, List.dropWhile_append_of_pos hrest]
  · simp [List.rtakeWhile, List.takeWhile_append_of_pos hrest]

/-- The name in front is found again, whatever it is. -/
theorem readBack_append (name : String) {inner : String} (hinner : '(' ∉ inner.toList) :
    readBack (name ++ "(" ++ inner) = (name, (words inner.toList).map String.ofList) := by
  have htext : (name ++ "(" ++ inner).toList = name.toList ++ '(' :: inner.toList := by simp
  obtain ⟨hbefore, hafter⟩ := cut_append_parenthesis name.toList hinner
  rw [readBack, htext, hbefore, hafter, List.dropLast_concat, String.ofList_toList]

section Enumerations

variable {α : Type} {piece : α → String} (word : α → String) {as : List α}

/-- The words of an enumeration of pieces that are one word each. -/
theorem words_intercalate_map (hword : ∀ a ∈ as, words (piece a).toList = [(word a).toList]) :
    (words (", ".intercalate (as.map piece)).toList).map String.ofList = as.map word := by
  rw [words_intercalate, List.flatMap_map]
  induction as with
  | nil => rfl
  | cons a as ih =>
    obtain ⟨ha, has⟩ := List.forall_mem_cons.mp hword
    rw [List.flatMap_cons, ha, List.map_append, ih has, List.map_singleton, String.ofList_toList,
      List.map_cons, List.singleton_append]

/-- A name and an enumeration in parentheses after it are both found again, if each piece of the
enumeration has one word and no opening parenthesis. A comma may follow the last piece. -/
theorem readBack_enumeration {closing : String}
    (hword : ∀ a ∈ as, words (piece a).toList = [(word a).toList])
    (hopening : ∀ a ∈ as, '(' ∉ (piece a).toList)
    (hclosing : closing = ")" ∨ closing = ",)") (name : String) :
    readBack (name ++ "(" ++ (", ".intercalate (as.map piece) ++ closing)) =
      (name, as.map word) := by
  have hpieces : '(' ∉ (", ".intercalate (as.map piece)).toList :=
    not_mem_intercalate (by decide) (by decide) (List.forall_mem_map.mpr hopening)
  have hmarks : ∀ c ∈ closing.toList, isMark c = true ∧ c ≠ '(' := by
    rcases hclosing with rfl | rfl <;> simp [isMark]
  have hinner : '(' ∉ (", ".intercalate (as.map piece) ++ closing).toList := by
    rw [String.toList_append, List.mem_append, not_or]
    exact ⟨hpieces, fun hmem => (hmarks _ hmem).2 rfl⟩
  rw [readBack_append name hinner, String.toList_append,
    words_append_marks (fun c hc => (hmarks c hc).1), words_intercalate_map word hword]

end Enumerations

/-- A name and a tuple of words after it are both found again, whether the tuple has no name, one
name or more. -/
theorem readBack_tuple (name : String) {names : List String} (hnames : ∀ n ∈ names, IsWord n) :
    readBack (name ++ tuple names) = (name, names) := by
  have hopening : ∀ n ∈ names, '(' ∉ (apostrophes n).toList := by
    intro n hn
    simp [toList_apostrophes, (hnames n hn).not_mem]
  obtain ⟨closing, hclosing, htuple⟩ : ∃ closing, (closing = ")" ∨ closing = ",)") ∧
      tuple names = "(" ++ ", ".intercalate (names.map apostrophes) ++ closing := by
    refine ⟨_, ?_, rfl⟩
    split
    · exact Or.inr rfl
    · exact Or.inl rfl
  rw [htuple, String.append_assoc, ← String.append_assoc,
    readBack_enumeration id (fun n hn => (hnames n hn).words_apostrophes) hopening hclosing,
    List.map_id]

end KeyedContainers.Text
