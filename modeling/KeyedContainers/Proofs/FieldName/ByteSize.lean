import KeyedContainers.FieldName.Sanitize

/-!
# The size of a sanitized name

Sanitizing goes through a name once and adds to what it has written. A character is written as it
is, replaced by an underscore or dropped, and none of the three takes more bytes than the character
has. So what is written is at every point at most as long as what has been read, and with the
underscore that may be put in front at the end it has one byte more than the name at most. That
byte more is used only if nothing was saved on the way: no character was dropped, and an underscore
stands for single bytes only.
-/

namespace KeyedContainers.FieldName

open Text

/-- Whether the last character is an underscore. -/
def endsInUnderscore (out : String) : Bool := out.toList.getLast? == some '_'

/-- What is written when one more character has been read. -/
def writeNext (out : String) (c : Char) : String :=
  if isAlphanumeric c then out.push c
  else if endsInUnderscore out then out
  else out.push '_'

/-- What is written when some characters have been read. -/
def written (consumed : List Char) : String := consumed.foldl writeNext ""

/-- Nothing is written for a character. -/
def Drops (out : String) (c : Char) : Prop := writeNext out c = out

/-- An underscore is written for another character. -/
def Replaces (out : String) (c : Char) : Prop := c ≠ '_' ∧ writeNext out c = out.push '_'

@[simp] private theorem endsInUnderscore_push (out : String) (c : Char) :
    endsInUnderscore (out.push c) = (c == '_') := by
  simp [endsInUnderscore]

/-- Reading further characters writes what collapsing them gives, after what is there. -/
private theorem toList_foldl_writeNext (out : String) (cs : List Char) :
    (cs.foldl writeNext out).toList = out.toList ++ collapse (endsInUnderscore out) cs := by
  induction cs generalizing out with
  | nil => simp
  | cons c cs ih =>
    rw [List.foldl_cons, ih, writeNext, collapse]
    split
    · rename_i hc
      have hne : (c == '_') = false := beq_eq_false_iff_ne.mpr (ne_underscore_of_isAlphanumeric hc)
      simp [hne]
    · split
      · rename_i hends
        rw [hends]
      · simp

/-- Collapsing a name writes what is written when its first characters have been read, and then what
collapsing the others gives. -/
theorem collapse_append (consumed rest : List Char) :
    collapse false (consumed ++ rest) =
      (written consumed).toList ++ collapse (endsInUnderscore (written consumed)) rest := by
  have hall := toList_foldl_writeNext "" (consumed ++ rest)
  rw [List.foldl_append, toList_foldl_writeNext] at hall
  exact hall.symm

/-- A character is written as it is, dropped or replaced. -/
private theorem writeNext_cases (out : String) (c : Char) :
    writeNext out c = out.push c ∨ Drops out c ∨ Replaces out c := by
  unfold Drops Replaces writeNext
  split
  · exact Or.inl rfl
  · split
    · exact Or.inr (Or.inl rfl)
    · by_cases hc : c = '_'
      · exact Or.inl (by rw [hc])
      · exact Or.inr (Or.inr ⟨hc, rfl⟩)

/-- No more bytes are written for a character than it has. -/
theorem utf8ByteSize_writeNext_le (out : String) (c : Char) :
    (writeNext out c).utf8ByteSize ≤ out.utf8ByteSize + c.utf8Size := by
  rcases writeNext_cases out c with hkeeps | hdrops | ⟨_, hreplaces⟩
  · exact Nat.le_of_eq (by rw [hkeeps, String.utf8ByteSize_push])
  · rw [hdrops]
    exact Nat.le_add_right _ _
  · rw [hreplaces, String.utf8ByteSize_push]
    exact Nat.add_le_add_left c.utf8Size_pos _

/-- As many bytes are written for a character as it has, unless it is dropped, or is replaced and
has more than one. -/
theorem utf8ByteSize_writeNext_eq_iff {out : String} {c : Char} :
    (writeNext out c).utf8ByteSize = out.utf8ByteSize + c.utf8Size ↔
      ¬ Drops out c ∧ (Replaces out c → c.utf8Size = 1) := by
  have hpush : ∀ d, out.push d ≠ out := by
    intro d hsame
    have hsize := congrArg String.utf8ByteSize hsame
    rw [String.utf8ByteSize_push] at hsize
    exact absurd d.utf8Size_pos (by omega)
  rcases writeNext_cases out c with hkeeps | hdrops | ⟨hother, hreplaces⟩
  · have hwrites : ¬ Drops out c := fun hdrops => hpush c (hkeeps.symm.trans hdrops)
    have hsame : ¬ Replaces out c := by
      rintro ⟨hother, hreplaces⟩
      exact hother (String.push_inj.mp (hkeeps.symm.trans hreplaces)).2
    rw [hkeeps, String.utf8ByteSize_push]
    exact iff_of_true rfl ⟨hwrites, fun hreplaces => absurd hreplaces hsame⟩
  · have hpos := c.utf8Size_pos
    rw [show writeNext out c = out from hdrops]
    exact iff_of_false (by omega) fun hboth => hboth.1 hdrops
  · have hwrites : ¬ Drops out c := fun hdrops => hpush '_' (hreplaces.symm.trans hdrops)
    rw [hreplaces, String.utf8ByteSize_push, Nat.add_left_cancel_iff]
    constructor
    · intro hone
      exact ⟨hwrites, fun _ => hone.symm⟩
    · rintro ⟨_, hone⟩
      exact (hone ⟨hother, hreplaces⟩).symm

private theorem utf8ByteSize_ofList_cons (c : Char) (cs : List Char) :
    (String.ofList (c :: cs)).utf8ByteSize = c.utf8Size + (String.ofList cs).utf8ByteSize := by
  rw [String.ofList_cons, String.utf8ByteSize_append, String.utf8ByteSize_singleton]

/-- No more bytes are written for some characters than they have. -/
theorem utf8ByteSize_foldl_writeNext_le (out : String) (cs : List Char) :
    (cs.foldl writeNext out).utf8ByteSize ≤ out.utf8ByteSize + (String.ofList cs).utf8ByteSize := by
  induction cs generalizing out with
  | nil => exact Nat.le_add_right _ _
  | cons c cs ih =>
    have hfirst := utf8ByteSize_writeNext_le out c
    have hrest := ih (writeNext out c)
    rw [List.foldl_cons, utf8ByteSize_ofList_cons]
    omega

/-- As many bytes are written for some characters as they have exactly when this is so for each of
them. -/
theorem utf8ByteSize_foldl_writeNext_eq_iff (out : String) (cs : List Char) :
    (cs.foldl writeNext out).utf8ByteSize = out.utf8ByteSize + (String.ofList cs).utf8ByteSize ↔
      ∀ before c rest, cs = before ++ c :: rest →
        (writeNext (before.foldl writeNext out) c).utf8ByteSize =
          (before.foldl writeNext out).utf8ByteSize + c.utf8Size := by
  induction cs generalizing out with
  | nil => simp
  | cons d cs ih =>
    have hfirst := utf8ByteSize_writeNext_le out d
    have hrest := utf8ByteSize_foldl_writeNext_le (writeNext out d) cs
    -- Neither the first character nor the others can make up for bytes that are saved elsewhere.
    have hboth : (cs.foldl writeNext (writeNext out d)).utf8ByteSize =
          out.utf8ByteSize + (d.utf8Size + (String.ofList cs).utf8ByteSize) ↔
        (writeNext out d).utf8ByteSize = out.utf8ByteSize + d.utf8Size ∧
        (cs.foldl writeNext (writeNext out d)).utf8ByteSize =
          (writeNext out d).utf8ByteSize + (String.ofList cs).utf8ByteSize := by
      omega
    rw [List.foldl_cons, utf8ByteSize_ofList_cons, hboth, ih]
    constructor
    · rintro ⟨hd, hcs⟩ before c rest hsplit
      cases before with
      | nil =>
        obtain ⟨rfl, rfl⟩ := List.cons.inj hsplit
        exact hd
      | cons e before =>
        obtain ⟨rfl, hcut⟩ := List.cons.inj hsplit
        exact hcs before c rest hcut
    · intro hall
      refine ⟨hall [] d cs rfl, ?_⟩
      intro before c rest hsplit
      exact hall (d :: before) c rest (by rw [hsplit, List.cons_append])

/-- No more bytes have been written than read. -/
theorem utf8ByteSize_written_le (cs : List Char) :
    (written cs).utf8ByteSize ≤ (String.ofList cs).utf8ByteSize := by
  have hfold := utf8ByteSize_foldl_writeNext_le "" cs
  rwa [String.utf8ByteSize_empty, Nat.zero_add] at hfold

/-- As many bytes are written for some characters as they have exactly when none is dropped and
those that are replaced have one byte. -/
theorem utf8ByteSize_written_eq_iff (cs : List Char) :
    (written cs).utf8ByteSize = (String.ofList cs).utf8ByteSize ↔
      ∀ consumed c rest, cs = consumed ++ c :: rest →
        ¬ Drops (written consumed) c ∧ (Replaces (written consumed) c → c.utf8Size = 1) := by
  have hfold := utf8ByteSize_foldl_writeNext_eq_iff "" cs
  simp only [String.utf8ByteSize_empty, Nat.zero_add, utf8ByteSize_writeNext_eq_iff] at hfold
  exact hfold

/-- A sanitized name is what was written for its characters, or this after an underscore. -/
theorem sanitize_eq_written (name : String) :
    sanitize name = written name.toList ∨ sanitize name = "_" ++ written name.toList := by
  have hwritten : String.ofList (collapse false name.toList) = written name.toList := by
    rw [← List.append_nil name.toList, collapse_append, collapse_nil, List.append_nil,
      List.append_nil, String.ofList_toList]
  rw [sanitize, mendStart]
  split
  · exact Or.inl hwritten
  · right
    rw [← List.singleton_append, String.ofList_append, hwritten]

/-- Whenever some characters of a name have been read, no more bytes have been written than these
characters have. So a sanitized name has at most one byte more than the name. It has one more
exactly when an underscore was put in front, no character was dropped, and every character that was
replaced has one byte. -/
theorem one_byte_more_suffices (name : String) :
    (∀ consumed rest, name.toList = consumed ++ rest →
      collapse false name.toList =
        (written consumed).toList ++ collapse (endsInUnderscore (written consumed)) rest ∧
      (written consumed).utf8ByteSize ≤ (String.ofList consumed).utf8ByteSize) ∧
    (sanitize name).utf8ByteSize ≤ name.utf8ByteSize + 1 ∧
    ((sanitize name).utf8ByteSize = name.utf8ByteSize + 1 ↔
      sanitize name = "_" ++ written name.toList ∧
      ∀ consumed c rest, name.toList = consumed ++ c :: rest →
        ¬ Drops (written consumed) c ∧ (Replaces (written consumed) c → c.utf8Size = 1)) := by
  have hname := utf8ByteSize_written_le name.toList
  have hiff := utf8ByteSize_written_eq_iff name.toList
  rw [String.ofList_toList] at hname hiff
  have hfront : ("_" ++ written name.toList).utf8ByteSize =
      1 + (written name.toList).utf8ByteSize := String.utf8ByteSize_append
  refine ⟨?_, ?_, ?_⟩
  · intro consumed rest hsplit
    rw [hsplit]
    exact ⟨collapse_append consumed rest, utf8ByteSize_written_le consumed⟩
  · rcases sanitize_eq_written name with hplain | hmended
    · rw [hplain]
      omega
    · rw [hmended]
      omega
  · rw [← hiff]
    rcases sanitize_eq_written name with hplain | hmended
    · rw [hplain]
      refine iff_of_false (by omega) ?_
      rintro ⟨hmended, _⟩
      have hsizes := congrArg String.utf8ByteSize hmended
      omega
    · rw [hmended, hfront, Nat.add_comm 1, Nat.add_right_cancel_iff]
      exact (and_iff_right rfl).symm

/-- An underscore for a blank and one before a number use the byte more, also beside longer
characters. -/
example : (sanitize "9 é").utf8ByteSize = "9 é".utf8ByteSize + 1 := by decide

end KeyedContainers.FieldName
