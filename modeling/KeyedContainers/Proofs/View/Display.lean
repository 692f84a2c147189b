import KeyedContainers.Proofs.FieldName.Canonical
import KeyedContainers.Proofs.Text.ReadBack
import KeyedContainers.Proofs.View.Redefinition
import KeyedContainers.View

/-!
# Texts of layouts and views

The fields of a layout with sanitized names are words without an equals sign, and a whole number
has no mark in its digits either. So the text of such a layout is read back to its name and its
fields, whatever the name is, and the text of a view of whole numbers to its numbers as well: equal
texts come from equal layouts, and from equal views.
-/

namespace KeyedContainers

open FieldName Text

namespace FieldName

variable {name : String}

/-- A mark and an equals sign are not allowed in a canonical name. -/
private theorem not_allowed {c : Char} (h : isMark c = true ∨ c = '=') :
    ¬ (isAlphanumeric c = true ∨ c = '_') := by
  simp only [isMark, Bool.or_eq_true, beq_iff_eq] at h
  rcases h with ((((rfl | rfl) | rfl) | rfl) | rfl) | rfl <;> decide

theorem IsCanonical.isWord (h : IsCanonical name.toList) : IsWord name where
  nonempty hnil := by
    have hbegins := h.begins
    rw [hnil] at hbegins
    cases hbegins
  unmarked c hc :=
    (Bool.not_eq_true _).mp fun hmark => not_allowed (Or.inl hmark) (h.allowed c hc)

theorem IsCanonical.not_mem_equals (h : IsCanonical name.toList) : '=' ∉ name.toList :=
  fun hmem => not_allowed (Or.inr rfl) (h.allowed '=' hmem)

end FieldName

namespace Text

/-- The number that one or more decimal digits spell. -/
def readDigits? (cs : List Char) : Option Nat :=
  if cs ≠ [] ∧ cs.all Char.isDigit then some (Nat.ofDigitChars 10 cs 0) else none

/-- The whole number that decimal digits spell, a negative one after a minus sign. -/
def readNumber? : List Char → Option Int
  | '-' :: cs => (readDigits? cs).map fun n => -n
  | cs => (readDigits? cs).map fun n => n

private theorem isDigit_of_mem_repr {n : Nat} {c : Char} (hc : c ∈ n.repr.toList) :
    c.isDigit = true := by
  rw [Nat.toList_repr] at hc
  exact Nat.isDigit_of_mem_toDigits (by decide) (by decide) hc

private theorem toList_repr_negSucc (n : Nat) :
    (Int.negSucc n).repr.toList = '-' :: (n + 1).repr.toList := by
  simp [Int.repr]

/-- A number is read back from its digits. -/
theorem readDigits?_repr (n : Nat) : readDigits? n.repr.toList = some n := by
  have hdigits : n.repr.toList.all Char.isDigit = true :=
    List.all_eq_true.mpr fun c hc => isDigit_of_mem_repr hc
  have hnonempty : n.repr.toList ≠ [] := by
    rw [Nat.toList_repr]
    exact Nat.toDigits_ne_nil
  rw [readDigits?, if_pos ⟨hnonempty, hdigits⟩, Nat.toList_repr, Nat.ofDigitChars_ten_toDigits]

/-- A whole number is read back from its digits and its sign. -/
theorem readNumber?_repr (n : Int) : readNumber? n.repr.toList = some n := by
  cases n with
  | ofNat n =>
    change readNumber? n.repr.toList = _
    unfold readNumber?
    split
    · -- A minus sign is no digit.
      rename_i cs hminus
      have hdigit : '-'.isDigit = true :=
        isDigit_of_mem_repr (n := n) (by rw [hminus]; exact List.mem_cons_self)
      cases hdigit
    · rw [readDigits?_repr]
      rfl
  | negSucc n =>
    rw [toList_repr_negSucc, readNumber?, readDigits?_repr]
    rfl

/-- A number is written with digits and a minus sign. -/
private theorem isDigit_or_minus_of_mem_repr {n : Int} {c : Char} (hc : c ∈ n.repr.toList) :
    c.isDigit = true ∨ c = '-' := by
  cases n with
  | ofNat m => exact Or.inl (isDigit_of_mem_repr (n := m) hc)
  | negSucc m =>
    rw [toList_repr_negSucc, List.mem_cons] at hc
    exact hc.symm.imp_left isDigit_of_mem_repr

private theorem isMark_eq_false_of_mem_repr {n : Int} {c : Char} (hc : c ∈ n.repr.toList) :
    isMark c = false := by
  refine (Bool.not_eq_true _).mp fun hmark => ?_
  simp only [isMark, Bool.or_eq_true, beq_iff_eq] at hmark
  rcases hmark with (((rfl | rfl) | rfl) | rfl) | rfl <;>
    exact absurd (isDigit_or_minus_of_mem_repr hc) (by decide)

end Text

namespace Layout

variable {layout : Layout} {name : String} {raw : List String}

/-- The fields of a layout with sanitized names are canonical. -/
theorem isCanonical_field (hdefined : (define name raw).value = .ok layout) :
    ∀ field ∈ layout.fields, IsCanonical field.toList := by
  intro field hfield
  exact sanitize_eq_self_iff.mp (sanitize_field name raw hdefined field hfield)

/-- The text of a layout with sanitized names is read back to its name and its fields. -/
theorem readBack_display (hdefined : (define name raw).value = .ok layout) :
    readBack layout.display = (layout.name, layout.fields) :=
  readBack_tuple layout.name fun field hfield => (isCanonical_field hdefined field hfield).isWord

/-- The text of a layout with sanitized names is read back to its name, which may be any text, and
its fields, be there none, one or more. So two such layouts have the same text exactly when they
are equal. -/
theorem text_unambiguous (name : String) (raw : List String) (layout : Layout)
    (hdefined : (define name raw).value = .ok layout) :
    readBack layout.display = (layout.name, layout.fields) ∧
    ∀ name' raw' other, (define name' raw').value = .ok other →
      (layout.display = other.display ↔ (layout == other) = true) := by
  have hread := readBack_display hdefined
  refine ⟨hread, ?_⟩
  intro name' raw' other hother
  rw [(lawful_of_defineWith hdefined).beq_iff (lawful_of_defineWith hother)]
  constructor
  · intro htext
    rw [htext, readBack_display hother] at hread
    obtain ⟨hname, hfields⟩ := Prod.mk.inj hread
    exact ⟨hname.symm, hfields.symm⟩
  · rintro ⟨hname, hfields⟩
    rw [display, display, hname, hfields]

/-- A name that is itself the beginning of a tuple, before a single field and before none. -/
theorem text_unambiguous_nested :
    let single := ofFields "f('a', 'b'" ["a_b"]
    let empty := ofFields "f('a', 'b'('a_b',)" []
    (define "f('a', 'b'" ["a-b"]).value = .ok single ∧
      (define "f('a', 'b'('a_b',)" []).value = .ok empty ∧
      single.display = "f('a', 'b'('a_b',)" ∧ empty.display = "f('a', 'b'('a_b',)()" ∧
      readBack single.display = ("f('a', 'b'", ["a_b"]) ∧
      readBack empty.display = ("f('a', 'b'('a_b',)", []) ∧ (single == empty) = false := by
  intro single empty
  have hsingle : (define "f('a', 'b'" ["a-b"]).value = .ok single := rfl
  have hempty : (define "f('a', 'b'('a_b',)" []).value = .ok empty := rfl
  have hsingleText : single.display = "f('a', 'b'('a_b',)" := by decide
  have hemptyText : empty.display = "f('a', 'b'('a_b',)()" := by decide
  obtain ⟨hread, hiff⟩ := text_unambiguous _ _ single hsingle
  have hdiffer : ¬ (single == empty) = true := by
    rw [← hiff _ _ empty hempty, hsingleText, hemptyText]
    decide
  exact ⟨hsingle, hempty, hsingleText, hemptyText, hread,
    (text_unambiguous _ _ empty hempty).1, (Bool.not_eq_true _).mp hdiffer⟩

/-- Names taken as they are may have the same text without being the same. -/
example : (ofFields "V" ["a', 'b", "c"]).display = (ofFields "V" ["a", "b', 'c"]).display := by
  decide

end Layout

namespace View

/-- A field and the number behind the equals sign that follows it. -/
def readAssignment (word : String) : String × Option Int :=
  (String.ofList (word.toList.takeWhile (· != '=')),
    readNumber? (word.toList.dropWhile (· != '=')).tail)

/-- The name in front and the fields with their numbers. -/
def readAssignments (text : String) : String × List (String × Option Int) :=
  ((readBack text).1, (readBack text).2.map readAssignment)

private theorem toList_assignment (field : String) (n : Int) :
    (field ++ "=" ++ n.repr).toList = field.toList ++ '=' :: n.repr.toList := by
  simp

/-- A field with a number is read as the two. -/
theorem readAssignment_append {field : String} (hfield : '=' ∉ field.toList) (n : Int) :
    readAssignment (field ++ "=" ++ n.repr) = (field, some n) := by
  have hplain : ∀ c ∈ field.toList, (c != '=') = true := bne_of_not_mem hfield
  rw [readAssignment, toList_assignment, List.takeWhile_append_of_pos hplain,
    List.dropWhile_append_of_pos hplain, List.takeWhile_cons_of_neg (by decide),
    List.dropWhile_cons_of_neg (by decide), List.append_nil, List.tail_cons, String.ofList_toList,
    readNumber?_repr]

/-- A field with a number is one word. -/
theorem isWord_assignment {field : String} (hfield : IsWord field) (n : Int) :
    IsWord (field ++ "=" ++ n.repr) := by
  refine ⟨by simp, ?_⟩
  intro c hc
  rw [toList_assignment, List.mem_append, List.mem_cons] at hc
  rcases hc with hc | rfl | hc
  · exact hfield.unmarked c hc
  · decide
  · exact isMark_eq_false_of_mem_repr hc

/-- The assignment of a pair, as the text of a view has it. -/
def assignment (pair : String × Int64) : String :=
  pair.1 ++ "=" ++ pair.2.toInt.repr

variable {v : View Int64} {name : String} {raw : List String}

private theorem field_mem_of_mem_pairs {pair : String × Int64} (hpair : pair ∈ v.pairs) :
    pair.1 ∈ v.layout.fields :=
  (List.of_mem_zip hpair).1

/-- The text of a view is read back to the pairs of its fields and numbers. -/
theorem readAssignments_display (hdefined : (Layout.define name raw).value = .ok v.layout) :
    readAssignments v.display =
      (v.layout.name, v.pairs.map fun pair => (pair.1, some pair.2.toInt)) := by
  have hfield : ∀ pair ∈ v.pairs, IsCanonical pair.1.toList := fun pair hpair =>
    Layout.isCanonical_field hdefined _ (field_mem_of_mem_pairs hpair)
  have hword : ∀ pair ∈ v.pairs, IsWord (assignment pair) := fun pair hpair =>
    isWord_assignment (hfield pair hpair).isWord _
  have htext : v.display =
      v.layout.name ++ "(" ++ (", ".intercalate (v.pairs.map assignment) ++ ")") := by
    rw [← String.append_assoc]
    rfl
  rw [readAssignments, htext, readBack_enumeration assignment
    (fun pair hpair => (hword pair hpair).words_toList)
    (fun pair hpair => (hword pair hpair).not_mem) (Or.inl rfl), List.map_map]
  refine congrArg (v.layout.name, ·) (List.map_congr_left ?_)
  intro pair hpair
  exact readAssignment_append (hfield pair hpair).not_mem_equals pair.2.toInt

/-- No two pairs are read as the same. -/
private theorem injective_reading :
    Function.Injective fun pair : String × Int64 => (pair.1, some pair.2.toInt) := by
  rintro ⟨field, n⟩ ⟨field', n'⟩ heq
  obtain ⟨hfield, hnumber⟩ := Prod.mk.inj heq
  exact Prod.ext hfield (Int64.toInt_inj.mp (Option.some.inj hnumber))

/-- The fields and the numbers of a view are the two sides of its pairs. -/
private theorem unzip_pairs (hsize : v.buffer.size = v.layout.length) :
    v.pairs.unzip = (v.layout.fields, v.buffer.toList) :=
  List.unzip_zip hsize.symm

/-- The listing of a whole number is its plain text. -/
theorem debug_eq (v : View Int64) : v.debug = "<" ++ v.display ++ ">" := by
  have hsame : v.assignments inspect = v.assignments Element.display := rfl
  simp only [debug, display, hsame, String.append_assoc]
  rfl

/-- The text of a view of whole numbers, over a layout with sanitized names, is read back to the
name of the layout, which may be any text, and to its fields with their numbers; listed, it stands
between angle brackets. Two such views have the same text exactly when the names, the fields and
the buffers of both are equal. -/
theorem assignments_unambiguous (name : String) (raw : List String) (v : View Int64)
    (hdefined : (Layout.define name raw).value = .ok v.layout)
    (hsize : v.buffer.size = v.layout.length) :
    readAssignments v.display =
      (v.layout.name, v.pairs.map fun pair => (pair.1, some pair.2.toInt)) ∧
    v.debug = "<" ++ v.display ++ ">" ∧
    ∀ name' raw' (w : View Int64), (Layout.define name' raw').value = .ok w.layout →
      w.buffer.size = w.layout.length →
      (v.display = w.display ↔ v.layout.name = w.layout.name ∧
        v.layout.fields = w.layout.fields ∧ v.buffer = w.buffer) := by
  have hread := readAssignments_display hdefined
  refine ⟨hread, debug_eq v, ?_⟩
  intro name' raw' w hother hsize'
  constructor
  · intro htext
    rw [htext, readAssignments_display hother] at hread
    obtain ⟨hname, hpairs⟩ := Prod.mk.inj hread
    have hsame : w.pairs = v.pairs := injective_reading.list_map hpairs
    have hunzip := unzip_pairs hsize
    rw [← hsame, unzip_pairs hsize'] at hunzip
    obtain ⟨hfields, hbuffer⟩ := Prod.mk.inj hunzip
    exact ⟨hname.symm, hfields.symm, Array.toList_inj.mp hbuffer.symm⟩
  · rintro ⟨hname, hfields, hbuffer⟩
    simp only [display, assignments, pairs, hname, hfields, hbuffer]

/-- A name with an assignment of its own, before two fields of which one is negative; without the
sign it is another view with another text. -/
theorem assignments_unambiguous_negative :
    let v : View Int64 := ⟨.ofFields "p(x=1, y" ["a_b", "c"], #[-1, 0]⟩
    let w : View Int64 := ⟨.ofFields "p(x=1, y" ["a_b", "c"], #[1, 0]⟩
    (Layout.define "p(x=1, y" ["a-b", "c"]).value = .ok v.layout ∧
      v.buffer.size = v.layout.length ∧ v.display = "p(x=1, y(a_b=-1, c=0)" ∧
      v.debug = "<p(x=1, y(a_b=-1, c=0)>" ∧
      readAssignments v.display = ("p(x=1, y", [("a_b", some (-1)), ("c", some 0)]) ∧
      v.display ≠ w.display := by
  intro v w
  have hdefined : (Layout.define "p(x=1, y" ["a-b", "c"]).value = .ok v.layout := rfl
  have htext : v.display = "p(x=1, y(a_b=-1, c=0)" := by decide
  obtain ⟨hread, hdebug, hiff⟩ := assignments_unambiguous _ _ v hdefined rfl
  refine ⟨hdefined, rfl, htext, ?_, hread, ?_⟩
  · rw [hdebug, htext]
    decide
  · intro hsame
    obtain ⟨_, _, hbuffer⟩ := (hiff _ _ w hdefined rfl).mp hsame
    exact absurd hbuffer (by decide)

end View

end KeyedContainers
