import KeyedContainers.Proofs.FieldName.Blocks
import KeyedContainers.Proofs.FieldName.Canonical
import KeyedContainers.Proofs.View.Definition

/-!
# Names that collide

Sanitizing makes two names one when their condensed forms are equal. There is one other way: an
underscore is put before what would begin with a number, or is empty, and so meets a name whose
condensed form has this underscore already. Distinct raw names make a layout unless two of them
collide in one of these ways.
-/

namespace KeyedContainers

open Text

namespace FieldName

/-- The first characters are the second ones after an underscore, and these are none or begin with
a number. -/
def Underscored (cs ds : List Char) : Prop :=
  cs = '_' :: ds ∧ (ds = [] ∨
    ∃ first rest, ds = first :: rest ∧ isAlphanumeric first = true ∧ isAlphabetic first = false)

/-- The condensed forms are equal, or they differ by the underscore before a number or nothing. -/
def Collide (a b : String) : Prop :=
  condensed a = condensed b ∨ Underscored (condensed a) (condensed b) ∨
    Underscored (condensed b) (condensed a)

private theorem beginsWell_underscore (cs : List Char) : beginsWell ('_' :: cs) = true := by
  simp [beginsWell]

/-- Mending makes characters one that are equal, or of which some begin ill and the others are
these after an underscore. -/
theorem mendStart_eq_mendStart_iff {cs ds : List Char} :
    mendStart cs = mendStart ds ↔ cs = ds ∨ (cs = '_' :: ds ∧ beginsWell ds = false) ∨
      (ds = '_' :: cs ∧ beginsWell cs = false) := by
  unfold mendStart
  by_cases hcs : beginsWell cs = true
  · by_cases hds : beginsWell ds = true
    · simp [hcs, hds]
    · have hne : cs ≠ ds := by
        rintro rfl
        exact hds hcs
      simp [hcs, hds, hne]
  · by_cases hds : beginsWell ds = true
    · have hne : cs ≠ ds := by
        rintro rfl
        exact hcs hds
      simp [hcs, hds, hne, eq_comm]
    · have hno : ∀ other, beginsWell other ≠ true → ∀ rest, other ≠ '_' :: rest := by
        rintro _ hill rest rfl
        exact hill (beginsWell_underscore rest)
      simp [hcs, hds, hno cs hcs ds, hno ds hds cs]

/-- Letters, numbers and underscores begin ill when there are none, or a number is first. -/
private theorem beginsWell_eq_false_iff {cs : List Char}
    (hallowed : ∀ c ∈ cs, isAlphanumeric c = true ∨ c = '_') :
    beginsWell cs = false ↔ cs = [] ∨
      ∃ first rest, cs = first :: rest ∧ isAlphanumeric first = true ∧
        isAlphabetic first = false := by
  cases cs with
  | nil => simp [beginsWell]
  | cons first rest =>
    have hfirst := hallowed first (List.mem_cons_self ..)
    simp only [beginsWell, Bool.or_eq_false_iff, beq_eq_false_iff_ne, reduceCtorEq, false_or,
      List.cons.injEq, existsAndEq, true_and]
    constructor
    · rintro ⟨hletter, hne⟩
      exact ⟨hfirst.resolve_right hne, hletter⟩
    · rintro ⟨halphanumeric, hletter⟩
      exact ⟨hletter, ne_underscore_of_isAlphanumeric halphanumeric⟩

/-- Collapsing a name gives its condensed form. -/
theorem collapse_toList (name : String) : collapse false name.toList = condensed name :=
  (isCut_iff.mpr rfl).collapse_eq

theorem allowed_condensed (name : String) :
    ∀ c ∈ condensed name, isAlphanumeric c = true ∨ c = '_' := by
  rw [← collapse_toList]
  exact allowed_collapse false _

/-- Sanitizing makes two names one exactly when they collide. -/
theorem sanitize_eq_sanitize_iff {a b : String} : sanitize a = sanitize b ↔ Collide a b := by
  rw [← String.toList_inj, toList_sanitize, toList_sanitize, collapse_toList, collapse_toList,
    mendStart_eq_mendStart_iff, beginsWell_eq_false_iff (allowed_condensed a),
    beginsWell_eq_false_iff (allowed_condensed b)]
  exact Iff.rfl

end FieldName

namespace Layout

open FieldName

/-- A definition with sanitized names is refused for distinct raw names exactly when two of these
become one. -/
theorem exists_error_define_iff (name : String) {raw : List String} (hraw : raw.Nodup) :
    (∃ e, (define name raw).value = .error e) ↔
      ∃ a ∈ raw, ∃ b ∈ raw, a ≠ b ∧ sanitize a = sanitize b := by
  have hclash := not_nodup_map_form_iff defaultOptions hraw
  rw [show defaultOptions.sanitize = true from rfl, eq_self, true_and] at hclash
  rw [← hclash, define]
  constructor
  · rintro ⟨e, hrefused⟩ hfields
    rw [defineWith_of_nodup defaultOptions name hraw hfields] at hrefused
    cases hrefused
  · intro hfields
    rw [defineWith_of_clash defaultOptions name hraw hfields]
    exact ⟨_, rfl⟩

/-- Two names have the same sanitized form exactly when their condensed forms are equal, or one of
these is the other after an underscore and the other is empty or begins with a number. So distinct
raw names are refused exactly when there are two of this kind among them. -/
theorem colliding_names :
    (∀ a b, sanitize a = sanitize b ↔ Collide a b) ∧
    ∀ name raw, raw.Nodup → ((∃ e, (define name raw).value = .error e) ↔
      ∃ a ∈ raw, ∃ b ∈ raw, a ≠ b ∧ Collide a b) := by
  refine ⟨fun a b => sanitize_eq_sanitize_iff, ?_⟩
  intro name raw hraw
  rw [exists_error_define_iff name hraw]
  simp only [sanitize_eq_sanitize_iff]

/-- The names `9` and `_9` differ in their condensed forms and still collide. -/
theorem colliding_names_number :
    condensed "9" ≠ condensed "_9" ∧ sanitize "9" = sanitize "_9" ∧
      ∃ e, (define "V" ["a", "9", "_9"]).value = .error e := by
  have hcollide : Collide "9" "_9" :=
    Or.inr (Or.inr ⟨by decide, Or.inr ⟨'9', [], by decide, by decide, by decide⟩⟩)
  obtain ⟨hkernel, hrefused⟩ := colliding_names
  refine ⟨by decide, (hkernel "9" "_9").mpr hcollide, ?_⟩
  exact (hrefused "V" ["a", "9", "_9"] (by decide)).mpr
    ⟨"9", by decide, "_9", by decide, by decide, hcollide⟩

end Layout

end KeyedContainers
