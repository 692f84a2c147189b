import KeyedContainers.Proofs.FieldName.Canonical
import KeyedContainers.Proofs.View.Definition
import KeyedContainers.View.Step

/-!
# Resolving names

The table of a defined layout is the inverse of its list of fields: a name is at the position where
it stands in the list. Every field of a layout with sanitized names is a canonical name, so a raw
name that sanitizing changes resolves to nothing, and no raw name ever resolves to the field of
another.
-/

namespace KeyedContainers

namespace FieldTable

/-- Setting a name leaves the others where they are. -/
private theorem find?_set_of_ne {name other : String} (hne : other ≠ name) (table : FieldTable)
    (position : Nat) : (table.set name position).find? other = table.find? other := by
  rcases table with ⟨entries⟩
  simp only [find?, set, List.lookup_cons, beq_eq_false_iff_ne.mpr hne]
  induction entries with
  | nil => rfl
  | cons entry entries ih =>
    rcases entry with ⟨key, value⟩
    by_cases hkey : key = name
    · subst hkey
      rw [List.filter_cons_of_neg (by simp), ih, List.lookup_cons, beq_eq_false_iff_ne.mpr hne]
    · rw [List.filter_cons_of_pos (by simpa using hkey), List.lookup_cons, List.lookup_cons, ih]

/-- Setting distinct names one after another puts each at its place among them. -/
private theorem find?_foldl_set {names : List String} (hnodup : names.Nodup) (start : Nat)
    (table : FieldTable) (name : String) :
    ((names.zipIdx start).foldl (fun t entry => t.set entry.1 entry.2) table).find? name =
      ((names.idxOf? name).map (start + ·)).or (table.find? name) := by
  induction names generalizing start table with
  | nil => rfl
  | cons other names ih =>
    obtain ⟨hother, hrest⟩ := List.nodup_cons.mp hnodup
    rw [List.zipIdx_cons, List.foldl_cons, ih hrest, List.idxOf?_cons]
    by_cases hname : other = name
    · subst hname
      rw [List.idxOf?_eq_none_iff.mpr hother, find?_set_self, beq_self_eq_true, if_pos rfl]
      rfl
    · rw [find?_set_of_ne (Ne.symm hname), beq_eq_false_iff_ne.mpr hname]
      simp only [Bool.false_eq_true, if_false, Option.map_map]
      congr 2
      funext i
      simp only [Function.comp_apply]
      omega

/-- The table of distinct names has each name at its position in the list. -/
theorem find?_ofNames {names : List String} (hnodup : names.Nodup) (name : String) :
    (ofNames names).find? name = names.idxOf? name := by
  rw [ofNames, find?_foldl_set hnodup, find?_empty, Option.or_none]
  simp only [Nat.zero_add, Option.map_id']

end FieldTable

namespace Layout

open FieldName

/-- The fields of a layout are distinct and its table has their positions. -/
structure Lawful (layout : Layout) : Prop where
  nodup : layout.fields.Nodup
  table_eq : layout.table = .ofNames layout.fields

variable {layout : Layout}

/-- A definition succeeds for distinct raw names with distinct forms only, and the layout then has
these forms as its fields. -/
theorem eq_ofFields_of_defineWith {options : LayoutOptions} {name : String} {raw : List String}
    (hdefined : (defineWith options name raw).value = .ok layout) :
    (raw.map (form options)).Nodup ∧ layout = ofFields name (raw.map (form options)) := by
  by_cases hraw : raw.Nodup
  · by_cases hfields : (raw.map (form options)).Nodup
    · rw [defineWith_of_nodup options name hraw hfields, Except.ok.injEq] at hdefined
      exact ⟨hfields, hdefined.symm⟩
    · rw [defineWith_of_clash options name hraw hfields] at hdefined
      cases hdefined
  · rw [defineWith_of_repeated options name hraw] at hdefined
    cases hdefined

/-- Every defined layout is lawful. -/
theorem lawful_of_defineWith {options : LayoutOptions} {name : String} {raw : List String}
    (hdefined : (defineWith options name raw).value = .ok layout) : Lawful layout := by
  obtain ⟨hnodup, rfl⟩ := eq_ofFields_of_defineWith hdefined
  exact ⟨hnodup, rfl⟩

namespace Lawful

/-- A name is at the position where it stands in the list of fields. -/
theorem position?_eq_some_iff (hlawful : Lawful layout) {field : String} {i : Nat} :
    layout.position? field = some i ↔ layout.fields[i]? = some field := by
  rw [position?, hlawful.table_eq, FieldTable.find?_ofNames hlawful.nodup,
    List.idxOf?_eq_some_iff]
  constructor
  · rintro ⟨hi, hfield, _⟩
    exact List.getElem?_eq_some_iff.mpr ⟨hi, hfield⟩
  · intro hfield
    obtain ⟨hi, rfl⟩ := List.getElem?_eq_some_iff.mp hfield
    refine ⟨hi, rfl, fun j hj heq => ?_⟩
    exact Nat.ne_of_lt hj (hlawful.nodup.getElem_inj_iff.mp heq)

/-- A name has no position exactly when it is not a field. -/
theorem position?_eq_none_iff (hlawful : Lawful layout) {field : String} :
    layout.position? field = none ↔ field ∉ layout.fields := by
  rw [position?, hlawful.table_eq, FieldTable.find?_ofNames hlawful.nodup,
    List.idxOf?_eq_none_iff]

/-- The position of a name is the only one where it stands. -/
theorem position_unique (hlawful : Lawful layout) {field : String} {i j : Nat}
    (hi : layout.fields[i]? = some field) (hj : layout.fields[j]? = some field) : i = j := by
  rw [← hlawful.position?_eq_some_iff] at hi hj
  exact Option.some.inj (hi.symm.trans hj)

end Lawful

/-- The position of a name resolves it, and without a position it is undeclared. -/
theorem resolve_eq (layout : Layout) (field : String) :
    layout.resolve field =
      (layout.position? field).elim (.error (.undeclaredField layout.name field layout.fields))
        .ok := by
  unfold resolve
  cases layout.position? field <;> rfl

namespace Lawful

/-- A field resolves to the position where it stands, and to no other. -/
theorem resolve_eq_ok_iff (hlawful : Lawful layout) {field : String} {i : Nat} :
    layout.resolve field = .ok i ↔ layout.fields[i]? = some field := by
  rw [← hlawful.position?_eq_some_iff, resolve_eq]
  cases layout.position? field with
  | none => simp
  | some j => simp

/-- What is not a field is undeclared, and nothing else is. -/
theorem resolve_eq_error_iff (hlawful : Lawful layout) {field : String} {e : ViewError} :
    layout.resolve field = .error e ↔
      field ∉ layout.fields ∧ e = .undeclaredField layout.name field layout.fields := by
  rw [← hlawful.position?_eq_none_iff, resolve_eq]
  cases layout.position? field with
  | none => simp [eq_comm]
  | some j => simp

end Lawful

/-- In every defined layout, whatever the options, the table of positions is the inverse of the list
of fields, which has the forms of the raw names in their order: the field at a position has this
position, a name has a position only if it is the field there, and a name without a position is no
field. So resolving a name fails exactly if it is no field, and the error tells the name of the
layout, the name that was asked for and all fields in their order. -/
theorem table_inverts_fields (options : LayoutOptions) (name : String) (raw : List String)
    (layout : Layout) (hdefined : (defineWith options name raw).value = .ok layout) :
    layout.name = name ∧ layout.fields = raw.map (form options) ∧
    (∀ (i : Nat) (hi : i < layout.length), layout.position? (layout.fields.get ⟨i, hi⟩) = some i) ∧
    (∀ s i, layout.position? s = some i →
      ∃ hi : i < layout.length, layout.fields.get ⟨i, hi⟩ = s) ∧
    (∀ s, layout.position? s = none ↔ s ∉ layout.fields) ∧
    (∀ s i, layout.resolve s = .ok i ↔ layout.fields[i]? = some s) ∧
    (∀ s e, layout.resolve s = .error e ↔
      s ∉ layout.fields ∧ e = .undeclaredField layout.name s layout.fields) := by
  have hlawful := lawful_of_defineWith hdefined
  obtain ⟨_, hlayout⟩ := eq_ofFields_of_defineWith hdefined
  refine ⟨congrArg Layout.name hlayout, congrArg Layout.fields hlayout, ?_, ?_, ?_, ?_, ?_⟩
  · intro i hi
    exact hlawful.position?_eq_some_iff.mpr (List.getElem?_eq_getElem hi)
  · intro s i hposition
    exact List.getElem?_eq_some_iff.mp (hlawful.position?_eq_some_iff.mp hposition)
  · exact fun s => hlawful.position?_eq_none_iff
  · exact fun s i => hlawful.resolve_eq_ok_iff
  · exact fun s e => hlawful.resolve_eq_error_iff

/-- Taken as they are, a name may be empty or read like another after sanitizing; sanitized, only
the form of a raw name is a field. -/
theorem table_inverts_fields_forms :
    let plain := ofFields "V" ["a-b", "", "a_b"]
    let sanitized := ofFields "V" ["a_b", "_9"]
    (defineWith ⟨false⟩ "V" ["a-b", "", "a_b"]).value = .ok plain ∧
      plain.position? "" = some 1 ∧ plain.resolve "a_b" = .ok 2 ∧
      (defineWith ⟨true⟩ "V" ["a-b", "9"]).value = .ok sanitized ∧
      sanitized.resolve "_9" = .ok 1 ∧
      sanitized.resolve "9" = .error (.undeclaredField "V" "9" ["a_b", "_9"]) := by
  intro plain sanitized
  have hplain : (defineWith ⟨false⟩ "V" ["a-b", "", "a_b"]).value = .ok plain := rfl
  have hsanitized : (defineWith ⟨true⟩ "V" ["a-b", "9"]).value = .ok sanitized := rfl
  obtain ⟨_, _, hat, _, _, hplace, _⟩ := table_inverts_fields _ _ _ plain hplain
  obtain ⟨_, _, _, _, _, hrenamed, hmissing⟩ := table_inverts_fields _ _ _ sanitized hsanitized
  refine ⟨hplain, hat 1 (by decide), (hplace "a_b" 2).mpr rfl, hsanitized,
    (hrenamed "_9" 1).mpr rfl, (hmissing "9" _).mpr ⟨by decide, rfl⟩⟩

end Layout

end KeyedContainers
