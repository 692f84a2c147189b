import KeyedContainers.View.Layout
import Mathlib.Data.Finset.Card

/-!
# Defining a layout

A definition has three possible ends. Repeated raw names refuse it, whatever sanitizing would make
of them; otherwise sanitized names that coincide refuse it; otherwise the layout has the fields in
the order in which they were declared. A refusal lists each offending name once and reports
nothing, and a success reports one event.
-/

namespace KeyedContainers

/-- A list has exactly the names with some property, each of them once. -/
structure ListsOnce (names : List String) (p : String → Prop) : Prop where
  nodup : names.Nodup
  mem_iff : ∀ name, name ∈ names ↔ p name

namespace FieldName

/-- There are no repeated names exactly when the names are distinct. -/
theorem repeated_eq_nil_iff {names : List String} : repeated names = [] ↔ names.Nodup := by
  rw [List.eq_nil_iff_forall_not_mem, List.nodup_iff_count_le_one]
  refine forall_congr' fun name => ?_
  rw [mem_repeated]
  omega

/-- The repeated names are those that occur at least twice, each listed once. -/
theorem listsOnce_repeated (names : List String) :
    ListsOnce (repeated names) fun name => 2 ≤ names.count name :=
  ⟨nodup_repeated names, fun _ => mem_repeated⟩

/-- An image of distinct names is repeated when two of them have it. -/
private theorem two_le_count_map_iff {names : List String} (hnodup : names.Nodup)
    (f : String → String) (image : String) :
    2 ≤ (names.map f).count image ↔
      ∃ a ∈ names, ∃ b ∈ names, a ≠ b ∧ f a = image ∧ f b = image := by
  have hcount : (names.map f).count image = (names.filter fun a => f a == image).toFinset.card := by
    rw [List.toFinset_card_of_nodup (hnodup.filter _), List.count_eq_countP, List.countP_map,
      List.countP_eq_length_filter]
    rfl
  rw [hcount, ← Nat.lt_iff_add_one_le, Finset.one_lt_card]
  simp only [List.mem_toFinset, List.mem_filter, beq_iff_eq]
  constructor
  · rintro ⟨a, ⟨ha, hfa⟩, b, ⟨hb, hfb⟩, hne⟩
    exact ⟨a, ha, b, hb, hne, hfa, hfb⟩
  · rintro ⟨a, ha, b, hb, hne, hfa, hfb⟩
    exact ⟨a, ⟨ha, hfa⟩, b, ⟨hb, hfb⟩, hne⟩

end FieldName

namespace Layout

open FieldName

/-- The field name that a raw name gets. -/
def form (options : LayoutOptions) (name : String) : String :=
  if options.sanitize then sanitize name else name

@[simp] theorem map_form_verbatim (raw : List String) : raw.map (form ⟨false⟩) = raw :=
  List.map_id raw

@[simp] theorem map_form_sanitizing (raw : List String) :
    raw.map (form ⟨true⟩) = raw.map sanitize := rfl

/-- The fields differ from the raw names when sanitizing changed one of them. -/
theorem map_form_bne (options : LayoutOptions) (raw : List String) :
    (raw.map (form options) != raw) =
      (options.sanitize && raw.any fun name => sanitize name != name) := by
  rcases options with ⟨sanitized⟩
  cases sanitized with
  | false => rw [map_form_verbatim, bne_self_eq_false, Bool.false_and]
  | true =>
    have hsame : raw.map sanitize = raw ↔ ∀ name ∈ raw, sanitize name = name := by
      have hid := List.map_inj_left (f := sanitize) (g := id) (l := raw)
      rwa [List.map_id] at hid
    rw [map_form_sanitizing, Bool.true_and, Bool.eq_iff_iff, bne_iff_ne, ne_eq, hsame,
      List.any_eq_true]
    simp only [bne_iff_ne, not_forall, exists_prop, ne_eq]

/-- Of distinct raw names, two get the same field when sanitizing makes them one. -/
theorem not_nodup_map_form_iff (options : LayoutOptions) {raw : List String} (hraw : raw.Nodup) :
    ¬ (raw.map (form options)).Nodup ↔
      options.sanitize = true ∧ ∃ a ∈ raw, ∃ b ∈ raw, a ≠ b ∧ sanitize a = sanitize b := by
  rcases options with ⟨sanitized⟩
  cases sanitized with
  | false => simp [hraw]
  | true =>
    rw [map_form_sanitizing, List.nodup_map_iff_inj_on hraw]
    push Not
    simp only [true_and, ne_eq, and_comm]

/-- A list of names is refused with its repeated names, if it has any. -/
theorem ensureUnique_eq (stage : NameStage) (names : List String) :
    ensureUnique stage names =
      if names.Nodup then .ok () else .error (.duplicateField stage (repeated names)) := by
  by_cases hnodup : names.Nodup
  · rw [if_pos hnodup, ensureUnique_eq_ok_iff, repeated_eq_nil_iff]
    exact hnodup
  · rw [if_neg hnodup, ensureUnique]
    split
    · rename_i hnil
      exact absurd (repeated_eq_nil_iff.mp hnil) hnodup
    · rfl

/-- The raw names must be distinct, and then the fields must be. -/
theorem fieldNames_eq (options : LayoutOptions) (raw : List String) :
    fieldNames options raw =
      if raw.Nodup then
        if (raw.map (form options)).Nodup then .ok (raw.map (form options))
        else .error (.duplicateField .sanitized (repeated (raw.map (form options))))
      else .error (.duplicateField .raw (repeated raw)) := by
  rcases options with ⟨sanitized⟩
  simp only [fieldNames, ensureUnique_eq]
  by_cases hraw : raw.Nodup
  · rw [if_pos hraw, if_pos hraw]
    cases sanitized with
    | false =>
      rw [map_form_verbatim, if_pos hraw]
      rfl
    | true =>
      rw [map_form_sanitizing]
      by_cases hfields : (raw.map sanitize).Nodup
      · simp only [if_pos hfields]
        rfl
      · simp only [if_neg hfields]
        rfl
  · rw [if_neg hraw, if_neg hraw]
    rfl

/-- A refused definition reports nothing and an accepted one reports the layout. -/
theorem defineWith_eq (options : LayoutOptions) (name : String) (raw : List String) :
    defineWith options name raw =
      match fieldNames options raw with
      | .error e => ⟨.error e, .empty⟩
      | .ok fields =>
        ⟨.ok (ofFields name fields),
          ⟨[.definedLayout name fields.length (fields != raw)], []⟩⟩ := by
  unfold defineWith
  cases fieldNames options raw <;> rfl

section Ends

variable (options : LayoutOptions) (name : String) {raw : List String}

/-- Repeated raw names refuse a definition. -/
theorem defineWith_of_repeated (hraw : ¬ raw.Nodup) :
    defineWith options name raw = ⟨.error (.duplicateField .raw (repeated raw)), .empty⟩ := by
  rw [defineWith_eq, fieldNames_eq, if_neg hraw]

/-- Distinct raw names are refused when their fields are repeated. -/
theorem defineWith_of_clash (hraw : raw.Nodup) (hfields : ¬ (raw.map (form options)).Nodup) :
    defineWith options name raw =
      ⟨.error (.duplicateField .sanitized (repeated (raw.map (form options)))), .empty⟩ := by
  rw [defineWith_eq, fieldNames_eq, if_pos hraw, if_neg hfields]

/-- Distinct raw names with distinct fields make a layout. -/
theorem defineWith_of_nodup (hraw : raw.Nodup) (hfields : (raw.map (form options)).Nodup) :
    defineWith options name raw =
      ⟨.ok (ofFields name (raw.map (form options))),
        ⟨[.definedLayout name raw.length
          (options.sanitize && raw.any fun n => sanitize n != n)], []⟩⟩ := by
  rw [defineWith_eq, fieldNames_eq, if_pos hraw, if_pos hfields, ← map_form_bne]
  simp only [List.length_map]

end Ends

/-- A definition ends in one of three ways. Where a raw name occurs twice it is refused with the raw
names that do, each once; otherwise, where names are sanitized and two of them become one, it is
refused with the names that two become, each once; and otherwise the fields are the forms of the
raw names, in their order and all distinct. Only in the last case is an event reported, one that
tells the number of fields and whether sanitizing changed any. -/
theorem defineWith_outcome (options : LayoutOptions) (name : String) (raw : List String) :
    let outcome := defineWith options name raw
    ((∃ n, 2 ≤ raw.count n) →
      ∃ duplicates, outcome = ⟨.error (.duplicateField .raw duplicates), .empty⟩ ∧
        ListsOnce duplicates fun n => 2 ≤ raw.count n) ∧
    ((∀ n, raw.count n ≤ 1) → options.sanitize = true →
      (∃ a ∈ raw, ∃ b ∈ raw, a ≠ b ∧ sanitize a = sanitize b) →
      ∃ duplicates, outcome = ⟨.error (.duplicateField .sanitized duplicates), .empty⟩ ∧
        ListsOnce duplicates fun n =>
          ∃ a ∈ raw, ∃ b ∈ raw, a ≠ b ∧ sanitize a = n ∧ sanitize b = n) ∧
    ((∀ n, raw.count n ≤ 1) →
      ¬ (options.sanitize = true ∧ ∃ a ∈ raw, ∃ b ∈ raw, a ≠ b ∧ sanitize a = sanitize b) →
      ∃ layout, outcome = ⟨.ok layout, ⟨[.definedLayout name raw.length
          (options.sanitize && raw.any fun n => sanitize n != n)], []⟩⟩ ∧
        layout.name = name ∧ layout.fields.Nodup ∧
        layout.fields = if options.sanitize then raw.map sanitize else raw) := by
  intro outcome
  refine ⟨?_, ?_, ?_⟩
  · rintro ⟨n, hn⟩
    have hraw : ¬ raw.Nodup := by
      rw [List.nodup_iff_count_le_one]
      exact fun hone => Nat.not_succ_le_self 1 (Nat.le_trans hn (hone n))
    exact ⟨repeated raw, defineWith_of_repeated options name hraw, listsOnce_repeated raw⟩
  · intro hone hsanitize hclash
    have hraw := List.nodup_iff_count_le_one.mpr hone
    have hfields := (not_nodup_map_form_iff options hraw).mpr ⟨hsanitize, hclash⟩
    have hform : raw.map (form options) = raw.map sanitize :=
      List.map_congr_left fun n _ => if_pos hsanitize
    refine ⟨_, defineWith_of_clash options name hraw hfields, nodup_repeated _, ?_⟩
    intro n
    rw [mem_repeated, hform, two_le_count_map_iff hraw]
  · intro hone hdistinct
    have hraw := List.nodup_iff_count_le_one.mpr hone
    have hfields : (raw.map (form options)).Nodup :=
      not_not.mp fun hno => hdistinct ((not_nodup_map_form_iff options hraw).mp hno)
    refine ⟨_, defineWith_of_nodup options name hraw hfields, rfl, hfields, ?_⟩
    change raw.map (form options) = _
    rcases options with ⟨sanitized⟩
    cases sanitized with
    | false => exact map_form_verbatim raw
    | true => rfl

end Layout

end KeyedContainers
