import KeyedContainers.Proofs.View.Naming

/-!
# Defining a layout again

The fields of a defined layout are distinct names, and the fields of a layout with sanitized names
are canonical. Declared again they are therefore accepted as they are, and make the same layout. The
table of positions depends on the list of fields only, so two defined layouts are equal as soon as
their names and fields are, whatever raw names and options they came from.
-/

namespace KeyedContainers

namespace FieldTable

variable {table : FieldTable}

/-- Setting a name keeps the names of a table distinct. -/
theorem nodup_set (hnodup : (table.entries.map (·.1)).Nodup) (name : String) (position : Nat) :
    ((table.set name position).entries.map (·.1)).Nodup := by
  rw [set, List.map_cons, List.nodup_cons]
  refine ⟨?_, hnodup.sublist (List.filter_sublist.map _)⟩
  intro hmem
  obtain ⟨entry, hentry, hname⟩ := List.mem_map.mp hmem
  simpa [hname] using (List.mem_filter.mp hentry).2

/-- The table of a list of names has every name once. -/
theorem nodup_ofNames (names : List String) : ((ofNames names).entries.map (·.1)).Nodup := by
  unfold ofNames
  generalize names.zipIdx = places
  have hset : ∀ table : FieldTable, (table.entries.map (·.1)).Nodup →
      ((places.foldl (fun t entry => t.set entry.1 entry.2) table).entries.map (·.1)).Nodup := by
    induction places with
    | nil => exact fun _ hnodup => hnodup
    | cons place places ih => exact fun table hnodup => ih _ (nodup_set hnodup place.1 place.2)
  exact hset empty List.nodup_nil

/-- A table that has every name once gives each entry its position. -/
theorem find?_of_mem (hnodup : (table.entries.map (·.1)).Nodup) {entry : String × Nat}
    (hmem : entry ∈ table.entries) : table.find? entry.1 = some entry.2 := by
  obtain ⟨before, after, hsplit⟩ := List.append_of_mem hmem
  refine List.lookup_eq_some_iff.mpr ⟨before, after, hsplit, ?_⟩
  intro other hother
  rw [hsplit, List.map_append, List.map_cons] at hnodup
  have hne := (List.nodup_append.mp hnodup).2.2 other.1 (List.mem_map_of_mem hother) entry.1
    (List.mem_cons_self ..)
  exact bne_iff_ne.mpr (Ne.symm hne)

/-- The table of a list of names is equal to itself. -/
theorem beq_ofNames (names : List String) : (ofNames names == ofNames names) = true := by
  change (_ == _ && List.all _ _) = true
  rw [beq_self_eq_true, Bool.true_and, List.all_eq_true]
  intro entry hmem
  rw [find?_of_mem (nodup_ofNames names) hmem, beq_self_eq_true]

end FieldTable

namespace Layout

open FieldName

variable {layout other : Layout}

/-- Layouts are compared by their names, their fields and their tables. -/
theorem beq_eq_and (layout other : Layout) :
    (layout == other) =
      (layout.name == other.name && (layout.fields == other.fields &&
        layout.table == other.table)) := rfl

/-- Lawful layouts are equal exactly when their names and their fields are. -/
theorem Lawful.beq_iff (hlawful : Lawful layout) (hother : Lawful other) :
    (layout == other) = true ↔ layout.name = other.name ∧ layout.fields = other.fields := by
  simp only [beq_eq_and, Bool.and_eq_true, beq_iff_eq]
  constructor
  · rintro ⟨hname, hfields, _⟩
    exact ⟨hname, hfields⟩
  · rintro ⟨hname, hfields⟩
    refine ⟨hname, hfields, ?_⟩
    rw [hlawful.table_eq, hother.table_eq, hfields]
    exact FieldTable.beq_ofNames other.fields

/-- Fields that are their own forms make the same layout again, in which none is renamed. -/
theorem Lawful.defineWith_fields (hlawful : Lawful layout) {options : LayoutOptions}
    (hforms : ∀ field ∈ layout.fields, form options field = field) :
    defineWith options layout.name layout.fields =
      ⟨.ok layout, ⟨[.definedLayout layout.name layout.fields.length false], []⟩⟩ := by
  have hsame : layout.fields.map (form options) = layout.fields :=
    (List.map_congr_left hforms).trans (List.map_id _)
  have hlayout : ofFields layout.name layout.fields = layout := by
    rw [ofFields, ← hlawful.table_eq]
  have hnodup : (layout.fields.map (form options)).Nodup := hsame.symm ▸ hlawful.nodup
  rw [defineWith_of_nodup options layout.name hlawful.nodup hnodup, ← map_form_bne, hsame,
    hlayout, bne_self_eq_false]

/-- The fields of a layout with sanitized names are their own sanitized forms. -/
theorem sanitize_field (name : String) (raw : List String)
    (hdefined : (define name raw).value = .ok layout) :
    ∀ field ∈ layout.fields, sanitize field = field := by
  rw [fields_of_define hdefined]
  intro field hfield
  obtain ⟨n, _, rfl⟩ := List.mem_map.mp hfield
  exact sanitize_sanitize n

/-- The name and the fields of a defined layout define the same layout when the fields are taken
as they are, and also when they are sanitized if they were sanitized at first; no field is renamed
then. Two defined layouts, of whatever raw names and options, are equal, tables included, exactly
when their names and their fields are. -/
theorem defined_again (options : LayoutOptions) (name : String) (raw : List String)
    (layout : Layout) (hdefined : (defineWith options name raw).value = .ok layout) :
    let again : Traced (Except ViewError Layout) :=
      ⟨.ok layout, ⟨[.definedLayout layout.name layout.fields.length false], []⟩⟩
    defineWith ⟨false⟩ layout.name layout.fields = again ∧
    (options.sanitize = true → define layout.name layout.fields = again) ∧
    ∀ options' name' raw' other, (defineWith options' name' raw').value = .ok other →
      ((layout == other) = true ↔ layout.name = other.name ∧ layout.fields = other.fields) := by
  intro again
  have hlawful := lawful_of_defineWith hdefined
  refine ⟨hlawful.defineWith_fields fun _ _ => rfl, ?_, ?_⟩
  · rcases options with ⟨sanitized⟩
    rintro rfl
    exact hlawful.defineWith_fields (sanitize_field name raw hdefined)
  · intro options' name' raw' other hother
    exact hlawful.beq_iff (lawful_of_defineWith hother)

/-- A layout of sanitized names equals the one of the same fields taken as they are, and not the one
of the same fields in another order. -/
theorem defined_again_verbatim :
    let layout := ofFields "V" ["a_b", "c"]
    (define "V" ["a-b", "c"]).value = .ok layout ∧
      (define "V" ["a_b", "c"]).value = .ok layout ∧
      (defineWith ⟨false⟩ "V" ["a_b", "c"]).value = .ok layout ∧
      (layout == layout) = true ∧ (layout == ofFields "V" ["c", "a_b"]) = false := by
  intro layout
  have hdefined : (define "V" ["a-b", "c"]).value = .ok layout := rfl
  obtain ⟨hverbatim, hsanitized, hequal⟩ :=
    defined_again defaultOptions "V" ["a-b", "c"] layout hdefined
  have hturned : ¬ (layout == ofFields "V" ["c", "a_b"]) = true := by
    rw [hequal ⟨false⟩ "V" ["c", "a_b"] _ rfl]
    decide
  exact ⟨hdefined, congrArg Traced.value (hsanitized rfl), congrArg Traced.value hverbatim,
    (hequal defaultOptions "V" ["a-b", "c"] _ hdefined).mpr ⟨rfl, rfl⟩,
    (Bool.not_eq_true _).mp hturned⟩

end Layout

end KeyedContainers
