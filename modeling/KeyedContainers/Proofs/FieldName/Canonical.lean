import KeyedContainers.FieldName.Sanitize
import Mathlib.Data.List.Chain
import Mathlib.Data.Set.Basic

/-!
# Canonical names

A canonical name has letters, numbers and single underscores only, and begins with a letter or an
underscore. Sanitizing makes every name canonical and leaves a canonical name as it is, so the
canonical names are its fixed points, and sanitizing a second time changes nothing.
-/

namespace KeyedContainers.FieldName

open Text

/-- No two underscores stand next to each other. -/
def Separated (cs : List Char) : Prop := cs.IsChain fun c d => ¬ (c = '_' ∧ d = '_')

/-- The characters of a name that sanitizing leaves as it is. -/
structure IsCanonical (cs : List Char) : Prop where
  /-- There are letters, numbers and underscores only. -/
  allowed : ∀ c ∈ cs, isAlphanumeric c = true ∨ c = '_'
  separated : Separated cs
  /-- There is a first character, and it may begin an identifier. -/
  begins : beginsWell cs = true

/-- Anything that is separated may follow a character other than an underscore. -/
theorem Separated.cons {c : Char} {cs : List Char} (hcs : Separated cs) (hc : c ≠ '_') :
    Separated (c :: cs) := by
  cases cs with
  | nil => exact List.isChain_singleton c
  | cons d ds => exact List.isChain_cons_cons.mpr ⟨fun hboth => hc hboth.1, hcs⟩

/-- An underscore may stand before what does not begin with one. -/
theorem Separated.underscore_cons {cs : List Char} (hcs : Separated cs)
    (hhead : cs.head? ≠ some '_') : Separated ('_' :: cs) := by
  cases cs with
  | nil => exact List.isChain_singleton '_'
  | cons d ds =>
    refine List.isChain_cons_cons.mpr ⟨?_, hcs⟩
    rintro ⟨_, rfl⟩
    exact hhead rfl

/-- Characters are separated when no two underscores follow one another among them. -/
private theorem separated_iff {cs : List Char} : Separated cs ↔ ¬ ['_', '_'] <:+: cs := by
  rw [Separated, List.isChain_iff_forall_rel_of_append_cons_cons]
  constructor
  · rintro hpairs ⟨before, rest, hcs⟩
    have hsplit : cs = before ++ '_' :: '_' :: rest := by
      rw [← hcs, List.append_assoc, List.cons_append, List.cons_append, List.nil_append]
    exact hpairs hsplit ⟨rfl, rfl⟩
  · rintro hnone c d before rest rfl ⟨rfl, rfl⟩
    exact hnone ⟨before, rest, by simp⟩

/-- A name begins well when its first character is a letter or an underscore, and there is one. -/
private theorem beginsWell_iff {cs : List Char} : beginsWell cs = true ↔
    cs ≠ [] ∧ ∀ first ∈ cs.head?, isAlphabetic first = true ∨ first = '_' := by
  cases cs with
  | nil => simp [beginsWell]
  | cons first rest => simp [beginsWell]

/-- What makes a name canonical, character by character. -/
theorem isCanonical_iff {cs : List Char} :
    IsCanonical cs ↔ cs ≠ [] ∧ (∀ c ∈ cs, isAlphanumeric c = true ∨ c = '_') ∧
      ¬ ['_', '_'] <:+: cs ∧ ∀ first ∈ cs.head?, isAlphabetic first = true ∨ first = '_' := by
  constructor
  · rintro ⟨hallowed, hseparated, hbegins⟩
    obtain ⟨hsome, hfirst⟩ := beginsWell_iff.mp hbegins
    exact ⟨hsome, hallowed, separated_iff.mp hseparated, hfirst⟩
  · rintro ⟨hsome, hallowed, hseparated, hfirst⟩
    exact ⟨hallowed, separated_iff.mpr hseparated, beginsWell_iff.mpr ⟨hsome, hfirst⟩⟩

theorem allowed_collapse (after : Bool) (cs : List Char) :
    ∀ c ∈ collapse after cs, isAlphanumeric c = true ∨ c = '_' := by
  induction cs generalizing after with
  | nil => simp
  | cons d ds ih =>
    cases hd : isAlphanumeric d with
    | true =>
      rw [collapse_alphanumeric hd]
      exact List.forall_mem_cons.mpr ⟨Or.inl hd, ih false⟩
    | false =>
      cases after with
      | true =>
        rw [collapse_true_other hd]
        exact ih true
      | false =>
        rw [collapse_false_other hd]
        exact List.forall_mem_cons.mpr ⟨Or.inr rfl, ih true⟩

/-- A collapsed name is separated, also from the underscore that the flag tells of. -/
theorem separated_collapse (cs : List Char) :
    Separated (collapse false cs) ∧ Separated ('_' :: collapse true cs) := by
  induction cs with
  | nil => exact ⟨List.isChain_nil, List.isChain_singleton '_'⟩
  | cons c cs ih =>
    obtain ⟨hfalse, htrue⟩ := ih
    cases hc : isAlphanumeric c with
    | true =>
      have hne : c ≠ '_' := ne_underscore_of_isAlphanumeric hc
      rw [collapse_alphanumeric hc, collapse_alphanumeric hc]
      refine ⟨hfalse.cons hne, (hfalse.cons hne).underscore_cons ?_⟩
      simpa using hne
    | false =>
      rw [collapse_false_other hc, collapse_true_other hc]
      exact ⟨htrue, htrue⟩

/-- A name with allowed and separated characters is canonical once its start is mended. -/
theorem isCanonical_mendStart {cs : List Char}
    (hallowed : ∀ c ∈ cs, isAlphanumeric c = true ∨ c = '_') (hseparated : Separated cs) :
    IsCanonical (mendStart cs) := by
  refine ⟨?_, ?_, beginsWell_mendStart cs⟩
  · unfold mendStart
    split
    · exact hallowed
    · exact List.forall_mem_cons.mpr ⟨Or.inr rfl, hallowed⟩
  · unfold mendStart
    split
    · exact hseparated
    · rename_i hbegins
      refine hseparated.underscore_cons ?_
      rintro hhead
      obtain ⟨ds, rfl⟩ := List.head?_eq_some_iff.mp hhead
      exact hbegins rfl

/-- Every sanitized name is canonical. -/
theorem isCanonical_sanitize (name : String) : IsCanonical (sanitize name).toList := by
  rw [toList_sanitize]
  exact isCanonical_mendStart (allowed_collapse false _) (separated_collapse _).1

/-- Allowed and separated characters are not changed, also after an underscore. -/
theorem collapse_eq_self {after : Bool} {cs : List Char}
    (hallowed : ∀ c ∈ cs, isAlphanumeric c = true ∨ c = '_') (hseparated : Separated cs)
    (hafter : after = true → cs.head? ≠ some '_') : collapse after cs = cs := by
  induction cs generalizing after with
  | nil => rfl
  | cons c cs ih =>
    obtain ⟨hc, hrest⟩ := List.forall_mem_cons.mp hallowed
    have htail : Separated cs := hseparated.tail
    rcases hc with hc | rfl
    · rw [collapse_alphanumeric hc, ih hrest htail (by simp)]
    · have hfalse : after = false := Bool.eq_false_iff.mpr fun htrue => hafter htrue rfl
      have hhead : cs.head? ≠ some '_' := by
        rintro hhead
        obtain ⟨ds, rfl⟩ := List.head?_eq_some_iff.mp hhead
        exact (List.isChain_cons_cons.mp hseparated).1 ⟨rfl, rfl⟩
      rw [hfalse, collapse_false_other isAlphanumeric_underscore, ih hrest htail fun _ => hhead]

/-- The names that sanitizing leaves as they are, are the canonical ones. -/
theorem sanitize_eq_self_iff {name : String} : sanitize name = name ↔ IsCanonical name.toList := by
  constructor
  · intro hsame
    rw [← hsame]
    exact isCanonical_sanitize name
  · rintro ⟨hallowed, hseparated, hbegins⟩
    rw [sanitize, collapse_eq_self hallowed hseparated (by simp), mendStart, if_pos hbegins,
      String.ofList_toList]

/-- Sanitizing a second time changes nothing. -/
theorem sanitize_sanitize (name : String) : sanitize (sanitize name) = sanitize name :=
  sanitize_eq_self_iff.mpr (isCanonical_sanitize name)

/-- The sanitized names are the canonical ones. -/
theorem range_sanitize : Set.range sanitize = {name | IsCanonical name.toList} := by
  ext name
  constructor
  · rintro ⟨raw, rfl⟩
    exact isCanonical_sanitize raw
  · intro hname
    exact ⟨name, sanitize_eq_self_iff.mpr hname⟩

/-- A name is canonical when it is not empty, has letters, numbers and underscores only, no two
underscores next to each other, and a letter or an underscore in front. Sanitizing makes every name
canonical and leaves exactly the canonical ones as they are. So a second time it changes nothing,
and the canonical names are all that it gives. -/
theorem canonical_names (name : String) :
    (IsCanonical name.toList ↔ name ≠ "" ∧
      (∀ c ∈ name.toList, isAlphanumeric c = true ∨ c = '_') ∧ ¬ ['_', '_'] <:+: name.toList ∧
      ∀ first ∈ name.toList.head?, isAlphabetic first = true ∨ first = '_') ∧
    IsCanonical (sanitize name).toList ∧
    (sanitize name = name ↔ IsCanonical name.toList) ∧
    sanitize (sanitize name) = sanitize name ∧
    Set.range sanitize = {name | IsCanonical name.toList} := by
  refine ⟨?_, isCanonical_sanitize name, sanitize_eq_self_iff, sanitize_sanitize name,
    range_sanitize⟩
  rw [isCanonical_iff, ne_eq, String.toList_eq_nil_iff]

end KeyedContainers.FieldName
