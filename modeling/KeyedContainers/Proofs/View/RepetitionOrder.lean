import KeyedContainers.Proofs.View.Definition

/-!
# The order of reported repetitions

Names are read from the left, and a repeated name is noticed at its second occurrence. So the
repeated names are reported in the order of their second occurrences, wherever their first ones
are. This is the order in which they are seen first only if no repetition of a name is
overtaken by that of a name seen after it.
-/

namespace KeyedContainers

namespace FieldName

/-- A list has exactly the names with some property, each of them once, by ascending places. -/
structure ListsBy (place : String → Nat) (names : List String) (p : String → Prop) : Prop
    extends ListsOnce names p where
  ascending : names.Pairwise fun a b => place a < place b

variable {place place' : String → Nat} {names names' : List String} {p : String → Prop}

/-- Only one list has the names with a property by ascending places. -/
theorem ListsBy.eq (hnames : ListsBy place names p) (hnames' : ListsBy place names' p) :
    names = names' := by
  have hperm : names.Perm names' := by
    refine (List.perm_ext_iff_of_nodup hnames.nodup hnames'.nodup).mpr ?_
    intro name
    rw [hnames.mem_iff, hnames'.mem_iff]
  refine hperm.eq_of_pairwise ?_ hnames.ascending hnames'.ascending
  intro a b _ _ hab hba
  exact absurd hab (Nat.lt_asymm hba)

/-- Where one list is ascending by two kinds of places, both compare its names alike. -/
theorem ListsBy.lt_of_lt (hnames : ListsBy place names p) (hnames' : ListsBy place' names p)
    {a b : String} (ha : p a) (hb : p b) (hlt : place a < place b) : place' a < place' b := by
  have hne : a ≠ b := by
    rintro rfl
    exact Nat.lt_irrefl _ hlt
  have hboth : names.Pairwise fun c d => place c < place d ∧ place' c < place' d :=
    hnames.ascending.and hnames'.ascending
  obtain ⟨i, hi, rfl⟩ := List.mem_iff_getElem.mp ((hnames.mem_iff a).mpr ha)
  obtain ⟨j, hj, rfl⟩ := List.mem_iff_getElem.mp ((hnames.mem_iff b).mpr hb)
  rcases Nat.lt_trichotomy i j with hij | rfl | hji
  · exact (List.pairwise_iff_getElem.mp hboth i j hi hj hij).2
  · exact absurd rfl hne
  · have hgt := (List.pairwise_iff_getElem.mp hboth j i hj hi hji).1
    omega

/-- The place at which a name is met for the second time, if the seen ones count as well. -/
def placeAfter (seen names : List String) (name : String) : Nat :=
  names.idxOfNth name (1 - seen.count name)

/-- Reading one name more brings every name that is still to be reported one place nearer. -/
private theorem placeAfter_cons {seen : List String} {first name : String} (names : List String)
    (hseen : (first :: seen).count name ≤ 1) :
    placeAfter seen (first :: names) name = placeAfter (first :: seen) names name + 1 := by
  unfold placeAfter
  by_cases hname : first = name
  · subst hname
    rw [List.count_cons_self] at hseen ⊢
    have hnone : seen.count first = 0 := by omega
    simp [hnone]
  · rw [List.count_cons_of_ne hname]
    exact List.idxOfNth_cons_of_not_beq (beq_eq_false_iff_ne.mpr hname)

/-- Names are reported in the order in which they are met for the second time. -/
theorem pairwise_repeatedAfter (seen names : List String) :
    (repeatedAfter seen names).Pairwise fun a b =>
      placeAfter seen names a < placeAfter seen names b := by
  induction names generalizing seen with
  | nil => exact List.Pairwise.nil
  | cons name names ih =>
    have hnearer : ∀ a ∈ repeatedAfter (name :: seen) names,
        placeAfter seen (name :: names) a = placeAfter (name :: seen) names a + 1 :=
      fun a ha => placeAfter_cons names (mem_repeatedAfter.mp ha).1
    have hrest : (repeatedAfter (name :: seen) names).Pairwise fun a b =>
        placeAfter seen (name :: names) a < placeAfter seen (name :: names) b := by
      refine (ih (name :: seen)).imp_of_mem ?_
      intro a b ha hb hlt
      rw [hnearer a ha, hnearer b hb]
      exact Nat.succ_lt_succ hlt
    rw [repeatedAfter_cons]
    split
    · rename_i honce
      refine List.pairwise_cons.mpr ⟨?_, hrest⟩
      intro a ha
      have hfirst : placeAfter seen (name :: names) name = 0 := by simp [placeAfter, honce]
      rw [hfirst, hnearer a ha]
      exact Nat.succ_pos _
    · exact hrest

/-- The repeated names are listed by their second occurrences. -/
theorem listsBy_repeated (names : List String) :
    ListsBy (fun name => names.idxOfNth name 1) (repeated names)
      fun name => 2 ≤ names.count name where
  toListsOnce := listsOnce_repeated names
  ascending := pairwise_repeatedAfter [] names

/-- The repeated names are listed by their first occurrences as well exactly when these are in
the order of the second ones. -/
theorem listsBy_idxOf_repeated_iff (names : List String) :
    ListsBy names.idxOf (repeated names) (fun name => 2 ≤ names.count name) ↔
      ∀ a b, 2 ≤ names.count a → 2 ≤ names.count b → names.idxOf a < names.idxOf b →
        names.idxOfNth a 1 < names.idxOfNth b 1 := by
  have hsecond := listsBy_repeated names
  constructor
  · intro hfirst a b ha hb hlt
    exact hfirst.lt_of_lt hsecond ha hb hlt
  · intro hsame
    refine ⟨hsecond.toListsOnce, hsecond.ascending.imp_of_mem ?_⟩
    intro a b ha hb hlt
    have ha' := mem_repeated.mp ha
    have hb' := mem_repeated.mp hb
    have hmem : a ∈ names := List.count_pos_iff.mp (Nat.lt_of_lt_of_le Nat.zero_lt_two ha')
    rcases Nat.lt_trichotomy (names.idxOf a) (names.idxOf b) with hfirst | hfirst | hfirst
    · exact hfirst
    · obtain rfl := (List.idxOf_inj hmem).mp hfirst
      exact absurd hlt (Nat.lt_irrefl _)
    · exact absurd (hsame b a hb' ha' hfirst) (Nat.lt_asymm hlt)

end FieldName

namespace Layout

open FieldName Text

/-- The repeated names of a list are those that occur at least twice, each once, in the order of
their second occurrences, and this says exactly which list it is. They are in the order of their
first occurrences exactly when, of two repeated names, the one seen first is also seen again first.
This list is what refuses the names: as raw ones under every option, or as the sanitized forms of
distinct raw ones; the message shows it as it is. -/
theorem repetitions_by_second_occurrence (names : List String) :
    (∀ list, ListsBy (fun name => names.idxOfNth name 1) list (fun name => 2 ≤ names.count name) ↔
      list = repeated names) ∧
    (ListsBy names.idxOf (repeated names) (fun name => 2 ≤ names.count name) ↔
      ∀ a b, 2 ≤ names.count a → 2 ≤ names.count b → names.idxOf a < names.idxOf b →
        names.idxOfNth a 1 < names.idxOfNth b 1) ∧
    (∀ stage, ensureUnique stage names =
      if repeated names = [] then .ok () else .error (.duplicateField stage (repeated names))) ∧
    (∀ options name, repeated names ≠ [] → (defineWith options name names).value =
      .error (.duplicateField .raw (repeated names))) ∧
    (∀ name raw, repeated raw = [] → raw.map sanitize = names → repeated names ≠ [] →
      (defineWith ⟨true⟩ name raw).value =
        .error (.duplicateField .sanitized (repeated names))) ∧
    ∀ stage, (ViewError.duplicateField stage (repeated names)).message =
      "field names must be unique; duplicated " ++ stage.word ++ " names: " ++
        tuple (repeated names) := by
  refine ⟨?_, listsBy_idxOf_repeated_iff names, ?_, ?_, ?_, fun stage => rfl⟩
  · intro list
    constructor
    · intro hlist
      exact hlist.eq (listsBy_repeated names)
    · rintro rfl
      exact listsBy_repeated names
  · intro stage
    simp only [ensureUnique_eq, repeated_eq_nil_iff]
  · intro options name hrepeated
    rw [defineWith_of_repeated options name (mt repeated_eq_nil_iff.mpr hrepeated)]
  · rintro name raw hraw rfl hrepeated
    rw [defineWith_of_clash ⟨true⟩ name (repeated_eq_nil_iff.mp hraw)
      (mt repeated_eq_nil_iff.mpr hrepeated)]
    rfl

/-- Distinct raw names whose sanitized forms repeat are reported by the second occurrences of the
forms. -/
theorem repetitions_of_sanitized_names :
    let raw := ["a b", "c d", "c-d", "a-b"]
    repeated raw = [] ∧ repeated (raw.map sanitize) = ["c_d", "a_b"] ∧
      (defineWith ⟨true⟩ "V" raw).value = .error (.duplicateField .sanitized ["c_d", "a_b"]) := by
  intro raw
  have hraw : repeated raw = [] := by decide
  have hforms : repeated (raw.map sanitize) = ["c_d", "a_b"] := by decide
  obtain ⟨_, _, _, _, hclash, _⟩ := repetitions_by_second_occurrence (raw.map sanitize)
  refine ⟨hraw, hforms, ?_⟩
  rw [hclash "V" raw hraw rfl (by rw [hforms]; exact List.cons_ne_nil _ _), hforms]

/-- The name seen first is seen again last, and so it is reported last. -/
theorem seen_first_reported_last :
    let names := ["a", "b", "b", "a"]
    names.idxOf "a" < names.idxOf "b" ∧ repeated names = ["b", "a"] ∧
      ¬ ListsBy names.idxOf (repeated names) (fun name => 2 ≤ names.count name) ∧
      (define "V" names).value = .error (.duplicateField .raw ["b", "a"]) := by
  intro names
  have hrepeated : repeated names = ["b", "a"] := by decide
  refine ⟨by decide, hrepeated, ?_, rfl⟩
  rintro ⟨_, hascending⟩
  rw [hrepeated] at hascending
  revert hascending
  decide

end Layout

end KeyedContainers
