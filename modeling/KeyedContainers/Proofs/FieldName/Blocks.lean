import KeyedContainers.FieldName.Sanitize
import Mathlib.Data.List.SplitBy

/-!
# Names in blocks

A name can be cut in one way only into maximal blocks of alphanumeric and of other characters. Its
condensed form keeps the alphanumeric blocks and has one underscore for each of the others.
Sanitizing, which goes character by character and looks at what it has written last, gives this
form, with an underscore before it unless it begins as an identifier may. So the alphanumeric
characters of a name are kept, all of them and in their order.
-/

namespace KeyedContainers.FieldName

open Text

/-- Characters are cut into maximal blocks of alphanumeric and of other ones. -/
structure IsCut (cs : List Char) (cut : List (List Char)) : Prop where
  flatten_eq : cut.flatten = cs
  nonempty : [] ∉ cut
  /-- The characters of a block are all alphanumeric, or none of them is. -/
  uniform : ∀ block ∈ cut, ∀ c ∈ block, ∀ d ∈ block, isAlphanumeric c = isAlphanumeric d
  /-- No character of the next block could belong to a block as well. -/
  maximal : cut.IsChain fun block next =>
    ∀ c ∈ block, ∀ d ∈ next, isAlphanumeric c ≠ isAlphanumeric d

/-- The blocks of some characters: each is as long as its characters are of one kind. -/
def blocks (cs : List Char) : List (List Char) :=
  cs.splitBy fun c d => isAlphanumeric c == isAlphanumeric d

/-- A block of alphanumeric characters, or else one underscore. -/
def condenseBlock (block : List Char) : List Char :=
  if block.all isAlphanumeric then block else ['_']

/-- The characters of a name with one underscore for each block that is not alphanumeric. -/
def condensed (name : String) : List Char := (blocks name.toList).flatMap condenseBlock

/-- Characters of which neighbours are of one kind are all of one kind. -/
private theorem uniform_of_isChain {block : List Char}
    (hchain : block.IsChain fun c d => (isAlphanumeric c == isAlphanumeric d) = true) :
    ∀ c ∈ block, ∀ d ∈ block, isAlphanumeric c = isAlphanumeric d := by
  induction block with
  | nil => simp
  | cons first rest ih =>
    have hfirst : ∀ d ∈ first :: rest, isAlphanumeric d = isAlphanumeric first := by
      refine List.forall_mem_cons.mpr ⟨rfl, ?_⟩
      intro d hd
      cases rest with
      | nil => cases hd
      | cons second rest =>
        have hnext := (List.isChain_cons_cons.mp hchain).1
        rw [beq_iff_eq.mp hnext]
        exact ih hchain.tail d hd second (List.mem_cons_self ..)
    intro c hc d hd
    rw [hfirst c hc, hfirst d hd]

/-- Characters of one kind are so next to each other. -/
private theorem isChain_of_uniform {block : List Char}
    (huniform : ∀ c ∈ block, ∀ d ∈ block, isAlphanumeric c = isAlphanumeric d) :
    block.IsChain fun c d => (isAlphanumeric c == isAlphanumeric d) = true := by
  refine List.Pairwise.isChain (List.pairwise_of_forall_mem_list ?_)
  intro c hc d hd
  exact beq_iff_eq.mpr (huniform c hc d hd)

/-- The blocks are the only way to cut characters into maximal blocks. -/
theorem isCut_iff {cs : List Char} {cut : List (List Char)} : IsCut cs cut ↔ cut = blocks cs := by
  rw [eq_comm, blocks, List.splitBy_eq_iff]
  constructor
  · rintro ⟨hflatten, hnonempty, huniform, hmaximal⟩
    have hchain : ∀ block ∈ cut, block.IsChain fun a b => isAlphanumeric a == isAlphanumeric b :=
      fun block hblock => isChain_of_uniform (huniform block hblock)
    refine ⟨hflatten.symm, hnonempty, hchain, hmaximal.imp_of_mem_imp ?_⟩
    intro block next hblock hnext hdiffer
    have hfull : block ≠ [] := ne_of_mem_of_not_mem hblock hnonempty
    have hfull' : next ≠ [] := ne_of_mem_of_not_mem hnext hnonempty
    refine ⟨hfull, hfull', beq_eq_false_iff_ne.mpr ?_⟩
    exact hdiffer _ (List.getLast_mem hfull) _ (List.head_mem hfull')
  · rintro ⟨hflatten, hnonempty, hchain, hborder⟩
    have huniform := fun block hblock => uniform_of_isChain (hchain block hblock)
    refine ⟨hflatten.symm, hnonempty, huniform, hborder.imp_of_mem_imp ?_⟩
    rintro block next hblock hnext ⟨hfull, hfull', hdiffer⟩ c hc d hd
    rw [huniform block hblock c hc _ (List.getLast_mem hfull),
      huniform next hnext d hd _ (List.head_mem hfull')]
    exact beq_eq_false_iff_ne.mp hdiffer

/-- Alphanumeric characters are written as they are. -/
private theorem collapse_append_of_alphanumeric {block : List Char} (hblock : block ≠ [])
    (halphanumeric : ∀ c ∈ block, isAlphanumeric c = true) (after : Bool) (cs : List Char) :
    collapse after (block ++ cs) = block ++ collapse false cs := by
  induction block generalizing after with
  | nil => exact absurd rfl hblock
  | cons c rest ih =>
    obtain ⟨hc, hrest⟩ := List.forall_mem_cons.mp halphanumeric
    rw [List.cons_append, collapse_alphanumeric hc, List.cons_append]
    cases rest with
    | nil => rfl
    | cons d rest => rw [ih (List.cons_ne_nil d rest) hrest]

/-- After an underscore, other characters are passed over. -/
private theorem collapse_true_append_of_other {block : List Char}
    (hother : ∀ c ∈ block, isAlphanumeric c = false) (cs : List Char) :
    collapse true (block ++ cs) = collapse true cs := by
  induction block with
  | nil => rfl
  | cons c rest ih =>
    obtain ⟨hc, hrest⟩ := List.forall_mem_cons.mp hother
    rw [List.cons_append, collapse_true_other hc, ih hrest]

/-- It makes no difference before an alphanumeric character, or at the end, what was written. -/
private theorem collapse_true_eq_collapse_false {cs : List Char}
    (hcs : ∀ c ∈ cs.head?, isAlphanumeric c = true) : collapse true cs = collapse false cs := by
  cases cs with
  | nil => rfl
  | cons c rest =>
    have hc : isAlphanumeric c = true := hcs c rfl
    rw [collapse_alphanumeric hc, collapse_alphanumeric hc]

/-- After a block that is not alphanumeric there is an alphanumeric character, if there is any. -/
private theorem isAlphanumeric_of_head?_flatten {block : List Char} {rest : List (List Char)}
    {c : Char}
    (hmaximal : (block :: rest).IsChain fun block next =>
      ∀ c ∈ block, ∀ d ∈ next, isAlphanumeric c ≠ isAlphanumeric d)
    (hrest : [] ∉ rest) (hmem : c ∈ block) (hc : isAlphanumeric c = false) :
    ∀ d ∈ rest.flatten.head?, isAlphanumeric d = true := by
  intro d hd
  cases rest with
  | nil => cases hd
  | cons next rest =>
    cases next with
    | nil => exact absurd (List.mem_cons_self ..) hrest
    | cons first others =>
      obtain rfl : first = d := Option.some.inj hd
      have hdiffer := (List.isChain_cons_cons.mp hmaximal).1 c hmem first (List.mem_cons_self ..)
      rw [hc] at hdiffer
      exact (Bool.not_eq_false _).mp (Ne.symm hdiffer)

/-- Collapsing writes the blocks one after another in their condensed form. -/
theorem IsCut.collapse_eq {cs : List Char} {cut : List (List Char)} (hcut : IsCut cs cut) :
    collapse false cs = cut.flatMap condenseBlock := by
  obtain ⟨rfl, hnonempty, huniform, hmaximal⟩ := hcut
  induction cut with
  | nil => rfl
  | cons block rest ih =>
    obtain ⟨hblock, hrest⟩ := not_or.mp (mt List.mem_cons.mpr hnonempty)
    obtain ⟨hsame, hothers⟩ := List.forall_mem_cons.mp huniform
    obtain ⟨c, tail, rfl⟩ := List.exists_cons_of_ne_nil (Ne.symm hblock)
    have hfirst := hsame c (List.mem_cons_self ..)
    rw [List.flatten_cons, List.flatMap_cons, ← ih hrest hothers hmaximal.tail]
    cases hc : isAlphanumeric c with
    | true =>
      have hall : ∀ d ∈ c :: tail, isAlphanumeric d = true := fun d hd => (hfirst d hd) ▸ hc
      rw [collapse_append_of_alphanumeric (List.cons_ne_nil c tail) hall, condenseBlock,
        if_pos (List.all_eq_true.mpr hall)]
    | false =>
      have htail : ∀ d ∈ tail, isAlphanumeric d = false :=
        fun d hd => hfirst d (List.mem_cons_of_mem c hd) ▸ hc
      have hnext := isAlphanumeric_of_head?_flatten hmaximal hrest (List.mem_cons_self ..) hc
      have hcondensed : condenseBlock (c :: tail) = ['_'] := by simp [condenseBlock, hc]
      rw [List.cons_append, collapse_false_other hc, collapse_true_append_of_other htail,
        collapse_true_eq_collapse_false hnext, hcondensed, List.singleton_append]

/-- Collapsing leaves the alphanumeric characters. -/
theorem filter_collapse (after : Bool) (cs : List Char) :
    (collapse after cs).filter isAlphanumeric = cs.filter isAlphanumeric := by
  induction cs generalizing after with
  | nil => rfl
  | cons c cs ih =>
    cases hc : isAlphanumeric c with
    | true =>
      rw [collapse_alphanumeric hc, List.filter_cons_of_pos hc, List.filter_cons_of_pos hc, ih]
    | false =>
      rw [List.filter_cons_of_neg (by simp [hc])]
      cases after with
      | true => rw [collapse_true_other hc, ih]
      | false =>
        rw [collapse_false_other hc, List.filter_cons_of_neg (by simp), ih]

/-- The blocks of a name are the only way to cut it into maximal blocks. With every block that is
not alphanumeric replaced by one underscore, and one more in front unless the first character is
then a letter or an underscore, they are the sanitized name. So this has the alphanumeric characters
of the name. -/
theorem sanitize_eq_condensed (name : String) :
    (∀ cut, IsCut name.toList cut ↔ cut = blocks name.toList) ∧
    ((∃ first ∈ (condensed name).head?, isAlphabetic first = true ∨ first = '_') →
      sanitize name = String.ofList (condensed name)) ∧
    ((∀ first ∈ (condensed name).head?, isAlphabetic first = false ∧ first ≠ '_') →
      sanitize name = "_" ++ String.ofList (condensed name)) ∧
    (sanitize name).toList.filter isAlphanumeric = name.toList.filter isAlphanumeric := by
  have hcondensed : collapse false name.toList = condensed name := (isCut_iff.mpr rfl).collapse_eq
  refine ⟨fun cut => isCut_iff, ?_, ?_, ?_⟩
  · rintro ⟨first, hfirst, hbegins⟩
    obtain ⟨rest, hname⟩ := List.head?_eq_some_iff.mp hfirst
    have hwell : beginsWell (condensed name) = true := by
      rw [hname]
      simpa [beginsWell] using hbegins
    rw [sanitize, hcondensed, mendStart, if_pos hwell]
  · intro hbegins
    have hill : ¬ beginsWell (condensed name) = true := by
      intro hwell
      cases hname : condensed name with
      | nil => simp [hname, beginsWell] at hwell
      | cons first rest =>
        rw [hname] at hbegins hwell
        have hfirst := hbegins first rfl
        simp [beginsWell, hfirst] at hwell
    rw [sanitize, hcondensed, mendStart, if_neg hill, ← List.singleton_append, String.ofList_append]
  · rw [toList_sanitize, mendStart]
    split
    · exact filter_collapse false _
    · rw [List.filter_cons_of_neg (by simp), filter_collapse]

end KeyedContainers.FieldName
