import KeyedContainers.Proofs.View.Access
import Mathlib.Data.List.FinRange
import Mathlib.Logic.Equiv.Basic

/-!
# The declared order of fields

Names are declared in an order, which is the order of the positions. Access by name does not depend
on it: if the names are declared in another order, and the elements of the buffer are put in the
same other order, every access by name reads the same element or fails alike, and afterwards the
elements are still in the two orders.
-/

namespace KeyedContainers

namespace FieldName

/-- The same names are repeated in whatever order they are given. -/
theorem perm_repeated {names names' : List String} (hperm : names.Perm names') :
    (repeated names).Perm (repeated names') := by
  refine (List.perm_ext_iff_of_nodup (nodup_repeated names) (nodup_repeated names')).mpr ?_
  intro name
  rw [mem_repeated, mem_repeated, hperm.count_eq]

end FieldName

namespace Layout

open FieldName

variable {options : LayoutOptions} {name : String} {raw raw' : List String}

/-- Rearranged names are refused at the same stage for the same repetitions. -/
theorem defineWith_error_of_perm (hperm : raw.Perm raw') {e : ViewError}
    (hrefused : (defineWith options name raw).value = .error e) :
    ∃ stage duplicates duplicates', e = .duplicateField stage duplicates ∧
      (defineWith options name raw').value = .error (.duplicateField stage duplicates') ∧
      duplicates.Nodup ∧ duplicates.Perm duplicates' := by
  have hforms := hperm.map (form options)
  by_cases hraw : raw.Nodup
  · have hraw' := hperm.nodup_iff.mp hraw
    by_cases hfields : (raw.map (form options)).Nodup
    · rw [defineWith_of_nodup options name hraw hfields] at hrefused
      cases hrefused
    · have hfields' := mt hforms.nodup_iff.mpr hfields
      rw [defineWith_of_clash options name hraw hfields, Except.error.injEq] at hrefused
      refine ⟨_, _, _, hrefused.symm, ?_, nodup_repeated _, perm_repeated hforms⟩
      rw [defineWith_of_clash options name hraw' hfields']
  · have hraw' := mt hperm.nodup_iff.mpr hraw
    rw [defineWith_of_repeated options name hraw, Except.error.injEq] at hrefused
    refine ⟨_, _, _, hrefused.symm, ?_, nodup_repeated _, perm_repeated hperm⟩
    rw [defineWith_of_repeated options name hraw']

/-- Rearranged names are accepted and get the same forms. -/
theorem defineWith_ok_of_perm (hperm : raw.Perm raw') {layout : Layout}
    (hdefined : (defineWith options name raw).value = .ok layout) :
    (defineWith options name raw').value = .ok (ofFields name (raw'.map (form options))) := by
  have hfields := (eq_ofFields_of_defineWith hdefined).1
  have hfields' := (hperm.map (form options)).nodup_iff.mp hfields
  rw [defineWith_of_nodup options name hfields'.of_map hfields']

end Layout

namespace View

variable {α : Type} {n : Nat}

/-- Whether an access goes to a field by its name, or to all fields. -/
def Step.named : Step α → Bool
  | .fill _ => true
  | s => s.field?.isSome

/-- Replies that differ only in the order in which they list the elements or the fields. -/
inductive Reply.Alike (p : Equiv.Perm (Fin n)) : Reply α → Reply α → Prop
  | element (a : α) : Alike p (.element a) (.element a)
  | elements (data : Fin n → α) :
      Alike p (.elements (Array.ofFn data)) (.elements (Array.ofFn (data ∘ p)))
  | refused (layout field : String) (fields : Fin n → String) :
      Alike p (.failed (.refused (.undeclaredField layout field (List.ofFn fields))))
        (.failed (.refused (.undeclaredField layout field (List.ofFn (fields ∘ p)))))
  | fault (layout field : String) (fields : Fin n → String) :
      Alike p (.failed (.fault (.undeclared (.undeclaredField layout field (List.ofFn fields)))))
        (.failed (.fault (.undeclared (.undeclaredField layout field (List.ofFn (fields ∘ p))))))

/-- The view of elements through fields in the same order. -/
def arranged (name : String) (fields : Fin n → String) (data : Fin n → α) : View α :=
  ⟨.ofFields name (List.ofFn fields), Array.ofFn data⟩

/-- Elements in an order are viewed through as many fields. -/
private theorem view_ofFn (name : String) (fields : Fin n → String) (data : Fin n → α) :
    (Layout.ofFields name (List.ofFn fields)).view (Array.ofFn data) =
      .ok (arranged name fields data) := by
  rw [Layout.view_eq_ok_iff, Array.size_ofFn]
  exact ⟨List.length_ofFn.symm, rfl⟩

/-- Changing the element at a position updates it in the order. -/
private theorem modify_ofFn (data : Fin n → α) (i : Fin n) (f : α → α) :
    (Array.ofFn data).modify i f = Array.ofFn (Function.update data i (f (data i))) := by
  apply Array.ext_getElem?
  intro j
  rw [Array.getElem?_modify, Array.getElem?_ofFn, Array.getElem?_ofFn]
  by_cases hj : j < n
  · rw [dif_pos hj, dif_pos hj]
    by_cases hij : i = ⟨j, hj⟩
    · subst hij
      rw [if_pos rfl, Function.update_self, Option.map_some]
    · rw [if_neg (fun heq => hij (Fin.ext heq)), Function.update_of_ne (Ne.symm hij)]
  · rw [dif_neg hj, dif_neg hj, Option.map_none, ite_self]

/-- One element at every position. -/
private theorem replicate_eq_ofFn (a : α) :
    Array.replicate n a = Array.ofFn fun _ : Fin n => a := by
  apply Array.ext_getElem?
  intro j
  rw [Array.getElem?_replicate, Array.getElem?_ofFn]
  split <;> rfl

/-- The access to the position of a field reads the element there or changes it. -/
theorem Step.atPosition_reads_or_changes {s : Step α} (hfield : s.field?.isSome) :
    (∀ i, s.atPosition i = .elementAt i) ∨ ∃ f, ∀ i, (s.atPosition i).change? = some (i, f) := by
  cases s with
  | get | demand => exact .inl fun _ => rfl
  | set field a => exact .inr ⟨fun _ => a, fun _ => rfl⟩
  | modify field f => exact .inr ⟨f, fun _ => rfl⟩
  | demandSet field a => exact .inr ⟨fun _ => a, fun _ => rfl⟩
  | _ => cases hfield

section Arranged

variable (name : String) {fields : Fin n → String} (data : Fin n → α)

/-- Distinct fields in an order make a lawful layout. -/
theorem lawful_ofFields_ofFn (hfields : fields.Injective) :
    (Layout.ofFields name (List.ofFn fields)).Lawful :=
  ⟨List.nodup_ofFn.mpr hfields, rfl⟩

/-- The fields of a view are at their places in the order. -/
theorem position?_arranged (hfields : fields.Injective) (i : Fin n) :
    (arranged name fields data).layout.position? (fields i) = some i.val := by
  rw [arranged, (lawful_ofFields_ofFn name hfields).position?_eq_some_iff]
  exact List.getElem?_ofFn.trans (dif_pos i.isLt)

/-- No other name has a position. -/
theorem position?_arranged_eq_none (hfields : fields.Injective) {field : String}
    (hother : ∀ i, fields i ≠ field) :
    (arranged name fields data).layout.position? field = none := by
  rw [arranged, (lawful_ofFields_ofFn name hfields).position?_eq_none_iff]
  intro hmem
  obtain ⟨i, hi⟩ := List.mem_ofFn.mp hmem
  exact hother i hi

variable [Element α] {s : Step α}

/-- Reading a position answers the element in its place. -/
theorem step_elementAt_arranged (i : Fin n) :
    (arranged name fields data).step (.elementAt i) =
      (arranged name fields data, .element (data i)) := by
  have hat : (Array.ofFn data)[i.val]? = some (data i) :=
    Array.getElem?_ofFn.trans (dif_pos i.isLt)
  rw [step, elementAt, arranged, hat]
  rfl

/-- Changing a position updates the element in its place. -/
theorem step_change_arranged {i : Fin n} {f : α → α} (hchange : s.change? = some (i.val, f)) :
    (arranged name fields data).step s =
      (arranged name fields (Function.update data i (f (data i))),
        .elements (Array.ofFn (Function.update data i (f (data i))))) := by
  have hi : i.val < (arranged name fields data).buffer.size :=
    i.isLt.trans_eq Array.size_ofFn.symm
  rw [step_of_change? hchange, step_modifyAt hi]
  simp only [arranged, modify_ofFn]

/-- Writing all positions. -/
theorem step_fill_arranged (a : α) :
    (arranged name fields data).step (.fill a) =
      (arranged name fields fun _ => a, .elements (Array.ofFn fun _ : Fin n => a)) := by
  simp only [step, fill, written, arranged, Array.size_ofFn, replicate_eq_ofFn]

variable (p : Equiv.Perm (Fin n))

/-- An access to a view and to its rearrangement leaves the elements in the two orders, and the
replies are alike. -/
def KeepsOrders (fields : Fin n → String) (s : Step α) : Prop :=
  ∃ after reply reply',
    (arranged name fields data).step s = (arranged name fields after, reply) ∧
    (arranged name (fields ∘ p) (data ∘ p)).step s =
      (arranged name (fields ∘ p) (after ∘ p), reply') ∧
    Reply.Alike p reply reply'

/-- A declared field has the same element in both views, at positions that belong together. -/
theorem keepsOrders_of_declared (hfields : fields.Injective) {i : Fin n}
    (hfield : s.field? = some (fields i)) : KeepsOrders name data p fields s := by
  have hat := position?_arranged name data hfields i
  have hat' := position?_arranged name (data ∘ p) (hfields.comp p.injective) (p.symm i)
  have hsame : (data ∘ p) (p.symm i) = data i := congrArg data (p.apply_symm_apply i)
  rw [Function.comp_apply, p.apply_symm_apply] at hat'
  rw [KeepsOrders, step_of_position hfield hat, step_of_position hfield hat']
  obtain hreads | ⟨f, hchanges⟩ :=
    Step.atPosition_reads_or_changes (Option.isSome_of_eq_some hfield)
  · rw [hreads, hreads, step_elementAt_arranged, step_elementAt_arranged, hsame]
    exact ⟨data, _, _, rfl, rfl, .element _⟩
  · rw [step_change_arranged name data (hchanges i),
      step_change_arranged name (data ∘ p) (hchanges (p.symm i)), hsame,
      ← Function.update_comp_equiv]
    exact ⟨_, _, _, rfl, rfl, .elements _⟩

/-- A name that is not declared fails in both views. -/
theorem keepsOrders_of_undeclared (hfields : fields.Injective) {field : String}
    (hfield : s.field? = some field) (hother : ∀ i, fields i ≠ field) :
    KeepsOrders name data p fields s := by
  have hnone := position?_arranged_eq_none name data hfields hother
  have hnone' := position?_arranged_eq_none name (data ∘ p) (hfields.comp p.injective)
    fun i => hother (p i)
  refine ⟨data, _, _, step_of_undeclared hfield hnone, step_of_undeclared hfield hnone', ?_⟩
  unfold Step.failure
  split
  · exact .fault name field fields
  · exact .fault name field fields
  · exact .refused name field fields

/-- An access by name leaves the elements in the two orders, and the replies are alike. -/
theorem keepsOrders_of_named (hfields : fields.Injective) (hs : s.named = true) :
    KeepsOrders name data p fields s := by
  cases hfield : s.field? with
  | none =>
    obtain ⟨a, rfl⟩ : ∃ a, s = .fill a := by
      cases s with
      | fill a => exact ⟨a, rfl⟩
      | _ => simp [Step.named, Step.field?] at hs hfield
    exact ⟨fun _ => a, _, _, step_fill_arranged name data a, step_fill_arranged name (data ∘ p) a,
      .elements fun _ => a⟩
  | some field =>
    by_cases hdeclared : ∃ i, fields i = field
    · obtain ⟨i, rfl⟩ := hdeclared
      exact keepsOrders_of_declared name data p hfields hfield
    · exact keepsOrders_of_undeclared name data p hfields hfield (not_exists.mp hdeclared)

/-- Accesses by name leave the elements in the two orders, and their replies are alike. -/
theorem run_rearranged (hfields : fields.Injective) {steps : List (Step α)}
    (hsteps : ∀ s ∈ steps, s.named = true) :
    ∃ after replies replies',
      (arranged name fields data).run steps = (arranged name fields after, replies) ∧
      (arranged name (fields ∘ p) (data ∘ p)).run steps =
        (arranged name (fields ∘ p) (after ∘ p), replies') ∧
      List.Forall₂ (Reply.Alike p) replies replies' := by
  induction steps generalizing data with
  | nil => exact ⟨data, [], [], rfl, rfl, .nil⟩
  | cons s steps ih =>
    obtain ⟨hs, hrest⟩ := List.forall_mem_cons.mp hsteps
    obtain ⟨middle, reply, reply', hfirst, hfirst', halike⟩ :=
      keepsOrders_of_named name data p hfields hs
    obtain ⟨after, replies, replies', hlast, hlast', hreplies⟩ := ih middle hrest
    refine ⟨after, reply :: replies, reply' :: replies', ?_, ?_, .cons halike hreplies⟩
    · rw [run_cons, hfirst, hlast]
    · rw [run_cons, hfirst', hlast']

end Arranged

end View

namespace Layout

/-- Names in an order and in a rearrangement of it make a layout both or neither. If they do not,
then at the same stage and for the same repetitions, each listed once. If they do, elements in the
one order viewed through the one layout, and in the other order through the other, answer alike to
any accesses by name, and are in the two orders after them. -/
theorem declared_order_irrelevant (options : LayoutOptions) (name : String) {n : Nat}
    (raw : Fin n → String) (p : Equiv.Perm (Fin n)) :
    let first := (defineWith options name (List.ofFn raw)).value
    let second := (defineWith options name (List.ofFn (raw ∘ p))).value
    (∀ e, first = .error e → ∃ stage duplicates duplicates',
      e = .duplicateField stage duplicates ∧
      second = .error (.duplicateField stage duplicates') ∧
      duplicates.Nodup ∧ duplicates.Perm duplicates') ∧
    ∀ layout, first = .ok layout → ∃ layout', second = .ok layout' ∧
      ∀ (α : Type) [Element α] (data : Fin n → α) (steps : List (View.Step α)),
        (∀ s ∈ steps, s.named = true) →
        ∃ v v' after, layout.view (Array.ofFn data) = .ok v ∧
          layout'.view (Array.ofFn (data ∘ p)) = .ok v' ∧
          (v.run steps).1.buffer = Array.ofFn after ∧
          (v'.run steps).1.buffer = Array.ofFn (after ∘ p) ∧
          List.Forall₂ (View.Reply.Alike p) (v.run steps).2 (v'.run steps).2 := by
  intro first second
  have hperm : (List.ofFn raw).Perm (List.ofFn (raw ∘ p)) := (p.ofFn_comp_perm raw).symm
  refine ⟨fun e hrefused => defineWith_error_of_perm hperm hrefused, ?_⟩
  intro layout hdefined
  obtain ⟨hnodup, rfl⟩ := eq_ofFields_of_defineWith hdefined
  refine ⟨_, defineWith_ok_of_perm hperm hdefined, ?_⟩
  intro α _ data steps hsteps
  rw [List.map_ofFn] at hnodup ⊢
  rw [List.map_ofFn, ← Function.comp_assoc]
  obtain ⟨after, replies, replies', hrun, hrun', halike⟩ :=
    View.run_rearranged name data p (List.nodup_ofFn.mp hnodup) hsteps
  refine ⟨_, _, after, View.view_ofFn name _ data, View.view_ofFn name _ (data ∘ p), ?_, ?_, ?_⟩
  · rw [hrun]
    rfl
  · rw [hrun']
    rfl
  · rw [hrun, hrun']
    exact halike

end Layout

end KeyedContainers
