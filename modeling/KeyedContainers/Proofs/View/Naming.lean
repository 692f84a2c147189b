import KeyedContainers.Proofs.View.Resolution
import KeyedContainers.View.Step

/-!
# Accesses by name

Five accesses of a view name a field, and each is another way to say the access to a position: it
does what the access at the position of the name does, or fails with the fields of the layout where
the name has none. Since the fields of a layout with sanitized names are canonical, a raw name
that sanitizing changes always fails, and never reaches the field of another name.
-/

namespace KeyedContainers

open FieldName

namespace View

variable {α : Type}

/-- The field that an access names. -/
def Step.field? : Step α → Option String
  | .get field | .demand field | .set field _ | .modify field _ | .demandSet field _ => some field
  | _ => none

/-- The access to a position in the place of an access that names a field. -/
def Step.atPosition (i : Nat) : Step α → Step α
  | .get _ | .demand _ => .elementAt i
  | .set _ a | .demandSet _ a => .setAt i a
  | .modify _ f => .modifyAt i f
  | s => s

/-- How an access to an undeclared field fails: a demand faults, and the others are refused. -/
def Step.failure (error : ViewError) : Step α → Failure
  | .demand _ | .demandSet _ _ => .fault (.undeclared error)
  | _ => .refused error

/-- A failure at a position is no refusal and stays what it is where a field is demanded. -/
private theorem mapError_escalate_elementAt (v : View α) (i : Nat) :
    (v.elementAt i).mapError .escalate = v.elementAt i := by
  unfold elementAt
  cases v.buffer[i]? <;> rfl

private theorem mapError_escalate_modifyAt (v : View α) (i : Nat) (f : α → α) :
    (v.modifyAt i f).mapError .escalate = v.modifyAt i f := by
  unfold modifyAt
  split <;> rfl

variable [Element α] {v : View α} {s : Step α} {field : String}

/-- A named access goes on at the position of the name or fails for want of one. -/
theorem step_of_field? (hfield : s.field? = some field) :
    v.step s =
      match v.layout.resolve field with
      | .ok i => v.step (s.atPosition i)
      | .error e => (v, .failed (s.failure e)) := by
  cases s with
  | get other =>
    cases hfield
    simp only [step, get, position]
    cases v.layout.resolve field <;> rfl
  | demand other =>
    cases hfield
    simp only [step, demand, get, position]
    cases v.layout.resolve field with
    | error e => rfl
    | ok i => exact congrArg (fun x => (v, Reply.ofElement x)) (mapError_escalate_elementAt v i)
  | set other a =>
    cases hfield
    simp only [step, set, modify, position]
    cases v.layout.resolve field <;> rfl
  | modify other f =>
    cases hfield
    simp only [step, modify, position]
    cases v.layout.resolve field <;> rfl
  | demandSet other a =>
    cases hfield
    simp only [step, demandSet, modify, position]
    cases v.layout.resolve field with
    | error e => rfl
    | ok i => exact congrArg v.written (mapError_escalate_modifyAt v i _)
  | _ => cases hfield

/-- A named access does what the access to the position of the name does. -/
theorem step_of_position {i : Nat} (hfield : s.field? = some field)
    (hposition : v.layout.position? field = some i) : v.step s = v.step (s.atPosition i) := by
  rw [step_of_field? hfield, Layout.resolve_eq, hposition]
  rfl

/-- A named access fails, and changes nothing, where the name has no position. -/
theorem step_of_undeclared (hfield : s.field? = some field)
    (hposition : v.layout.position? field = none) :
    v.step s =
      (v, .failed (s.failure (.undeclaredField v.layout.name field v.layout.fields))) := by
  rw [step_of_field? hfield, Layout.resolve_eq, hposition]
  rfl

end View

namespace Layout

variable {layout : Layout} {name : String} {raw : List String}

/-- The fields of a layout with sanitized names are the sanitized raw names. -/
theorem fields_of_define (hdefined : (define name raw).value = .ok layout) :
    layout.fields = raw.map sanitize := by
  obtain ⟨_, rfl⟩ := eq_ofFields_of_defineWith hdefined
  rfl

/-- What a layout with sanitized names resolves is not changed by sanitizing. -/
theorem sanitize_eq_self_of_position? (hdefined : (define name raw).value = .ok layout)
    {field : String} {i : Nat} (hposition : layout.position? field = some i) :
    sanitize field = field := by
  have hat := (lawful_of_defineWith hdefined).position?_eq_some_iff.mp hposition
  have hmem : field ∈ raw.map sanitize := fields_of_define hdefined ▸ List.mem_of_getElem? hat
  obtain ⟨n, _, rfl⟩ := List.mem_map.mp hmem
  exact sanitize_sanitize n

/-- A raw name that sanitizing leaves as it is resolves to its own position. -/
theorem position?_of_sanitize_eq_self (hdefined : (define name raw).value = .ok layout) {i : Nat}
    {n : String} (hn : raw[i]? = some n) (hsame : sanitize n = n) :
    layout.position? n = some i := by
  rw [(lawful_of_defineWith hdefined).position?_eq_some_iff, fields_of_define hdefined,
    List.getElem?_map, hn, Option.map_some, hsame]

/-- In a layout with sanitized names a raw name resolves to its own position, if sanitizing leaves
it as it is, and to nothing otherwise. Every name that resolves is one that sanitizing leaves as it
is; all accesses by another name fail as undeclared and change nothing. -/
theorem raw_name_resolves_to_itself (name : String) (raw : List String) (layout : Layout)
    (hdefined : (define name raw).value = .ok layout) :
    (∀ i n, raw[i]? = some n →
      (layout.position? n = none ∨ layout.position? n = some i) ∧
      (layout.position? n = some i ↔ sanitize n = n)) ∧
    (∀ s i, layout.position? s = some i → sanitize s = s) ∧
    ∀ s, sanitize s ≠ s → ∀ (α : Type) [Element α] (v : View α), v.layout = layout →
      ∀ access : View.Step α, access.field? = some s →
        v.step access =
          (v, .failed (access.failure (.undeclaredField layout.name s layout.fields))) := by
  have hsame := @sanitize_eq_self_of_position? layout name raw hdefined
  refine ⟨?_, fun s i => hsame, ?_⟩
  · intro i n hn
    have hown := position?_of_sanitize_eq_self hdefined hn
    refine ⟨?_, hsame, hown⟩
    cases hposition : layout.position? n with
    | none => exact Or.inl rfl
    | some j => exact Or.inr (hposition ▸ hown (hsame hposition))
  · rintro s hchanged α _ v rfl access hfield
    refine View.step_of_undeclared hfield ?_
    cases hposition : v.layout.position? s with
    | none => rfl
    | some i => exact absurd (hsame hposition) hchanged

/-- Of the raw names `a-b` and `c` only the second resolves, and a write by the first is refused. -/
theorem raw_name_resolves_to_itself_mixed :
    let layout := ofFields "V" ["a_b", "c"]
    let v : View Bool := ⟨layout, #[true, false]⟩
    (define "V" ["a-b", "c"]).value = .ok layout ∧ layout.position? "c" = some 1 ∧
      v.step (.set "a-b" false) =
        (v, .failed (.refused (.undeclaredField "V" "a-b" ["a_b", "c"]))) := by
  intro layout v
  have hdefined : (define "V" ["a-b", "c"]).value = .ok layout := rfl
  obtain ⟨hown, _, hchanged⟩ := raw_name_resolves_to_itself "V" ["a-b", "c"] layout hdefined
  exact ⟨hdefined, (hown 1 "c" rfl).2.mpr rfl,
    hchanged "a-b" (by decide) Bool v rfl (.set "a-b" false) rfl⟩

end Layout

end KeyedContainers
