import KeyedContainers.Proofs.View.Naming

/-!
# What an access does

A view is a buffer whose positions have names. What each access replies and leaves in the buffer is
told here without a table of names: a field stands for the position where it is declared, and a
write is told by what every position holds afterwards. A view of a defined layout over a buffer
with one element for each field does exactly this in every step, and therefore in every run.
-/

namespace KeyedContainers.View

variable {α : Type}

/-- The position that an access is about, if it is given as such. -/
def Step.position? : Step α → Option Nat
  | .elementAt i | .setAt i _ | .modifyAt i _ => some i
  | _ => none

/-- The position that an access writes, if it is given as such, with the change of its element. -/
def Step.change? : Step α → Option (Nat × (α → α))
  | .setAt i a => some (i, fun _ => a)
  | .modifyAt i f => some (i, f)
  | _ => none

/-- The accesses that change no buffer, whatever their fields and positions are. -/
def Step.reads : Step α → Bool
  | .get _ | .demand _ | .elementAt _ | .contents | .pairs | .display | .debug | .describe => true
  | _ => false

/-- The access to the position of a field is about this position. -/
theorem Step.position?_atPosition {s : Step α} {field : String} (hfield : s.field? = some field)
    (i : Nat) : (s.atPosition i).position? = some i := by
  cases s with
  | get | demand | set | modify | demandSet => rfl
  | _ => cases hfield

/-- The access to the position of a field reads if the access to the field does. -/
theorem Step.reads_atPosition (s : Step α) (i : Nat) : (s.atPosition i).reads = s.reads := by
  cases s <;> rfl

/-- An access that changes an element does not only read. -/
theorem Step.reads_of_change? {s : Step α} {change : Nat × (α → α)}
    (hchange : s.change? = some change) : s.reads = false := by
  cases s with
  | setAt | modifyAt => rfl
  | _ => cases hchange

section Buffers

variable {data after : Array α}

/-- Two buffers of one size are equal when they agree at every position of this size. -/
private theorem eq_of_getElem?_eq (hsize : after.size = data.size)
    (hat : ∀ j, j < data.size → after[j]? = data[j]?) : after = data := by
  refine Array.ext_getElem? fun j => ?_
  by_cases hj : j < data.size
  · exact hat j hj
  · have hle : data.size ≤ j := Nat.le_of_not_lt hj
    rw [Array.getElem?_eq_none hle, Array.getElem?_eq_none (hsize ▸ hle)]

/-- A buffer with one element changed. -/
private theorem eq_modify_iff {i : Nat} {f : α → α} :
    after = data.modify i f ↔
      after.size = data.size ∧ after[i]? = data[i]?.map f ∧
        ∀ j, j ≠ i → after[j]? = data[j]? := by
  constructor
  · rintro rfl
    refine ⟨Array.size_modify, ?_, ?_⟩
    · rw [Array.getElem?_modify, if_pos rfl]
    · intro j hj
      rw [Array.getElem?_modify, if_neg (Ne.symm hj)]
  · rintro ⟨_, hat, hothers⟩
    refine Array.ext_getElem? fun j => ?_
    rw [Array.getElem?_modify]
    split
    · rename_i hij
      rw [← hij, hat]
    · rename_i hij
      exact hothers j (Ne.symm hij)

/-- A buffer turned around. -/
private theorem eq_reverse_iff :
    after = data.reverse ↔
      after.size = data.size ∧ ∀ j, j < data.size → after[j]? = data[data.size - 1 - j]? := by
  constructor
  · rintro rfl
    exact ⟨Array.size_reverse, fun j hj => Array.getElem?_reverse hj⟩
  · rintro ⟨hsize, hat⟩
    refine eq_of_getElem?_eq (hsize.trans Array.size_reverse.symm) fun j hj => ?_
    rw [Array.size_reverse] at hj
    rw [hat j hj, Array.getElem?_reverse hj]

/-- A buffer with one element at every position. -/
private theorem eq_replicate_iff {n : Nat} {a : α} :
    after = Array.replicate n a ↔ after.size = n ∧ ∀ j, j < n → after[j]? = some a := by
  constructor
  · rintro rfl
    refine ⟨Array.size_replicate, fun j hj => ?_⟩
    rw [Array.getElem?_replicate, if_pos hj]
  · rintro ⟨hsize, hat⟩
    refine eq_of_getElem?_eq (hsize.trans Array.size_replicate.symm) fun j hj => ?_
    rw [Array.size_replicate] at hj
    rw [hat j hj, Array.getElem?_replicate, if_pos hj]

/-- The fields of a layout with the elements at their positions. -/
private theorem eq_pairs_iff {layout : Layout} {pairs : List (String × α)} :
    pairs = (mk layout data).pairs ↔
      ∀ (i : Nat) (field : String) (a : α), pairs[i]? = some (field, a) ↔
        layout.fields[i]? = some field ∧ data[i]? = some a := by
  have hzip : ∀ (i : Nat) (field : String) (a : α),
      (mk layout data).pairs[i]? = some (field, a) ↔
        layout.fields[i]? = some field ∧ data[i]? = some a := by
    intro i field a
    rw [View.pairs, List.getElem?_zip_eq_some, Array.getElem?_toList]
  constructor
  · rintro rfl
    exact hzip
  · intro hpairs
    refine List.ext_getElem? fun i => Option.ext fun pair => ?_
    rw [hpairs i pair.1 pair.2, hzip i pair.1 pair.2]

end Buffers

/-- An access through a layout to a buffer, its reply and the buffer after it. -/
inductive Access [Element α] (layout : Layout) (data : Array α) :
    Step α → Reply α → Array α → Prop
  /-- A declared field stands for its one position, where there is an element. -/
  | named {s : Step α} {field : String} {i : Nat} {reply : Reply α} {after : Array α}
      (hfield : s.field? = some field) (hposition : layout.fields[i]? = some field)
      (hunique : ∀ j, layout.fields[j]? = some field → j = i) (hi : i < data.size)
      (haccess : Access layout data (s.atPosition i) reply after) : Access layout data s reply after
  /-- Any other name is reported as undeclared, with the fields of the layout. -/
  | undeclared {s : Step α} {field : String} (hfield : s.field? = some field)
      (hposition : field ∉ layout.fields) :
      Access layout data s
        (.failed (s.failure (.undeclaredField layout.name field layout.fields))) data
  /-- The element at a position is read. -/
  | elementAt {i : Nat} {a : α} (ha : data[i]? = some a) :
      Access layout data (.elementAt i) (.element a) data
  /-- The element at a position is changed, and no other. -/
  | change {s : Step α} {i : Nat} {f : α → α} {after : Array α} (hchange : s.change? = some (i, f))
      (hi : i < data.size) (hsize : after.size = data.size) (hat : after[i]? = data[i]?.map f)
      (hothers : ∀ j, j ≠ i → after[j]? = data[j]?) :
      Access layout data s (.elements after) after
  /-- There is no position beyond the end. -/
  | outOfBounds {s : Step α} {i : Nat} (hposition : s.position? = some i) (hi : data.size ≤ i) :
      Access layout data s (.failed (.fault (.outOfBounds data.size i))) data
  /-- The whole buffer is read. -/
  | contents : Access layout data .contents (.elements data) data
  /-- Every field is read with the element at its position. -/
  | pairs {pairs : List (String × α)} (hlength : pairs.length = layout.fields.length)
      (hpairs : ∀ (i : Nat) (field : String) (a : α), pairs[i]? = some (field, a) ↔
        layout.fields[i]? = some field ∧ data[i]? = some a) :
      Access layout data .pairs (.pairs pairs) data
  | display : Access layout data .display (.text (mk layout data).display) data
  | debug : Access layout data .debug (.text (mk layout data).debug) data
  | describe :
      Access layout data .describe
        (.description layout.fields.length layout.fields.isEmpty layout.fields layout.name) data
  /-- The element at every position is the one that was as far from the other end. -/
  | reverse {after : Array α} (hsize : after.size = data.size)
      (hafter : ∀ j, j < data.size → after[j]? = data[data.size - 1 - j]?) :
      Access layout data .reverse (.elements after) after
  /-- The same element is at every position. -/
  | fill {a : α} {after : Array α} (hsize : after.size = data.size)
      (hafter : ∀ j, j < data.size → after[j]? = some a) :
      Access layout data (.fill a) (.elements after) after
  /-- As many values as there are elements take their places. -/
  | assign {values : Array α} (hsize : values.size = data.size) :
      Access layout data (.assign values) (.elements values) values
  /-- Any other number of values is refused. -/
  | assignRefused {values : Array α} (hsize : values.size ≠ data.size) :
      Access layout data (.assign values)
        (.failed (.refused (.lengthMismatch data.size values.size))) data

section Law

variable [Element α] {layout : Layout} {data after : Array α} {s : Step α} {reply : Reply α}

/-- No access changes the size of the buffer. -/
theorem Access.size_eq (haccess : Access layout data s reply after) : after.size = data.size := by
  induction haccess with
  | named _ _ _ _ _ ih => exact ih
  | change _ _ hsize => exact hsize
  | reverse hsize => exact hsize
  | fill hsize => exact hsize
  | assign hsize => exact hsize
  | _ => rfl

/-- An access that only reads leaves the buffer as it was. -/
theorem Access.eq_of_reads (haccess : Access layout data s reply after) (hreads : s.reads = true) :
    after = data := by
  induction haccess with
  | named _ _ _ _ _ ih => exact ih (by rwa [Step.reads_atPosition])
  | change hchange => simp [Step.reads_of_change? hchange] at hreads
  | reverse | fill | assign => cases hreads
  | _ => rfl

/-- A write inside the buffer replies with the buffer after it. -/
theorem step_modifyAt {v : View α} {i : Nat} (hi : i < v.buffer.size) (f : α → α) :
    v.step (.modifyAt i f) =
      (⟨v.layout, v.buffer.modify i f⟩, .elements (v.buffer.modify i f)) := by
  rw [step, modifyAt, if_pos hi]
  rfl

/-- Every write of a position changes the element there. -/
theorem step_of_change? {v : View α} {i : Nat} {f : α → α} (hchange : s.change? = some (i, f)) :
    v.step s = v.step (.modifyAt i f) := by
  cases s with
  | setAt j a =>
    cases hchange
    rfl
  | modifyAt j g =>
    cases hchange
    rfl
  | _ => cases hchange

/-- An access to a position beyond the end faults. -/
theorem step_outOfBounds {v : View α} {i : Nat} (hposition : s.position? = some i)
    (hi : v.buffer.size ≤ i) :
    v.step s = (v, .failed (.fault (.outOfBounds v.buffer.size i))) := by
  have hmodify : ∀ f, v.modifyAt i f = .error (.fault (.outOfBounds v.buffer.size i)) :=
    fun f => if_neg (Nat.not_lt.mpr hi)
  cases s with
  | elementAt j =>
    cases hposition
    rw [step, View.elementAt, Array.getElem?_eq_none hi]
    rfl
  | setAt j a =>
    cases hposition
    rw [step, setAt, hmodify]
    rfl
  | modifyAt j f =>
    cases hposition
    rw [step, hmodify]
    rfl
  | _ => cases hposition

/-- What the law allows is what the view does. -/
theorem Access.step_eq (hlawful : layout.Lawful) (haccess : Access layout data s reply after) :
    (mk layout data).step s = (mk layout after, reply) := by
  induction haccess with
  | named hfield hposition _ _ _ ih =>
    rw [step_of_position hfield (hlawful.position?_eq_some_iff.mpr hposition)]
    exact ih
  | undeclared hfield hposition =>
    exact step_of_undeclared hfield (hlawful.position?_eq_none_iff.mpr hposition)
  | elementAt ha =>
    rw [step, View.elementAt, ha]
    rfl
  | change hchange hi hsize hat hothers =>
    rw [step_of_change? hchange, step_modifyAt hi, eq_modify_iff.mpr ⟨hsize, hat, hothers⟩]
  | outOfBounds hposition hi => exact step_outOfBounds hposition hi
  | contents | display | debug | describe => rfl
  | pairs _ hpairs => rw [eq_pairs_iff.mpr hpairs, step]
  | reverse hsize hafter =>
    rw [eq_reverse_iff.mpr ⟨hsize, hafter⟩]
    rfl
  | fill hsize hafter =>
    rw [eq_replicate_iff.mpr ⟨hsize, hafter⟩]
    rfl
  | assign hsize =>
    rw [step, View.assign, if_pos hsize.symm]
    rfl
  | assignRefused hsize =>
    rw [step, View.assign, if_neg (Ne.symm hsize)]
    rfl

/-- What a view does at a position is what the law allows. -/
theorem access_of_position? {i : Nat} (hposition : s.position? = some i) :
    Access layout data s ((mk layout data).step s).2 ((mk layout data).step s).1.buffer := by
  by_cases hi : i < data.size
  · have hmodify : ∀ f, s.change? = some (i, f) →
        Access layout data s ((mk layout data).step s).2 ((mk layout data).step s).1.buffer := by
      intro f hchange
      obtain ⟨hsize, hat, hothers⟩ := eq_modify_iff.mp (Eq.refl (data.modify i f))
      rw [step_of_change? hchange, step_modifyAt hi f]
      exact .change hchange hi hsize hat hothers
    cases s with
    | elementAt j =>
      cases hposition
      have ha : data[i]? = some data[i] := Array.getElem?_eq_getElem hi
      rw [step, View.elementAt, ha]
      exact .elementAt ha
    | setAt j a =>
      cases hposition
      exact hmodify _ rfl
    | modifyAt j f =>
      cases hposition
      exact hmodify _ rfl
    | _ => cases hposition
  · have hle : data.size ≤ i := Nat.le_of_not_lt hi
    rw [step_outOfBounds hposition hle]
    exact .outOfBounds hposition hle

/-- What a view does by a name is what the law allows. -/
theorem access_of_field? (hlawful : layout.Lawful) (hsize : data.size = layout.fields.length)
    {field : String} (hfield : s.field? = some field) :
    Access layout data s ((mk layout data).step s).2 ((mk layout data).step s).1.buffer := by
  cases hposition : layout.position? field with
  | none =>
    rw [step_of_undeclared hfield hposition]
    exact .undeclared hfield (hlawful.position?_eq_none_iff.mp hposition)
  | some i =>
    have hat := hlawful.position?_eq_some_iff.mp hposition
    have hi : i < data.size := hsize ▸ (List.getElem?_eq_some_iff.mp hat).1
    have haccess : Access layout data (s.atPosition i) _ _ :=
      access_of_position? (Step.position?_atPosition hfield i)
    rw [step_of_position hfield hposition]
    exact .named hfield hat (fun j hj => hlawful.position_unique hj hat) hi haccess

/-- What a view does is what the law allows. -/
theorem access_step (hlawful : layout.Lawful) (hsize : data.size = layout.fields.length)
    (s : Step α) :
    Access layout data s ((mk layout data).step s).2 ((mk layout data).step s).1.buffer := by
  cases s with
  | get | demand | set | modify | demandSet => exact access_of_field? hlawful hsize rfl
  | elementAt | setAt | modifyAt => exact access_of_position? rfl
  | contents => exact .contents
  | pairs =>
    refine .pairs ?_ (eq_pairs_iff.mp rfl)
    rw [View.pairs, List.length_zip, Array.length_toList, hsize, Nat.min_self]
  | display => exact .display
  | debug => exact .debug
  | describe => exact .describe
  | reverse =>
    obtain ⟨hreverse, hat⟩ := eq_reverse_iff.mp (Eq.refl data.reverse)
    exact .reverse hreverse hat
  | fill a =>
    obtain ⟨hreplicate, hat⟩ := eq_replicate_iff.mp (Eq.refl (Array.replicate data.size a))
    exact .fill hreplicate hat
  | assign values =>
    by_cases hvalues : values.size = data.size
    · rw [step, View.assign, if_pos hvalues.symm]
      exact .assign hvalues
    · rw [step, View.assign, if_neg (Ne.symm hvalues)]
      exact .assignRefused hvalues

end Law

end KeyedContainers.View
