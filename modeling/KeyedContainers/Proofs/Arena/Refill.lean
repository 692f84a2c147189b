import KeyedContainers.Proofs.Arena.Sound
import Mathlib.Data.List.Sort

/-!
# Arenas that are filled and cleared

Where contents are only put in, changed, or taken out all together, the free slots of an arena are
always its first ones, and the last of them is taken next. So an insertion into a free slot puts its
content in front of all others, while an insertion without a free slot puts it behind them.
-/

namespace KeyedContainers.Arena

variable {α : Type}

/-- The free slots are the first `free` ones, the last of them to be taken next. -/
structure Refilled (a : Arena α) (free : Nat) : Prop extends Sound a where
  free_eq : a.free = (List.range free).reverse

variable {a : Arena α} {free : Nat}

theorem refilled_empty : (empty : Arena α).Refilled 0 := ⟨sound_empty, rfl⟩

/-- The first slots are the free ones. -/
theorem Refilled.mem_free (ha : a.Refilled free) {position : Nat} :
    position ∈ a.free ↔ position < free := by
  rw [ha.free_eq, List.mem_reverse, List.mem_range]

/-- The free slots are slots. -/
theorem Refilled.free_le (ha : a.Refilled free) : free ≤ a.slots.size := by
  by_contra hlt
  have hfree : a.slots.size ∈ a.free := ha.mem_free.mpr (by omega)
  obtain ⟨version, hslot⟩ := (ha.mem_free_iff _).mp hfree
  simp at hslot

/-- The slots with contents come after the free ones. -/
theorem Refilled.free_le_slot (ha : a.Refilled free) {x : Handle × α} (hx : x ∈ a.toList) :
    free ≤ x.1.slot := by
  have hget : a.get? x.1 = some x.2 := mem_toList_iff.mp hx
  have hfull := ha.slot_notMem_free hget
  rw [ha.mem_free] at hfull
  omega

/-- An insertion takes the last free slot and puts its content first. -/
theorem Refilled.insert_of_free (ha : a.Refilled (free + 1)) (c : α) :
    (a.insert c).2.contents = c :: a.contents ∧ (a.insert c).2.Refilled free ∧
      (a.insert c).2.slots.size = a.slots.size := by
  have hfree : a.free = free :: (List.range free).reverse := by
    rw [ha.free_eq, List.range_succ, List.reverse_concat]
  obtain ⟨version, _, heq⟩ := ha.toSound.insert_of_free hfree c
  have hfirst : ∀ x ∈ a.toList, (a.insert c).1.slot < x.1.slot := by
    intro x hx
    rw [heq]
    exact ha.free_le_slot hx
  have hlist : (a.insert c).2.toList = ((a.insert c).1, c) :: a.toList :=
    toList_eq_of_perm (ha.perm_toList_insert c)
      (List.pairwise_cons.mpr ⟨hfirst, pairwise_toList a⟩)
  refine ⟨?_, ⟨ha.toSound.insert c, ?_⟩, ?_⟩
  · rw [contents, hlist]
    rfl
  · rw [heq]
  · rw [heq]
    exact Array.size_setIfInBounds

/-- Without free slots an insertion makes a new slot and puts its content last. -/
theorem Refilled.insert_of_full (ha : a.Refilled 0) (c : α) :
    (a.insert c).2.contents = a.contents ++ [c] ∧ (a.insert c).2.Refilled 0 ∧
      (a.insert c).2.slots.size = a.slots.size + 1 := by
  have heq := Arena.insert_of_full ha.free_eq c
  have hlast : ∀ x ∈ a.toList, ∀ y ∈ [((a.insert c).1, c)], x.1.slot < y.1.slot := by
    intro x hx y hy
    rw [List.mem_singleton.mp hy, heq]
    exact slot_lt_of_get? (mem_toList_iff.mp hx)
  have hlist : (a.insert c).2.toList = a.toList ++ [((a.insert c).1, c)] :=
    toList_eq_of_perm ((ha.perm_toList_insert c).trans (List.perm_append_singleton _ _).symm)
      (List.pairwise_append.mpr ⟨pairwise_toList a, List.pairwise_singleton _ _, hlast⟩)
  refine ⟨?_, ⟨ha.toSound.insert c, ?_⟩, ?_⟩
  · rw [contents, hlist, List.map_append]
    rfl
  · rw [heq]
    rfl
  · rw [heq]
    exact Array.size_push _

/-- A change takes and frees no slot. -/
theorem Refilled.modify (ha : a.Refilled free) (h : Handle) (f : α → α) :
    (a.modify h f).Refilled free ∧ (a.modify h f).slots.size = a.slots.size := by
  have hsound := ha.toSound.modify h f
  cases hget : a.get? h with
  | none =>
    rw [modify_of_stale hget]
    exact ⟨ha, rfl⟩
  | some c =>
    simp only [Arena.modify, hget] at hsound ⊢
    exact ⟨⟨hsound, ha.free_eq⟩, Array.size_setIfInBounds⟩

/-- The free slots and after them the slots with contents are all slots. -/
theorem Refilled.range_append_slots (ha : a.Refilled free) :
    List.range free ++ a.handles.map (·.slot) = List.range a.slots.size := by
  have hslots : (a.handles.map (·.slot)).Pairwise (· < ·) := by
    rw [handles, List.map_map]
    exact List.pairwise_map.mpr (pairwise_toList a)
  have hsorted : (List.range free ++ a.handles.map (·.slot)).Pairwise (· < ·) := by
    refine List.pairwise_append.mpr ⟨List.pairwise_lt_range, hslots, ?_⟩
    intro p hp q hq
    rw [handles, List.map_map] at hq
    obtain ⟨x, hx, rfl⟩ := List.mem_map.mp hq
    exact Nat.lt_of_lt_of_le (List.mem_range.mp hp) (ha.free_le_slot hx)
  refine hsorted.eq_of_mem_iff List.pairwise_lt_range ?_
  intro position
  rw [List.mem_append, List.mem_range, List.mem_range, List.mem_map]
  constructor
  · rintro (hfree | ⟨h, hh, rfl⟩)
    · exact Nat.lt_of_lt_of_le hfree ha.free_le
    · obtain ⟨c, hget⟩ := Option.isSome_iff_exists.mp (mem_handles_iff.mp hh)
      exact slot_lt_of_get? hget
  · intro hlt
    rcases hslot : a.slots[position] with ⟨version, content⟩
    have hslot? : a.slots[position]? = some ⟨version, content⟩ := by
      rw [Array.getElem?_eq_getElem hlt, hslot]
    cases content with
    | none => exact Or.inl (ha.mem_free.mp ((ha.mem_free_iff position).mpr ⟨version, hslot?⟩))
    | some c =>
      have hget : a.get? ⟨position, version⟩ = some c := get?_eq_some_iff.mpr hslot?
      exact Or.inr ⟨⟨position, version⟩, mem_handles_iff.mpr (by simp [hget]), rfl⟩

/-- Clearing frees all slots in their order. -/
theorem Refilled.clear (ha : a.Refilled free) :
    a.clear.Refilled a.slots.size ∧ a.clear.slots.size = a.slots.size := by
  refine ⟨⟨ha.toSound.clear, ?_⟩, Array.size_map⟩
  calc
    a.clear.free = (a.handles.map (·.slot)).reverse ++ (List.range free).reverse := by
      rw [← ha.free_eq]
      rfl
    _ = (List.range free ++ a.handles.map (·.slot)).reverse := List.reverse_append.symm
    _ = (List.range a.slots.size).reverse := by rw [ha.range_append_slots]

end KeyedContainers.Arena
