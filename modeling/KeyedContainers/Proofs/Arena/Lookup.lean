import KeyedContainers.Arena
import Mathlib.Data.List.Nodup

/-!
# Look-ups in an arena

A handle resolves exactly when its slot has its version and a content. From this come the
look-ups after a removal, a change and a clearing. The listing of an arena is in the order of the
slots and has exactly the handles that resolve, and these two facts determine it, so that the
listing after an operation follows from the look-ups after it.
-/

namespace KeyedContainers.Arena

variable {α : Type}

/-- A handle resolves exactly to the content that its slot has at its version. -/
theorem get?_eq_some_iff {a : Arena α} {h : Handle} {c : α} :
    a.get? h = some c ↔ a.slots[h.slot]? = some ⟨h.version, some c⟩ := by
  unfold get?
  cases hs : a.slots[h.slot]? with
  | none => simp
  | some s =>
    rcases s with ⟨version, content⟩
    by_cases hv : version = h.version
    · simp [hv]
    · simp [hv]

/-- The slot of a handle that resolves is there. -/
theorem slot_lt_of_get? {a : Arena α} {h : Handle} {c : α} (hget : a.get? h = some c) :
    h.slot < a.slots.size :=
  (Array.getElem?_eq_some_iff.mp (get?_eq_some_iff.mp hget)).1

/-- Of the handles of one slot at most one resolves. -/
theorem get?_eq_none_of_slot_eq {a : Arena α} {g h : Handle} {c : α} (hget : a.get? h = some c)
    (hslot : g.slot = h.slot) (hne : g ≠ h) : a.get? g = none := by
  cases hg : a.get? g with
  | none => rfl
  | some d =>
    have hg' := get?_eq_some_iff.mp hg
    rw [hslot, get?_eq_some_iff.mp hget, Option.some.injEq, Slot.mk.injEq] at hg'
    refine absurd ?_ hne
    cases g
    cases h
    simp_all

/-- Writing one slot decides the look-ups there and leaves the others as they are. -/
theorem get?_setSlot {a : Arena α} {position : Nat} (hposition : position < a.slots.size)
    (s : Slot α) (free : List Nat) (count : Nat) (g : Handle) :
    (mk (a.slots.setIfInBounds position s) free count).get? g =
      if g.slot = position then (if s.version = g.version then s.content else none)
      else a.get? g := by
  by_cases hslot : g.slot = position
  · rw [if_pos hslot]
    simp [get?, hslot, hposition]
  · rw [if_neg hslot]
    simp only [get?, Array.getElem?_setIfInBounds_ne (Ne.symm hslot)]

/-- A removal makes its handle stale and leaves the others as they are. -/
theorem get?_remove (a : Arena α) (h g : Handle) :
    (a.remove h).2.get? g = if g = h then none else a.get? g := by
  cases hget : a.get? h with
  | none =>
    rw [remove_of_stale hget]
    split
    · simp [*]
    · rfl
  | some c =>
    simp only [remove, hget, get?_setSlot (slot_lt_of_get? hget)]
    by_cases hgh : g = h
    · simp [hgh]
    · rw [if_neg hgh]
      split
      · simp [get?_eq_none_of_slot_eq hget ‹_› hgh]
      · rfl

/-- A change reaches the content of its handle and leaves the others as they are. -/
theorem get?_modify (a : Arena α) (h g : Handle) (f : α → α) :
    (a.modify h f).get? g = if g = h then (a.get? h).map f else a.get? g := by
  cases hget : a.get? h with
  | none =>
    rw [modify_of_stale hget]
    split
    · simp [*]
    · rfl
  | some c =>
    simp only [modify, hget, get?_setSlot (slot_lt_of_get? hget)]
    by_cases hgh : g = h
    · simp [hgh]
    · rw [if_neg hgh]
      split
      · have hversion : h.version ≠ g.version := by
          intro hv
          exact hgh (by cases g; cases h; simp_all)
        simp [hversion, get?_eq_none_of_slot_eq hget ‹_› hgh]
      · rfl

/-- The slots of a cleared arena have no content. -/
private theorem content_vacate (s : Slot α) : s.vacate.content = none := by
  unfold Slot.vacate
  cases hs : s.content with
  | none => exact hs
  | some c => rfl

/-- No handle resolves in a cleared arena. -/
@[simp] theorem get?_clear (a : Arena α) (h : Handle) : a.clear.get? h = none := by
  simp only [get?, clear, Array.getElem?_map]
  cases a.slots[h.slot]? with
  | none => rfl
  | some s => simp [content_vacate]

/-- The listing has exactly the handles that resolve, with what they resolve to. -/
theorem mem_toList_iff {a : Arena α} {h : Handle} {c : α} :
    (h, c) ∈ a.toList ↔ a.get? h = some c := by
  rw [get?_eq_some_iff]
  simp only [toList, List.mem_filterMap, slotEntry?, Option.map_eq_some_iff, Prod.exists,
    List.mem_zipIdx_iff_getElem?, Array.getElem?_toList]
  constructor
  · rintro ⟨s, position, hs, content, hcontent, he⟩
    rw [Prod.mk.injEq] at he
    obtain ⟨rfl, rfl⟩ := he
    cases s
    simp_all
  · intro hs
    exact ⟨_, _, hs, c, rfl, rfl⟩

/-- The listing is in the order of the slots. -/
theorem pairwise_toList (a : Arena α) : a.toList.Pairwise fun x y => x.1.slot < y.1.slot := by
  unfold toList
  rw [List.pairwise_filterMap]
  have hpositions : (a.slots.toList.zipIdx).Pairwise fun x y => x.2 < y.2 := by
    have hrange : (a.slots.toList.zipIdx.map Prod.snd).Pairwise (· < ·) := by
      rw [List.zipIdx_map_snd]
      exact List.pairwise_lt_range'
    exact List.pairwise_map.mp hrange
  refine hpositions.imp ?_
  intro s t hlt x hx y hy
  obtain ⟨_, _, rfl⟩ := Option.map_eq_some_iff.mp hx
  obtain ⟨_, _, rfl⟩ := Option.map_eq_some_iff.mp hy
  exact hlt

/-- No handle is listed twice. -/
theorem nodup_handles (a : Arena α) : a.handles.Nodup :=
  List.pairwise_map.mpr ((pairwise_toList a).imp fun hlt he => by simp [he] at hlt)

/-- A handle is listed at one place at most. -/
theorem place_unique {a : Arena α} {h : Handle} {i j : Nat} (hi : a.handles[i]? = some h)
    (hj : a.handles[j]? = some h) : i = j := by
  have hlt := (List.getElem?_eq_some_iff.mp hi).1
  exact (List.getElem?_inj hlt (nodup_handles a)).mp (hi.trans hj.symm)

/-- No entry is listed twice. -/
theorem nodup_toList (a : Arena α) : a.toList.Nodup := List.Nodup.of_map _ (nodup_handles a)

/-- The listed handles are those that resolve. -/
theorem mem_handles_iff {a : Arena α} {h : Handle} : h ∈ a.handles ↔ (a.get? h).isSome := by
  simp only [handles, List.mem_map, Prod.exists, mem_toList_iff, exists_and_right, exists_eq_right,
    Option.isSome_iff_exists]

/-- The handles of an arena resolve to its contents, in their order. -/
theorem filterMap_get?_handles (a : Arena α) : a.handles.filterMap a.get? = a.contents := by
  rw [handles, List.filterMap_map, contents, ← List.filterMap_eq_map]
  exact List.filterMap_congr fun x hx => mem_toList_iff.mp hx

/-- The listing is the only arrangement of its entries in the order of the slots. -/
theorem toList_eq_of_perm {a : Arena α} {entries : List (Handle × α)}
    (hperm : a.toList.Perm entries)
    (hsorted : entries.Pairwise fun x y => x.1.slot < y.1.slot) : a.toList = entries := by
  refine hperm.eq_of_pairwise ?_ (pairwise_toList a) hsorted
  intro x y _ _ hxy hyx
  exact absurd hxy (Nat.lt_asymm hyx)

/-- Order and members determine the listing. -/
theorem toList_eq_of_mem_iff {a : Arena α} {entries : List (Handle × α)}
    (hsorted : entries.Pairwise fun x y => x.1.slot < y.1.slot)
    (hmem : ∀ h c, (h, c) ∈ entries ↔ a.get? h = some c) : a.toList = entries := by
  have hdistinct : entries.Nodup := hsorted.imp fun hlt he => by simp [he] at hlt
  refine toList_eq_of_perm ((List.perm_ext_iff_of_nodup (nodup_toList a) hdistinct).mpr ?_) hsorted
  intro x
  exact mem_toList_iff.trans (hmem x.1 x.2).symm

/-- A removal takes the removed entry out of the listing. -/
theorem toList_remove (a : Arena α) (h : Handle) :
    (a.remove h).2.toList = a.toList.filter fun x => x.1 ≠ h := by
  refine toList_eq_of_mem_iff ((pairwise_toList a).filter _) ?_
  intro g c
  rw [get?_remove, List.mem_filter, mem_toList_iff, decide_eq_true_eq]
  split <;> simp [*]

/-- A removal takes out one entry of the listing. -/
theorem perm_toList_remove {a : Arena α} {h : Handle} {c : α} (hget : a.get? h = some c) :
    a.toList.Perm ((h, c) :: (a.remove h).2.toList) := by
  have hgone : (h, c) ∉ (a.remove h).2.toList := by
    rw [mem_toList_iff, get?_remove, if_pos rfl]
    simp
  refine (List.perm_ext_iff_of_nodup (nodup_toList a)
    (List.nodup_cons.mpr ⟨hgone, nodup_toList _⟩)).mpr ?_
  rintro ⟨g, d⟩
  rw [List.mem_cons, mem_toList_iff, mem_toList_iff, get?_remove, Prod.mk.injEq]
  by_cases hg : g = h
  · simp [hg, hget, eq_comm]
  · simp [hg]

/-- A change rewrites one entry of the listing in its place. -/
theorem toList_modify (a : Arena α) (h : Handle) (f : α → α) :
    (a.modify h f).toList = a.toList.map fun x => (x.1, if x.1 = h then f x.2 else x.2) := by
  refine toList_eq_of_mem_iff (List.pairwise_map.mpr (pairwise_toList a)) ?_
  intro g c
  simp only [List.mem_map, Prod.exists, mem_toList_iff, Prod.mk.injEq, get?_modify]
  by_cases hgh : g = h
  · simp [hgh]
  · simp [hgh]

/-- Nothing is listed in a cleared arena. -/
@[simp] theorem toList_clear (a : Arena α) : a.clear.toList = [] :=
  toList_eq_of_mem_iff List.Pairwise.nil (by simp)

/-- A change keeps the handles. -/
@[simp] theorem handles_modify (a : Arena α) (h : Handle) (f : α → α) :
    (a.modify h f).handles = a.handles := by
  simp [handles, toList_modify]

end KeyedContainers.Arena
