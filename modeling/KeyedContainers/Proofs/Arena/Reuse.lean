import KeyedContainers.Proofs.Arena.Sound

/-!
# Slots that are taken again at once

The slot that was freed last is taken next. So an insertion right after a removal puts its content
where the removed one stood, under a handle of the same slot two versions on, and a content that is
removed and inserted again keeps its place in the listing.
-/

namespace KeyedContainers

/-- The handle of the next content in the same slot: the slot is freed and taken in between. -/
def Handle.renewed (h : Handle) : Handle := ⟨h.slot, h.version + 2⟩

theorem Handle.renewed_ne (h : Handle) : h.renewed ≠ h := by
  intro hsame
  have hversion := congrArg Handle.version hsame
  change h.version + 2 = h.version at hversion
  omega

namespace Arena

variable {α : Type} {a b : Arena α} {h : Handle} {c : α}

/-- Arenas with the same look-ups have the same listing. -/
theorem toList_congr (hget : ∀ g, a.get? g = b.get? g) : a.toList = b.toList := by
  refine toList_eq_of_mem_iff (pairwise_toList b) ?_
  intro g d
  rw [mem_toList_iff, hget]

/-- The renewed handle of a content that is there does not resolve. -/
theorem get?_renewed (hget : a.get? h = some c) : a.get? h.renewed = none :=
  get?_eq_none_of_slot_eq hget rfl h.renewed_ne

/-- An insertion after a removal gives the renewed handle. -/
private theorem insert_remove_fst (hget : a.get? h = some c) (d : α) :
    ((a.remove h).2.insert d).1 = h.renewed := by
  have hlt := slot_lt_of_get? hget
  simp [remove, hget, insert, hlt, Handle.renewed]

/-- After a removal and an insertion the renewed handle resolves to the new content, the removed one
to nothing, and the others as they did. -/
theorem Sound.get?_insert_remove (ha : a.Sound) (hget : a.get? h = some c) (d : α) (g : Handle) :
    ((a.remove h).2.insert d).2.get? g =
      if g = h.renewed then some d else if g = h then none else a.get? g := by
  rw [(ha.remove h).get?_insert, insert_remove_fst hget, get?_remove]

/-- The new content is listed at the place of the removed one. -/
theorem Sound.toList_insert_remove (ha : a.Sound) (hget : a.get? h = some c) (d : α) :
    ((a.remove h).2.insert d).2.toList =
      a.toList.map fun x => if x.1 = h then (h.renewed, d) else x := by
  have hslot : ∀ x : Handle × α, (if x.1 = h then (h.renewed, d) else x).1.slot = x.1.slot := by
    intro x
    split
    · rename_i hx
      rw [hx]
      rfl
    · rfl
  have hothers : (a.remove h).2.toList.map (fun x => if x.1 = h then (h.renewed, d) else x) =
      (a.remove h).2.toList := by
    refine (List.map_congr_left fun x hx => ?_).trans (List.map_id _)
    rw [toList_remove, List.mem_filter, decide_eq_true_eq] at hx
    exact if_neg hx.2
  have hperm : ((a.remove h).2.insert d).2.toList.Perm
      (a.toList.map fun x => if x.1 = h then (h.renewed, d) else x) := by
    refine ((ha.remove h).perm_toList_insert d).trans ?_
    refine List.Perm.trans ?_ ((perm_toList_remove hget).map _).symm
    rw [List.map_cons, if_pos rfl, hothers, insert_remove_fst hget]
  refine toList_eq_of_perm hperm (List.pairwise_map.mpr ((pairwise_toList a).imp ?_))
  intro x y hlt
  rwa [hslot, hslot]

/-- A content that is removed and inserted again keeps its place. -/
theorem Sound.contents_insert_remove (ha : a.Sound) (hget : a.get? h = some c) :
    ((a.remove h).2.insert c).2.contents = a.contents := by
  rw [contents, ha.toList_insert_remove hget, List.map_map, contents]
  refine List.map_congr_left fun x hx => ?_
  have hx' : a.get? x.1 = some x.2 := mem_toList_iff.mp hx
  by_cases hxh : x.1 = h
  · rw [hxh, hget, Option.some.injEq] at hx'
    rw [Function.comp, if_pos hxh, hx']
  · rw [Function.comp, if_neg hxh]

end Arena

end KeyedContainers
