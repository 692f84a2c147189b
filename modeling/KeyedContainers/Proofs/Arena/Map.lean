import KeyedContainers.Proofs.Arena.Lookup

/-!
# Arenas with other contents

Putting the image of every content in its place keeps slots, versions and free slots. No
operation looks at the contents, so it leads from the image to the image, with the same handles.
-/

namespace KeyedContainers

variable {α β : Type}

/-- A slot with the image of its content. -/
def Slot.map (f : α → β) (s : Slot α) : Slot β := ⟨s.version, s.content.map f⟩

namespace Arena

/-- An arena with the images of its contents. -/
def map (f : α → β) (a : Arena α) : Arena β := ⟨a.slots.map (Slot.map f), a.free, a.count⟩

variable (f : α → β) (a : Arena α)

/-- A handle resolves to the image of what it resolved to. -/
theorem get?_map (h : Handle) : (a.map f).get? h = (a.get? h).map f := by
  simp only [get?, map, Array.getElem?_map]
  cases a.slots[h.slot]? with
  | none => rfl
  | some s =>
    by_cases hversion : s.version = h.version
    · simp [Slot.map, hversion]
    · simp [Slot.map, hversion]

/-- The handles are listed with the images of their contents. -/
theorem toList_map : (a.map f).toList = a.toList.map fun x => (x.1, f x.2) := by
  refine toList_eq_of_mem_iff (List.pairwise_map.mpr (pairwise_toList a)) ?_
  intro h c
  rw [get?_map, Option.map_eq_some_iff, List.mem_map]
  constructor
  · rintro ⟨⟨g, d⟩, hmem, heq⟩
    obtain ⟨rfl, rfl⟩ := Prod.mk.inj heq
    exact ⟨d, mem_toList_iff.mp hmem, rfl⟩
  · rintro ⟨d, hget, rfl⟩
    exact ⟨(h, d), mem_toList_iff.mpr hget, rfl⟩

@[simp] theorem handles_map : (a.map f).handles = a.handles := by
  rw [handles, toList_map, List.map_map]
  rfl

theorem contents_map : (a.map f).contents = a.contents.map f := by
  rw [contents, toList_map, contents, List.map_map, List.map_map]
  rfl

/-- Inserting an image gives the handle of the content, and the image after it. -/
theorem insert_map (c : α) :
    (a.map f).insert (f c) = ((a.insert c).1, (a.insert c).2.map f) := by
  cases hfree : a.free with
  | nil => simp [insert, map, hfree, Slot.map]
  | cons position free =>
    have hversion : ((a.slots.map (Slot.map f))[position]?.elim 0 fun s => s.version) =
        a.slots[position]?.elim 0 fun s => s.version := by
      rw [Array.getElem?_map]
      cases a.slots[position]? <;> rfl
    simp only [insert, map, hfree, hversion, Array.map_setIfInBounds]
    rfl

/-- Removing a handle answers the image of its content. -/
theorem remove_map (h : Handle) :
    (a.map f).remove h = ((a.remove h).1.map f, (a.remove h).2.map f) := by
  cases hget : a.get? h with
  | none =>
    have hstale : (a.map f).get? h = none := by rw [get?_map, hget, Option.map_none]
    rw [remove_of_stale hget, remove_of_stale hstale]
    rfl
  | some c =>
    have hthere : (a.map f).get? h = some (f c) := by rw [get?_map, hget, Option.map_some]
    simp only [remove, hget, hthere]
    simp only [map, Array.map_setIfInBounds]
    rfl

/-- Changing a content changes its image, by any change that the images see. -/
theorem modify_map {f : α → β} {g : α → α} {g' : β → β} (hg : ∀ c, f (g c) = g' (f c))
    (a : Arena α) (h : Handle) : (a.modify h g).map f = (a.map f).modify h g' := by
  cases hget : a.get? h with
  | none =>
    have hstale : (a.map f).get? h = none := by rw [get?_map, hget, Option.map_none]
    rw [modify_of_stale hget, modify_of_stale hstale]
  | some c =>
    have hthere : (a.map f).get? h = some (f c) := by rw [get?_map, hget, Option.map_some]
    simp only [modify, hget, hthere]
    simp only [map, Array.map_setIfInBounds, Slot.map, Option.map_some, hg]

/-- Clearing frees the same slots. -/
theorem clear_map : a.clear.map f = (a.map f).clear := by
  have hvacate : ∀ s : Slot α, s.vacate.map f = (s.map f).vacate := by
    intro s
    obtain ⟨version, content⟩ := s
    cases content <;> rfl
  have hslots : (a.slots.map Slot.vacate).map (Slot.map f) =
      (a.slots.map (Slot.map f)).map Slot.vacate := by
    rw [Array.map_map, Array.map_map]
    exact Array.map_congr_left fun s _ => hvacate s
  have hhandles := handles_map f a
  simp only [clear, map] at hhandles ⊢
  rw [hslots, hhandles]

end Arena

end KeyedContainers
