import KeyedContainers.Proofs.Arena.Lookup
import KeyedContainers.Proofs.Storage

/-!
# Sound arenas

An arena is sound when its bookkeeping agrees with its slots: exactly the slots without content
are free, none of them twice, and the count is the number of contents. Every operation keeps an
arena sound. In a sound arena an insertion gives a handle that did not resolve before, and leaves
all other look-ups as they are.
-/

namespace KeyedContainers.Arena

variable {α : Type}

/-- The bookkeeping of an arena agrees with its slots. -/
structure Sound (a : Arena α) : Prop where
  /-- No slot is free twice. -/
  nodup_free : a.free.Nodup
  /-- Exactly the slots without content are free. -/
  mem_free_iff : ∀ position,
    position ∈ a.free ↔ ∃ version, a.slots[position]? = some ⟨version, none⟩
  /-- The count is the number of contents. -/
  count_eq : a.count = a.toList.length

theorem sound_empty : (empty : Arena α).Sound :=
  ⟨List.nodup_nil, by simp [empty], rfl⟩

/-- The slot of a handle that resolves is not free. -/
theorem Sound.slot_notMem_free {a : Arena α} (ha : a.Sound) {h : Handle} {c : α}
    (hget : a.get? h = some c) : h.slot ∉ a.free := by
  intro hfree
  obtain ⟨version, hslot⟩ := (ha.mem_free_iff h.slot).mp hfree
  rw [get?_eq_some_iff.mp hget] at hslot
  simp at hslot

/-- An insertion takes the slot freed last, one version on. -/
theorem Sound.insert_of_free {a : Arena α} (ha : a.Sound) {position : Nat} {free : List Nat}
    (hfree : a.free = position :: free) (c : α) :
    ∃ version, a.slots[position]? = some ⟨version, none⟩ ∧
      a.insert c = (⟨position, version + 1⟩,
        ⟨a.slots.setIfInBounds position ⟨version + 1, some c⟩, free, a.count + 1⟩) := by
  obtain ⟨version, hslot⟩ := (ha.mem_free_iff position).mp (by simp [hfree])
  exact ⟨version, hslot, by simp [insert, hfree, hslot]⟩

/-- Without a free slot an insertion makes a new one. -/
theorem insert_of_full {a : Arena α} (hfree : a.free = []) (c : α) :
    a.insert c = (⟨a.slots.size, 1⟩, ⟨a.slots.push ⟨1, some c⟩, [], a.count + 1⟩) := by
  simp [insert, hfree]

/-- The handle of an insertion did not resolve before. -/
theorem Sound.get?_fresh {a : Arena α} (ha : a.Sound) (c : α) : a.get? (a.insert c).1 = none := by
  cases hfree : a.free with
  | nil => simp [insert_of_full hfree, get?]
  | cons position free =>
    obtain ⟨version, hslot, heq⟩ := ha.insert_of_free hfree c
    simp [heq, get?, hslot]

/-- After an insertion its handle resolves to the content, and the others as they did. -/
theorem Sound.get?_insert {a : Arena α} (ha : a.Sound) (c : α) (g : Handle) :
    (a.insert c).2.get? g = if g = (a.insert c).1 then some c else a.get? g := by
  cases hfree : a.free with
  | nil =>
    rw [insert_of_full hfree]
    rcases g with ⟨slot, version⟩
    by_cases hslot : slot = a.slots.size
    · by_cases hversion : version = 1
      · simp [get?, hslot, hversion]
      · simp [get?, hslot, hversion, Ne.symm hversion]
    · simp [get?, hslot, Array.getElem?_push]
  | cons position free =>
    obtain ⟨version, hslot, heq⟩ := ha.insert_of_free hfree c
    have hlt := (Array.getElem?_eq_some_iff.mp hslot).1
    rw [heq]
    simp only [get?_setSlot hlt]
    rcases g with ⟨slot, version'⟩
    by_cases hs : slot = position
    · by_cases hv : version' = version + 1
      · simp [hs, hv]
      · simp [hs, hv, Ne.symm hv, get?, hslot]
    · simp [hs]

/-- An insertion adds one entry to the listing. -/
theorem Sound.perm_toList_insert {a : Arena α} (ha : a.Sound) (c : α) :
    (a.insert c).2.toList.Perm (((a.insert c).1, c) :: a.toList) := by
  have hfresh : ∀ d, ((a.insert c).1, d) ∉ a.toList := by
    intro d hd
    have hget := mem_toList_iff.mp hd
    rw [ha.get?_fresh c] at hget
    simp at hget
  refine (List.perm_ext_iff_of_nodup (nodup_toList _)
    (List.nodup_cons.mpr ⟨hfresh c, nodup_toList a⟩)).mpr ?_
  rintro ⟨g, d⟩
  rw [mem_toList_iff, ha.get?_insert, List.mem_cons, mem_toList_iff, Prod.mk.injEq]
  by_cases hg : g = (a.insert c).1
  · simp [hg, ha.get?_fresh, eq_comm]
  · simp [hg]

/-- An insertion keeps an arena sound. -/
theorem Sound.insert {a : Arena α} (ha : a.Sound) (c : α) : (a.insert c).2.Sound := by
  have hcount : (a.insert c).2.toList.length = a.count + 1 := by
    rw [(ha.perm_toList_insert c).length_eq, List.length_cons, ha.count_eq]
  cases hfree : a.free with
  | nil =>
    have hmem := ha.mem_free_iff
    simp only [insert_of_full hfree] at hcount ⊢
    refine ⟨List.nodup_nil, ?_, hcount.symm⟩
    intro position
    simp only [hfree, List.not_mem_nil, false_iff, not_exists] at hmem ⊢
    intro version
    rw [Array.getElem?_push]
    split
    · simp
    · exact hmem position version
  | cons position free =>
    obtain ⟨version, hslot, heq⟩ := ha.insert_of_free hfree c
    have hlt := (Array.getElem?_eq_some_iff.mp hslot).1
    have hnodup := List.nodup_cons.mp (hfree ▸ ha.nodup_free)
    simp only [heq] at hcount ⊢
    refine ⟨hnodup.2, ?_, hcount.symm⟩
    intro other
    by_cases ho : other = position
    · subst ho
      simp [hnodup.1, hlt]
    · rw [Array.getElem?_setIfInBounds_ne (Ne.symm ho), ← ha.mem_free_iff, hfree]
      simp [ho]

/-- A removal keeps an arena sound. -/
theorem Sound.remove {a : Arena α} (ha : a.Sound) (h : Handle) : (a.remove h).2.Sound := by
  cases hget : a.get? h with
  | none => rwa [remove_of_stale hget]
  | some c =>
    have hlt := slot_lt_of_get? hget
    have hcount : (a.remove h).2.toList.length + 1 = a.count := by
      rw [ha.count_eq, (perm_toList_remove hget).length_eq, List.length_cons]
    simp only [Arena.remove, hget] at hcount ⊢
    refine ⟨List.nodup_cons.mpr ⟨ha.slot_notMem_free hget, ha.nodup_free⟩, ?_, by simp; omega⟩
    intro position
    rw [List.mem_cons, ha.mem_free_iff]
    by_cases hp : position = h.slot
    · simp [hp, hlt]
    · simp [hp, Array.getElem?_setIfInBounds_ne (Ne.symm hp)]

/-- A change keeps an arena sound. -/
theorem Sound.modify {a : Arena α} (ha : a.Sound) (h : Handle) (f : α → α) :
    (a.modify h f).Sound := by
  have hlength : (a.modify h f).toList.length = a.toList.length := by
    rw [toList_modify, List.length_map]
  cases hget : a.get? h with
  | none => rwa [modify_of_stale hget]
  | some c =>
    simp only [Arena.modify, hget] at hlength ⊢
    refine ⟨ha.nodup_free, ?_, ha.count_eq.trans hlength.symm⟩
    intro position
    rw [ha.mem_free_iff]
    by_cases hp : position = h.slot
    · subst hp
      rw [get?_eq_some_iff.mp hget, Array.getElem?_setIfInBounds_self_of_lt (slot_lt_of_get? hget)]
      simp
    · rw [Array.getElem?_setIfInBounds_ne (Ne.symm hp)]

/-- A clearing keeps an arena sound. -/
theorem Sound.clear {a : Arena α} (ha : a.Sound) : a.clear.Sound := by
  refine ⟨?_, ?_, (congrArg List.length (toList_clear a)).symm⟩
  · have htaken : (a.handles.map (·.slot)).Nodup := by
      rw [handles, List.map_map]
      exact List.pairwise_map.mpr ((pairwise_toList a).imp fun hlt => Nat.ne_of_lt hlt)
    refine List.nodup_append'.mpr ⟨List.nodup_reverse.mpr htaken, ha.nodup_free, ?_⟩
    intro position htaken hfree
    obtain ⟨h, hmem, rfl⟩ := List.mem_map.mp (List.mem_reverse.mp htaken)
    obtain ⟨c, hget⟩ := Option.isSome_iff_exists.mp (mem_handles_iff.mp hmem)
    exact ha.slot_notMem_free hget hfree
  · intro position
    simp only [Arena.clear, List.mem_append, List.mem_reverse, List.mem_map, Array.getElem?_map,
      ha.mem_free_iff, Option.map_eq_some_iff]
    constructor
    · rintro (⟨h, hmem, rfl⟩ | ⟨version, hslot⟩)
      · obtain ⟨c, hget⟩ := Option.isSome_iff_exists.mp (mem_handles_iff.mp hmem)
        exact ⟨h.version + 1, _, get?_eq_some_iff.mp hget, rfl⟩
      · exact ⟨version, _, hslot, rfl⟩
    · rintro ⟨_, ⟨version, content⟩, hslot, _⟩
      cases content with
      | none => exact Or.inr ⟨version, hslot⟩
      | some c =>
        have hget : a.get? ⟨position, version⟩ = some c := get?_eq_some_iff.mpr hslot
        exact Or.inl ⟨⟨position, version⟩, mem_handles_iff.mpr (by rw [hget]; rfl), rfl⟩

/-- Arenas keep the laws on which maps rely. -/
theorem lawful :
    LawfulArena (Sound (α := α)) get? toList count empty insert remove modify clear where
  sound_empty := sound_empty
  sound_insert := Sound.insert
  sound_remove := Sound.remove
  sound_modify := Sound.modify
  sound_clear := Sound.clear
  get?_empty := get?_empty
  get?_fresh := Sound.get?_fresh
  get?_insert := Sound.get?_insert
  remove_fst := remove_fst
  get?_remove := get?_remove
  get?_modify := get?_modify
  remove_of_stale := remove_of_stale
  modify_of_stale := modify_of_stale
  get?_clear := get?_clear
  mem_toList_iff := mem_toList_iff
  nodup_handles := nodup_handles
  count_eq := Sound.count_eq
  perm_insert := Sound.perm_toList_insert
  perm_remove := perm_toList_remove
  perm_modify a h f := List.Perm.of_eq (handles_modify a h f)

end KeyedContainers.Arena
