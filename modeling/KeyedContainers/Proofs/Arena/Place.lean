import KeyedContainers.Proofs.Arena.Sound
import Mathlib.Data.List.Perm.Basic

/-!
# Places in the listing of an arena

The listing of an arena is in the order of the slots, and an operation moves no content to another
slot. So an insertion puts one entry at some place of the listing, a removal takes out the entry at
the place of its handle, a change writes there, and all other entries keep their order.
-/

namespace KeyedContainers.Arena

variable {α : Type} {a : Arena α} {h : Handle} {c : α} {place : Nat}

/-- A handle that resolves has a place in the listing. -/
theorem exists_place_of_get? (hget : a.get? h = some c) :
    ∃ place : Nat, a.toList[place]? = some (h, c) :=
  List.mem_iff_getElem?.mp (mem_toList_iff.mpr hget)

/-- What a listing has besides the entry of one place is the listing without this place. -/
private theorem toList_eq_eraseIdx {b : Arena α} {x : Handle × α}
    (hperm : b.toList.Perm (x :: a.toList)) (hat : b.toList[place]? = some x) :
    a.toList = b.toList.eraseIdx place := by
  obtain ⟨hlt, rfl⟩ := List.getElem?_eq_some_iff.mp hat
  refine toList_eq_of_perm ?_ ((pairwise_toList b).eraseIdx place)
  exact ((List.getElem_cons_eraseIdx_perm hlt).trans hperm).cons_inv.symm

/-- A removal takes out the entry at the place of its handle. -/
theorem toList_remove_of_place (hat : a.toList[place]? = some (h, c)) :
    (a.remove h).2.toList = a.toList.eraseIdx place := by
  have hget : a.get? h = some c := mem_toList_iff.mp (List.mem_of_getElem? hat)
  exact toList_eq_eraseIdx (perm_toList_remove hget) hat

/-- An insertion puts an entry with its handle at one place. -/
theorem Sound.exists_toList_insert (ha : a.Sound) (c : α) :
    ∃ place ≤ a.toList.length,
      (a.insert c).2.toList = a.toList.insertIdx place ((a.insert c).1, c) := by
  have hperm := ha.perm_toList_insert c
  obtain ⟨place, hlt, hat⟩ := List.mem_iff_getElem.mp (hperm.mem_iff.mpr (List.mem_cons_self ..))
  have hothers := toList_eq_eraseIdx hperm (List.getElem?_eq_some_iff.mpr ⟨hlt, hat⟩)
  have hlength := hperm.length_eq
  rw [List.length_cons] at hlength
  refine ⟨place, by omega, ?_⟩
  rw [hothers, ← hat, List.insertIdx_eraseIdx_getElem hlt]

/-- A change writes at the place of its handle. -/
theorem toList_modify_of_place (hat : a.toList[place]? = some (h, c)) (f : α → α) :
    (a.modify h f).toList = a.toList.set place (h, f c) := by
  obtain ⟨hlt, heq⟩ := List.getElem?_eq_some_iff.mp hat
  rw [toList_modify]
  refine List.ext_getElem (by simp) ?_
  intro other hother _
  rw [List.length_map] at hother
  rw [List.getElem_map, List.getElem_set]
  by_cases hplace : place = other
  · subst hplace
    rw [if_pos rfl, heq, if_pos rfl]
  · have hne : a.toList[other].1 ≠ h := by
      intro hsame
      have hhere : a.handles[place]? = some h := by rw [handles, List.getElem?_map, hat]; rfl
      have hthere : a.handles[other]? = some h := by
        rw [handles, List.getElem?_map, List.getElem?_eq_getElem hother, Option.map_some, hsame]
      exact hplace (place_unique hhere hthere)
    rw [if_neg hplace, if_neg hne]

end KeyedContainers.Arena
