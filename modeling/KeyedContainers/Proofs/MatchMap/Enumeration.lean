import KeyedContainers.Proofs.MatchMap.Refinement

/-!
# Enumeration and look-ups

Enumerating a map walks the slots, holes left out; looking for a key goes through the index. Under
an equivalence both describe the same entries: the keys that are enumerated find their own entries,
each another one, and a query finds nothing that is not enumerated. All ways to enumerate a map
take the entries in one order.
-/

namespace KeyedContainers.MatchMap

variable {K Q V : Type} {M : Matching K} {m : MatchMap K V}

/-- A listed entry is the one to which its handle resolves. -/
theorem pair?_of_mem {x : Handle × Entry K V} (hx : x ∈ m.arena.toList) :
    m.pair? x.1 = some (x.2.key, x.2.value) := by
  have hentry : m.entry? x.1 = some x.2 := Arena.lawful.mem_toList_iff.mp hx
  rw [pair?, hentry, Option.map_some]

/-- What can be said of a handle by its key and value can be said of the enumeration, in its
order. -/
theorem map_handles {α : Type} {f : Handle → α} {g : K × V → α}
    (hfg : ∀ h pair, m.pair? h = some pair → f h = g pair) :
    m.arena.handles.map f = m.toList.map g := by
  rw [toList_eq_map, Arena.handles, List.map_map, List.map_map]
  exact List.map_congr_left fun x hx => hfg x.1 _ (pair?_of_mem hx)

/-- The handle at a place of the enumeration resolves to the key and the value at this place. -/
theorem getElem?_toList (m : MatchMap K V) (place : Nat) :
    m.toList[place]? = m.arena.handles[place]?.bind m.pair? := by
  rw [toList_eq_map, Arena.handles, List.getElem?_map, List.getElem?_map]
  cases hat : m.arena.toList[place]? with
  | none => rfl
  | some x => exact (pair?_of_mem (List.mem_of_getElem? hat)).symm

/-- The keys and the values are enumerated in the order of the entries. -/
theorem zip_keys_values (m : MatchMap K V) : m.keys.zip m.values = m.toList := by
  rw [keys_eq_map, values_eq_map, List.zip_map', List.map_id']

/-- Changing values keeps the handles in their order. -/
theorem handles_updateFirst (m : MatchMap K V) (limit : Option Nat) (f : Nat → K → V → V) :
    (m.updateFirst limit f).arena.handles = m.arena.handles :=
  updateFirst_induction (P := fun m' => m'.arena.handles = m.arena.handles)
    (fun m' h _ hm' => (Arena.handles_modify m'.arena h _).trans hm') rfl limit f

/-- A change of the values goes through the entries in their order: it is given the place, the key
and the value that are enumerated, and writes there. -/
theorem toList_updateFirst (m : MatchMap K V) (limit : Option Nat) (f : Nat → K → V → V) :
    (m.updateFirst limit f).toList = m.toList.mapIdx fun place pair =>
      (pair.1, if limit.all (place < ·) then f place pair.1 pair.2 else pair.2) := by
  apply List.ext_getElem?
  intro place
  rw [getElem?_toList, handles_updateFirst, List.getElem?_mapIdx, toList_eq_map,
    Arena.handles, List.getElem?_map, List.getElem?_map]
  cases hat : m.arena.toList[place]? with
  | none => rfl
  | some x => exact Represents.pair?_updateFirst hat limit f

/-- Pairs of a key and a value are the entries of a map, which look-ups find under these
handles. -/
structure Enumerates (M : Matching K) (m : MatchMap K V) (pairs : List (K × V))
    (handles : List Handle) : Prop where
  /-- There are as many as the map has entries. -/
  length_eq : pairs.length = m.length
  /-- No two of them are the same entry. -/
  nodup : handles.Nodup
  /-- A handle resolves to the key at its place. -/
  key?_eq : handles.map m.key? = pairs.map fun pair => some pair.1
  /-- A handle resolves to the value at its place. -/
  value?_eq : handles.map m.value? = pairs.map fun pair => some pair.2
  /-- A key finds the entry at its place. -/
  find_eq : handles.map some = pairs.map fun pair => (m.find (M.query pair.1)).value
  /-- Whatever a query finds stands at exactly one place. -/
  existsUnique : ∀ (q : Query K) (h : Handle),
    (m.find q).value = some h → ∃! place : Nat, handles[place]? = some h

/-- What a query finds is one of the handles of the arena. -/
theorem mem_handles_of_find {q : Query K} {h : Handle} (hfind : (m.find q).value = some h) :
    h ∈ m.arena.handles := by
  obtain ⟨entry, hentry, _⟩ := exists_entry_of_find hfind
  exact mem_handles_iff.mpr (Option.isSome_iff_exists.mpr ⟨entry, hentry⟩)

/-- The entries of a regular map are enumerated with their own handles. -/
theorem Regular.enumerates (hm : Regular M m) (hM : M.IsPartialEquivalence)
    (hrefl : ∀ k, M.related k k = true) : Enumerates M m m.toList m.arena.handles where
  length_eq := hm.length_toList.symm
  nodup := m.nodup_handles
  key?_eq := map_handles fun h pair hpair => by rw [key?_eq_map_pair?, hpair, Option.map_some]
  value?_eq := map_handles fun h pair hpair => by rw [value?_eq_map_pair?, hpair, Option.map_some]
  find_eq := map_handles fun h pair hpair =>
    ((hm.find_query_eq_some_iff hM).mpr ⟨pair, hpair, hrefl pair.1⟩).symm
  existsUnique := by
    intro q h hfind
    obtain ⟨place, hat⟩ := List.mem_iff_getElem?.mp (mem_handles_of_find hfind)
    exact ⟨place, hat, fun other hother => Arena.place_unique hother hat⟩

variable [Listed K] [Listed V] {S : Setting K Q}

/-- Every run keeps a map regular. -/
theorem Regular.after (hM : S.matching.IsPartialEquivalence) (hm : Regular S.matching m)
    (steps : List (Step K Q V)) : Regular S.matching (m.after S steps) :=
  after_induction (regular_withCapacity 0)
    (fun hchange hm => hm.changes hM (.single hchange)) hm steps

/-- Under an equivalence of the keys, after every run: the entries, the keys with the values, a
change of the values and the listing go through one sequence, as long as the map; its keys find
the entries with which they stand there, each another one; and every entry that a query finds
stands there once. -/
theorem enumeration_agrees_with_lookup (S : Setting K Q)
    (hM : Equivalence fun a b => S.matching.related a b = true) (capacity : Nat)
    (steps : List (Step K Q V)) :
    let m : MatchMap K V := (withCapacity capacity).after S steps
    m.keys.zip m.values = m.toList ∧
    (∀ limit f, (m.updateFirst limit f).toList = m.toList.mapIdx fun place pair =>
      (pair.1, if limit.all (place < ·) then f place pair.1 pair.2 else pair.2)) ∧
    (∀ style, (m.step S (.inspect style)).value =
      (.text ((Text.Listing.table (m.toList.map fun pair =>
        (Listed.listing pair.1, Listed.listing pair.2))).render style), m)) ∧
    ∃ handles, Enumerates S.matching m m.toList handles := by
  intro m
  have hpartial : S.matching.IsPartialEquivalence :=
    ⟨fun _ _ => hM.symm, fun _ _ _ => hM.trans⟩
  have hm : Regular S.matching m := (regular_withCapacity capacity).after hpartial steps
  exact ⟨zip_keys_values m, toList_updateFirst m, fun _ => rfl,
    ⟨m.arena.handles, hm.enumerates hpartial hM.refl⟩⟩

/-- A slot is taken again and its new entry comes first; all hashes are equal. -/
theorem enumeration_agrees_with_lookup_refilled :
    let M : Matching Bool := ⟨fun _ => 7, fun a b => a == b⟩
    let S : Setting Bool Bool := ⟨M, M, M.query, fun a b => !a || b⟩
    let steps : List (Step Bool Bool Bool) := [.insert true false, .insert false true,
      .removeHandle ⟨0, 1⟩, .insert true true, .insert false false]
    let m : MatchMap Bool Bool := (withCapacity 0).after S steps
    m.toList = [(true, true), (false, false)] ∧ m.arena.handles = [⟨0, 3⟩, ⟨1, 1⟩] ∧
      ∃ handles, Enumerates M m m.toList handles := by
  intro M S steps
  have hM : Equivalence fun a b => S.matching.related a b = true :=
    ⟨by decide, by decide, by decide⟩
  obtain ⟨_, _, _, hhandles⟩ := enumeration_agrees_with_lookup (V := Bool) S hM 0 steps
  exact ⟨by decide, by decide, hhandles⟩

end KeyedContainers.MatchMap
