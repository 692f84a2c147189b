import KeyedContainers.Proofs.Arena.Sound
import KeyedContainers.Proofs.MatchMap.Change

/-!
# Entries after an operation

The entry to which a handle resolves after an amendment, a removal, a clearing or a change of all
values, in terms of the entry before. Nothing here asks anything of the map: the index has no part
in it.
-/

namespace KeyedContainers

variable {K V : Type}

/-- The entry with another value, if there is one. -/
def Entry.rewrite (entry : Entry K V) (v : Option V) : Entry K V :=
  { entry with value := v.getD entry.value }

@[simp] theorem Entry.rewrite_none (entry : Entry K V) : entry.rewrite none = entry := rfl

/-- The last of two written values stays. -/
theorem Entry.rewrite_rewrite (entry : Entry K V) (first second : Option V) :
    (entry.rewrite first).rewrite second = entry.rewrite (second.or first) := by
  cases second <;> rfl

namespace MatchMap

/-- A stale handle removes nothing. -/
theorem removeHandle_of_stale {m : MatchMap K V} {h : Handle} (hstale : m.entry? h = none) :
    m.removeHandle h = (none, m) := by
  rw [removeHandle, Arena.lawful.remove_of_stale hstale]

/-- A removal takes the entry of its handle out of the arena and the handle out of the index. -/
theorem removeHandle_of_resolves {m : MatchMap K V} {h : Handle} {entry : Entry K V}
    (hentry : m.entry? h = some entry) :
    m.removeHandle h = (some (entry.key, entry.value),
      ⟨m.index.erase entry.hash h, (m.arena.remove h).2⟩) := by
  have hremove : m.arena.remove h = (some entry, (m.arena.remove h).2) :=
    Prod.ext ((Arena.lawful.remove_fst m.arena h).trans hentry) rfl
  rw [removeHandle, hremove]

/-- The arena of a map without the entry of a handle. -/
theorem arena_removeHandle (m : MatchMap K V) (h : Handle) :
    (m.removeHandle h).2.arena = (m.arena.remove h).2 := by
  cases hentry : m.entry? h with
  | none => rw [removeHandle_of_stale hentry, Arena.lawful.remove_of_stale hentry]
  | some entry => rw [removeHandle_of_resolves hentry]

theorem entry?_removeHandle (m : MatchMap K V) (h g : Handle) :
    entry? (m.removeHandle h).2 g = if g = h then none else m.entry? g := by
  unfold entry?
  rw [arena_removeHandle]
  exact Arena.lawful.get?_remove m.arena h g

@[simp] theorem entry?_clear (m : MatchMap K V) (h : Handle) : m.clear.entry? h = none :=
  Arena.lawful.get?_clear m.arena h

/-- The arena of a map with an entry more. -/
@[simp] theorem arena_add (m : MatchMap K V) (entry : Entry K V) :
    (m.add entry).arena = (m.arena.insert entry).2 := rfl

/-- The handle under which an entry would be added. -/
def freshHandle (m : MatchMap K V) (entry : Entry K V) : Handle := (m.arena.insert entry).1

theorem entry?_amend (m : MatchMap K V) (h g : Handle) (f : K → V → V) :
    entry? (m.amend h f) g =
      if g = h then (m.entry? h).map fun entry => { entry with value := f entry.key entry.value }
      else m.entry? g :=
  Arena.lawful.get?_modify m.arena h g _

/-- An exchange writes to the entry of its handle and to no other. -/
theorem entry?_exchange (m : MatchMap K V) (g h : Handle) (v : V) :
    entry? (m.exchange g v).2 h =
      (m.entry? h).map fun entry => entry.rewrite (if g = h then some v else none) := by
  rw [exchange, setValue_eq_amend, entry?_amend]
  by_cases hgh : g = h
  · subst hgh
    rw [if_pos rfl, if_pos rfl]
    rfl
  · rw [if_neg (Ne.symm hgh), if_neg hgh]
    simp only [Entry.rewrite_none, Option.map_id']

/-- No handle is listed twice. -/
theorem nodup_handles (m : MatchMap K V) : m.arena.handles.Nodup :=
  Arena.lawful.nodup_handles m.arena

/-- Changing values one handle after another writes to an entry what its own place says. -/
private theorem entry?_foldl_amend (m : MatchMap K V) (h : Handle) (f : Nat → K → V → V)
    {handles : List Handle} (hnodup : handles.Nodup) (start : Nat) :
    entry? ((handles.zipIdx start).foldl (fun m g => m.amend g.1 (f g.2)) m) h =
      (m.entry? h).map fun entry => entry.rewrite
        ((handles.idxOf? h).map fun place => f (start + place) entry.key entry.value) := by
  induction handles generalizing m start with
  | nil => simp
  | cons g handles ih =>
    obtain ⟨hg, hrest⟩ := List.nodup_cons.mp hnodup
    rw [List.zipIdx_cons, List.foldl_cons, ih _ hrest, entry?_amend, List.idxOf?_cons]
    by_cases hgh : g = h
    · subst hgh
      rw [if_pos rfl, List.idxOf?_eq_none_iff.mpr hg, Option.map_map]
      simp [Entry.rewrite, Function.comp_def]
    · rw [if_neg (Ne.symm hgh)]
      simp [hgh, Nat.add_assoc, Nat.add_comm 1, Function.comp_def]

/-- A walk goes through the first handles, or through all of them. -/
theorem isPrefix_walked (limit : Option Nat) (handles : List Handle) :
    limit.elim handles handles.take <+: handles := by
  cases limit with
  | none => exact List.prefix_refl _
  | some n => exact List.take_prefix n _

/-- Changing the first values writes to an entry what its place among them says. -/
theorem entry?_updateFirst (m : MatchMap K V) (h : Handle) (limit : Option Nat)
    (f : Nat → K → V → V) :
    entry? (m.updateFirst limit f) h = (m.entry? h).map fun entry => entry.rewrite
      (((limit.elim m.arena.handles m.arena.handles.take).idxOf? h).map fun place =>
        f place entry.key entry.value) := by
  have hnodup : (limit.elim m.arena.handles m.arena.handles.take).Nodup :=
    m.nodup_handles.sublist (isPrefix_walked limit _).sublist
  rw [updateFirst_eq_foldl, entry?_foldl_amend m h f hnodup 0]
  simp only [Nat.zero_add]

/-- Every entry of the second map was one of the first, under the same handle and with the same
key. -/
def Inherits (m m' : MatchMap K V) : Prop :=
  ∀ h entry, m'.entry? h = some entry → ∃ old, m.entry? h = some old ∧ old.key = entry.key

theorem Inherits.refl (m : MatchMap K V) : Inherits m m :=
  fun _ entry hentry => ⟨entry, hentry, rfl⟩

theorem inherits_amend (m : MatchMap K V) (h : Handle) (f : K → V → V) :
    Inherits m (m.amend h f) := by
  intro g entry hentry
  rw [entry?_amend] at hentry
  split at hentry
  · rename_i hgh
    obtain ⟨old, hold, rfl⟩ := Option.map_eq_some_iff.mp hentry
    exact ⟨old, hgh ▸ hold, rfl⟩
  · exact ⟨entry, hentry, rfl⟩

theorem inherits_exchange (m : MatchMap K V) (h : Handle) (v : V) :
    Inherits m (m.exchange h v).2 :=
  inherits_amend m h fun _ _ => v

theorem inherits_updateFirst (m : MatchMap K V) (limit : Option Nat) (f : Nat → K → V → V) :
    Inherits m (m.updateFirst limit f) := by
  intro h entry hentry
  rw [entry?_updateFirst] at hentry
  obtain ⟨old, hold, rfl⟩ := Option.map_eq_some_iff.mp hentry
  exact ⟨old, hold, rfl⟩

theorem inherits_removeHandle (m : MatchMap K V) (h : Handle) :
    Inherits m (m.removeHandle h).2 := by
  intro g entry hentry
  rw [entry?_removeHandle] at hentry
  split at hentry
  · cases hentry
  · exact ⟨entry, hentry, rfl⟩

theorem inherits_clear (m : MatchMap K V) : Inherits m m.clear := by
  intro h entry hentry
  rw [entry?_clear] at hentry
  cases hentry

theorem inherits_set (m : MatchMap K V) (q : Query K) (v : V) :
    Inherits m (m.set q v).value.2 := by
  rw [value_set]
  cases (m.find q).value with
  | none => exact Inherits.refl m
  | some h => exact inherits_exchange m h v

theorem inherits_remove (m : MatchMap K V) (q : Query K) :
    Inherits m (m.remove q).value.2 := by
  rw [value_remove]
  cases (m.find q).value with
  | none => exact Inherits.refl m
  | some h => exact inherits_removeHandle m h

/-- The stored key and the value of a handle. -/
def pair? (m : MatchMap K V) (h : Handle) : Option (K × V) :=
  (m.entry? h).map fun entry => (entry.key, entry.value)

theorem key?_eq_map_pair? (m : MatchMap K V) (h : Handle) : m.key? h = (m.pair? h).map (·.1) := by
  rw [pair?, Option.map_map]
  rfl

theorem value?_eq_map_pair? (m : MatchMap K V) (h : Handle) :
    m.value? h = (m.pair? h).map (·.2) := by
  rw [pair?, Option.map_map]
  rfl

/-- A look-up of an entry reads the matching one. -/
theorem value_getKeyValue? (m : MatchMap K V) (q : Query K) :
    (m.getKeyValue? q).value = (m.find q).value.bind m.pair? := by
  change ((m.find q).value.bind m.entry?).map _ = _
  rw [Option.map_bind]
  rfl

/-- An exchange writes one value. -/
theorem pair?_exchange (m : MatchMap K V) (h g : Handle) (v : V) :
    pair? (m.exchange h v).2 g =
      if g = h then (m.pair? h).map fun pair => (pair.1, v) else m.pair? g := by
  rw [exchange, setValue_eq_amend, pair?, entry?_amend]
  split
  · rw [pair?, Option.map_map, Option.map_map]
    rfl
  · rfl

/-- A removal answers the key and the value of its handle. -/
theorem removeHandle_fst (m : MatchMap K V) (h : Handle) :
    (m.removeHandle h).1 = m.pair? h := by
  rw [pair?]
  cases hentry : m.entry? h with
  | none => rw [removeHandle_of_stale hentry, Option.map_none]
  | some entry => rw [removeHandle_of_resolves hentry, Option.map_some]

theorem pair?_removeHandle (m : MatchMap K V) (h g : Handle) :
    pair? (m.removeHandle h).2 g = if g = h then none else m.pair? g := by
  rw [pair?, entry?_removeHandle]
  split <;> rfl

/-- The stored keys are those of the listed entries. -/
theorem keys_eq_map (m : MatchMap K V) : m.keys = m.toList.map (·.1) := by
  rw [keys, toList, List.map_map]
  rfl

/-- Amending a value keeps the stored keys in their order. -/
@[simp] theorem keys_amend (m : MatchMap K V) (h : Handle) (f : K → V → V) :
    (m.amend h f).keys = m.keys := by
  simp only [keys, amend, Arena.contents, Arena.toList_modify, List.map_map]
  refine List.map_congr_left fun x _ => ?_
  simp only [Function.comp]
  split <;> rfl

/-- The values are those of the listed entries. -/
theorem values_eq_map (m : MatchMap K V) : m.values = m.toList.map (·.2) := by
  rw [values, toList, List.map_map]
  rfl

/-- The entries are listed with the handles that resolve to them. -/
theorem toList_eq_map (m : MatchMap K V) :
    m.toList = m.arena.toList.map fun x => (x.2.key, x.2.value) := by
  rw [toList, Arena.contents, List.map_map]
  rfl

/-- The handles that are listed are those that resolve. -/
theorem mem_handles_iff {m : MatchMap K V} {h : Handle} :
    h ∈ m.arena.handles ↔ (m.entry? h).isSome := by
  rw [Arena.handles, List.mem_map, Option.isSome_iff_exists]
  constructor
  · rintro ⟨⟨g, entry⟩, hmem, rfl⟩
    exact ⟨entry, Arena.lawful.mem_toList_iff.mp hmem⟩
  · rintro ⟨entry, hentry⟩
    exact ⟨(h, entry), Arena.lawful.mem_toList_iff.mpr hentry, rfl⟩

/-- The listing has the keys and values to which handles resolve. -/
theorem mem_toList_iff {m : MatchMap K V} {pair : K × V} :
    pair ∈ m.toList ↔ ∃ h, m.pair? h = some pair := by
  rw [toList_eq_map, List.mem_map]
  constructor
  · rintro ⟨⟨h, entry⟩, hmem, rfl⟩
    have hentry : m.entry? h = some entry := Arena.lawful.mem_toList_iff.mp hmem
    exact ⟨h, by rw [pair?, hentry, Option.map_some]⟩
  · rintro ⟨h, hpair⟩
    obtain ⟨entry, hentry, rfl⟩ := Option.map_eq_some_iff.mp hpair
    exact ⟨(h, entry), Arena.lawful.mem_toList_iff.mpr hentry, rfl⟩

/-- The stored keys are those of the entries to which handles resolve. -/
theorem mem_keys_iff {m : MatchMap K V} {k : K} :
    k ∈ m.keys ↔ ∃ h entry, m.entry? h = some entry ∧ entry.key = k := by
  rw [keys_eq_map, List.mem_map]
  constructor
  · rintro ⟨pair, hmem, rfl⟩
    obtain ⟨h, hpair⟩ := mem_toList_iff.mp hmem
    obtain ⟨entry, hentry, rfl⟩ := Option.map_eq_some_iff.mp hpair
    exact ⟨h, entry, hentry, rfl⟩
  · rintro ⟨h, entry, hentry, rfl⟩
    exact ⟨(entry.key, entry.value), mem_toList_iff.mpr ⟨h, by rw [pair?, hentry]; rfl⟩, rfl⟩

end MatchMap

end KeyedContainers
