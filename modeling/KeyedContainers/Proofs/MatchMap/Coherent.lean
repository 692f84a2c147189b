import KeyedContainers.Proofs.Arena.Version
import KeyedContainers.Proofs.HashIndex.Placement
import KeyedContainers.Proofs.MatchMap.Entries

/-!
# Coherent maps

The index and the arena of a map are written separately. A map is coherent when they agree: the
index has the handles of the entries, each once and in the bucket of the hash kept with its
entry, and this hash is the hash of the stored key. Every elementary change keeps a map coherent,
whatever the match relation, so every run does. In a coherent map no look-up by the index meets a
handle without an entry, and no erasure misses its element. Of the index and the arena only their
laws are used.
-/

namespace KeyedContainers.MatchMap

variable {K V : Type}

/-- The index of a map agrees with its entries. -/
structure Coherent (M : Matching K) (m : MatchMap K V) : Prop where
  /-- The bookkeeping of the arena agrees with its slots. -/
  sound : m.arena.Sound
  /-- The index has the handles of the entries, each once. -/
  listed : m.index.toList.Perm m.arena.handles
  /-- The index has every handle under the hash kept with its entry. -/
  placed : HashIndex.Placed (placedUnder m.arena) m.index.buckets
  /-- The index counts its elements. -/
  counted : m.index.count = m.index.toList.length
  /-- The hash kept with an entry is the hash of its key. -/
  hashed : ∀ h entry, m.entry? h = some entry → entry.hash = M.hash entry.key

variable {M : Matching K} {m : MatchMap K V}

theorem Coherent.entry?_add (hm : Coherent M m) (entry : Entry K V) (g : Handle) :
    entry? (m.add entry) g = if g = m.freshHandle entry then some entry else m.entry? g :=
  Arena.lawful.get?_insert hm.sound entry g

/-- An added entry has its key and value under the fresh handle. -/
theorem Coherent.pair?_add (hm : Coherent M m) (entry : Entry K V) (g : Handle) :
    pair? (m.add entry) g =
      if g = m.freshHandle entry then some (entry.key, entry.value) else m.pair? g := by
  rw [pair?, hm.entry?_add]
  split <;> rfl

theorem Coherent.entry?_fresh (hm : Coherent M m) (entry : Entry K V) :
    m.entry? (m.freshHandle entry) = none :=
  Arena.lawful.get?_fresh hm.sound entry

/-- The fresh handle has no key and value before. -/
theorem Coherent.pair?_fresh (hm : Coherent M m) (entry : Entry K V) :
    m.pair? (m.freshHandle entry) = none := by
  rw [pair?, hm.entry?_fresh, Option.map_none]

/-- The fresh handle is issued with the addition of its entry. -/
theorem Coherent.issued_fresh (hm : Coherent M m) (entry : Entry K V) :
    (m.add entry).arena.Issued (m.freshHandle entry) := by
  have hnew := hm.entry?_add entry (m.freshHandle entry)
  rw [if_pos rfl] at hnew
  exact Arena.lawful_handles.issued_of_get? hnew

/-- An addition adds one key and value to the listing. -/
theorem Coherent.perm_toList_add (hm : Coherent M m) (entry : Entry K V) :
    (m.add entry).toList.Perm ((entry.key, entry.value) :: m.toList) := by
  rw [toList_eq_map, toList_eq_map, arena_add]
  exact (Arena.lawful.perm_insert hm.sound entry).map fun x => (x.2.key, x.2.value)

/-- The handles in the index are those that resolve. -/
theorem Coherent.mem_index_iff (hm : Coherent M m) {h : Handle} :
    h ∈ m.index.toList ↔ (m.entry? h).isSome :=
  hm.listed.mem_iff.trans mem_handles_iff

/-- The index has no handle twice. -/
theorem Coherent.nodup_index (hm : Coherent M m) : m.index.toList.Nodup :=
  hm.listed.nodup_iff.mpr m.nodup_handles

/-- The hash under which a handle was placed is the one kept with its entry. -/
theorem placedUnder_of_entry? {h : Handle} {entry : Entry K V} (hentry : m.entry? h = some entry) :
    placedUnder m.arena h = entry.hash := by
  have hget : m.arena.get? h = some entry := hentry
  simp [placedUnder, hget]

/-- The hash under which a handle was placed depends on its entry only. -/
private theorem placedUnder_congr {a b : Arena (Entry K V)} {h : Handle}
    (hget : a.get? h = b.get? h) : placedUnder a h = placedUnder b h := by
  simp only [placedUnder, hget]

/-- The index offers an entry to every query of its hash. -/
theorem Coherent.mem_candidates (hm : Coherent M m) {h : Handle} {entry : Entry K V}
    (hentry : m.entry? h = some entry) : h ∈ m.index.candidates entry.hash := by
  have hmem : h ∈ m.index.toList := hm.mem_index_iff.mpr (by simp [hentry])
  rw [← placedUnder_of_entry? hentry]
  exact HashIndex.lawful.mem_candidates hm.placed hmem

/-- Whatever the index offers resolves. -/
theorem Coherent.isSome_of_mem_candidates (hm : Coherent M m) {hash : UInt64} {h : Handle}
    (hmem : h ∈ m.index.candidates hash) : (m.entry? h).isSome :=
  hm.mem_index_iff.mp (HashIndex.lawful.mem_toList hmem)

/-- The number of entries is the number of elements of the index. -/
theorem Coherent.length_eq (hm : Coherent M m) : m.length = m.index.toList.length := by
  rw [hm.listed.length_eq, length, Arena.lawful.count_eq hm.sound, Arena.handles, List.length_map]

/-- The number of entries is the length of their listing. -/
theorem Coherent.length_toList (hm : Coherent M m) : m.length = m.toList.length := by
  rw [length, Arena.lawful.count_eq hm.sound, toList, Arena.contents, List.length_map,
    List.length_map]

theorem coherent_withCapacity (capacity : Nat) :
    Coherent M (withCapacity capacity : MatchMap K V) where
  sound := Arena.lawful.sound_empty
  listed := List.Perm.of_eq (HashIndex.lawful.toList_withCapacity capacity)
  placed := HashIndex.lawful.placed_withCapacity _ capacity
  counted := by
    rw [withCapacity, HashIndex.lawful.count_withCapacity, HashIndex.lawful.toList_withCapacity,
      List.length_nil]
  hashed := by
    intro h entry hentry
    cases (Arena.lawful.get?_empty h).symm.trans hentry

/-- Amending a value keeps a map coherent. -/
theorem Coherent.amend (hm : Coherent M m) (h : Handle) (f : K → V → V) :
    Coherent M (m.amend h f) where
  sound := Arena.lawful.sound_modify hm.sound h _
  listed := hm.listed.trans (Arena.lawful.perm_modify m.arena h _).symm
  placed := by
    refine HashIndex.lawful.placed_congr hm.placed fun g _ => ?_
    simp only [placedUnder]
    rw [show (m.amend h f).arena.get? g = _ from entry?_amend m h g f]
    split
    · rename_i hgh
      rw [hgh]
      cases hentry : m.entry? h with
      | none => simp [show m.arena.get? h = none from hentry]
      | some entry => simp [show m.arena.get? h = some entry from hentry]
    · rfl
  counted := hm.counted
  hashed := by
    intro g entry hentry
    rw [entry?_amend] at hentry
    split at hentry
    · obtain ⟨old, hold, rfl⟩ := Option.map_eq_some_iff.mp hentry
      exact hm.hashed h old hold
    · exact hm.hashed g entry hentry

/-- Taking out the entry of a handle keeps a map coherent. -/
theorem Coherent.removeHandle (hm : Coherent M m) (h : Handle) :
    Coherent M (m.removeHandle h).2 := by
  have hafter := entry?_removeHandle m h
  cases hentry : m.entry? h with
  | none => rwa [removeHandle_of_stale hentry]
  | some entry =>
    have hunder : placedUnder m.arena h = entry.hash := placedUnder_of_entry? hentry
    have hmem : h ∈ m.index.toList := hm.mem_index_iff.mpr (Option.isSome_of_eq_some hentry)
    have hindex := HashIndex.lawful.perm_erase hm.placed hmem
    have hcount := HashIndex.lawful.count_erase hm.placed hmem
    have hplaced := HashIndex.lawful.placed_erase hm.placed (placedUnder m.arena h) h
    rw [hunder] at hindex hcount hplaced
    rw [removeHandle_of_resolves hentry] at hafter ⊢
    refine ⟨Arena.lawful.sound_remove hm.sound h, ?_, ?_, ?_, ?_⟩
    · have hperm := (Arena.lawful.perm_remove hentry).map Prod.fst
      exact (List.perm_cons h).mp ((hindex.symm.trans hm.listed).trans hperm)
    · refine HashIndex.lawful.placed_congr hplaced fun g hg => ?_
      have hne : g ≠ h := by
        rintro rfl
        have hnodup := hindex.nodup_iff.mp hm.nodup_index
        exact (List.nodup_cons.mp hnodup).1 hg
      have hsame := hafter g
      rw [if_neg hne] at hsame
      exact placedUnder_congr hsame.symm
    · have hlength := hindex.length_eq
      rw [← hm.counted, List.length_cons] at hlength
      simp only [hcount, hlength, Nat.add_sub_cancel]
    · intro g entry' hg
      rw [hafter g] at hg
      split at hg
      · cases hg
      · exact hm.hashed g entry' hg

/-- Taking out all entries keeps a map coherent. -/
theorem Coherent.clear (hm : Coherent M m) : Coherent M m.clear where
  sound := Arena.lawful.sound_clear hm.sound
  listed := by
    have hnone : m.clear.arena.handles = [] := by
      refine List.eq_nil_iff_forall_not_mem.mpr fun h hmem => ?_
      rw [mem_handles_iff, entry?_clear] at hmem
      cases hmem
    rw [hnone]
    exact List.Perm.of_eq (HashIndex.lawful.toList_withCapacity 0)
  placed := HashIndex.lawful.placed_withCapacity _ 0
  counted := rfl
  hashed := by
    intro h entry hentry
    cases (entry?_clear m h).symm.trans hentry

/-- Adding an entry keeps a map coherent. -/
theorem Coherent.add (hm : Coherent M m) {entry : Entry K V}
    (hhash : entry.hash = M.hash entry.key) : Coherent M (m.add entry) := by
  have hfresh : placedUnder (m.arena.insert entry).2 (m.freshHandle entry) = entry.hash := by
    have hentry := hm.entry?_add entry (m.freshHandle entry)
    rw [if_pos rfl] at hentry
    exact placedUnder_of_entry? hentry
  -- The index asks the arena for old hashes when that has the new entry already.
  have hplaced : HashIndex.Placed (placedUnder (m.arena.insert entry).2) m.index.buckets := by
    refine HashIndex.lawful.placed_congr hm.placed fun g hg => ?_
    have hne : g ≠ m.freshHandle entry := by
      rintro rfl
      have hsome := hm.mem_index_iff.mp hg
      simp [hm.entry?_fresh] at hsome
    have hsame := hm.entry?_add entry g
    rw [if_neg hne] at hsame
    exact placedUnder_congr hsame.symm
  have hindex := HashIndex.lawful.perm_insert hplaced entry.hash (m.freshHandle entry)
  refine ⟨Arena.lawful.sound_insert hm.sound entry, ?_, ?_, ?_, ?_⟩
  · have hhandles := (Arena.lawful.perm_insert hm.sound entry).map Prod.fst
    exact (hindex.trans (hm.listed.cons _)).trans hhandles.symm
  · have hafter := HashIndex.lawful.placed_insert hplaced (m.freshHandle entry)
    rw [hfresh] at hafter
    exact hafter
  · have hlength := hindex.length_eq
    rw [List.length_cons, ← hm.counted] at hlength
    exact (HashIndex.lawful.count_insert _ _ _ _).trans hlength.symm
  · intro g entry' hg
    rw [hm.entry?_add entry g] at hg
    split at hg
    · cases hg
      exact hhash
    · exact hm.hashed g entry' hg

/-- Every elementary change keeps a map coherent. -/
theorem Coherent.change {m' : MatchMap K V} (hchange : Change M m m') (hm : Coherent M m) :
    Coherent M m' := by
  cases hchange with
  | amend h f => exact hm.amend h f
  | add k v hnone => exact hm.add rfl
  | removeHandle h => exact hm.removeHandle h
  | clear => exact hm.clear

/-- Every chain of changes keeps a map coherent. -/
theorem Coherent.changes {m' : MatchMap K V} (hchanges : Changes M m m') (hm : Coherent M m) :
    Coherent M m' :=
  MatchMap.changes_induction Coherent.change hchanges hm

/-- What every elementary change of a coherent map keeps lasts through a chain of changes. -/
theorem Coherent.changes_induction {P : MatchMap K V → Prop}
    (hchange : ∀ {m₁ m₂}, Change M m₁ m₂ → Coherent M m₁ → P m₁ → P m₂) {m' : MatchMap K V}
    (hchanges : Changes M m m') (hm : Coherent M m) (hP : P m) : P m' := by
  have hboth : Coherent M m' ∧ P m' := by
    refine MatchMap.changes_induction (P := fun m => Coherent M m ∧ P m) ?_ hchanges ⟨hm, hP⟩
    rintro m₁ m₂ hstep ⟨hm₁, hP₁⟩
    exact ⟨hm₁.change hstep, hchange hstep hm₁ hP₁⟩
  exact hboth.2

/-- Every chain of changes ages the arena of a coherent map. -/
theorem Coherent.ages {m' : MatchMap K V} (hchanges : Changes M m m') (hm : Coherent M m) :
    m.arena.Ages m'.arena := by
  refine hm.changes_induction (P := fun m' => m.arena.Ages m'.arena) ?_ hchanges
    (Arena.lawful_handles.ages_refl _)
  intro m₁ m₂ hchange hm₁ hages
  refine Arena.lawful_handles.ages_trans hages ?_
  cases hchange with
  | amend g f => exact Arena.lawful_handles.ages_modify m₁.arena g _
  | add k v hnone => exact Arena.lawful_handles.ages_insert hm₁.sound _
  | removeHandle g => exact arena_removeHandle m₁ g ▸ Arena.lawful_handles.ages_remove m₁.arena g
  | clear => exact Arena.lawful_handles.ages_clear m₁.arena

/-- Names that were issued handles are so after every chain of changes, and so are the new ones. -/
theorem Coherent.issued_of_changes {m' : MatchMap K V} (hm : Coherent M m)
    (hchanges : Changes M m m') {names names' : List Handle}
    (hold : ∀ h ∈ names, m.arena.Issued h)
    (hnew : ∀ h ∈ names', h ∈ names ∨ m'.arena.Issued h) : ∀ h ∈ names', m'.arena.Issued h := by
  intro h hh
  rcases hnew h hh with hgiven | hissued
  · exact Arena.lawful_handles.issued_mono (hm.ages hchanges) (hold h hgiven)
  · exact hissued

variable {Q : Type} [Listed K] [Listed V] {S : Setting K Q}

/-- Every operation keeps a map coherent. -/
theorem Coherent.step (hm : Coherent S.matching m) (s : Step K Q V) :
    Coherent S.matching (m.step S s).value.2 :=
  step_induction (coherent_withCapacity 0) Coherent.change hm s

/-- Every run keeps a map coherent. -/
theorem Coherent.after (hm : Coherent S.matching m) (steps : List (Step K Q V)) :
    Coherent S.matching (m.after S steps) :=
  after_induction (coherent_withCapacity 0) Coherent.change hm steps

end KeyedContainers.MatchMap
