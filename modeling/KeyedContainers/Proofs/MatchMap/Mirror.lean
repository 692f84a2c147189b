import KeyedContainers.Proofs.MatchMap.Find

/-!
# The index mirrors the entries

After every run the index of a map has exactly the handles of its entries, each once and in the
bucket of the hash of its stored key, and the counts of entries and elements agree. The fallbacks
for a handle without an entry are therefore never reached: not when a query goes through its
candidates, not when the index grows, not when an entry is taken out or its value is read.
-/

namespace KeyedContainers.MatchMap

variable {K Q V : Type}

/-- No operation of a map ever meets, by its own index, a handle without an entry. -/
structure NoDangling (m : MatchMap K V) : Prop where
  /-- Every handle that a query is offered has an entry. -/
  offered : ∀ (q : Query K), ∀ h ∈ m.index.candidates q.hash, (m.entry? h).isSome
  /-- Every handle of the index still has an entry, which gives the hash for its new bucket, once
  another entry has been put into the arena. -/
  moved : ∀ (entry : Entry K V), ∀ h ∈ m.index.toList,
    ((m.arena.insert entry).2.get? h).isSome
  /-- The handle of every entry is found in the index when the entry is taken out. -/
  erased : ∀ h entry, m.entry? h = some entry → (m.index.candidates entry.hash).contains h = true
  /-- The handle that a query finds has an entry. -/
  found : ∀ (q : Query K) (h : Handle), (m.find q).value = some h → (m.entry? h).isSome

variable {M : Matching K} {m : MatchMap K V}

/-- A coherent map has no dangling handles. -/
theorem Coherent.noDangling (hm : Coherent M m) : NoDangling m where
  offered _ _ hmem := hm.isSome_of_mem_candidates hmem
  moved := by
    intro entry h hmem
    have hsome := hm.mem_index_iff.mp hmem
    have hget := Arena.lawful.get?_insert hm.sound entry h
    split at hget
    · simp [hget]
    · rw [hget]
      exact hsome
  erased _ _ hentry := List.contains_iff_mem.mpr (hm.mem_candidates hentry)
  found := by
    intro q h hfind
    obtain ⟨entry, hentry, _⟩ := exists_entry_of_find hfind
    simp [hentry]

/-- The index of a coherent map has the handle of every entry once and nothing else. -/
theorem Coherent.count_index (hm : Coherent M m) (h : Handle) :
    m.index.toList.count h = if (m.entry? h).isSome then 1 else 0 := by
  rw [hm.nodup_index.count]
  exact if_congr hm.mem_index_iff rfl rfl

/-- The handle of an entry is in the bucket of its hash and in no other. -/
theorem Coherent.mem_candidates_iff (hm : Coherent M m) {h : Handle} {entry : Entry K V}
    (hentry : m.entry? h = some entry) (hash : UInt64) :
    h ∈ m.index.candidates hash ↔
      HashIndex.bucketOf m.index.buckets.size hash =
        HashIndex.bucketOf m.index.buckets.size entry.hash := by
  have hmem : h ∈ m.index.toList := hm.mem_index_iff.mpr (by simp [hentry])
  rw [hm.placed.mem_candidates_iff hmem, placedUnder_of_entry? hentry]

/-- After every run, whatever the match relation and whichever handles were tried, the index has
the handle of every entry once, in the bucket of the entry's hash, which is that of its key; the
numbers of entries and elements agree; and no operation meets a dangling handle. -/
theorem index_mirrors_entries [Listed K] [Listed V] (S : Setting K Q) (capacity : Nat)
    (steps : List (Step K Q V)) :
    let m : MatchMap K V := (withCapacity capacity).after S steps
    (∀ h, m.index.toList.count h = if (m.entry? h).isSome then 1 else 0) ∧
    (∀ h entry, m.entry? h = some entry →
      entry.hash = S.matching.hash entry.key ∧
      ∀ hash, h ∈ m.index.candidates hash ↔
        HashIndex.bucketOf m.index.buckets.size hash =
          HashIndex.bucketOf m.index.buckets.size entry.hash) ∧
    m.length = m.toList.length ∧ m.length = m.index.toList.length ∧
    m.index.count = m.index.toList.length ∧ NoDangling m := by
  intro m
  have hm : Coherent S.matching m := (coherent_withCapacity capacity).after steps
  refine ⟨hm.count_index, ?_, hm.length_toList, hm.length_eq, hm.counted, hm.noDangling⟩
  intro h entry hentry
  exact ⟨hm.hashed h entry hentry, hm.mem_candidates_iff hentry⟩

end KeyedContainers.MatchMap
