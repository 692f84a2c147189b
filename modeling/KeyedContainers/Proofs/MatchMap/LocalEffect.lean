import KeyedContainers.Proofs.Arena.Place
import KeyedContainers.Proofs.MatchMap.Enumeration
import KeyedContainers.Proofs.MatchMap.Lifetime

/-!
# The effect of one operation

An insertion writes to one entry or adds one, and a removal takes one out. Everything else stays
as it is, whatever the match relation: what all other handles resolve to, and the order in which the
other entries are enumerated. So two entries that survive a run keep their order, even though slots
are taken again in between.
-/

namespace KeyedContainers

/-- Handles of both arenas are listed by both in one order. -/
theorem Arena.filter_mem_handles_comm {α : Type} (a b : Arena α) :
    b.handles.filter (· ∈ a.handles) = a.handles.filter (· ∈ b.handles) := by
  have hsorted : ∀ c : Arena α, c.handles.Pairwise fun g h => g.slot < h.slot :=
    fun c => List.pairwise_map.mpr (pairwise_toList c)
  have hperm : (b.handles.filter (· ∈ a.handles)).Perm (a.handles.filter (· ∈ b.handles)) := by
    refine (List.perm_ext_iff_of_nodup ((nodup_handles b).filter _)
      ((nodup_handles a).filter _)).mpr ?_
    intro h
    simp only [List.mem_filter, decide_eq_true_eq]
    exact And.comm
  refine hperm.eq_of_pairwise ?_ ((hsorted b).filter _) ((hsorted a).filter _)
  intro g h _ _ hgh hhg
  exact absurd hgh (Nat.lt_asymm hhg)

namespace MatchMap

variable {K Q V : Type}

/-- The value of one entry is written; everything else is as before. -/
structure Writes (m m' : MatchMap K V) (h : Handle) (entry : Entry K V) (v : V) : Prop where
  resolves : m.entry? h = some entry
  /-- The entry keeps its key and its hash. -/
  entry?_eq : ∀ g, m'.entry? g = if g = h then some { entry with value := v } else m.entry? g
  length_eq : m'.length = m.length
  handles_eq : m'.arena.handles = m.arena.handles
  listed : ∃ place : Nat, m.arena.handles[place]? = some h ∧
    m'.toList = m.toList.set place (entry.key, v)

/-- One entry is added under a handle that did not resolve; everything else is as before. -/
structure Adds (m m' : MatchMap K V) (h : Handle) (entry : Entry K V) : Prop where
  fresh : m.entry? h = none
  entry?_eq : ∀ g, m'.entry? g = if g = h then some entry else m.entry? g
  length_eq : m'.length = m.length + 1
  /-- The entry stands at one place between the others. -/
  listed : ∃ place ≤ m.length, m'.arena.handles = m.arena.handles.insertIdx place h ∧
    m'.toList = m.toList.insertIdx place (entry.key, entry.value)

/-- One entry is taken out; everything else is as before. -/
structure TakesOut (m m' : MatchMap K V) (h : Handle) (entry : Entry K V) : Prop where
  resolves : m.entry? h = some entry
  entry?_eq : ∀ g, m'.entry? g = if g = h then none else m.entry? g
  length_eq : m'.length + 1 = m.length
  listed : ∃ place : Nat, m.arena.handles[place]? = some h ∧
    m'.arena.handles = m.arena.handles.eraseIdx place ∧ m'.toList = m.toList.eraseIdx place

variable {M : Matching K} {m : MatchMap K V} {h : Handle} {entry : Entry K V}

/-- A place in the listing of the arena is one of its handle and of its entry. -/
private theorem place_of_entry? (hentry : m.entry? h = some entry) :
    ∃ place : Nat, m.arena.toList[place]? = some (h, entry) ∧ m.arena.handles[place]? = some h := by
  obtain ⟨place, hat⟩ := Arena.exists_place_of_get? hentry
  refine ⟨place, hat, ?_⟩
  rw [Arena.handles, List.getElem?_map, hat, Option.map_some]

/-- Writing through a handle writes to its entry. -/
theorem Coherent.writes_exchange (hm : Coherent M m) (hentry : m.entry? h = some entry) (v : V) :
    Writes m (m.exchange h v).2 h entry v := by
  obtain ⟨place, hat, hhandle⟩ := place_of_entry? hentry
  have hlist : (m.exchange h v).2.toList = m.toList.set place (entry.key, v) := by
    rw [toList_eq_map, toList_eq_map]
    change ((m.arena.modify h _).toList).map _ = _
    rw [Arena.toList_modify_of_place hat, List.map_set]
  refine ⟨hentry, ?_, ?_, Arena.handles_modify m.arena h _, place, hhandle, hlist⟩
  · intro g
    rw [exchange, setValue_eq_amend, entry?_amend, hentry]
    rfl
  · rw [(hm.changes (changes_exchange m h v)).length_toList, hlist, List.length_set,
      hm.length_toList]

/-- An addition adds its entry. -/
theorem Coherent.adds_add (hm : Coherent M m) (hhash : entry.hash = M.hash entry.key) :
    Adds m (m.add entry) (m.freshHandle entry) entry := by
  obtain ⟨place, hle, hlist⟩ := hm.sound.exists_toList_insert entry
  have hpairs : (m.add entry).toList = m.toList.insertIdx place (entry.key, entry.value) := by
    rw [toList_eq_map, toList_eq_map, arena_add, hlist, List.map_insertIdx]
  have hplace : place ≤ m.toList.length := by rwa [toList_eq_map, List.length_map]
  refine ⟨hm.entry?_fresh entry, hm.entry?_add entry, ?_, place, ?_, ?_, hpairs⟩
  · rw [(hm.add hhash).length_toList, hpairs, List.length_insertIdx_of_le_length hplace,
      hm.length_toList]
  · rwa [hm.length_toList]
  · rw [arena_add, Arena.handles, Arena.handles, hlist, List.map_insertIdx]
    rfl

/-- A removal by a handle that resolves takes out its entry. -/
theorem Coherent.takesOut_removeHandle (hm : Coherent M m) (hentry : m.entry? h = some entry) :
    TakesOut m (m.removeHandle h).2 h entry := by
  obtain ⟨place, hat, hhandle⟩ := place_of_entry? hentry
  have hlist := Arena.toList_remove_of_place hat
  have hpairs : (m.removeHandle h).2.toList = m.toList.eraseIdx place := by
    rw [toList_eq_map, toList_eq_map, arena_removeHandle, hlist, List.eraseIdx_map]
  have hplace : place < m.toList.length := by
    rw [toList_eq_map, List.length_map]
    exact (List.getElem?_eq_some_iff.mp hat).1
  refine ⟨hentry, entry?_removeHandle m h, ?_, place, hhandle, ?_, hpairs⟩
  · rw [(hm.removeHandle h).length_toList, hpairs, List.length_eraseIdx_of_lt hplace,
      hm.length_toList]
    omega
  · rw [arena_removeHandle, Arena.handles, Arena.handles, hlist, List.eraseIdx_map]

/-- An insertion that finds an entry writes to it, and answers its old value. -/
theorem Coherent.insert_of_find (hm : Coherent M m) {k : K}
    (hfind : (m.find (M.query k)).value = some h) (v : V) :
    ∃ entry, (m.insert M k v).value.1 = some entry.value ∧
      Writes m (m.insert M k v).value.2 h entry v := by
  obtain ⟨entry, hentry, _⟩ := exists_entry_of_find hfind
  refine ⟨entry, ?_, ?_⟩
  · rw [value_insert, hfind]
    change m.value? h = some entry.value
    rw [value?, hentry, Option.map_some]
  · rw [value_insert, hfind]
    exact hm.writes_exchange hentry v

/-- An insertion that finds nothing adds an entry. -/
theorem Coherent.insert_of_find_none (hm : Coherent M m) {k : K}
    (hnone : (m.find (M.query k)).value = none) (v : V) :
    (m.insert M k v).value.1 = none ∧
      ∃ h, Adds m (m.insert M k v).value.2 h ⟨k, v, M.hash k⟩ := by
  rw [value_insert_of_find_none hnone]
  exact ⟨rfl, _, hm.adds_add rfl⟩

variable [Listed K] [Listed V] {S : Setting K Q}

/-- A handle that resolves before and after a run resolves to the same key. -/
theorem Coherent.key?_after (hm : Coherent S.matching m) {steps : List (Step K Q V)}
    (hstays : ∀ s ∈ steps, s.stays = true) (hbefore : h ∈ m.arena.handles)
    (hafter : h ∈ (m.after S steps).arena.handles) : (m.after S steps).key? h = m.key? h := by
  obtain ⟨entry, hentry⟩ := Option.isSome_iff_exists.mp (mem_handles_iff.mp hbefore)
  have hkept : ¬ Removed S h m steps := by
    intro hremoved
    have hgone : entry? (m.after S steps) h = none :=
      Arena.lawful_handles.get?_of_spent (hm.spent_after hentry hstays hremoved)
    have hlive := mem_handles_iff.mp hafter
    rw [hgone] at hlive
    cases hlive
  rw [key?, hm.entry?_after hentry hstays hkept, key?, hentry]
  rfl

/-- After every run, whatever the match relation: an insertion writes the value of the entry that it
finds, or else adds one entry; a removal by handle takes out the entry of the handle, or else does
nothing. Nothing else is changed, and in any further run the entries that survive it keep their
order. -/
theorem local_effects (S : Setting K Q) (capacity : Nat) (steps : List (Step K Q V)) :
    let m : MatchMap K V := (withCapacity capacity).after S steps
    m.arena.handles.map m.pair? = m.toList.map some ∧
    (∀ k v h, (m.find (S.matching.query k)).value = some h →
      ∃ entry, (m.insert S.matching k v).value.1 = some entry.value ∧
        Writes m (m.insert S.matching k v).value.2 h entry v) ∧
    (∀ k v, (m.find (S.matching.query k)).value = none →
      (m.insert S.matching k v).value.1 = none ∧
        ∃ h, Adds m (m.insert S.matching k v).value.2 h ⟨k, v, S.matching.hash k⟩) ∧
    (∀ h entry, m.entry? h = some entry →
      (m.removeHandle h).1 = some (entry.key, entry.value) ∧
        TakesOut m (m.removeHandle h).2 h entry) ∧
    (∀ h, m.entry? h = none → m.removeHandle h = (none, m)) ∧
    (∀ more : List (Step K Q V), (∀ s ∈ more, s.stays = true) →
      let m' := m.after S more
      m'.arena.handles.filter (· ∈ m.arena.handles) =
          m.arena.handles.filter (· ∈ m'.arena.handles) ∧
        ∀ h ∈ m.arena.handles, h ∈ m'.arena.handles → m'.key? h = m.key? h) := by
  intro m
  have hm : Coherent S.matching m := (coherent_withCapacity capacity).after steps
  refine ⟨map_handles fun h pair hpair => hpair, ?_, ?_, ?_, fun h => removeHandle_of_stale, ?_⟩
  · intro k v h hfind
    exact hm.insert_of_find hfind v
  · intro k v hnone
    exact hm.insert_of_find_none hnone v
  · intro h entry hentry
    refine ⟨?_, hm.takesOut_removeHandle hentry⟩
    rw [removeHandle_fst, pair?, hentry, Option.map_some]
  · intro more hstays m'
    refine ⟨Arena.filter_mem_handles_comm m.arena m'.arena, ?_⟩
    intro h hbefore hafter
    exact hm.key?_after hstays hbefore hafter

end MatchMap

end KeyedContainers
