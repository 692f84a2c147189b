import KeyedContainers.Proofs.Arena.Reuse
import KeyedContainers.Proofs.MatchMap.FromPairs
import KeyedContainers.Proofs.MatchMap.LocalEffect
import KeyedContainers.Proofs.MatchMap.Lookup

/-!
# Insertions and removals that undo each other

Removing a key that was just inserted takes out the entry that the insertion added, so the map is
as before for every handle. Inserting what was just removed takes the freed slot again, so the
entries are listed as before and all keys are answered as before; only the entry that went and came
back has another handle, and its old one stays dead.
-/

namespace KeyedContainers.MatchMap

variable {K Q V : Type} {M : Matching K} {m m' m'' : MatchMap K V} {h : Handle}
  {entry : Entry K V} {k : K} {v : V}

/-- Maps in which all handles resolve alike list the same entries. -/
private theorem toList_congr (hentry : ∀ g, m'.entry? g = m.entry? g) : m'.toList = m.toList := by
  rw [toList_eq_map, toList_eq_map, Arena.toList_congr (a := m'.arena) (b := m.arena) hentry]

/-- Taking out the entry that was added leaves all handles as they were. -/
theorem Adds.undone (hadds : Adds m m' h entry) (htakes : TakesOut m' m'' h entry) (g : Handle) :
    m''.entry? g = m.entry? g := by
  rw [htakes.entry?_eq, hadds.entry?_eq]
  by_cases hgh : g = h
  · rw [if_pos hgh, hgh, hadds.fresh]
  · rw [if_neg hgh, if_neg hgh]

/-- Two maps answer a key alike. -/
structure AnswersAlike (m m' : MatchMap K V) (q : Query K) : Prop where
  contains : (m'.contains q).value = (m.contains q).value
  get : (m'.get? q).value = (m.get? q).value
  tryGet : (m'.tryGet q).value = (m.tryGet q).value
  demand : (m'.demand q).value = (m.demand q).value
  getKeyValue : (m'.getKeyValue? q).value = (m.getKeyValue? q).value

/-- A query matches an entry exactly when there are a key and a value for it. -/
private theorem value_contains_eq_isSome (m : MatchMap K V) (q : Query K) :
    (m.contains q).value = (m.getKeyValue? q).value.isSome := by
  rw [value_contains, value_getKeyValue?]
  cases hfind : (m.find q).value with
  | none => rfl
  | some h =>
    obtain ⟨entry, hentry, _⟩ := exists_entry_of_find hfind
    rw [Option.bind_some, pair?, hentry]
    rfl

/-- Regular maps that list the same entries answer every key alike. -/
theorem Regular.answersAlike (hm : Regular M m) (hm' : Regular M m') (hM : M.IsPartialEquivalence)
    (hlist : m'.toList = m.toList) (q : K) : AnswersAlike m m' (M.query q) := by
  have hpair : (m'.getKeyValue? (M.query q)).value = (m.getKeyValue? (M.query q)).value := by
    rw [value_getKeyValue?, value_getKeyValue?, ← hm.find?_toList hM, ← hm'.find?_toList hM, hlist]
  have hget : (m'.get? (M.query q)).value = (m.get? (M.query q)).value := by
    rw [← hm.get?_toList hM, ← hm'.get?_toList hM, hlist]
  have htry : (m'.tryGet (M.query q)).value = (m.tryGet (M.query q)).value := by
    rw [value_tryGet, value_tryGet, hget]
  refine ⟨?_, hget, htry, ?_, hpair⟩
  · rw [value_contains_eq_isSome, value_contains_eq_isSome, hpair]
  · rw [value_demand, value_demand, htry]

/-- A key that is added and related to itself is then found under the fresh handle. -/
theorem Regular.find_add (hm : Regular M m) (hM : M.IsPartialEquivalence)
    (hk : M.related k k = true) (hnone : (m.find (M.query k)).value = none) (v : V) :
    (find (m.add ⟨k, v, M.hash k⟩) (M.query k)).value = some (m.freshHandle ⟨k, v, M.hash k⟩) := by
  have hadded : Regular M (m.add ⟨k, v, M.hash k⟩) := hm.changes hM (.single (.add m k v hnone))
  refine (hadded.find_query_eq_some_iff hM).mpr ⟨(k, v), ?_, hk⟩
  rw [hm.pair?_add, if_pos rfl]

/-- Inserting a key that finds nothing and removing it again answers what was inserted, and leaves
all handles as they were. -/
theorem Regular.remove_insert (hm : Regular M m) (hM : M.IsPartialEquivalence)
    (hk : M.related k k = true) (hnone : (m.find (M.query k)).value = none) (v : V) :
    (m.insert M k v).value.1 = none ∧
      (remove (m.insert M k v).value.2 (M.query k)).value.1 = some (k, v) ∧
      ∀ g, entry? (remove (m.insert M k v).value.2 (M.query k)).value.2 g = m.entry? g := by
  have hadds : Adds m (m.add ⟨k, v, M.hash k⟩) (m.freshHandle ⟨k, v, M.hash k⟩) ⟨k, v, M.hash k⟩ :=
    hm.adds_add rfl
  have hentry := (hadds.entry?_eq (m.freshHandle ⟨k, v, M.hash k⟩)).trans (if_pos rfl)
  have hadded : Coherent M (m.add ⟨k, v, M.hash k⟩) := hm.add rfl
  rw [value_insert_of_find_none hnone, value_remove_of_find (hm.find_add hM hk hnone v)]
  refine ⟨rfl, ?_, hadds.undone (hadded.takesOut_removeHandle hentry)⟩
  rw [removeHandle_fst, pair?, hentry, Option.map_some]

/-- The entry of one handle has another one; all other handles resolve as before. -/
structure Rehandled (m m' : MatchMap K V) (h h' : Handle) : Prop where
  live : (m.entry? h).isSome
  fresh : m.entry? h' = none
  entry?_new : m'.entry? h' = m.entry? h
  entry?_old : m'.entry? h = none
  entry?_other : ∀ g, g ≠ h → g ≠ h' → m'.entry? g = m.entry? g

/-- The key of an entry that was taken out finds nothing. -/
theorem Regular.find_removeHandle (hm : Regular M m) (hentry : m.entry? h = some entry) :
    ((m.removeHandle h).2.find (M.query entry.key)).value = none := by
  refine (hm.toCoherent.removeHandle h).find_query_eq_none_iff.mpr ?_
  intro g other hother
  rw [entry?_removeHandle] at hother
  split at hother
  · cases hother
  · rename_i hne
    by_contra hrelated
    exact hne (hm.distinct g h other entry hother hentry ((Bool.not_eq_false _).mp hrelated))

/-- Inserting what was just taken out answers nothing, and adds the very entry again. -/
theorem Regular.value_insert_removeHandle (hm : Regular M m) (hentry : m.entry? h = some entry) :
    ((m.removeHandle h).2.insert M entry.key entry.value).value =
      (none, (m.removeHandle h).2.add entry) := by
  have hsame : (⟨entry.key, entry.value, M.hash entry.key⟩ : Entry K V) = entry := by
    rw [← hm.hashed h entry hentry]
  rw [value_insert_of_find_none (hm.find_removeHandle hentry), hsame]

/-- An entry that is taken out and added again gets the renewed handle. -/
theorem Coherent.rehandled (hm : Coherent M m) (hentry : m.entry? h = some entry) :
    Rehandled m ((m.removeHandle h).2.add entry) h h.renewed := by
  have hget : m.arena.get? h = some entry := hentry
  have hafter : ∀ g, entry? ((m.removeHandle h).2.add entry) g =
      if g = h.renewed then some entry else if g = h then none else m.entry? g := by
    intro g
    have hsame := hm.sound.get?_insert_remove hget entry g
    rwa [← arena_removeHandle, ← arena_add] at hsame
  refine ⟨Option.isSome_iff_exists.mpr ⟨entry, hentry⟩, Arena.get?_renewed hget, ?_, ?_, ?_⟩
  · rw [hafter, if_pos rfl, hentry]
  · rw [hafter, if_neg h.renewed_ne.symm, if_pos rfl]
  · intro g hold hnew
    rw [hafter, if_neg hnew, if_neg hold]

/-- An entry that is taken out and added again is listed where it was. -/
theorem Coherent.toList_add_removeHandle (hm : Coherent M m) (hentry : m.entry? h = some entry) :
    toList ((m.removeHandle h).2.add entry) = m.toList := by
  rw [toList, arena_add, arena_removeHandle, hm.sound.contents_insert_remove hentry, toList]

/-- A removal that answers takes out the entry that the key finds. -/
theorem exists_entry_of_remove {q : Query K} {pair : K × V}
    (hremoved : (m.remove q).value.1 = some pair) :
    ∃ h entry, (m.find q).value = some h ∧ m.entry? h = some entry ∧
      (entry.key, entry.value) = pair ∧ (m.remove q).value.2 = (m.removeHandle h).2 := by
  cases hfind : (m.find q).value with
  | none =>
    rw [(misses_of_find hfind).remove] at hremoved
    cases hremoved
  | some h =>
    obtain ⟨entry, hentry, _⟩ := exists_entry_of_find hfind
    rw [value_remove_of_find hfind] at hremoved ⊢
    rw [removeHandle_fst, pair?, hentry, Option.map_some] at hremoved
    exact ⟨h, entry, rfl, hentry, Option.some.inj hremoved, rfl⟩

variable [Listed K] [Listed V]

/-- The handle of an entry that was taken out stays dead. -/
theorem Coherent.dead_after_removeHandle {S : Setting K Q} (hm : Coherent S.matching m)
    (hentry : m.entry? h = some entry) (k : K) (v : V) {more : List (Step K Q V)}
    (hstays : ∀ s ∈ more, s.stays = true) :
    (((m.removeHandle h).2.insert S.matching k v).value.2.after S more).Dead h := by
  have hspent : (m.removeHandle h).2.arena.Spent h :=
    arena_removeHandle m h ▸ Arena.lawful_handles.spent_remove hentry
  refine dead_of_spent (Arena.lawful_handles.spent_mono ((hm.removeHandle h).ages ?_) hspent)
  exact (changes_insert _ k v).trans (after_changes _ hstays)

/-- Under an equivalence of the keys, after every run. Inserting a key that is not there and
removing it again answers nothing and then the key with the value, and leaves the listing and all
handles as they were. Inserting again what a removal answered answers nothing, and leaves the
listing and the answers to all keys as they were; the entry has another handle, nothing else has,
and the old handle is dead for good. -/
theorem insertion_and_removal_undo (S : Setting K Q)
    (hM : Equivalence fun a b => S.matching.related a b = true) (capacity : Nat)
    (steps : List (Step K Q V)) :
    let m : MatchMap K V := (withCapacity capacity).after S steps
    (∀ k v, (m.contains (S.matching.query k)).value = false →
      let inserted := (m.insert S.matching k v).value
      let removed := (inserted.2.remove (S.matching.query k)).value
      inserted.1 = none ∧ removed.1 = some (k, v) ∧ removed.2.toList = m.toList ∧
        ∀ h, entry? removed.2 h = m.entry? h) ∧
    (∀ q k v, (m.remove (S.matching.query q)).value.1 = some (k, v) →
      let removed := (m.remove (S.matching.query q)).value
      let inserted := (removed.2.insert S.matching k v).value
      inserted.1 = none ∧ inserted.2.toList = m.toList ∧
        (∀ k', AnswersAlike m inserted.2 (S.matching.query k')) ∧
        ∃ h h', (m.find (S.matching.query q)).value = some h ∧ h' ≠ h ∧
          Rehandled m inserted.2 h h' ∧
          ∀ more : List (Step K Q V), (∀ s ∈ more, s.stays = true) →
            (inserted.2.after S more).Dead h) := by
  intro m
  have hpartial := Matching.isPartialEquivalence_of_equivalence hM
  have hm : Regular S.matching m := (regular_withCapacity capacity).after hpartial steps
  constructor
  · intro k v hcontains inserted removed
    rw [value_contains, Option.isSome_eq_false_iff, Option.isNone_iff_eq_none] at hcontains
    obtain ⟨hinserted, hremoved, hentry⟩ := hm.remove_insert hpartial (hM.refl k) hcontains v
    exact ⟨hinserted, hremoved, toList_congr hentry, hentry⟩
  · intro q k v hanswer removed inserted
    obtain ⟨h, entry, hfind, hentry, hpair, hmap⟩ := exists_entry_of_remove hanswer
    obtain ⟨rfl, rfl⟩ := Prod.mk.inj hpair
    have hinserted : inserted = (none, (m.removeHandle h).2.add entry) := by
      rw [← hm.value_insert_removeHandle hentry, ← hmap]
    have hlist : inserted.2.toList = m.toList := by
      rw [hinserted]
      exact hm.toList_add_removeHandle hentry
    have hregular : Regular S.matching inserted.2 :=
      hm.changes hpartial ((changes_remove m _).trans (changes_insert _ _ _))
    refine ⟨by rw [hinserted], hlist, hm.answersAlike hregular hpartial hlist, h, h.renewed, hfind,
      h.renewed_ne, ?_, ?_⟩
    · rw [hinserted]
      exact hm.rehandled hentry
    · intro more hstays
      have hdead := hm.dead_after_removeHandle hentry entry.key entry.value hstays
      rwa [← hmap] at hdead

/-- With two free slots below, the slot of a removed key is still the one taken again; all hashes
are equal. -/
theorem insertion_and_removal_undo_holes :
    let M : Matching Char := ⟨fun _ => 7, fun a b => a == b⟩
    let S : Setting Char Char := ⟨M, M, M.query, fun a b => a ≤ b⟩
    let steps : List (Step Char Char Bool) :=
      [.extend [('a', true), ('b', true), ('c', true), ('d', true)], .remove 'a', .remove 'c']
    let m : MatchMap Char Bool := (withCapacity 0).after S steps
    let added := (m.insert S.matching 'x' false).value.2
    let left := (m.remove (S.matching.query 'd')).value.2
    m.toList = [('b', true), ('d', true)] ∧
      (m.contains (S.matching.query 'x')).value = false ∧
      (added.remove (S.matching.query 'x')).value.1 = some ('x', false) ∧
      (added.remove (S.matching.query 'x')).value.2.toList = m.toList ∧
      (m.remove (S.matching.query 'd')).value.1 = some ('d', true) ∧
      (left.insert S.matching 'd' true).value.2.toList = m.toList := by
  intro M S steps
  have heq : ∀ a b, S.matching.related a b = true → a = b :=
    fun a b hab => eq_of_beq (Matching.related_eq_true_iff.mp hab).2
  have hM : Equivalence fun a b => S.matching.related a b = true := by
    refine ⟨fun a => Matching.related_eq_true_iff.mpr ⟨rfl, beq_self_eq_true a⟩, ?_, ?_⟩
    · intro a b hab
      obtain rfl := heq a b hab
      exact hab
    · intro a b c hab hbc
      obtain rfl := heq a b hab
      exact hbc
  obtain ⟨hinsert, hremove⟩ := insertion_and_removal_undo (V := Bool) S hM 0 steps
  obtain ⟨_, hanswer, hlist, _⟩ := hinsert 'x' false (by decide)
  obtain ⟨_, hlist', _⟩ := hremove 'd' 'd' true (by decide)
  exact ⟨by decide, by decide, hanswer, hlist, by decide, hlist'⟩

end KeyedContainers.MatchMap
