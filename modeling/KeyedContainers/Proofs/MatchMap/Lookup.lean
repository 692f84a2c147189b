import KeyedContainers.Proofs.MatchMap.Find

/-!
# Agreement of look-ups

Every access by a query goes to the entry of the handle that the query finds, and if it finds none
the access reads nothing and changes nothing. After every run a query finds an entry exactly when
some entry has its hash and a key that accepts it. Several entries may do so, since nothing is
asked of the relation; still all accesses choose the same one.
-/

namespace KeyedContainers.MatchMap

variable {K Q V : Type}

/-- Every access by a query goes to the entry of one handle. -/
structure Hits (m : MatchMap K V) (q : Query K) (h : Handle) (entry : Entry K V) : Prop where
  find : (m.find q).value = some h
  resolves : m.entry? h = some entry
  contains : (m.contains q).value = true
  get : (m.get? q).value = some entry.value
  tryGet : (m.tryGet q).value = .ok entry.value
  demand : (m.demand q).value = .ok entry.value
  getKeyValue : (m.getKeyValue? q).value = some (entry.key, entry.value)
  /-- A write answers the old value and is a write through the handle. -/
  set : ∀ v, (m.set q v).value.1 = some entry.value ∧ (m.set q v).value = m.exchange h v
  /-- A removal answers the entry and is a removal through the handle. -/
  remove : (m.remove q).value.1 = some (entry.key, entry.value) ∧
    (m.remove q).value = m.removeHandle h

/-- No access by a query reads or changes anything, and those that can fail report its hash. -/
structure Misses (m : MatchMap K V) (q : Query K) : Prop where
  find : (m.find q).value = none
  contains : (m.contains q).value = false
  get : (m.get? q).value = none
  tryGet : (m.tryGet q).value = .error ⟨q.hash⟩
  demand : (m.demand q).value = .error (.missingKey ⟨q.hash⟩)
  getKeyValue : (m.getKeyValue? q).value = none
  set : ∀ v, (m.set q v).value = (none, m)
  remove : (m.remove q).value = (none, m)

variable {m : MatchMap K V} {q : Query K} {h : Handle} {entry : Entry K V}

theorem value_contains (m : MatchMap K V) (q : Query K) :
    (m.contains q).value = (m.find q).value.isSome := rfl

/-- A demand fails exactly when the look-up that can fail does, for the same reason. -/
theorem value_demand (m : MatchMap K V) (q : Query K) :
    (m.demand q).value = (m.tryGet q).value.mapError .missingKey := rfl

/-- All accesses go to the entry that the query finds. -/
theorem hits_of_find (hfind : (m.find q).value = some h) (hentry : m.entry? h = some entry) :
    m.Hits q h entry := by
  have hpair : m.pair? h = some (entry.key, entry.value) := by rw [pair?, hentry]; rfl
  have hvalue : m.value? h = some entry.value := by rw [value?, hentry]; rfl
  have hget : (m.get? q).value = some entry.value := by
    rw [value_get?, hfind, Option.bind_some, hvalue]
  have htry : (m.tryGet q).value = .ok entry.value := by rw [value_tryGet, hget]
  have hset : ∀ v, (m.set q v).value = m.exchange h v := by
    intro v
    rw [value_set, hfind]
  have hremove : (m.remove q).value = m.removeHandle h := value_remove_of_find hfind
  refine ⟨hfind, hentry, ?_, hget, htry, ?_, ?_, ?_, ?_⟩
  · rw [value_contains, hfind, Option.isSome_some]
  · rw [value_demand, htry]
    rfl
  · rw [value_getKeyValue?, hfind, Option.bind_some, hpair]
  · intro v
    refine ⟨?_, hset v⟩
    rw [hset]
    exact hvalue
  · refine ⟨?_, hremove⟩
    rw [hremove, removeHandle_fst, hpair]

/-- No access does anything if the query finds nothing. -/
theorem misses_of_find (hfind : (m.find q).value = none) : m.Misses q := by
  have hget : (m.get? q).value = none := by rw [value_get?, hfind, Option.bind_none]
  have htry : (m.tryGet q).value = .error ⟨q.hash⟩ := by rw [value_tryGet, hget]
  refine ⟨hfind, ?_, hget, htry, ?_, ?_, ?_, ?_⟩
  · rw [value_contains, hfind, Option.isSome_none]
  · rw [value_demand, htry]
    rfl
  · rw [value_getKeyValue?, hfind, Option.bind_none]
  · intro v
    rw [value_set, hfind]
  · rw [value_remove, hfind]

/-- A query finds an entry exactly when one matches it. -/
theorem Coherent.isSome_find_iff {M : Matching K} (hm : Coherent M m) :
    (m.find q).value.isSome ↔
      ∃ h entry, m.entry? h = some entry ∧ entry.hash = q.hash ∧ q.accepts entry.key = true := by
  constructor
  · intro hsome
    obtain ⟨h, hfind⟩ := Option.isSome_iff_exists.mp hsome
    exact ⟨h, exists_entry_of_find hfind⟩
  · rintro ⟨h, entry, hentry, hhash, haccepts⟩
    rw [Option.isSome_iff_ne_none]
    intro hnone
    have hno := hm.find_eq_none_iff.mp hnone h entry hentry hhash
    rw [haccepts] at hno
    cases hno

/-- After every run, whatever the match relation, and for every query, whatever its type: it finds
a handle exactly when some entry has its hash and a key that accepts it. The handle then resolves
to such an entry and all accesses by the query go there; otherwise no access does anything. -/
theorem lookups_agree [Listed K] [Listed V] (S : Setting K Q) (capacity : Nat)
    (steps : List (Step K Q V)) (q : Query K) :
    let m : MatchMap K V := (withCapacity capacity).after S steps
    ((m.find q).value.isSome ↔
      ∃ h entry, m.entry? h = some entry ∧ entry.hash = q.hash ∧ q.accepts entry.key = true) ∧
    (∀ h, (m.find q).value = some h →
      ∃ entry, entry.hash = q.hash ∧ q.accepts entry.key = true ∧ m.Hits q h entry) ∧
    ((m.find q).value = none → m.Misses q) := by
  intro m
  have hm : Coherent S.matching m := (coherent_withCapacity capacity).after steps
  refine ⟨hm.isSome_find_iff, ?_, misses_of_find⟩
  intro h hfind
  obtain ⟨entry, hentry, hhash, haccepts⟩ := exists_entry_of_find hfind
  exact ⟨entry, hhash, haccepts, hits_of_find hfind hentry⟩

end KeyedContainers.MatchMap
