import KeyedContainers.Proofs.MatchMap.Coherent

/-!
# Looking for an entry

What a query finds is an entry of its hash whose key accepts it, and in a coherent map it misses
none: it finds nothing only if no entry matches. Where the relation of the keys is symmetric and
transitive, no two entries are ever related to each other, and a map that is regular in this way
stays so. In a regular map a key matches one entry at most and finds exactly this one.
-/

namespace KeyedContainers

/-- The relation of a matching is symmetric and transitive. -/
structure Matching.IsPartialEquivalence {K : Type} (M : Matching K) : Prop where
  symm : ∀ a b, M.related a b = true → M.related b a = true
  trans : ∀ a b c, M.related a b = true → M.related b c = true → M.related a c = true

theorem Matching.related_eq_true_iff {K : Type} {M : Matching K} {stored q : K} :
    M.related stored q = true ↔ M.hash stored = M.hash q ∧ M.agrees stored q = true := by
  simp [Matching.related]

theorem Matching.isPartialEquivalence_of_equivalence {K : Type} {M : Matching K}
    (hM : Equivalence fun a b => M.related a b = true) : M.IsPartialEquivalence :=
  ⟨fun _ _ => hM.symm, fun _ _ _ => hM.trans⟩

theorem Matching.IsPartialEquivalence.comm {K : Type} {M : Matching K}
    (hM : M.IsPartialEquivalence) (a b : K) : M.related a b = M.related b a :=
  Bool.eq_iff_iff.mpr ⟨hM.symm a b, hM.symm b a⟩

/-- Related keys are related to the same keys. -/
theorem Matching.IsPartialEquivalence.congr {K : Type} {M : Matching K}
    (hM : M.IsPartialEquivalence) {a b : K} (hab : M.related a b = true) (q : K) :
    M.related a q = M.related b q :=
  Bool.eq_iff_iff.mpr ⟨hM.trans b a q (hM.symm a b hab), hM.trans a b q hab⟩

namespace MatchMap

variable {K V : Type} {M : Matching K} {m : MatchMap K V}

/-- A query finds the first candidate whose entry matches. -/
theorem value_find (m : MatchMap K V) (q : Query K) :
    (m.find q).value = (m.index.candidates q.hash).find? (answers m.arena q) :=
  value_ask m.arena q _

/-- A handle answers a query when its entry has the hash of the query and accepts it. -/
theorem answers_eq_true_iff {q : Query K} {h : Handle} :
    answers m.arena q h = true ↔
      ∃ entry, m.entry? h = some entry ∧ entry.hash = q.hash ∧ q.accepts entry.key = true := by
  simp [answers, entry?, Option.any_eq_true]

/-- What a query finds has its hash and accepts it. -/
theorem exists_entry_of_find {q : Query K} {h : Handle} (hfind : (m.find q).value = some h) :
    ∃ entry, m.entry? h = some entry ∧ entry.hash = q.hash ∧ q.accepts entry.key = true := by
  rw [value_find] at hfind
  exact answers_eq_true_iff.mp (List.find?_some hfind)

/-- A query finds nothing exactly when no entry matches it. -/
theorem Coherent.find_eq_none_iff (hm : Coherent M m) {q : Query K} :
    (m.find q).value = none ↔
      ∀ h entry, m.entry? h = some entry → entry.hash = q.hash → q.accepts entry.key = false := by
  rw [value_find, List.find?_eq_none]
  constructor
  · intro hnone h entry hentry hhash
    have hmem : h ∈ m.index.candidates q.hash := hhash ▸ hm.mem_candidates hentry
    have hno := hnone h hmem
    rw [answers_eq_true_iff] at hno
    by_contra haccepts
    exact hno ⟨entry, hentry, hhash, by simpa using haccepts⟩
  · intro hnone h _ hanswers
    obtain ⟨entry, hentry, hhash, haccepts⟩ := answers_eq_true_iff.mp hanswers
    simp [hnone h entry hentry hhash] at haccepts

/-- The entry that a key finds has a related key. -/
theorem Coherent.related_of_find (hm : Coherent M m) {k : K} {h : Handle}
    (hfind : (m.find (M.query k)).value = some h) :
    ∃ entry, m.entry? h = some entry ∧ M.related entry.key k = true := by
  obtain ⟨entry, hentry, hhash, haccepts⟩ := exists_entry_of_find hfind
  rw [hm.hashed h entry hentry] at hhash
  exact ⟨entry, hentry, Matching.related_eq_true_iff.mpr ⟨hhash, haccepts⟩⟩

/-- A key finds nothing exactly when it is related to no stored key. -/
theorem Coherent.find_query_eq_none_iff (hm : Coherent M m) {k : K} :
    (m.find (M.query k)).value = none ↔
      ∀ h entry, m.entry? h = some entry → M.related entry.key k = false := by
  rw [hm.find_eq_none_iff]
  refine forall₃_congr fun h entry hentry => ?_
  rw [hm.hashed h entry hentry, Matching.related, Bool.and_eq_false_imp, beq_iff_eq]
  rfl

/-- A key finds nothing exactly when none of the enumerated keys is related to it. -/
theorem Coherent.find_query_eq_none_iff_keys (hm : Coherent M m) {k : K} :
    (m.find (M.query k)).value = none ↔ ∀ key ∈ m.keys, M.related key k = false := by
  rw [hm.find_query_eq_none_iff]
  simp only [mem_keys_iff]
  constructor
  · rintro hnone key ⟨h, entry, hentry, rfl⟩
    exact hnone h entry hentry
  · intro hnone h entry hentry
    exact hnone entry.key ⟨h, entry, hentry, rfl⟩

/-- A key that no stored key is related to is added. -/
theorem Coherent.insert_of_unrelated (hm : Coherent M m) {k : K}
    (hk : ∀ key ∈ m.keys, M.related key k = false) (v : V) :
    (m.insert M k v).value = (none, m.add ⟨k, v, M.hash k⟩) :=
  value_insert_of_find_none (hm.find_query_eq_none_iff_keys.mpr hk) v

/-- No two entries of a map have related keys. -/
def Distinct (M : Matching K) (m : MatchMap K V) : Prop :=
  ∀ g h d e, m.entry? g = some d → m.entry? h = some e → M.related d.key e.key = true → g = h

theorem distinct_withCapacity (capacity : Nat) :
    Distinct M (withCapacity capacity : MatchMap K V) := by
  intro g h d e hd
  simp [withCapacity, entry?] at hd

/-- Entries stay distinct where no entry is added and no key changed. -/
theorem Distinct.inherit {m' : MatchMap K V} (hdistinct : Distinct M m)
    (hinherits : Inherits m m') : Distinct M m' := by
  intro g h d e hd he hrelated
  obtain ⟨d', hd', hdkey⟩ := hinherits g d hd
  obtain ⟨e', he', hekey⟩ := hinherits h e he
  refine hdistinct g h d' e' hd' he' ?_
  rw [hdkey, hekey]
  exact hrelated

/-- An entry that is added for a key that finds nothing is not related to any other. -/
theorem Distinct.add (hM : M.IsPartialEquivalence) (hm : Coherent M m) (hdistinct : Distinct M m)
    {k : K} (v : V) (hnone : (m.find (M.query k)).value = none) :
    Distinct M (m.add ⟨k, v, M.hash k⟩) := by
  have hunrelated := hm.find_query_eq_none_iff.mp hnone
  intro g h d e hd he hrelated
  rw [hm.entry?_add] at hd he
  split at hd
  · split at he
    · rename_i hg hh
      rw [hg, hh]
    · cases hd
      have hno := hunrelated h e he
      simp [hM.symm _ _ hrelated] at hno
  · split at he
    · cases he
      have hno := hunrelated g d hd
      simp [hrelated] at hno
    · exact hdistinct g h d e hd he hrelated

/-- Every elementary change keeps the entries of a coherent map distinct. -/
theorem Distinct.change (hM : M.IsPartialEquivalence) {m' : MatchMap K V}
    (hchange : Change M m m') (hm : Coherent M m) (hdistinct : Distinct M m) : Distinct M m' := by
  cases hchange with
  | amend h f => exact hdistinct.inherit (inherits_amend m h f)
  | add k v hnone => exact hdistinct.add hM hm v hnone
  | removeHandle h => exact hdistinct.inherit (inherits_removeHandle m h)
  | clear => exact hdistinct.inherit (inherits_clear m)

/-- A coherent map with distinct entries. -/
structure Regular (M : Matching K) (m : MatchMap K V) : Prop extends Coherent M m where
  distinct : Distinct M m

theorem regular_withCapacity (capacity : Nat) :
    Regular M (withCapacity capacity : MatchMap K V) :=
  ⟨coherent_withCapacity capacity, distinct_withCapacity capacity⟩

/-- Every chain of changes keeps a map regular. -/
theorem Regular.changes (hM : M.IsPartialEquivalence) {m' : MatchMap K V}
    (hchanges : Changes M m m') (hm : Regular M m) : Regular M m' :=
  ⟨hm.toCoherent.changes hchanges, hm.changes_induction
    (fun hchange hm hdistinct => hdistinct.change hM hchange hm) hchanges hm.distinct⟩

/-- Under a symmetric and transitive relation a key finds exactly the entry with a related key. -/
theorem Regular.find_query_eq_some_iff (hm : Regular M m) (hM : M.IsPartialEquivalence) {k : K}
    {h : Handle} :
    (m.find (M.query k)).value = some h ↔
      ∃ pair, m.pair? h = some pair ∧ M.related pair.1 k = true := by
  constructor
  · intro hfind
    obtain ⟨entry, hentry, hrelated⟩ := hm.related_of_find hfind
    exact ⟨(entry.key, entry.value), by rw [pair?, hentry]; rfl, hrelated⟩
  · rintro ⟨pair, hpair, hrelated⟩
    obtain ⟨entry, hentry, rfl⟩ := Option.map_eq_some_iff.mp hpair
    cases hfind : (m.find (M.query k)).value with
    | none =>
      have hno := hm.find_query_eq_none_iff.mp hfind h entry hentry
      simp [hno] at hrelated
    | some g =>
      obtain ⟨other, hother, hrelated'⟩ := hm.related_of_find hfind
      have hboth := hM.trans _ _ _ hrelated' (hM.symm _ _ hrelated)
      rw [hm.distinct g h other entry hother hentry hboth]

end MatchMap

end KeyedContainers
