import KeyedContainers.Proofs.MatchMap.Lifetime

/-!
# Relations that differ between hashes

A map asks its relation about a stored key only if the query has the hash kept with the entry. So
two relations that answer alike for keys and queries of equal hashes cannot be told apart by the use
of a map: every run has the same replies, reports the same, asks the same questions and ends in the
same map. A key that some stored keys would accept, but all of them under other hashes, is
stored beside them.
-/

namespace KeyedContainers

variable {K Q V : Type}

/-- Computations in succession are the same if the first ones are, and the second ones for the value
of the first. -/
theorem Traced.bind_congr {α β : Type} {x y : Traced α} {f g : α → Traced β} (hxy : x = y)
    (hfg : f y.value = g y.value) : x >>= f = y >>= g := by
  subst hxy
  change Traced.mk (f x.value).value (x.trace ++ (f x.value).trace) =
    Traced.mk (g x.value).value (x.trace ++ (g x.value).trace)
  rw [hfg]

/-- Two queries have one hash, and a stored key of this hash accepts both or neither. -/
structure Query.AgreeWithin (hash : K → UInt64) (q₁ q₂ : Query K) : Prop where
  hash_eq : q₁.hash = q₂.hash
  accepts_eq : ∀ stored, hash stored = q₁.hash → q₁.accepts stored = q₂.accepts stored

/-- Two matchings have the same hashes, and the same answers for keys of equal hashes. -/
structure Matching.AgreeWithin (M₁ M₂ : Matching K) : Prop where
  hash_eq : M₁.hash = M₂.hash
  agrees_eq : ∀ stored q, M₁.hash stored = M₁.hash q → M₁.agrees stored q = M₂.agrees stored q

/-- Two settings differ at most in the answers of stored keys to queries of other hashes. -/
structure Setting.AgreeWithin (S₁ S₂ : Setting K Q) : Prop where
  matching : S₁.matching.AgreeWithin S₂.matching
  query : ∀ q, Query.AgreeWithin S₁.matching.hash (S₁.query q) (S₂.query q)
  native_eq : S₁.native = S₂.native
  le_eq : S₁.le = S₂.le

/-- The queries of a key under two such matchings. -/
theorem Matching.AgreeWithin.query {M₁ M₂ : Matching K} (hM : M₁.AgreeWithin M₂) (k : K) :
    Query.AgreeWithin M₁.hash (M₁.query k) (M₂.query k) where
  hash_eq := congrFun hM.hash_eq k
  accepts_eq stored hhash := hM.agrees_eq stored k hhash

namespace MatchMap

/-- Asking is the same where the entries of the hash answer alike. -/
theorem ask_congr {arena : Arena (Entry K V)} {q₁ q₂ : Query K} (hhash : q₁.hash = q₂.hash)
    (haccepts : ∀ h entry, arena.get? h = some entry → entry.hash = q₁.hash →
      q₁.accepts entry.key = q₂.accepts entry.key) (handles : List Handle) :
    ask arena q₁ handles = ask arena q₂ handles := by
  induction handles with
  | nil => rfl
  | cons h handles ih =>
    cases hentry : arena.get? h with
    | none => simp only [ask, hentry, ih]
    | some entry =>
      by_cases hsame : entry.hash = q₁.hash
      · have hanswer := haccepts h entry hentry hsame
        simp only [ask, hentry, hsame, hhash, hanswer, ih]
      · have hother : entry.hash ≠ q₂.hash := hhash ▸ hsame
        simp only [ask, hentry, if_neg hsame, if_neg hother, ih]

variable {M₁ M₂ : Matching K} {m : MatchMap K V}

/-- Queries that agree within hashes find the same, by the same questions. -/
theorem Coherent.find_congr (hm : Coherent M₁ m) {q₁ q₂ : Query K}
    (hq : Query.AgreeWithin M₁.hash q₁ q₂) : m.find q₁ = m.find q₂ := by
  unfold find
  rw [← hq.hash_eq]
  refine ask_congr hq.hash_eq ?_ _
  intro h entry hentry hhash
  have hkey : M₁.hash entry.key = q₁.hash := (hm.hashed h entry hentry).symm.trans hhash
  exact hq.accepts_eq entry.key hkey

theorem Coherent.tryGet_congr (hm : Coherent M₁ m) {q₁ q₂ : Query K}
    (hq : Query.AgreeWithin M₁.hash q₁ q₂) : m.tryGet q₁ = m.tryGet q₂ := by
  simp only [tryGet, get?, hm.find_congr hq, hq.hash_eq]

theorem Coherent.insert_congr (hm : Coherent M₁ m) (hM : M₁.AgreeWithin M₂) (k : K) (v : V) :
    m.insert M₁ k v = m.insert M₂ k v := by
  simp only [insert, hm.find_congr (hM.query k), hM.hash_eq]

theorem Coherent.extend_congr (hm : Coherent M₁ m) (hM : M₁.AgreeWithin M₂)
    (pairs : List (K × V)) : m.extend M₁ pairs = m.extend M₂ pairs := by
  induction pairs generalizing m with
  | nil => rfl
  | cons pair pairs ih =>
    have hinsert := hm.insert_congr hM pair.1 pair.2
    have hnext := hm.changes (changes_insert m pair.1 pair.2)
    rw [hinsert] at hnext
    exact Traced.bind_congr hinsert (ih hnext)

theorem ofPairs_congr (hM : M₁.AgreeWithin M₂) (pairs : List (K × V)) :
    ofPairs M₁ pairs = ofPairs M₂ pairs :=
  Traced.bind_congr ((coherent_withCapacity 0).extend_congr hM pairs) rfl

/-- Binding a key leaves the entries of other hashes as they are. -/
theorem Coherent.entry?_insert_of_hash_ne (hm : Coherent M₁ m) {h : Handle} {entry : Entry K V}
    (hentry : m.entry? h = some entry) {k : K} (hhash : M₁.hash entry.key ≠ M₁.hash k) (v : V) :
    entry? (m.insert M₁ k v).value.2 h = some entry := by
  have hmissed : (m.find (M₁.query k)).value ≠ some h := by
    intro hfind
    obtain ⟨found, hfound, hsame, _⟩ := exists_entry_of_find hfind
    rw [hentry, Option.some.injEq] at hfound
    apply hhash
    rw [← hm.hashed h entry hentry, hfound]
    exact hsame
  rw [hm.entry?_insert hentry, if_neg hmissed, Entry.rewrite_none]

/-- A key that only keys of other hashes accept is added. -/
theorem Coherent.insert_of_hash_ne (hm : Coherent M₁ m) {k : K}
    (hhash : ∀ h entry, m.entry? h = some entry → M₁.agrees entry.key k = true →
      M₁.hash entry.key ≠ M₁.hash k) (v : V) :
    (m.insert M₁ k v).value = (none, m.add ⟨k, v, M₁.hash k⟩) := by
  refine hm.insert_of_unrelated ?_ v
  intro key hkey
  obtain ⟨h, entry, hentry, rfl⟩ := mem_keys_iff.mp hkey
  by_contra hrelated
  rw [Bool.not_eq_false, Matching.related_eq_true_iff] at hrelated
  exact hhash h entry hentry hrelated.2 hrelated.1

variable [Listed K] [Listed V] {S₁ S₂ : Setting K Q}

/-- An operation is the same under two settings that differ between hashes only. -/
theorem Coherent.step_congr (hm : Coherent S₁.matching m) (hS : S₁.AgreeWithin S₂)
    (s : Step K Q V) : m.step S₁ s = m.step S₂ s := by
  have hfind : ∀ q, m.find (S₁.query q) = m.find (S₂.query q) := by
    intro q
    exact hm.find_congr (hS.query q)
  have htry : ∀ q, m.tryGet (S₁.query q) = m.tryGet (S₂.query q) := by
    intro q
    exact hm.tryGet_congr (hS.query q)
  cases s with
  | insert k v => simp only [MatchMap.step, hm.insert_congr hS.matching]
  | extend pairs => simp only [MatchMap.step, hm.extend_congr hS.matching]
  | build pairs => simp only [MatchMap.step, ofPairs_congr hS.matching]
  | contains q => simp only [MatchMap.step, contains, hfind]
  | get q => simp only [MatchMap.step, get?, hfind]
  | tryGet q => simp only [MatchMap.step, htry]
  | demand q => simp only [MatchMap.step, demand, htry]
  | getKeyValue q => simp only [MatchMap.step, getKeyValue?, hfind]
  | set q v => simp only [MatchMap.step, set, hfind]
  | remove q => simp only [MatchMap.step, remove, hfind]
  | find q => simp only [MatchMap.step, hfind]
  | conventional keys => simp only [MatchMap.step, tabulate, hS.native_eq, hS.le_eq]
  | intoConventional keys => simp only [MatchMap.step, tabulate, hS.native_eq, hS.le_eq]
  | keyOf | valueOf | exchange | removeHandle | size | clear | entries | firstEntries
  | updateFirst | keys | values | inspect => rfl

/-- A run is the same under two settings that differ between hashes only. -/
theorem Coherent.run_congr (hm : Coherent S₁.matching m) (hS : S₁.AgreeWithin S₂)
    (steps : List (Step K Q V)) : m.run S₁ steps = m.run S₂ steps := by
  induction steps generalizing m with
  | nil => rfl
  | cons s steps ih =>
    have hstep := hm.step_congr hS s
    -- Both settings lead to one map, which the first keeps coherent.
    have hnext := hm.step s
    rw [hstep] at hnext
    exact Traced.bind_congr hstep (Traced.bind_congr (ih hnext) rfl)

/-- Two relations that answer alike for keys and queries of equal hashes give the same run: the
same replies, the same map and the same trace. And in every map that a run leads to, binding a key
leaves the entries of other hashes as they are, and adds an entry if no stored key of its own hash
accepts it. -/
theorem only_equal_hashes_matter (S₁ S₂ : Setting K Q) (hS : S₁.AgreeWithin S₂) (capacity : Nat)
    (steps : List (Step K Q V)) :
    let start : MatchMap K V := .withCapacity capacity
    let m := start.after S₁ steps
    start.run S₁ steps = start.run S₂ steps ∧
    ∀ k v,
      (∀ h entry, m.entry? h = some entry → S₁.matching.hash entry.key ≠ S₁.matching.hash k →
        entry? (m.insert S₁.matching k v).value.2 h = some entry) ∧
      ((∀ h entry, m.entry? h = some entry → S₁.matching.agrees entry.key k = true →
          S₁.matching.hash entry.key ≠ S₁.matching.hash k) →
        (m.insert S₁.matching k v).value.1 = none ∧
          (m.insert S₁.matching k v).value.2.toList.Perm ((k, v) :: m.toList)) := by
  intro start m
  have hstart : Coherent S₁.matching start := coherent_withCapacity capacity
  have hm : Coherent S₁.matching m := hstart.after steps
  refine ⟨hstart.run_congr hS steps, ?_⟩
  intro k v
  refine ⟨?_, ?_⟩
  · intro h entry hentry hhash
    exact hm.entry?_insert_of_hash_ne hentry hhash v
  · intro hhash
    rw [hm.insert_of_hash_ne hhash]
    exact ⟨rfl, hm.perm_toList_add _⟩

/-- A relation that always holds cannot be told from equality as long as the two keys have different
hashes: the second is stored beside the first. -/
theorem only_equal_hashes_matter_always :
    let S₂ := Setting.standard Hasher.byteSum fun (a b : Bool) => !a || b
    let always : Matching Bool := ⟨S₂.matching.hash, fun _ _ => true⟩
    let S₁ : Setting Bool Bool := { S₂ with matching := always, query := always.query }
    let steps : List (Step Bool Bool Bool) := [.insert true false, .find false, .insert true true]
    let start : MatchMap Bool Bool := .withCapacity 0
    let m := start.after S₁ steps
    S₁.matching.agrees true false = true ∧ S₂.matching.agrees true false = false ∧
      start.run S₁ steps = start.run S₂ steps ∧ m.toList = [(true, true)] ∧
      (m.insert S₁.matching false false).value.1 = none ∧
      (m.insert S₁.matching false false).value.2.toList.Perm [(false, false), (true, true)] := by
  intro S₂ always S₁ steps
  have hM : S₁.matching.AgreeWithin S₂.matching := ⟨rfl, by decide⟩
  have hS : S₁.AgreeWithin S₂ := ⟨hM, hM.query, rfl, rfl⟩
  obtain ⟨hrun, hbeside⟩ := only_equal_hashes_matter (V := Bool) S₁ S₂ hS 0 steps
  have hlist : ((withCapacity 0 : MatchMap Bool Bool).after S₁ steps).toList = [(true, true)] := by
    decide
  have hother : ∀ h entry, entry? ((withCapacity 0).after S₁ steps) h = some entry →
      S₁.matching.agrees entry.key false = true →
      S₁.matching.hash entry.key ≠ S₁.matching.hash false := by
    intro h entry hentry _
    have hmem : (entry.key, entry.value) ∈ ((withCapacity 0).after S₁ steps).toList :=
      mem_toList_iff.mpr ⟨h, by rw [pair?, hentry]; rfl⟩
    rw [hlist, List.mem_singleton, Prod.mk.injEq] at hmem
    rw [hmem.1]
    decide
  obtain ⟨hreply, hperm⟩ := (hbeside false false).2 hother
  have hboth := List.Perm.of_eq (congrArg (List.cons (false, false)) hlist)
  exact ⟨rfl, by decide, hrun, hlist, hreply, hperm.trans hboth⟩

end MatchMap

end KeyedContainers
