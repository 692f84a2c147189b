import KeyedContainers.Proofs.MatchMap.LocalEffect
import KeyedContainers.Proofs.MatchMap.Report
import KeyedContainers.Proofs.MatchMap.RoundTrip

/-!
# Accounting for insertions

Every insertion does one of two things: it replaces the value of an entry, answers the old value and
reports the hash of its key, or it answers and reports nothing and the map has one entry more. So
when pairs are bound one after another, the reports and the growth of the map come to the number of
pairs, and the reports are those of the replacing pairs in their order. Which pairs replace a value
depends on the stored keys alone, so all maps without entries report alike.
-/

namespace KeyedContainers.MatchMap

variable {K Q V : Type} {M : Matching K} {m : MatchMap K V}

/-- The old values that the insertions of some pairs answer, one after another. -/
def oldValues (M : Matching K) (m : MatchMap K V) : List (K × V) → List (Option V)
  | [] => []
  | pair :: pairs =>
    let inserted := (m.insert M pair.1 pair.2).value
    inserted.1 :: inserted.2.oldValues M pairs

/-- The pairs among some whose insertion answers an old value. -/
def replacing (M : Matching K) (m : MatchMap K V) (pairs : List (K × V)) : List (K × V) :=
  ((pairs.zip (m.oldValues M pairs)).filter (·.2.isSome)).map (·.1)

/-- An event for each of some pairs, which says that a value was replaced under the hash of its
key. -/
def replacements (M : Matching K) (pairs : List (K × V)) : List Event :=
  pairs.map fun pair => .replacedValue (M.hash pair.1)

@[simp] theorem length_oldValues (M : Matching K) (m : MatchMap K V) (pairs : List (K × V)) :
    (m.oldValues M pairs).length = pairs.length := by
  induction pairs generalizing m with
  | nil => rfl
  | cons pair pairs ih => rw [oldValues, List.length_cons, ih, List.length_cons]

/-- The replies to single insertions are the old values. -/
theorem replies_insertions [Listed K] [Listed V] (S : Setting K Q) (m : MatchMap K V)
    (pairs : List (K × V)) :
    m.replies S (insertions pairs) = (m.oldValues S.matching pairs).map .value := by
  induction pairs generalizing m with
  | nil => rfl
  | cons pair pairs ih => exact congrArg _ (ih (m.insert S.matching pair.1 pair.2).value.2)

/-- The first pair is a replacing one if its insertion answers an old value. -/
private theorem replacing_cons (M : Matching K) (m : MatchMap K V) (pair : K × V)
    (pairs : List (K × V)) :
    m.replacing M (pair :: pairs) =
      ((m.insert M pair.1 pair.2).value.1.map fun _ => pair).toList ++
        (m.insert M pair.1 pair.2).value.2.replacing M pairs := by
  rw [replacing, oldValues, List.zip_cons_cons, List.filter_cons]
  cases (m.insert M pair.1 pair.2).value.1 <;> rfl

/-- The replacing pairs are some of all pairs, in the same order. -/
private theorem sublist_replacing (M : Matching K) (m : MatchMap K V) (pairs : List (K × V)) :
    (m.replacing M pairs).Sublist pairs := by
  have hfirst : (pairs.zip (m.oldValues M pairs)).map Prod.fst = pairs :=
    List.map_fst_zip (Nat.le_of_eq (length_oldValues M m pairs).symm)
  have hsome : (m.replacing M pairs).Sublist ((pairs.zip (m.oldValues M pairs)).map Prod.fst) :=
    List.filter_sublist.map Prod.fst
  rwa [hfirst] at hsome

/-- An insertion reports the hash of its key if it answers an old value, and else nothing. -/
theorem Coherent.events_insert (hm : Coherent M m) (k : K) (v : V) :
    (m.insert M k v).trace.events =
      ((m.insert M k v).value.1.map fun _ => .replacedValue (M.hash k)).toList := by
  rw [MatchMap.events_insert]
  cases hfind : (m.find (M.query k)).value with
  | none =>
    rw [value_insert_of_find_none hfind]
    rfl
  | some h =>
    obtain ⟨entry, hanswer, _⟩ := hm.insert_of_find hfind v
    rw [hanswer]
    rfl

/-- An insertion reports an event or makes the map grow by one entry. -/
theorem Coherent.length_insert (hm : Coherent M m) (k : K) (v : V) :
    (m.insert M k v).trace.events.length + (m.insert M k v).value.2.length = m.length + 1 := by
  rw [MatchMap.events_insert]
  cases hfind : (m.find (M.query k)).value with
  | none =>
    obtain ⟨_, h, hadds⟩ := hm.insert_of_find_none hfind v
    rw [hadds.length_eq]
    exact Nat.zero_add _
  | some h =>
    obtain ⟨entry, _, hwrites⟩ := hm.insert_of_find hfind v
    rw [hwrites.length_eq]
    exact Nat.add_comm 1 _

/-- An insertion stores its key if that finds nothing, and no other key. -/
theorem Coherent.mem_keys_insert (hm : Coherent M m) (k : K) (v : V) {key : K} :
    key ∈ (m.insert M k v).value.2.keys ↔
      key ∈ m.keys ∨ ((m.find (M.query k)).value = none ∧ key = k) := by
  rw [value_insert]
  cases hfind : (m.find (M.query k)).value with
  | none =>
    have hkeys := (hm.perm_toList_add ⟨k, v, M.hash k⟩).map Prod.fst
    simp only [List.map_cons, ← keys_eq_map] at hkeys
    rw [hkeys.mem_iff, List.mem_cons, or_comm]
    simp
  | some h =>
    have hkeys : (m.exchange h v).2.keys = m.keys := keys_amend m h fun _ _ => v
    rw [hkeys]
    simp

/-- Binding pairs reports the replacing pairs, in their order. -/
theorem Coherent.events_extend (hm : Coherent M m) (pairs : List (K × V)) :
    (m.extend M pairs).trace.events = replacements M (m.replacing M pairs) := by
  induction pairs generalizing m with
  | nil => rfl
  | cons pair pairs ih =>
    have hrest := ih (hm.changes (changes_insert m pair.1 pair.2))
    rw [events_extend_cons, hm.events_insert, hrest, replacing_cons, replacements, replacements,
      List.map_append]
    cases (m.insert M pair.1 pair.2).value.1 <;> rfl

/-- The reports and the entries after binding pairs are as many as the entries before and the
pairs. -/
theorem Coherent.length_extend (hm : Coherent M m) (pairs : List (K × V)) :
    (m.extend M pairs).trace.events.length + (m.extend M pairs).value.length =
      m.length + pairs.length := by
  induction pairs generalizing m with
  | nil => exact Nat.zero_add _
  | cons pair pairs ih =>
    have hfirst := hm.length_insert pair.1 pair.2
    have hrest := ih (hm.changes (changes_insert m pair.1 pair.2))
    rw [events_extend_cons, List.length_append, value_extend_cons, List.length_cons]
    omega

/-- Binding pairs reports the same in maps that store the same keys. -/
theorem Coherent.events_extend_congr {m' : MatchMap K V} (hm : Coherent M m) (hm' : Coherent M m')
    (hkeys : ∀ key, key ∈ m.keys ↔ key ∈ m'.keys) (pairs : List (K × V)) :
    (m.extend M pairs).trace.events = (m'.extend M pairs).trace.events := by
  induction pairs generalizing m m' with
  | nil => rfl
  | cons pair pairs ih =>
    have hfind : (m.find (M.query pair.1)).value = none ↔
        (m'.find (M.query pair.1)).value = none := by
      rw [hm.find_query_eq_none_iff_keys, hm'.find_query_eq_none_iff_keys]
      simp only [hkeys]
    -- Either both maps report the pair and keep their keys, or neither reports it and both add
    -- its key.
    have hsome : (m.find (M.query pair.1)).value.isSome =
        (m'.find (M.query pair.1)).value.isSome := by
      rw [Bool.eq_iff_iff, Option.isSome_iff_ne_none, Option.isSome_iff_ne_none]
      exact not_congr hfind
    have hnext : ∀ key, key ∈ (m.insert M pair.1 pair.2).value.2.keys ↔
        key ∈ (m'.insert M pair.1 pair.2).value.2.keys := by
      intro key
      rw [hm.mem_keys_insert, hm'.mem_keys_insert, hkeys, hfind]
    have hrest := ih (hm.changes (changes_insert m pair.1 pair.2))
      (hm'.changes (changes_insert m' pair.1 pair.2)) hnext
    rw [events_extend_cons, events_extend_cons, MatchMap.events_insert, MatchMap.events_insert,
      hsome, hrest]

/-- After every run, whatever the match relation, and for every list of pairs that are then bound
one after another: the events and the growth of the map come to the number of pairs. There is an
event for each pair whose insertion answers an old value, in the order of these pairs and with the
hash of the key. A map built from pairs reports what binding them in any map without entries does,
and then its size once; this is the number of pairs less that of the events before. -/
theorem insertions_accounted_for [Listed K] [Listed V] (S : Setting K Q) (capacity : Nat)
    (steps : List (Step K Q V)) (pairs : List (K × V)) :
    let m : MatchMap K V := (withCapacity capacity).after S steps
    let extended := m.extend S.matching pairs
    let built : Traced (MatchMap K V) := ofPairs S.matching pairs
    let replaced : List (K × V) := empty.replacing S.matching pairs
    m.length ≤ extended.value.length ∧
    extended.trace.events.length + (extended.value.length - m.length) = pairs.length ∧
    m.replies S (insertions pairs) = (m.oldValues S.matching pairs).map .value ∧
    extended.trace.events = replacements S.matching (m.replacing S.matching pairs) ∧
    (m.replacing S.matching pairs).Sublist pairs ∧
    built.trace.events = replacements S.matching replaced ++ [.builtFromPairs built.value.length] ∧
    built.value.length + replaced.length = pairs.length ∧
    built.value.length = built.value.toList.length ∧
    (m.isEmpty = true →
      built.trace.events = extended.trace.events ++ [.builtFromPairs built.value.length]) := by
  intro m extended built replaced
  have hm : Coherent S.matching m := (coherent_withCapacity capacity).after steps
  have hempty : Coherent S.matching (empty : MatchMap K V) := coherent_withCapacity 0
  have hbuilt : Coherent S.matching built.value := hempty.changes (changes_extend empty pairs)
  have hlength : extended.trace.events.length + extended.value.length = m.length + pairs.length :=
    hm.length_extend pairs
  have hfew : extended.trace.events.length ≤ pairs.length := by
    rw [hm.events_extend, replacements, List.length_map]
    exact (sublist_replacing S.matching m pairs).length_le
  have hsize : replaced.length + built.value.length = 0 + pairs.length := by
    have hfresh := hempty.length_extend pairs
    rwa [hempty.events_extend, replacements, List.length_map] at hfresh
  have hevents : built.trace.events =
      replacements S.matching replaced ++ [.builtFromPairs built.value.length] := by
    rw [← hempty.events_extend]
    exact events_ofPairs S.matching pairs
  refine ⟨by omega, by omega, replies_insertions S m pairs, hm.events_extend pairs,
    sublist_replacing S.matching m pairs, hevents, by omega, hbuilt.length_toList, ?_⟩
  intro hnone
  have hlist : m.toList = [] := by
    rw [← List.length_eq_zero_iff, ← hm.length_toList]
    exact beq_iff_eq.mp hnone
  have hkeys : ∀ key, key ∈ m.keys ↔ key ∈ (empty : MatchMap K V).keys := by
    intro key
    rw [keys_eq_map, hlist]
    rfl
  rw [hevents, ← hempty.events_extend, ← hm.events_extend_congr hempty hkeys]

end KeyedContainers.MatchMap
