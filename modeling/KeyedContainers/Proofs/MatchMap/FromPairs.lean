import KeyedContainers.Proofs.Arena.Refill
import KeyedContainers.Proofs.Bindings.FirstAndLast

/-!
# Maps built from pairs

As long as nothing is taken out, a map stores its entries as bindings list theirs: a new entry comes
last, and an entry whose value is written keeps its place. Where the relation of the keys is
symmetric and transitive, a key also finds in the map what walking the stored entries finds. So a
map in which pairs are bound one after another has the entries that the bindings of these
pairs have, and these have a closed form.
-/

namespace KeyedContainers.MatchMap

variable {K V : Type} {M : Matching K} {m : MatchMap K V} {k : K}

/-- No stored key of a regular map is related to a later one. -/
theorem Regular.pairwise_toList (hm : Regular M m) :
    m.toList.Pairwise fun d e => M.related d.1 e.1 = false := by
  rw [toList_eq_map, List.pairwise_map]
  refine (Arena.pairwise_toList m.arena).imp_of_mem ?_
  intro x y hx hy hslot
  by_contra hrelated
  have hsame := hm.distinct x.1 y.1 x.2 y.2 (Arena.lawful.mem_toList_iff.mp hx)
    (Arena.lawful.mem_toList_iff.mp hy) ((Bool.not_eq_false _).mp hrelated)
  rw [hsame] at hslot
  exact Nat.lt_irrefl _ hslot

/-- A key finds the entry that walking the stored entries finds. -/
theorem Regular.find?_toList (hm : Regular M m) (hM : M.IsPartialEquivalence) (q : K) :
    Bindings.find? M ⟨m.toList⟩ (M.query q) = (m.find (M.query q)).value.bind m.pair? := by
  cases hfirst : Bindings.find? M ⟨m.toList⟩ (M.query q) with
  | some e =>
    have hanswers : Bindings.answers M (M.query q) e = true := List.find?_some hfirst
    obtain ⟨h, hpair⟩ := mem_toList_iff.mp (List.mem_of_find?_eq_some hfirst)
    rw [(hm.find_query_eq_some_iff hM).mpr ⟨e, hpair, hanswers⟩]
    exact hpair.symm
  | none =>
    cases hfind : (m.find (M.query q)).value with
    | none => rfl
    | some h =>
      obtain ⟨e, hpair, hrelated⟩ := (hm.find_query_eq_some_iff hM).mp hfind
      have hmem : e ∈ m.toList := mem_toList_iff.mpr ⟨h, hpair⟩
      exact absurd hrelated (List.find?_eq_none.mp hfirst e hmem)

/-- A key has the value that walking the stored entries finds. -/
theorem Regular.get?_toList (hm : Regular M m) (hM : M.IsPartialEquivalence) (q : K) :
    Bindings.get? M ⟨m.toList⟩ (M.query q) = (m.get? (M.query q)).value := by
  rw [Bindings.get?, hm.find?_toList hM, value_get?, Option.map_bind]
  congr 1
  funext h
  exact (value?_eq_map_pair? m h).symm

/-- Writing to the entry that a key finds changes the entry with a related key, in its place. -/
theorem Regular.toList_exchange (hm : Regular M m) (hM : M.IsPartialEquivalence) {h : Handle}
    (hfind : (m.find (M.query k)).value = some h) (v : V) :
    (m.exchange h v).2.toList = m.toList.map fun e => if M.related e.1 k then (e.1, v) else e := by
  rw [toList_eq_map, toList_eq_map]
  change ((m.arena.modify h _).toList).map _ = _
  rw [Arena.toList_modify, List.map_map, List.map_map]
  refine List.map_congr_left fun x hx => ?_
  have hpair : m.pair? x.1 = some (x.2.key, x.2.value) := by
    have hentry : m.entry? x.1 = some x.2 := Arena.lawful.mem_toList_iff.mp hx
    rw [pair?, hentry, Option.map_some]
  have hname : x.1 = h ↔ M.related x.2.key k = true := by
    constructor
    · rintro rfl
      obtain ⟨pair, hsame, hrelated⟩ := (hm.find_query_eq_some_iff hM).mp hfind
      cases hpair.symm.trans hsame
      exact hrelated
    · intro hrelated
      have hfound := (hm.find_query_eq_some_iff hM).mpr ⟨_, hpair, hrelated⟩
      exact Option.some.inj (hfound.symm.trans hfind)
  simp only [Function.comp, hname]
  split <;> rfl

/-- A map without free slots has the entries of some bindings, in their order. -/
structure Lists (M : Matching K) (m : MatchMap K V) (b : Bindings K V) : Prop
    extends Regular M m where
  refilled : m.arena.Refilled 0
  toList_eq : m.toList = b.entries

variable {b : Bindings K V}

theorem lists_withCapacity (capacity : Nat) :
    Lists M (withCapacity capacity : MatchMap K V) .empty :=
  ⟨regular_withCapacity capacity, Arena.refilled_empty, rfl⟩

/-- A key has the same value in the map and in the bindings. -/
theorem Lists.get?_eq (hm : Lists M m b) (hM : M.IsPartialEquivalence) (q : K) :
    (m.get? (M.query q)).value = b.get? M (M.query q) := by
  rw [← hm.get?_toList hM, hm.toList_eq]

/-- An entry that is added stands after all others. -/
theorem Lists.toList_add (hm : Lists M m b) (entry : Entry K V) :
    (m.add entry).toList = b.entries ++ [(entry.key, entry.value)] := by
  have hcontents := (hm.refilled.insert_of_full entry).1
  rw [← hm.toList_eq, toList, arena_add, hcontents, List.map_append]
  rfl

/-- Binding a key does the same to the map and to the bindings. -/
theorem Lists.insert (hm : Lists M m b) (hM : M.IsPartialEquivalence) (k : K) (v : V) :
    Lists M (m.insert M k v).value.2 (b.insert M k v).2 := by
  have hregular := hm.toRegular.changes hM (changes_insert m k v)
  have hvalue := hm.get?_eq hM k
  rw [value_get?] at hvalue
  rw [value_insert] at hregular ⊢
  cases hfind : (m.find (M.query k)).value with
  | none =>
    rw [hfind] at hregular hvalue
    rw [Bindings.insert_of_get?_eq_none hvalue.symm]
    exact ⟨hregular, (hm.refilled.insert_of_full _).2.1, hm.toList_add _⟩
  | some h =>
    obtain ⟨entry, hentry, _⟩ := exists_entry_of_find hfind
    have hold : b.get? M (M.query k) = some entry.value := by
      rw [← hvalue, hfind, Option.bind_some, value?, hentry, Option.map_some]
    have hb : b.entries.Pairwise fun d e => M.related d.1 e.1 = false :=
      hm.toList_eq ▸ hm.toRegular.pairwise_toList
    rw [hfind] at hregular
    rw [Bindings.insert, hold]
    refine ⟨hregular, (hm.refilled.modify h _).1, ?_⟩
    rw [Bindings.entries_update hM hb, ← hm.toList_eq]
    exact hm.toRegular.toList_exchange hM hfind v

/-- Binding pairs one after another does the same to the map and to the bindings. -/
theorem Lists.extend (hm : Lists M m b) (hM : M.IsPartialEquivalence) (pairs : List (K × V)) :
    Lists M (m.extend M pairs).value (b.extend M pairs) := by
  induction pairs generalizing m b with
  | nil => exact hm
  | cons pair pairs ih => exact ih (hm.insert hM pair.1 pair.2)

/-- Where the relation of the keys is an equivalence, a map built from pairs is an empty map in
which they are bound one after another. Such a map enumerates one entry for each class of keys, in
the order in which the classes first occur: the first key of the class with the value of its last
pair. A key has the value of the last pair with a related key. -/
theorem ofPairs_merges (M : Matching K) (hM : Equivalence fun a b => M.related a b = true)
    (capacity : Nat) (pairs : List (K × V)) :
    let m : MatchMap K V := ((withCapacity capacity).extend M pairs).value
    (ofPairs M pairs).value = ((withCapacity 0).extend M pairs).value ∧
    m.toList.map (fun e => (e.1, some e.2)) =
      (Bindings.leaders M pairs).map (fun e => (e.1, Bindings.lastValue M pairs e.1)) ∧
    m.length = (Bindings.classes M pairs).ncard ∧
    ∀ q, (m.get? (M.query q)).value = Bindings.lastValue M pairs q := by
  intro m
  have hpartial := Matching.isPartialEquivalence_of_equivalence hM
  have hm : Lists M m (.ofPairs M pairs) := (lists_withCapacity capacity).extend hpartial pairs
  have hlist : m.toList = Bindings.merged M pairs := by
    rw [hm.toList_eq, Bindings.ofPairs_eq_merged hpartial]
  refine ⟨rfl, ?_, ?_, ?_⟩
  · rw [hlist, Bindings.map_merged hM.refl]
  · rw [hm.length_toList, hlist, Bindings.length_merged hM]
  · intro q
    rw [hm.get?_eq hpartial, Bindings.get?_ofPairs hpartial]

/-- Numbers of one parity are one key here, and all keys have one hash. -/
theorem ofPairs_merges_parity :
    let M : Matching Nat := ⟨fun _ => 7, fun stored q => stored % 2 == q % 2⟩
    let pairs := [(3, "a"), (8, "b"), (5, "c"), (8, "d"), (3, "e")]
    let m : MatchMap Nat String := ((withCapacity 4).extend M pairs).value
    (Equivalence fun a b => M.related a b = true) ∧
      m.toList = [(3, "e"), (8, "d")] ∧
      (Bindings.classes M pairs).ncard = 2 ∧
      (m.get? (M.query 7)).value = Bindings.lastValue M pairs 7 ∧
      Bindings.lastValue M pairs 7 = some "e" := by
  intro M pairs m
  have hrelated : ∀ a b, M.related a b = true ↔ a % 2 = b % 2 := by
    intro a b
    simp [M, Matching.related]
  have hM : Equivalence fun a b => M.related a b = true := by
    refine ⟨fun a => (hrelated a a).mpr rfl, ?_, ?_⟩
    · intro a b hab
      exact (hrelated b a).mpr ((hrelated a b).mp hab).symm
    · intro a b c hab hbc
      exact (hrelated a c).mpr (((hrelated a b).mp hab).trans ((hrelated b c).mp hbc))
  obtain ⟨_, _, hlength, hget⟩ := ofPairs_merges M hM 4 pairs
  have hcount : m.length = 2 := by decide
  exact ⟨hM, by decide, hlength.symm.trans hcount, hget 7, by decide⟩

end KeyedContainers.MatchMap
