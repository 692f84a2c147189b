import KeyedContainers.Proofs.Bindings.FirstAndLast
import KeyedContainers.Proofs.MatchMap.Coherent

/-!
# What a conventional table has

Native equality need not be the relation of a map: keys that the map keeps apart may be natively
equal. Their entries are one entry of the conventional table, with the key that is stored first
and the value that is stored last; so key and value may come from different entries. Nothing else is
lost, and nothing at all if no two stored keys are natively equal.
-/

namespace KeyedContainers.MatchMap

variable {K Q V : Type}

/-- Native equality implies equal hashes, so that natively equal keys are the related ones. -/
theorem related_eq_agrees {native : Matching K}
    (hhash : ∀ a b, native.agrees a b = true → native.hash a = native.hash b) (a b : K) :
    native.related a b = native.agrees a b := by
  refine Bool.eq_iff_iff.mpr (Matching.related_eq_true_iff.trans ?_)
  exact ⟨And.right, fun hagrees => ⟨hhash a b hagrees, hagrees⟩⟩

/-- Where native equality is an equivalence that implies equal hashes, the conventional table of a
map is the same whether the map is kept or emptied for it. It has one entry for each class of
natively equal stored keys: the key of the class that is stored first with the value that is
stored last. There are at most as many as entries in the map, and as many exactly if no two stored
keys are natively equal. -/
theorem conventional_merges [Listed K] [Listed V] (S : Setting K Q)
    (hnative : Equivalence fun a b => S.native.agrees a b = true)
    (hhash : ∀ a b, S.native.agrees a b = true → S.native.hash a = S.native.hash b)
    (capacity : Nat) (steps : List (Step K Q V)) :
    let m : MatchMap K V := (withCapacity capacity).after S steps
    let table := m.conventional S.native
    (∀ keys, ∃ entries, entries.Perm table.entries ∧
      let found := keys.map fun keys => keys.map (Bindings.lastValue S.native m.toList)
      (m.step S (.conventional keys)).value = (.table entries found, m) ∧
      (m.step S (.intoConventional keys)).value = (.table entries found, empty)) ∧
    table.entries.map (fun e => (e.1, some e.2)) =
      (Bindings.leaders S.native m.toList).map
        (fun e => (e.1, Bindings.lastValue S.native m.toList e.1)) ∧
    table.length = (Bindings.classes S.native m.toList).ncard ∧
    (∀ e ∈ table.entries, e.1 ∈ m.keys) ∧
    table.length ≤ m.length ∧
    (table.length = m.length ↔ m.keys.Pairwise fun a b => S.native.agrees a b = false) := by
  intro m table
  have hm : Coherent S.matching m := (coherent_withCapacity capacity).after steps
  have hagrees := related_eq_agrees hhash
  have hM : Equivalence fun a b => S.native.related a b = true := by
    simpa only [hagrees] using hnative
  have hpartial := Matching.isPartialEquivalence_of_equivalence hM
  have hentries : table.entries = Bindings.merged S.native m.toList := by
    rw [show table = .ofPairs S.native m.toList from rfl, Bindings.ofPairs_eq_merged hpartial]
  have hlength : table.length = (Bindings.merged S.native m.toList).length := by
    rw [Bindings.length, hentries]
  refine ⟨?_, ?_, ?_, ?_, ?_, ?_⟩
  · intro keys
    refine ⟨table.sorted S.le, List.mergeSort_perm _ _, ?_⟩
    have hfound : (fun k => table.get? S.native (S.native.query k)) =
        Bindings.lastValue S.native m.toList := funext (Bindings.get?_ofPairs hpartial m.toList)
    rw [← hfound]
    exact ⟨rfl, rfl⟩
  · rw [hentries, Bindings.map_merged hM.refl]
  · rw [hlength, Bindings.length_merged hM]
  · intro e he
    rw [keys_eq_map]
    exact Bindings.mem_map_of_mem_merged (hentries ▸ he)
  · rw [hlength, hm.length_toList]
    exact Bindings.length_merged_le S.native m.toList
  · rw [hlength, hm.length_toList, Bindings.length_merged_eq_iff, keys_eq_map, List.pairwise_map]
    simp only [hagrees]

/-- Letters that differ in case only are natively equal here. The slot of a removed letter is
taken by one that was bound last, and the table gives this key the value of another. -/
theorem conventional_merges_case :
    let S : Setting Char Char :=
      { matching := ⟨fun _ => 7, fun stored q => stored == q⟩
        native := ⟨fun _ => 7, fun stored q => stored.toLower == q.toLower⟩
        query := fun c => ⟨7, fun stored => stored == c⟩
        le := fun a b => decide (a ≤ b) }
    let steps : List (Step Char Char String) :=
      [.insert 'a' "first", .insert 'b' "second", .insert 'c' "third", .remove 'a',
        .insert 'B' "fourth"]
    let m : MatchMap Char String := (withCapacity 0).after S steps
    let table := m.conventional S.native
    m.toList = [('B', "fourth"), ('b', "second"), ('c', "third")] ∧
      table.entries = [('B', "second"), ('c', "third")] ∧
      (Bindings.classes S.native m.toList).ncard = 2 ∧
      table.length < m.length := by
  intro S steps m table
  have hnative : Equivalence fun a b => S.native.agrees a b = true := by
    have hlower : ∀ a b, S.native.agrees a b = true ↔ a.toLower = b.toLower := fun a b => beq_iff_eq
    refine ⟨fun a => (hlower a a).mpr rfl, ?_, ?_⟩
    · intro a b hab
      exact (hlower b a).mpr ((hlower a b).mp hab).symm
    · intro a b c hab hbc
      exact (hlower a c).mpr (((hlower a b).mp hab).trans ((hlower b c).mp hbc))
  obtain ⟨_, _, hclasses, _, hle, hiff⟩ :=
    conventional_merges (V := String) S hnative (fun _ _ _ => rfl) 0 steps
  have hkept : m.toList = [('B', "fourth"), ('b', "second"), ('c', "third")] := by decide
  have htable : table.entries = [('B', "second"), ('c', "third")] := by decide
  have hcount : table.length = 2 := by decide
  have hne : table.length ≠ m.length := fun hsame => absurd (hiff.mp hsame) (by decide)
  exact ⟨hkept, htable, hclasses.symm.trans hcount, Nat.lt_of_le_of_ne hle hne⟩

end KeyedContainers.MatchMap
