import KeyedContainers.Proofs.MatchMap.InsertionOrder

/-!
# From a map to a conventional table and back

Binding keys, none of which is related to one bound before, adds them one after another and replaces
nothing. Where the relation of the keys is symmetric, the stored keys of a map are such keys in any
order, because none shadows a later one. So a conventional table whose equality is finer than the
relation has all entries of the map, and a map that binds them in any order has the same
entries again.
-/

namespace KeyedContainers

variable {K Q V : Type}

/-- Where the relation is symmetric, so is being related. -/
theorem Matching.related_comm {M : Matching K}
    (hsymm : ∀ a b, M.agrees a b = true → M.agrees b a = true) (a b : K) :
    M.related a b = M.related b a := by
  have hforth : ∀ a b, M.related a b = true → M.related b a = true := by
    intro a b hab
    obtain ⟨hhash, hagrees⟩ := related_eq_true_iff.mp hab
    exact related_eq_true_iff.mpr ⟨hhash.symm, hsymm a b hagrees⟩
  exact Bool.eq_iff_iff.mpr ⟨hforth a b, hforth b a⟩

namespace Bindings

variable {M : Matching K} {b : Bindings K V}

/-- Keys that are not related to any bound before are added in their order. -/
theorem extend_of_pairwise {pairs : List (K × V)}
    (hnew : ∀ e ∈ b.entries, ∀ p ∈ pairs, M.related e.1 p.1 = false)
    (hpairs : pairs.Pairwise fun p q => M.related p.1 q.1 = false) :
    b.extend M pairs = ⟨b.entries ++ pairs⟩ := by
  induction pairs generalizing b with
  | nil => rw [List.append_nil]; rfl
  | cons p pairs ih =>
    obtain ⟨hfirst, hrest⟩ := List.pairwise_cons.mp hpairs
    have hnone : b.get? M (M.query p.1) = none :=
      get?_query_eq_none_iff.mpr fun e he => hnew e he p (List.mem_cons_self ..)
    have hinsert : (b.insert M p.1 p.2).2 = ⟨b.entries ++ [p]⟩ := by
      rw [insert_of_get?_eq_none hnone]
    have hnext : ∀ e ∈ b.entries ++ [p], ∀ q ∈ pairs, M.related e.1 q.1 = false := by
      intro e he q hq
      rcases List.mem_append.mp he with hold | hlast
      · exact hnew e hold q (List.mem_cons_of_mem p hq)
      · rw [List.mem_singleton.mp hlast]
        exact hfirst q hq
    calc
      b.extend M (p :: pairs) = (b.insert M p.1 p.2).2.extend M pairs := rfl
      _ = extend M ⟨b.entries ++ [p]⟩ pairs := by rw [hinsert]
      _ = ⟨(b.entries ++ [p]) ++ pairs⟩ := ih hnext hrest
      _ = ⟨b.entries ++ p :: pairs⟩ := by rw [List.append_assoc, List.singleton_append]

end Bindings

namespace MatchMap

variable {m : MatchMap K V}

/-- Where the relation is symmetric, no stored key is related to another in any order. -/
theorem Chronicle.pairwise_of_perm {M : Matching K} {order : List Handle}
    (hm : Chronicle M m order) (hsymm : ∀ a b, M.agrees a b = true → M.agrees b a = true)
    {pairs : List (K × V)} (hperm : pairs.Perm m.toList) :
    pairs.Pairwise fun p q => M.related p.1 q.1 = false := by
  have hback : ∀ {p q : K × V}, M.related p.1 q.1 = false → M.related q.1 p.1 = false := by
    intro p q hpq
    rw [M.related_comm hsymm, hpq]
  exact ((hm.perm_toList.trans hperm.symm).pairwise_iff hback).mp hm.pairwise_pairs

/-- A conventional table whose equality is finer than the relation merges no entries. -/
theorem conventional_eq_of_pairwise {M native : Matching K}
    (hnative : ∀ a b, native.related a b = true → M.related a b = true)
    (hpairs : m.toList.Pairwise fun p q => M.related p.1 q.1 = false) :
    m.conventional native = ⟨m.toList⟩ := by
  have hfiner : ∀ {p q : K × V}, M.related p.1 q.1 = false → native.related p.1 q.1 = false := by
    intro p q hpq
    by_contra hrelated
    rw [hnative p.1 q.1 ((Bool.not_eq_false _).mp hrelated)] at hpq
    cases hpq
  exact Bindings.extend_of_pairwise (by simp [Bindings.empty]) (hpairs.imp hfiner)

/-- An insertion of each of some pairs. -/
def insertions (pairs : List (K × V)) : List (Step K Q V) :=
  pairs.map fun pair => .insert pair.1 pair.2

variable [Listed K] [Listed V] {S : Setting K Q}

/-- Binding pairs is a run of insertions. -/
private theorem after_insertions (S : Setting K Q) (m : MatchMap K V) (pairs : List (K × V)) :
    m.after S (insertions pairs) = (m.extend S.matching pairs).value := by
  induction pairs generalizing m with
  | nil => rfl
  | cons pair pairs ih => exact ih (m.insert S.matching pair.1 pair.2).value.2

/-- Keys that are not related to any stored before are all added, and nothing is replaced. -/
theorem Coherent.extend_of_pairwise (hm : Coherent S.matching m) {pairs : List (K × V)}
    (hnew : ∀ key ∈ m.keys, ∀ p ∈ pairs, S.matching.related key p.1 = false)
    (hpairs : pairs.Pairwise fun p q => S.matching.related p.1 q.1 = false) :
    m.replies S (insertions pairs) = pairs.map (fun _ => .value none) ∧
      (m.extend S.matching pairs).value.toList.Perm (m.toList ++ pairs) := by
  induction pairs generalizing m with
  | nil => exact ⟨rfl, by rw [List.append_nil]; exact List.Perm.refl _⟩
  | cons p pairs ih =>
    obtain ⟨hfirst, hrest⟩ := List.pairwise_cons.mp hpairs
    have hinsert := hm.insert_of_unrelated (fun key hkey => hnew key hkey p (List.mem_cons_self ..))
      p.2
    have hadded : (m.insert S.matching p.1 p.2).value.2.toList.Perm (p :: m.toList) := by
      rw [hinsert]
      exact hm.perm_toList_add _
    -- The added key takes its place by the free slots, so its entry is known up to order only.
    have hnext : ∀ key ∈ (m.insert S.matching p.1 p.2).value.2.keys, ∀ q ∈ pairs,
        S.matching.related key q.1 = false := by
      intro key hkey q hq
      rw [keys_eq_map] at hkey
      have hmem := (hadded.map Prod.fst).mem_iff.mp hkey
      rw [List.map_cons, List.mem_cons, ← keys_eq_map] at hmem
      rcases hmem with rfl | hold
      · exact hfirst q hq
      · exact hnew key hold q (List.mem_cons_of_mem p hq)
    obtain ⟨hreplies, hperm⟩ := ih (hm.changes (changes_insert m p.1 p.2)) hnext hrest
    refine ⟨?_, ?_⟩
    · have hreply : (m.insert S.matching p.1 p.2).value.1 = none := by rw [hinsert]
      change Reply.value (m.insert S.matching p.1 p.2).value.1 :: _ = _
      rw [hreply, List.map_cons, ← hreplies]
      rfl
    · rw [value_extend_cons]
      exact (hperm.trans (hadded.append_right pairs)).trans List.perm_middle.symm

/-- Where the relation is symmetric and native equality is finer than it, the conventional table of
a map has all its entries, whether the map is kept or emptied for it. Binding the entries of the
table in any order in an empty map replaces nothing, and gives a map with the same entries. -/
theorem conventional_round_trip (S : Setting K Q)
    (hsymm : ∀ a b, S.matching.agrees a b = true → S.matching.agrees b a = true)
    (hnative : ∀ a b, S.native.agrees a b = true →
      S.matching.hash a = S.matching.hash b ∧ S.matching.agrees a b = true)
    (capacity : Nat) (steps : List (Step K Q V)) :
    let m : MatchMap K V := (withCapacity capacity).after S steps
    let table := m.conventional S.native
    table.length = m.length ∧ table.entries.Perm m.toList ∧
    (∀ keys, ∃ entries found, entries.Perm table.entries ∧
      (m.step S (.conventional keys)).value = (.table entries found, m) ∧
      (m.step S (.intoConventional keys)).value = (.table entries found, empty)) ∧
    ∀ (room : Nat) (pairs : List (K × V)), pairs.Perm table.entries →
      let rebuilt : MatchMap K V := ((withCapacity room).extend S.matching pairs).value
      rebuilt.toList.Perm m.toList ∧
      (withCapacity room).after S (insertions pairs) = rebuilt ∧
      (withCapacity room : MatchMap K V).replies S (insertions pairs) =
        pairs.map fun _ => .value none := by
  intro m table
  have hm : Chronicle S.matching m _ := (chronicle_withCapacity capacity).after steps
  have hfiner : ∀ a b, S.native.related a b = true → S.matching.related a b = true := by
    intro a b hab
    have hagrees := (Matching.related_eq_true_iff.mp hab).2
    exact Matching.related_eq_true_iff.mpr (hnative a b hagrees)
  have htable : table = ⟨m.toList⟩ :=
    conventional_eq_of_pairwise hfiner (hm.pairwise_of_perm hsymm (List.Perm.refl _))
  have hentries : table.entries = m.toList := by rw [htable]
  refine ⟨?_, List.Perm.of_eq hentries, ?_, ?_⟩
  · rw [Bindings.length, hentries]
    exact hm.length_toList.symm
  · intro keys
    exact ⟨_, _, List.mergeSort_perm _ _, rfl, rfl⟩
  · intro room pairs hpairs rebuilt
    have hperm : pairs.Perm m.toList := hpairs.trans (List.Perm.of_eq hentries)
    have hempty : (withCapacity room : MatchMap K V).toList = [] := rfl
    obtain ⟨hreplies, hrebuilt⟩ := (coherent_withCapacity room).extend_of_pairwise
      (fun key hkey => by simp [keys_eq_map, hempty] at hkey) (hm.pairwise_of_perm hsymm hperm)
    rw [hempty, List.nil_append] at hrebuilt
    exact ⟨hrebuilt.trans hperm, after_insertions S _ pairs, hreplies⟩

/-- A relation that holds of all keys, under a hash that tells them apart: the table is bound again
from its last entry to its first. -/
theorem conventional_round_trip_reordered :
    let equality := Setting.standard Hasher.byteSum fun (a b : Bool) => !a || b
    let S : Setting Bool Bool :=
      { equality with matching := ⟨equality.matching.hash, fun _ _ => true⟩ }
    let steps : List (Step Bool Bool Bool) :=
      [.insert true false, .insert false true, .remove true, .insert true true]
    let m : MatchMap Bool Bool := (withCapacity 0).after S steps
    let pairs := [(false, true), (true, true)]
    (m.conventional S.native).entries = pairs.reverse ∧
      (m.conventional S.native).length = m.length ∧
      ((withCapacity 4).extend S.matching pairs).value.toList.Perm m.toList ∧
      (withCapacity 4 : MatchMap Bool Bool).replies S (insertions pairs) =
        [.value none, .value none] := by
  intro equality S steps
  have hnative : ∀ a b, S.native.agrees a b = true →
      S.matching.hash a = S.matching.hash b ∧ S.matching.agrees a b = true := by
    decide
  obtain ⟨hlength, _, _, hrebuild⟩ :=
    conventional_round_trip (V := Bool) S (by decide) hnative 0 steps
  have hentries : (((withCapacity 0 : MatchMap Bool Bool).after S steps).conventional
      S.native).entries = [(true, true), (false, true)] := by
    decide
  have hreversed : [(false, true), (true, true)].Perm
      (((withCapacity 0 : MatchMap Bool Bool).after S steps).conventional S.native).entries := by
    rw [hentries]
    decide
  obtain ⟨hperm, _, hreplies⟩ := hrebuild 4 _ hreversed
  exact ⟨hentries, hlength, hperm, hreplies⟩

end MatchMap

end KeyedContainers
