import KeyedContainers.Proofs.MatchMap.Find
import Mathlib.Data.Set.Card

/-!
# First keys and last values

Where the relation of the keys is symmetric and transitive, the bindings that arise from pairs have
a closed form. There is one entry for each class of related keys, in the order in which the
classes first occur among the pairs: its key is the first one of the class, and its value is the
last one. A key that is not related to itself is related to no key at all, so that each
pair with such a key has an entry of its own.
-/

namespace KeyedContainers.Bindings

variable {K V : Type} {M : Matching K}

/-- The pairs that are the first of their class: no earlier key is related to theirs. -/
def leaders (M : Matching K) (pairs : List (K × V)) : List (K × V) :=
  (pairs.zipIdx.filter fun x =>
    (pairs.take x.2).all fun earlier => !M.related earlier.1 x.1.1).map Prod.fst

/-- The value of the last pair whose key is related to a key. -/
def lastValue (M : Matching K) (pairs : List (K × V)) (q : K) : Option V :=
  (pairs.filter fun pair => M.related pair.1 q).getLast?.map Prod.snd

/-- The pairs that are the first of their class, each with the last value of the class. -/
def merged (M : Matching K) (pairs : List (K × V)) : List (K × V) :=
  (leaders M pairs).map fun pair => (pair.1, (lastValue M pairs pair.1).getD pair.2)

/-- The classes of related keys that some pairs have. -/
def classes (M : Matching K) (pairs : List (K × V)) : Set (Set K) :=
  {c | ∃ pair ∈ pairs, c = {k | M.related pair.1 k = true}}

variable {pairs : List (K × V)} {pair : K × V}

/-- A last pair is a leader unless an earlier key is related to its own. -/
theorem leaders_concat (M : Matching K) (pairs : List (K × V)) (pair : K × V) :
    leaders M (pairs ++ [pair]) =
      leaders M pairs ++ [pair].filter fun x => pairs.all fun e => !M.related e.1 x.1 := by
  have hold : (pairs.zipIdx.filter fun x =>
      ((pairs ++ [pair]).take x.2).all fun e => !M.related e.1 x.1.1) =
      pairs.zipIdx.filter fun x => (pairs.take x.2).all fun e => !M.related e.1 x.1.1 := by
    refine List.filter_congr fun x hx => ?_
    have hplace : x.2 < pairs.length := List.snd_lt_of_mem_zipIdx hx
    rw [List.take_append_of_le_length hplace.le]
  have hlast : (pairs ++ [pair]).take (0 + pairs.length) = pairs := by
    rw [Nat.zero_add, List.take_left]
  rw [leaders, List.zipIdx_append, List.filter_append, hold, List.map_append, List.zipIdx_singleton,
    List.filter_singleton, List.filter_singleton, hlast]
  congr 1
  cases pairs.all fun e => !M.related e.1 pair.1 <;> rfl

/-- A last pair is no leader if an earlier key is related to its own. -/
theorem leaders_concat_of_related (hrelated : ∃ e ∈ pairs, M.related e.1 pair.1 = true) :
    leaders M (pairs ++ [pair]) = leaders M pairs := by
  rw [leaders_concat, List.filter_eq_nil_iff.mpr, List.append_nil]
  simpa using hrelated

/-- A last pair is a leader if no earlier key is related to its own. -/
theorem leaders_concat_of_unrelated (hunrelated : ∀ e ∈ pairs, M.related e.1 pair.1 = false) :
    leaders M (pairs ++ [pair]) = leaders M pairs ++ [pair] := by
  rw [leaders_concat, List.filter_eq_self.mpr]
  simpa using hunrelated

theorem lastValue_concat (M : Matching K) (pairs : List (K × V)) (pair : K × V) (q : K) :
    lastValue M (pairs ++ [pair]) q =
      if M.related pair.1 q then some pair.2 else lastValue M pairs q := by
  rw [lastValue, List.filter_append, List.filter_singleton]
  cases M.related pair.1 q with
  | true => simp
  | false => simp [lastValue]

/-- A key has no last value exactly when no key is related to it. -/
theorem lastValue_eq_none_iff {q : K} :
    lastValue M pairs q = none ↔ ∀ e ∈ pairs, M.related e.1 q = false := by
  simp [lastValue]

/-- The leaders are among the pairs, in their order. -/
theorem sublist_leaders (M : Matching K) (pairs : List (K × V)) :
    (leaders M pairs).Sublist pairs := by
  have hsublist : ((pairs.zipIdx.filter fun x =>
      (pairs.take x.2).all fun earlier => !M.related earlier.1 x.1.1).map Prod.fst).Sublist
      (pairs.zipIdx.map Prod.fst) := List.filter_sublist.map Prod.fst
  rwa [List.zipIdx_map_fst] at hsublist

/-- No key of a leader is related to that of a later one. -/
theorem pairwise_leaders (M : Matching K) (pairs : List (K × V)) :
    (leaders M pairs).Pairwise fun d e => M.related d.1 e.1 = false := by
  induction pairs using List.reverseRecOn with
  | nil => exact List.Pairwise.nil
  | append_singleton pairs pair ih =>
    by_cases hrelated : ∃ e ∈ pairs, M.related e.1 pair.1 = true
    · rwa [leaders_concat_of_related hrelated]
    · have hunrelated : ∀ e ∈ pairs, M.related e.1 pair.1 = false := by
        simpa using hrelated
      rw [leaders_concat_of_unrelated hunrelated]
      refine List.pairwise_append.mpr ⟨ih, List.pairwise_singleton _ _, ?_⟩
      intro d hd e he
      rw [List.mem_singleton.mp he]
      exact hunrelated d ((sublist_leaders M pairs).subset hd)

/-- Where the key of a pair is related to some key, so is the key of a leader. -/
theorem exists_leader (hM : M.IsPartialEquivalence) {q : K}
    (hq : ∃ e ∈ pairs, M.related e.1 q = true) :
    ∃ d ∈ leaders M pairs, M.related d.1 q = true := by
  induction pairs using List.reverseRecOn with
  | nil =>
    obtain ⟨e, he, _⟩ := hq
    cases he
  | append_singleton pairs pair ih =>
    by_cases hold : ∃ e ∈ pairs, M.related e.1 q = true
    · obtain ⟨d, hd, hdq⟩ := ih hold
      refine ⟨d, ?_, hdq⟩
      rw [leaders_concat]
      exact List.mem_append_left _ hd
    · obtain ⟨e, he, heq⟩ := hq
      rcases List.mem_append.mp he with hearlier | hlast
      · exact absurd ⟨e, hearlier, heq⟩ hold
      · rw [List.mem_singleton.mp hlast] at heq
        have hunrelated : ∀ d ∈ pairs, M.related d.1 pair.1 = false := by
          intro d hd
          by_contra hdpair
          exact hold ⟨d, hd, hM.trans _ _ _ ((Bool.not_eq_false _).mp hdpair) heq⟩
        rw [leaders_concat_of_unrelated hunrelated]
        exact ⟨pair, List.mem_append_right _ (List.mem_singleton.mpr rfl), heq⟩

/-- Every pair is a leader exactly if no key is related to a later one. -/
theorem leaders_eq_self_iff :
    leaders M pairs = pairs ↔ pairs.Pairwise fun d e => M.related d.1 e.1 = false := by
  constructor
  · intro hall
    rw [← hall]
    exact pairwise_leaders M pairs
  · intro hpairwise
    induction pairs using List.reverseRecOn with
    | nil => rfl
    | append_singleton pairs pair ih =>
      obtain ⟨hpairs, _, hlast⟩ := List.pairwise_append.mp hpairwise
      have hunrelated : ∀ e ∈ pairs, M.related e.1 pair.1 = false :=
        fun e he => hlast e he pair (List.mem_singleton.mpr rfl)
      rw [leaders_concat_of_unrelated hunrelated, ih hpairs]

/-- There are as many leaders as classes. -/
theorem length_leaders (hM : Equivalence fun a b => M.related a b = true)
    (pairs : List (K × V)) : (leaders M pairs).length = (classes M pairs).ncard := by
  classical
  let classOf (e : K × V) : Set K := {k | M.related e.1 k = true}
  have hclasses : classes M pairs = ((leaders M pairs).map classOf).toFinset := by
    ext c
    rw [List.coe_toFinset, Set.mem_ofPred_eq, List.mem_map]
    constructor
    · rintro ⟨e, he, rfl⟩
      obtain ⟨d, hd, hde⟩ :=
        exists_leader (Matching.isPartialEquivalence_of_equivalence hM) ⟨e, he, hM.refl e.1⟩
      refine ⟨d, hd, Set.ext fun k => ?_⟩
      exact ⟨hM.trans (hM.symm hde), hM.trans hde⟩
    · rintro ⟨d, hd, rfl⟩
      exact ⟨d, (sublist_leaders M pairs).subset hd, rfl⟩
  have hnodup : ((leaders M pairs).map classOf).Nodup := by
    refine List.pairwise_map.mpr ((pairwise_leaders M pairs).imp ?_)
    intro d e hde heq
    have hmem : e.1 ∈ classOf d := heq ▸ hM.refl e.1
    rw [Set.mem_ofPred_eq, hde] at hmem
    cases hmem
  rw [hclasses, Set.ncard_coe_finset, List.toFinset_card_of_nodup hnodup, List.length_map]

variable {b : Bindings K V} {k q : K}

/-- Related keys have the same value. -/
theorem get?_congr (hM : M.IsPartialEquivalence) (hkq : M.related k q = true) :
    b.get? M (M.query k) = b.get? M (M.query q) := by
  have hanswers : answers M (M.query k) = (answers M (M.query q) : K × V → Bool) := by
    funext e
    rw [answers_query, answers_query, hM.comm, hM.congr hkq, hM.comm]
  rw [get?, find?, hanswers, get?, find?]

/-- Writing the value of a key writes that of the keys related to it and of no others. -/
theorem get?_update (hM : M.IsPartialEquivalence) (b : Bindings K V) (k : K) (v : V) (q : K) :
    (b.update M (M.query k) v).get? M (M.query q) =
      (b.get? M (M.query q)).map fun old => if M.related k q then v else old := by
  obtain ⟨entries⟩ := b
  simp only [update, get?, find?]
  induction entries with
  | nil => rfl
  | cons e entries ih =>
    unfold modifyFirst
    by_cases hek : M.related e.1 k = true
    · rw [answers_query, if_pos hek, List.find?_cons, List.find?_cons, answers_query, answers_query,
        hM.congr hek]
      cases hkq : M.related k q with
      | true => rfl
      | false => exact Option.map_id'.symm
    · rw [answers_query, if_neg hek, List.find?_cons, List.find?_cons, answers_query]
      cases heq : M.related e.1 q with
      | true =>
        have hkq : ¬ M.related k q = true :=
          fun hkq => hek (hM.trans _ _ _ heq (hM.symm _ _ hkq))
        simp only [if_neg hkq, Option.map_id']
      | false => exact ih

/-- An entry at the end is found where no other is. -/
theorem get?_concat (b : Bindings K V) (k : K) (v : V) (q : K) :
    (⟨b.entries ++ [(k, v)]⟩ : Bindings K V).get? M (M.query q) =
      (b.get? M (M.query q)).or (if M.related k q then some v else none) := by
  rw [get?, find?, List.find?_append, Option.map_or, List.find?_singleton, answers_query]
  split <;> rfl

/-- A key has the value bound last to a key related to it. -/
theorem get?_insert (hM : M.IsPartialEquivalence) (b : Bindings K V) (k : K) (v : V) (q : K) :
    (b.insert M k v).2.get? M (M.query q) =
      if M.related k q then some v else b.get? M (M.query q) := by
  cases hget : b.get? M (M.query k) with
  | none =>
    rw [insert_of_get?_eq_none hget, get?_concat]
    split
    · rename_i hkq
      rw [← get?_congr hM hkq, hget, Option.none_or]
    · exact Option.or_none
  | some old =>
    have hupdate : (b.insert M k v).2 = b.update M (M.query k) v := by rw [insert, hget]
    rw [hupdate, get?_update hM]
    split
    · rename_i hkq
      rw [← get?_congr hM hkq, hget, Option.map_some]
    · exact Option.map_id'

/-- Writing the value of a key changes the entries with related keys, where no two have them. -/
theorem entries_update (hM : M.IsPartialEquivalence)
    (hb : b.entries.Pairwise fun d e => M.related d.1 e.1 = false) (k : K) (v : V) :
    (b.update M (M.query k) v).entries =
      b.entries.map fun e => if M.related e.1 k then (e.1, v) else e := by
  refine modifyFirst_eq_map_of_pairwise (hb.imp ?_) _
  intro d e hde hdk
  rw [answers_query, ← hM.comm, ← hM.congr hdk]
  exact hde

/-- The last pair is bound last. -/
theorem ofPairs_concat (M : Matching K) (pairs : List (K × V)) (pair : K × V) :
    ofPairs M (pairs ++ [pair]) = ((ofPairs M pairs).insert M pair.1 pair.2).2 := by
  rw [ofPairs, extend, List.foldl_append]
  rfl

/-- A key has the value of the last pair with a related key. -/
theorem get?_ofPairs (hM : M.IsPartialEquivalence) (pairs : List (K × V)) (q : K) :
    (ofPairs M pairs).get? M (M.query q) = lastValue M pairs q := by
  induction pairs using List.reverseRecOn with
  | nil => rfl
  | append_singleton pairs pair ih => rw [ofPairs_concat, get?_insert hM, lastValue_concat, ih]

/-- A last pair writes to the entry of its class, if there was an earlier pair of this class. -/
theorem merged_concat_of_related (hM : M.IsPartialEquivalence)
    (hrelated : ∃ e ∈ pairs, M.related e.1 pair.1 = true) :
    merged M (pairs ++ [pair]) =
      (merged M pairs).map fun e => if M.related e.1 pair.1 then (e.1, pair.2) else e := by
  rw [merged, leaders_concat_of_related hrelated, merged, List.map_map]
  refine List.map_congr_left fun d _ => ?_
  rw [Function.comp, lastValue_concat, hM.comm]
  split <;> rfl

/-- A last pair is added as it is, if there was no earlier pair of its class. -/
theorem merged_concat_of_unrelated (hM : M.IsPartialEquivalence)
    (hunrelated : ∀ e ∈ pairs, M.related e.1 pair.1 = false) :
    merged M (pairs ++ [pair]) = merged M pairs ++ [pair] := by
  rw [merged, leaders_concat_of_unrelated hunrelated, List.map_append]
  congr 1
  · refine List.map_congr_left fun d hd => ?_
    have hd' := hunrelated d ((sublist_leaders M pairs).subset hd)
    rw [lastValue_concat, hM.comm, hd', if_neg Bool.false_ne_true]
  · rw [List.map_singleton, lastValue_concat, lastValue_eq_none_iff.mpr hunrelated]
    split <;> rfl

/-- Where every key is related to itself, the values of the merged entries are the last ones. -/
theorem map_merged (hM : ∀ k, M.related k k = true) (pairs : List (K × V)) :
    (merged M pairs).map (fun e => (e.1, some e.2)) =
      (leaders M pairs).map fun pair => (pair.1, lastValue M pairs pair.1) := by
  rw [merged, List.map_map]
  refine List.map_congr_left fun pair hpair => ?_
  cases hlast : lastValue M pairs pair.1 with
  | some v => rw [Function.comp, hlast, Option.getD_some]
  | none =>
    have hno := lastValue_eq_none_iff.mp hlast pair ((sublist_leaders M pairs).subset hpair)
    rw [hM] at hno
    cases hno

/-- No key of a merged entry is related to that of a later one. -/
theorem pairwise_merged (M : Matching K) (pairs : List (K × V)) :
    (merged M pairs).Pairwise fun d e => M.related d.1 e.1 = false :=
  List.pairwise_map.mpr (pairwise_leaders M pairs)

/-- The keys of merged entries are keys of pairs. -/
theorem mem_map_of_mem_merged {e : K × V} (he : e ∈ merged M pairs) :
    e.1 ∈ pairs.map Prod.fst := by
  obtain ⟨d, hd, rfl⟩ := List.mem_map.mp he
  exact List.mem_map.mpr ⟨d, (sublist_leaders M pairs).subset hd, rfl⟩

/-- There are as many merged entries as classes. -/
theorem length_merged (hM : Equivalence fun a b => M.related a b = true) (pairs : List (K × V)) :
    (merged M pairs).length = (classes M pairs).ncard := by
  rw [merged, List.length_map, length_leaders hM]

theorem length_merged_le (M : Matching K) (pairs : List (K × V)) :
    (merged M pairs).length ≤ pairs.length := by
  rw [merged, List.length_map]
  exact (sublist_leaders M pairs).length_le

/-- There are as many merged entries as pairs exactly if no key is related to a later one. -/
theorem length_merged_eq_iff :
    (merged M pairs).length = pairs.length ↔
      pairs.Pairwise fun d e => M.related d.1 e.1 = false := by
  rw [merged, List.length_map, (sublist_leaders M pairs).length_eq, leaders_eq_self_iff]

/-- Binding pairs merges those of each class. -/
theorem ofPairs_eq_merged (hM : M.IsPartialEquivalence) (pairs : List (K × V)) :
    ofPairs M pairs = ⟨merged M pairs⟩ := by
  induction pairs using List.reverseRecOn with
  | nil => rfl
  | append_singleton pairs pair ih =>
    have hvalue := get?_ofPairs hM pairs pair.1
    rw [ofPairs_concat, ih]
    rw [ih] at hvalue
    cases hlast : lastValue M pairs pair.1 with
    | none =>
      rw [insert_of_get?_eq_none (hvalue.trans hlast),
        merged_concat_of_unrelated hM (lastValue_eq_none_iff.mp hlast)]
    | some old =>
      have hrelated : ∃ e ∈ pairs, M.related e.1 pair.1 = true := by
        by_contra hno
        rw [lastValue_eq_none_iff.mpr (by simpa using hno)] at hlast
        cases hlast
      rw [merged_concat_of_related hM hrelated, insert, hvalue, hlast]
      exact congrArg Bindings.mk (entries_update hM (pairwise_merged M pairs) pair.1 pair.2)

/-- Here `true` is related to itself and `false` to nothing, so that each `false` is a first key. -/
example :
    let M : Matching Bool := ⟨fun _ => 7, fun stored q => stored && q⟩
    (ofPairs M [(false, 1), (true, 2), (false, 3), (true, 4)]).entries =
      [(false, 1), (true, 4), (false, 3)] := by
  decide

end KeyedContainers.Bindings
