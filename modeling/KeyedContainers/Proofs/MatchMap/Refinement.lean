import KeyedContainers.Proofs.MatchMap.Represents

/-!
# Maps refine ledgers

Where the relation of the keys is symmetric and transitive, every run of a map is a run of a
ledger. Every operation of a map that represents a ledger is carried out by the ledger with the
same reply, and the map after it represents the ledger after it. The name of a new binding is the
handle of the new entry, which was not issued before.
-/

namespace KeyedContainers

open MatchMap

variable {K V : Type}

namespace Represents

variable {M : Matching K} {m m' : MatchMap K V} {l l' : Ledger K V} {h : Handle} {k : K}

/-- A chain of changes leads to a map that represents every ledger of the same entries. -/
theorem changes (hR : Represents M m l) (hM : M.IsPartialEquivalence)
    (hchanges : Changes M m m') (hissued : ∀ h ∈ l'.issued, h ∈ l.issued ∨ m'.arena.Issued h)
    (hnodup : (l'.bindings.entries.map fun e => e.1.1).Nodup)
    (hmem : ∀ e, e ∈ l'.bindings.entries ↔ m'.pair? e.1.1 = some (e.1.2, e.2)) :
    Represents M m' l' where
  toRegular := hR.toRegular.changes hM hchanges
  nodup := hnodup
  mem_iff := hmem
  issued := hR.issued_of_changes hchanges hR.issued hissued

theorem exchange (hR : Represents M m l) (hM : M.IsPartialEquivalence) (h : Handle) (v : V) :
    Represents M (m.exchange h v).2 (l.write h v) := by
  refine hR.changes hM (changes_exchange m h v) (fun _ => Or.inl) ?_ ?_
  · rw [Ledger.map_name_write]
    exact hR.nodup
  · intro e
    rw [pair?_exchange, Ledger.write, List.mem_map]
    constructor
    · rintro ⟨d, hd, rfl⟩
      have hpair := (hR.mem_iff d).mp hd
      by_cases hdh : d.1.1 = h
      · simp only [if_pos hdh]
        rw [← hdh, hpair]
        rfl
      · simp only [if_neg hdh]
        exact hpair
    · intro hpair
      by_cases heh : e.1.1 = h
      · rw [if_pos heh] at hpair
        obtain ⟨pair, hold, hnew⟩ := Option.map_eq_some_iff.mp hpair
        obtain ⟨⟨g, k⟩, w⟩ := e
        obtain ⟨rfl, rfl⟩ := Prod.mk.inj hnew
        obtain rfl : g = h := heh
        exact ⟨((g, pair.1), pair.2), (hR.mem_iff _).mpr hold, if_pos rfl⟩
      · rw [if_neg heh] at hpair
        exact ⟨e, (hR.mem_iff e).mpr hpair, if_neg heh⟩

theorem removeHandle (hR : Represents M m l) (hM : M.IsPartialEquivalence) (h : Handle) :
    Represents M (m.removeHandle h).2 (l.erase h) := by
  refine hR.changes hM (.single (.removeHandle m h)) (fun _ => Or.inl) ?_ ?_
  · exact hR.nodup.sublist (List.filter_sublist.map _)
  · intro e
    rw [pair?_removeHandle, Ledger.erase, List.mem_filter, decide_eq_true_eq, hR.mem_iff]
    by_cases heh : e.1.1 = h
    · simp [heh]
    · simp [heh]

theorem clear (hR : Represents M m l) (hM : M.IsPartialEquivalence) :
    Represents M m.clear l.clear := by
  refine hR.changes hM (.single (.clear m)) (fun _ => Or.inl) List.nodup_nil ?_
  intro e
  simp [Ledger.clear, Bindings.empty, pair?]

/-- The bindings that answer a key are those with the name that it finds. -/
theorem answers_iff_of_find (hR : Represents M m l) (hM : M.IsPartialEquivalence)
    (hfind : (m.find (M.query k)).value = some h) :
    ∀ e ∈ l.bindings.entries,
      Bindings.answers (Ledger.named M) (Ledger.query M k) e = true ↔ e.1.1 = h := by
  intro e he
  rw [hR.answers_iff hM he, hfind, Option.some.injEq, eq_comm]

/-- Writing by key writes to the name that the key finds. -/
theorem set_eq (hR : Represents M m l) (hM : M.IsPartialEquivalence)
    (hfind : (m.find (M.query k)).value = some h) (v : V) : l.set M k v = l.write h v := by
  have hp := hR.answers_iff_of_find hM hfind
  rw [Ledger.set, Bindings.update, Bindings.modifyFirst_eq_map hR.nodup hp]
  rfl

/-- Removing by key takes out the name that the key finds. -/
theorem remove_eq (hR : Represents M m l) (hM : M.IsPartialEquivalence)
    (hfind : (m.find (M.query k)).value = some h) : l.remove M k = l.erase h := by
  have hp := hR.answers_iff_of_find hM hfind
  rw [Ledger.remove, Bindings.remove, Bindings.eraseP_eq_filter hR.nodup hp]
  rfl

/-- No binding answers a key that finds nothing. -/
theorem not_answers_of_find (hR : Represents M m l) (hM : M.IsPartialEquivalence)
    (hnone : (m.find (M.query k)).value = none) :
    ∀ e ∈ l.bindings.entries,
      ¬ Bindings.answers (Ledger.named M) (Ledger.query M k) e = true := by
  intro e he hanswers
  have hfind := (hR.answers_iff hM he).mp hanswers
  rw [hnone] at hfind
  cases hfind

/-- A write by key answers the old value and is one of the ledger. -/
theorem set (hR : Represents M m l) (hM : M.IsPartialEquivalence) (k : K) (v : V) :
    (m.set (M.query k) v).value.1 = l.get? M k ∧
      Represents M (m.set (M.query k) v).value.2 (l.set M k v) := by
  rw [hR.get?_eq hM, value_get?, value_set]
  cases hfind : (m.find (M.query k)).value with
  | none =>
    have hsame : l.set M k v = l := by
      rw [Ledger.set, Bindings.update,
        Bindings.modifyFirst_of_forall_not (hR.not_answers_of_find hM hfind)]
    rw [hsame]
    exact ⟨rfl, hR⟩
  | some h =>
    rw [hR.set_eq hM hfind]
    exact ⟨rfl, hR.exchange hM h v⟩

/-- A removal by key answers the entry and is one of the ledger. -/
theorem remove (hR : Represents M m l) (hM : M.IsPartialEquivalence) (k : K) :
    (m.remove (M.query k)).value.1 = (l.find? M k).map (fun e => (e.1.2, e.2)) ∧
      Represents M (m.remove (M.query k)).value.2 (l.remove M k) := by
  rw [hR.map_pair_find? hM, value_remove]
  cases hfind : (m.find (M.query k)).value with
  | none =>
    have hsame : l.remove M k = l := by
      rw [Ledger.remove, Bindings.remove,
        List.eraseP_of_forall_not (hR.not_answers_of_find hM hfind)]
    rw [hsame]
    exact ⟨rfl, hR⟩
  | some h =>
    rw [hR.remove_eq hM hfind]
    exact ⟨removeHandle_fst m h, hR.removeHandle hM h⟩

/-- A new entry is a binding under a new name. -/
theorem add (hR : Represents M m l) (hM : M.IsPartialEquivalence)
    (hnone : (m.find (M.query k)).value = none) (v : V) :
    Represents M (m.add ⟨k, v, M.hash k⟩)
      ⟨⟨l.bindings.entries ++ [((m.freshHandle ⟨k, v, M.hash k⟩, k), v)]⟩,
        m.freshHandle ⟨k, v, M.hash k⟩ :: l.issued⟩ := by
  have hadd := hR.pair?_add ⟨k, v, M.hash k⟩
  have hfresh := hR.pair?_fresh ⟨k, v, M.hash k⟩
  refine hR.changes hM (.single (.add m k v hnone)) ?_ ?_ ?_
  · intro h hh
    rcases List.mem_cons.mp hh with rfl | hold
    · exact Or.inr (hR.issued_fresh _)
    · exact Or.inl hold
  · rw [List.map_append, List.nodup_append']
    refine ⟨hR.nodup, List.nodup_singleton _, ?_⟩
    intro name hold hnew
    obtain ⟨e, he, rfl⟩ := List.mem_map.mp hold
    have hpair := (hR.mem_iff e).mp he
    rw [List.map_singleton, List.mem_singleton] at hnew
    rw [hnew, hfresh] at hpair
    cases hpair
  · rintro ⟨⟨g, k'⟩, w⟩
    rw [List.mem_append, List.mem_singleton, hadd, hR.mem_iff]
    by_cases hg : g = m.freshHandle ⟨k, v, M.hash k⟩
    · subst hg
      rw [if_pos rfl, hfresh]
      simp [eq_comm]
    · rw [if_neg hg]
      simp [hg]

/-- An insertion is one of the ledger, under the handle that a new entry has. -/
theorem insert (hR : Represents M m l) (hM : M.IsPartialEquivalence) (k : K) (v : V) :
    ∃ name, name ∉ l.issued ∧ (m.insert M k v).value.1 = (l.insert M name k v).1 ∧
      Represents M (m.insert M k v).value.2 (l.insert M name k v).2 := by
  have hget := hR.get?_eq hM k
  -- The fresh handle serves as the name in both cases; it is given only if the key is new.
  refine ⟨m.freshHandle ⟨k, v, M.hash k⟩, ?_, ?_⟩
  · intro hold
    exact Arena.lawful_handles.not_issued_fresh hR.sound _ (hR.issued _ hold)
  · rw [value_insert]
    rw [value_get?] at hget
    cases hfind : (m.find (M.query k)).value with
    | some h =>
      obtain ⟨entry, hentry, _⟩ := exists_entry_of_find hfind
      have hold : l.get? M k = some entry.value := by
        rw [hget, hfind, Option.bind_some, value?, hentry, Option.map_some]
      rw [Ledger.insert_of_get?_eq_some hold, hR.set_eq hM hfind]
      refine ⟨?_, hR.exchange hM h v⟩
      simp [MatchMap.exchange, value?, hentry]
    | none =>
      have hnothing : l.get? M k = none := by
        rw [hget, hfind, Option.bind_none]
      rw [Ledger.insert_of_get?_eq_none hnothing]
      exact ⟨rfl, hR.add hM hfind v⟩

/-- Binding pairs is binding them in the ledger, each under a name of its own. -/
theorem extend (hR : Represents M m l) (hM : M.IsPartialEquivalence) (pairs : List (K × V)) :
    ∃ l', Ledger.Extends M l pairs l' ∧ Represents M (m.extend M pairs).value l' := by
  induction pairs generalizing m l with
  | nil => exact ⟨l, .nil l, hR⟩
  | cons pair pairs ih =>
    obtain ⟨name, hname, _, hfirst⟩ := hR.insert hM pair.1 pair.2
    obtain ⟨l', hrest, hlast⟩ := ih hfirst
    exact ⟨l', .cons name hname hrest, hlast⟩

/-- The place of a handle among the first handles, if it is one of them. -/
private theorem idxOf?_first {handles : List Handle} (hnodup : handles.Nodup) {place : Nat}
    (hat : handles[place]? = some h) (limit : Option Nat) :
    (limit.elim handles handles.take).idxOf? h =
      if limit.all (place < ·) then some place else none := by
  obtain ⟨hlt, heq⟩ := List.getElem?_eq_some_iff.mp hat
  have honce : ∀ j (hj : j < handles.length), handles[j] = h → j = place := by
    intro j hj hjh
    exact hnodup.getElem_inj_iff.mp (hjh.trans heq.symm)
  cases limit with
  | none =>
    rw [Option.elim_none, Option.all_none, if_pos rfl, List.idxOf?_eq_some_iff]
    refine ⟨hlt, heq, ?_⟩
    intro j hj hjh
    exact Nat.ne_of_lt hj (honce j _ hjh)
  | some n =>
    rw [Option.elim_some, Option.all_some]
    by_cases hplace : place < n
    · rw [if_pos (by simpa using hplace), List.idxOf?_eq_some_iff]
      refine ⟨by rw [List.length_take]; omega, by rw [List.getElem_take]; exact heq, ?_⟩
      intro j hj hjh
      rw [List.getElem_take] at hjh
      exact Nat.ne_of_lt hj (honce j _ hjh)
    · rw [if_neg (by simpa using hplace), List.idxOf?_eq_none_iff]
      intro hmem
      obtain ⟨j, hj, hjh⟩ := List.mem_take_iff_getElem.mp hmem
      have hjplace := honce j (by omega) hjh
      omega

/-- Changing the first values changes the value of an entry by its place. -/
theorem pair?_updateFirst {place : Nat} {entry : Entry K V}
    (hat : m.arena.toList[place]? = some (h, entry)) (limit : Option Nat)
    (f : Nat → K → V → V) :
    pair? (m.updateFirst limit f) h = some (entry.key,
      if limit.all (place < ·) then f place entry.key entry.value else entry.value) := by
  have hentry : m.entry? h = some entry :=
    Arena.lawful.mem_toList_iff.mp (List.mem_of_getElem? hat)
  have hhandle : m.arena.handles[place]? = some h := by
    rw [Arena.handles, List.getElem?_map, hat, Option.map_some]
  rw [pair?, entry?_updateFirst, idxOf?_first m.nodup_handles hhandle, hentry]
  split <;> rfl

/-- Changing the first values is changing those of the bindings in the order of the slots. -/
theorem updateFirst (hR : Represents M m l) (hM : M.IsPartialEquivalence) (limit : Option Nat)
    (f : Nat → K → V → V) :
    Represents M (m.updateFirst limit f) { l with bindings := ⟨Ledger.rewriteFirst limit f
      (m.arena.toList.map fun x => ((x.1, x.2.key), x.2.value))⟩ } := by
  refine hR.changes hM (changes_updateFirst m limit f) (fun _ => Or.inl) ?_ ?_
  · rw [Ledger.map_name_rewriteFirst, List.map_map]
    exact m.nodup_handles
  · rintro ⟨⟨g, k⟩, w⟩
    rw [Ledger.rewriteFirst, List.mem_map]
    constructor
    · rintro ⟨⟨d, place⟩, hmem, he⟩
      have hd := List.mem_zipIdx_iff_getElem?.mp hmem
      rw [List.getElem?_map] at hd
      obtain ⟨⟨g', entry⟩, hat, rfl⟩ := Option.map_eq_some_iff.mp hd
      obtain ⟨hname, rfl⟩ := Prod.mk.inj he
      obtain ⟨rfl, rfl⟩ := Prod.mk.inj hname
      exact pair?_updateFirst hat limit f
    · intro hpair
      have hsome : (m.entry? g).isSome := by
        rw [pair?, entry?_updateFirst] at hpair
        cases hentry : m.entry? g with
        | some entry => rfl
        | none =>
          rw [hentry] at hpair
          cases hpair
      obtain ⟨entry, hentry⟩ := Option.isSome_iff_exists.mp hsome
      obtain ⟨place, hat⟩ := List.mem_iff_getElem?.mp (Arena.lawful.mem_toList_iff.mpr hentry)
      rw [pair?_updateFirst hat, Option.some.injEq] at hpair
      obtain ⟨rfl, rfl⟩ := Prod.mk.inj hpair
      refine ⟨(((g, entry.key), entry.value), place), List.mem_zipIdx_iff_getElem?.mpr ?_, rfl⟩
      rw [List.getElem?_map, hat]
      rfl

variable [Listed K] [Listed V] {S : Setting K K}

/-- Every operation of the map is one of the ledger, with the same reply. -/
theorem step (hR : Represents S.matching m l) (hM : S.matching.IsPartialEquivalence)
    (hquery : S.query = S.matching.query) {s : Step K K V} (hs : Ledger.records s = true) :
    ∃ l', Ledger.Performs S.matching l s (m.step S s).value.1 l' ∧
      Represents S.matching (m.step S s).value.2 l' := by
  have hq : ∀ k, S.query k = S.matching.query k := congrFun hquery
  have hget : ∀ k, (m.get? (S.query k)).value = l.get? S.matching k := by
    intro k
    rw [hq, hR.get?_eq hM]
  have htry : ∀ k, (m.tryGet (S.query k)).value =
      (l.get? S.matching k).elim (.error ⟨S.matching.hash k⟩) .ok := by
    intro k
    rw [value_tryGet, hget, hq]
    cases l.get? S.matching k <;> rfl
  cases s with
  | insert k v =>
    obtain ⟨name, hname, hreply, hnext⟩ := hR.insert hM k v
    refine ⟨_, ?_, hnext⟩
    change Ledger.Performs _ l _ (.value (m.insert S.matching k v).value.1) _
    rw [hreply]
    exact .insert k v name hname
  | extend pairs =>
    obtain ⟨l', hpairs, hnext⟩ := hR.extend hM pairs
    exact ⟨l', .extend hpairs, hnext⟩
  | contains k =>
    refine ⟨l, ?_, hR⟩
    change Ledger.Performs _ l _ (.flag (m.find (S.query k)).value.isSome) _
    rw [hq, ← hR.map_name_find? hM, Option.isSome_map]
    exact .contains k
  | get k =>
    refine ⟨l, ?_, hR⟩
    change Ledger.Performs _ l _ (.value (m.get? (S.query k)).value) _
    rw [hget]
    exact .get k
  | tryGet k =>
    refine ⟨l, ?_, hR⟩
    change Ledger.Performs _ l _ (.lookup (m.tryGet (S.query k)).value) _
    rw [htry]
    exact .tryGet k
  | demand k =>
    refine ⟨l, ?_, hR⟩
    change Ledger.Performs _ l _ (.demanded ((m.tryGet (S.query k)).value.mapError _)) _
    have hmap : ((m.tryGet (S.query k)).value.mapError Fault.missingKey) =
        (l.get? S.matching k).elim (.error (.missingKey ⟨S.matching.hash k⟩)) .ok := by
      rw [htry]
      cases l.get? S.matching k <;> rfl
    rw [hmap]
    exact .demand k
  | getKeyValue k =>
    refine ⟨l, ?_, hR⟩
    change Ledger.Performs _ l _ (.entry (m.getKeyValue? (S.query k)).value) _
    rw [value_getKeyValue?, hq, ← hR.map_pair_find? hM]
    exact .getKeyValue k
  | set k v =>
    obtain ⟨hreply, hnext⟩ := hR.set hM k v
    rw [← hq] at hreply hnext
    refine ⟨_, ?_, hnext⟩
    change Ledger.Performs _ l _ (.value (m.set (S.query k) v).value.1) _
    rw [hreply]
    exact .set k v
  | remove k =>
    obtain ⟨hreply, hnext⟩ := hR.remove hM k
    rw [← hq] at hreply hnext
    refine ⟨_, ?_, hnext⟩
    change Ledger.Performs _ l _ (.entry (m.remove (S.query k)).value.1) _
    rw [hreply]
    exact .remove k
  | find k =>
    refine ⟨l, ?_, hR⟩
    change Ledger.Performs _ l _ (.handle (m.find (S.query k)).value) _
    rw [hq, ← hR.map_name_find? hM]
    exact .find k
  | keyOf name =>
    refine ⟨l, ?_, hR⟩
    change Ledger.Performs _ l _ (.key (m.key? name)) _
    rw [key?_eq_map_pair?, ← hR.entry?_eq]
    exact .keyOf name
  | valueOf name =>
    refine ⟨l, ?_, hR⟩
    change Ledger.Performs _ l _ (.value (m.value? name)) _
    rw [value?_eq_map_pair?, ← hR.entry?_eq]
    exact .valueOf name
  | exchange name v =>
    refine ⟨l.write name v, ?_, hR.exchange hM name v⟩
    change Ledger.Performs _ l _ (.value (m.value? name)) _
    rw [value?_eq_map_pair?, ← hR.entry?_eq]
    exact .exchange name v
  | removeHandle name =>
    refine ⟨l.erase name, ?_, hR.removeHandle hM name⟩
    change Ledger.Performs _ l _ (.entry (m.removeHandle name).1) _
    rw [removeHandle_fst, ← hR.entry?_eq]
    exact .removeHandle name
  | size =>
    refine ⟨l, ?_, hR⟩
    change Ledger.Performs _ l _ (.size m.length (m.length == 0)) _
    have hempty : (l.pairs.length == 0) = l.pairs.isEmpty := by
      cases l.pairs <;> rfl
    rw [hR.length_eq, hempty]
    exact .size
  | clear => exact ⟨l.clear, .clear, hR.clear hM⟩
  | updateFirst limit f =>
    refine ⟨_, ?_, hR.updateFirst hM limit f⟩
    change Ledger.Performs _ l _ (.left (limit.elim 0 (m.length - ·))) _
    rw [hR.length_eq]
    exact .updateFirst limit f hR.perm_entries
  | entries => exact ⟨l, .entries hR.perm_toList, hR⟩
  | firstEntries n =>
    refine ⟨l, ?_, hR⟩
    change Ledger.Performs _ l _ (.firstEntries (m.toList.take n) (m.length - n)) _
    rw [hR.length_eq]
    exact .firstEntries n hR.perm_toList
  | keys =>
    refine ⟨l, ?_, hR⟩
    change Ledger.Performs _ l _ (.keys m.keys) _
    rw [keys_eq_map]
    exact .keys hR.perm_toList
  | values =>
    refine ⟨l, ?_, hR⟩
    change Ledger.Performs _ l _ (.values m.values) _
    rw [values_eq_map]
    exact .values hR.perm_toList
  | build | inspect | conventional | intoConventional => simp [Ledger.records] at hs

/-- A ledger explains every run of a map that represents it. -/
theorem explains (hR : Represents S.matching m l) (hM : S.matching.IsPartialEquivalence)
    (hquery : S.query = S.matching.query) {steps : List (Step K K V)}
    (hsteps : ∀ s ∈ steps, Ledger.records s = true) : l.Explains S m steps := by
  induction steps generalizing m l with
  | nil => trivial
  | cons s steps ih =>
    obtain ⟨hs, hrest⟩ := List.forall_mem_cons.mp hsteps
    obtain ⟨l', hperforms, hnext⟩ := hR.step hM hquery hs
    exact ⟨l', hperforms, hnext.perm_toList, ih hnext hrest⟩

end Represents

/-- Under a symmetric and transitive relation every run of a map is one of a ledger: with the same
replies, whichever handles are used, and with the same keys and values after every operation. -/
theorem Ledger.explains_run [Listed K] [Listed V] (S : Setting K K)
    (hquery : S.query = S.matching.query) (hM : S.matching.IsPartialEquivalence) (capacity : Nat)
    (steps : List (Step K K V)) (hsteps : ∀ s ∈ steps, Ledger.records s = true) :
    (Ledger.empty : Ledger K V).Explains S (.withCapacity capacity) steps :=
  (Represents.withCapacity capacity).explains hM hquery hsteps

/-- A relation under which one of two keys is not related to itself: this key is added each time
that it is bound, and taken out by its handle only. -/
theorem Ledger.explains_run_irreflexive :
    let M : Matching Bool := ⟨fun _ => 7, fun a b => a && b⟩
    let S : Setting Bool Bool := ⟨M, M, M.query, fun a b => !a || b⟩
    let steps : List (Step Bool Bool Bool) := [.insert false true, .insert false false,
      .insert true false, .removeHandle ⟨0, 1⟩, .insert true true, .remove false]
    (Ledger.empty : Ledger Bool Bool).Explains S (.withCapacity 0) steps ∧
      ((MatchMap.withCapacity 0).after S steps).toList = [(false, false), (true, true)] := by
  intro M S steps
  have hM : M.IsPartialEquivalence := ⟨by decide, by decide⟩
  exact ⟨Ledger.explains_run S rfl hM 0 steps (by decide), by decide⟩

end KeyedContainers
