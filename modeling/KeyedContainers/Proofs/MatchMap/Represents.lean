import KeyedContainers.Proofs.MatchMap.Find
import KeyedContainers.Proofs.MatchMap.Ledger

/-!
# Maps that represent ledgers

A map represents a ledger when the handles that resolve are the names of the bindings, with the
same keys and values. Where the relation of the keys is symmetric and transitive, a key then finds
in the map what walking the bindings finds, since no other entry could match it.
-/

namespace KeyedContainers

open MatchMap

variable {K V : Type}

namespace Bindings

variable {name : Type} [DecidableEq name] {nameOf : K × V → name} {n : name}
  {p : K × V → Bool} {entries : List (K × V)}

/-- Changing the first entry with a property changes the entry of a name, if no other has both. -/
theorem modifyFirst_eq_map (hnodup : (entries.map nameOf).Nodup)
    (hp : ∀ e ∈ entries, p e = true ↔ nameOf e = n) (f : K × V → K × V) :
    modifyFirst p f entries = entries.map fun e => if nameOf e = n then f e else e := by
  have hone : entries.Pairwise fun d e => p d = true → p e = false := by
    refine (List.pairwise_map.mp hnodup).imp_of_mem ?_
    intro d e hd he hne hpd
    rw [← Bool.not_eq_true, hp e he]
    rintro hen
    exact hne (((hp d hd).mp hpd).trans hen.symm)
  rw [modifyFirst_eq_map_of_pairwise hone]
  refine List.map_congr_left fun e he => ?_
  simp only [hp e he]

/-- Nothing is changed where no entry has the property. -/
theorem modifyFirst_of_forall_not (hp : ∀ e ∈ entries, ¬ p e = true) (f : K × V → K × V) :
    modifyFirst p f entries = entries := by
  have hone : entries.Pairwise fun d e => p d = true → p e = false :=
    List.pairwise_of_forall_mem_list fun d hd _ _ hpd => absurd hpd (hp d hd)
  rw [modifyFirst_eq_map_of_pairwise hone]
  refine (List.map_congr_left fun e he => ?_).trans (List.map_id entries)
  rw [if_neg (hp e he), id]

/-- Taking out the first entry with a property takes out the entry of a name, if no other has
both. -/
theorem eraseP_eq_filter (hnodup : (entries.map nameOf).Nodup)
    (hp : ∀ e ∈ entries, p e = true ↔ nameOf e = n) :
    entries.eraseP p = entries.filter fun e => nameOf e ≠ n := by
  induction entries with
  | nil => rfl
  | cons e entries ih =>
    obtain ⟨hother, hrest⟩ := List.nodup_cons.mp hnodup
    have hfirst := hp e (List.mem_cons_self ..)
    by_cases he : nameOf e = n
    · rw [List.eraseP_cons_of_pos (hfirst.mpr he), List.filter_cons_of_neg (by simpa using he)]
      refine (List.filter_eq_self.mpr fun d hd => ?_).symm
      rw [decide_eq_true_eq]
      rintro hdn
      exact hother (he ▸ hdn ▸ List.mem_map_of_mem hd)
    · rw [List.eraseP_cons_of_neg (fun hpe => he (hfirst.mp hpe)),
        List.filter_cons_of_pos (by simpa using he),
        ih hrest fun d hd => hp d (List.mem_cons_of_mem e hd)]

end Bindings

/-- The handles of a map that resolve are the names in a ledger, with the same keys and values,
and all names that the ledger ever gave were issued by the map. -/
structure Represents (M : Matching K) (m : MatchMap K V) (l : Ledger K V) : Prop
    extends Regular M m where
  /-- No name has two bindings. -/
  nodup : (l.bindings.entries.map fun e => e.1.1).Nodup
  /-- A name has the key and the value to which the handle resolves. -/
  mem_iff : ∀ e, e ∈ l.bindings.entries ↔ m.pair? e.1.1 = some (e.1.2, e.2)
  /-- The names that were given are issued handles. -/
  issued : ∀ h ∈ l.issued, m.arena.Issued h

namespace Represents

variable {M : Matching K} {m : MatchMap K V} {l : Ledger K V} {h : Handle} {k : K}

theorem withCapacity (capacity : Nat) :
    Represents M (.withCapacity capacity : MatchMap K V) .empty where
  toRegular := regular_withCapacity capacity
  nodup := List.nodup_nil
  mem_iff := by simp [Ledger.empty, Bindings.empty, MatchMap.withCapacity, pair?, entry?]
  issued := by simp [Ledger.empty]

/-- The entries of the map with their handles are the bindings with their names. -/
theorem perm_entries (hR : Represents M m l) :
    (m.arena.toList.map fun x => ((x.1, x.2.key), x.2.value)).Perm l.bindings.entries := by
  have hhandles : ((m.arena.toList.map fun x => ((x.1, x.2.key), x.2.value)).map
      fun e => e.1.1).Nodup := by
    rw [List.map_map]
    exact m.nodup_handles
  refine (List.perm_ext_iff_of_nodup hhandles.of_map hR.nodup.of_map).mpr ?_
  rintro ⟨⟨h, k⟩, v⟩
  rw [hR.mem_iff]
  simp only [List.mem_map, Prod.exists, Arena.lawful.mem_toList_iff, Prod.mk.injEq, pair?, entry?,
    Option.map_eq_some_iff]
  constructor
  · rintro ⟨_, entry, hentry, ⟨rfl, rfl⟩, rfl⟩
    exact ⟨entry, hentry, rfl, rfl⟩
  · rintro ⟨entry, hentry, rfl, rfl⟩
    exact ⟨h, entry, hentry, ⟨rfl, rfl⟩, rfl⟩

/-- The map has the keys and values of the ledger. -/
theorem perm_toList (hR : Represents M m l) : m.toList.Perm l.pairs := by
  have hperm := hR.perm_entries.map fun e => (e.1.2, e.2)
  rw [List.map_map] at hperm
  rw [toList_eq_map]
  exact hperm

theorem length_eq (hR : Represents M m l) : m.length = l.pairs.length :=
  hR.length_toList.trans hR.perm_toList.length_eq

/-- The binding of a name is what the handle resolves to. -/
theorem entry?_eq (hR : Represents M m l) (h : Handle) : l.entry? h = m.pair? h := by
  unfold Ledger.entry?
  cases hfind : l.bindings.entries.find? fun e => e.1.1 == h with
  | some e =>
    have hname : e.1.1 = h := by simpa using List.find?_some hfind
    rw [Option.map_some, ← hname]
    exact ((hR.mem_iff e).mp (List.mem_of_find?_eq_some hfind)).symm
  | none =>
    cases hpair : m.pair? h with
    | none => rfl
    | some pair =>
      have hmem := (hR.mem_iff ((h, pair.1), pair.2)).mpr hpair
      simpa using List.find?_eq_none.mp hfind _ hmem

/-- The bindings that answer a key are those of the handle that the key finds. -/
theorem answers_iff (hR : Represents M m l) (hM : M.IsPartialEquivalence)
    {e : (Handle × K) × V} (he : e ∈ l.bindings.entries) :
    Bindings.answers (Ledger.named M) (Ledger.query M k) e = true ↔
      (m.find (M.query k)).value = some e.1.1 := by
  have hpair := (hR.mem_iff e).mp he
  rw [hR.find_query_eq_some_iff hM, hpair]
  change M.related e.1.2 k = true ↔ _
  simp

/-- A key finds in the ledger what it finds in the map. -/
theorem find?_eq (hR : Represents M m l) (hM : M.IsPartialEquivalence) (k : K) :
    l.find? M k =
      (m.find (M.query k)).value.bind fun h => (m.pair? h).map fun pair =>
        ((h, pair.1), pair.2) := by
  unfold Ledger.find? Bindings.find?
  cases hfirst : l.bindings.entries.find?
      (Bindings.answers (Ledger.named M) (Ledger.query M k)) with
  | some e =>
    have he := List.mem_of_find?_eq_some hfirst
    have hfind := (hR.answers_iff hM he).mp (List.find?_some hfirst)
    rw [hfind, Option.bind_some, (hR.mem_iff e).mp he]
    rfl
  | none =>
    cases hfind : (m.find (M.query k)).value with
    | none => rfl
    | some h =>
      obtain ⟨entry, hentry, _⟩ := exists_entry_of_find hfind
      have hpair : m.pair? h = some (entry.key, entry.value) := by rw [pair?, hentry]; rfl
      have he := (hR.mem_iff ((h, entry.key), entry.value)).mpr hpair
      exact absurd ((hR.answers_iff hM he).mpr hfind) (List.find?_eq_none.mp hfirst _ he)

/-- The name that a key finds is the handle that it finds. -/
theorem map_name_find? (hR : Represents M m l) (hM : M.IsPartialEquivalence) (k : K) :
    (l.find? M k).map (fun e => e.1.1) = (m.find (M.query k)).value := by
  rw [hR.find?_eq hM]
  cases hfind : (m.find (M.query k)).value with
  | none => rfl
  | some h =>
    obtain ⟨entry, hentry, _⟩ := exists_entry_of_find hfind
    rw [Option.bind_some, pair?, hentry]
    rfl

/-- A key finds the same stored key and value in the ledger and in the map. -/
theorem map_pair_find? (hR : Represents M m l) (hM : M.IsPartialEquivalence) (k : K) :
    (l.find? M k).map (fun e => (e.1.2, e.2)) = (m.find (M.query k)).value.bind m.pair? := by
  rw [hR.find?_eq hM, Option.map_bind]
  congr 1
  funext h
  rw [Function.comp, Option.map_map]
  exact Option.map_id'

/-- A key has the same value in the ledger and in the map. -/
theorem get?_eq (hR : Represents M m l) (hM : M.IsPartialEquivalence) (k : K) :
    l.get? M k = (m.get? (M.query k)).value := by
  have hpair := congrArg (Option.map Prod.snd) (hR.map_pair_find? hM k)
  rw [Option.map_map, Option.map_bind] at hpair
  rw [value_get?]
  refine hpair.trans (congrArg _ ?_)
  funext h
  exact (value?_eq_map_pair? m h).symm

end Represents

end KeyedContainers
