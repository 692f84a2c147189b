import KeyedContainers.Proofs.MatchMap.LocalEffect
import KeyedContainers.Proofs.MatchMap.Lookup

/-!
# Ways to write a value

The value of an entry can be written by a query that finds the entry, by its handle, on a walk
through the entries, and by an insertion of a key that finds it. All four lead to one and the same
map, in which nothing but this value has changed: the index is as it was, and since no query asks
for values, every query finds what it found before.
-/

namespace KeyedContainers

namespace Arena

variable {α : Type} {a : Arena α} {h : Handle}

/-- A change depends only on what it makes of the content that is there. -/
theorem modify_congr {f g : α → α} (hfg : ∀ c, a.get? h = some c → f c = g c) :
    a.modify h f = a.modify h g := by
  cases hget : a.get? h with
  | none => rw [modify_of_stale hget, modify_of_stale hget]
  | some c => simp only [modify, hget, hfg c hget]

/-- A change that keeps the content of its handle changes nothing. -/
theorem modify_eq_self {f : α → α} (hf : ∀ c, a.get? h = some c → f c = c) :
    a.modify h f = a := by
  cases hget : a.get? h with
  | none => exact modify_of_stale hget f
  | some c =>
    have hslot : a.slots.setIfInBounds h.slot ⟨h.version, some c⟩ = a.slots := by
      refine Array.ext_getElem? fun i => ?_
      rw [Array.getElem?_setIfInBounds, ← get?_eq_some_iff.mp hget]
      split
      · rename_i hi
        rw [hi, if_pos (hi ▸ slot_lt_of_get? hget)]
      · rfl
    simp only [modify, hget, hf c hget, hslot]

end Arena

namespace MatchMap

variable {K Q V : Type} {M : Matching K} {m : MatchMap K V} {h : Handle} {v : V}

/-- An amendment that gives the value of its entry is a write. -/
theorem amend_eq_setValue {f : K → V → V}
    (hf : ∀ entry, m.entry? h = some entry → f entry.key entry.value = v) :
    m.amend h f = m.setValue h v := by
  rw [setValue_eq_amend, amend, amend, Arena.modify_congr]
  intro entry hentry
  rw [hf entry hentry]

/-- An amendment that keeps the value of its entry changes nothing. -/
theorem amend_eq_self {f : K → V → V}
    (hf : ∀ entry, m.entry? h = some entry → f entry.key entry.value = entry.value) :
    m.amend h f = m := by
  rw [amend, Arena.modify_eq_self]
  intro entry hentry
  rw [hf entry hentry]

/-- Amendments that keep the values of their entries change nothing, one after another. -/
private theorem foldl_amend_eq_self {f : Nat → K → V → V} {places : List (Handle × Nat)}
    (hf : ∀ g ∈ places, ∀ entry, m.entry? g.1 = some entry →
      f g.2 entry.key entry.value = entry.value) :
    places.foldl (fun m g => m.amend g.1 (f g.2)) m = m := by
  induction places with
  | nil => rfl
  | cons g places ih =>
    obtain ⟨hg, hrest⟩ := List.forall_mem_cons.mp hf
    rw [List.foldl_cons, amend_eq_self hg, ih hrest]

/-- Amendments that keep the values of all entries but one write to this one. -/
private theorem foldl_amend_eq_setValue {f : Nat → K → V → V} {places : List (Handle × Nat)}
    (hnodup : (places.map (·.1)).Nodup) (hmem : h ∈ places.map (·.1))
    (hf : ∀ g ∈ places, ∀ entry, m.entry? g.1 = some entry →
      f g.2 entry.key entry.value = if g.1 = h then v else entry.value) :
    places.foldl (fun m g => m.amend g.1 (f g.2)) m = m.setValue h v := by
  induction places with
  | nil => cases hmem
  | cons g places ih =>
    obtain ⟨hg, hrest⟩ := List.forall_mem_cons.mp hf
    rw [List.map_cons, List.nodup_cons] at hnodup
    rw [List.foldl_cons]
    by_cases hgh : g.1 = h
    · -- No later amendment comes back to the entry that is written here.
      rw [hgh, amend_eq_setValue fun entry hentry => (hg entry (hgh ▸ hentry)).trans (if_pos hgh)]
      refine foldl_amend_eq_self fun g' hg' entry hentry => ?_
      have hne : g'.1 ≠ h := by
        intro hsame
        have hlater : g'.1 ∈ places.map (·.1) := List.mem_map_of_mem hg'
        rw [hsame, ← hgh] at hlater
        exact hnodup.1 hlater
      rw [setValue_eq_amend, entry?_amend, if_neg hne] at hentry
      rw [hrest g' hg' entry hentry, if_neg hne]
    · rw [amend_eq_self fun entry hentry => (hg entry hentry).trans (if_neg hgh)]
      exact ih hnodup.2 (List.mem_of_ne_of_mem (Ne.symm hgh) hmem) hrest

/-- A walk that leaves all values but that of one place, and does not end before it, is a write to
the handle at this place. -/
theorem updateFirst_eq_setValue {place : Nat} (hat : m.arena.handles[place]? = some h)
    {limit : Option Nat} (hreach : limit.all (place < ·)) {f : Nat → K → V → V}
    (hf : ∀ i key value, m.toList[i]? = some (key, value) →
      f i key value = if i = place then v else value) :
    m.updateFirst limit f = m.setValue h v := by
  have hwalked := isPrefix_walked limit m.arena.handles
  have hreached : (limit.elim m.arena.handles m.arena.handles.take)[place]? = some h := by
    cases limit with
    | none => exact hat
    | some n => exact (List.getElem?_take_of_lt (by simpa using hreach)).trans hat
  rw [updateFirst_eq_foldl]
  generalize (limit.elim m.arena.handles m.arena.handles.take) = walked at *
  refine foldl_amend_eq_setValue ?_ ?_ ?_
  · rw [List.zipIdx_map_fst]
    exact m.nodup_handles.sublist hwalked.sublist
  · rw [List.zipIdx_map_fst]
    exact List.mem_of_getElem? hreached
  · rintro ⟨g, i⟩ hg entry hentry
    have hi : m.arena.handles[i]? = some g := by
      obtain ⟨hlt, rfl⟩ := List.getElem?_eq_some_iff.mp (List.mk_mem_zipIdx_iff_getElem?.mp hg)
      exact List.prefix_iff_getElem?.mp hwalked i hlt
    have hsame : i = place ↔ g = h := by
      constructor
      · rintro rfl
        exact Option.some.inj (hi.symm.trans hat)
      · rintro rfl
        exact Arena.place_unique hi hat
    simp only [← hsame]
    apply hf
    rw [getElem?_toList, hi, Option.bind_some, pair?, hentry, Option.map_some]

/-- What is asked, and what it finds, depends on the keys and hashes of the entries only. -/
theorem ask_congr_keys {a b : Arena (Entry K V)}
    (hkeys : ∀ g, (a.get? g).map (fun e => (e.key, e.hash)) =
      (b.get? g).map fun e => (e.key, e.hash)) (q : Query K) (handles : List Handle) :
    ask a q handles = ask b q handles := by
  induction handles with
  | nil => rfl
  | cons g handles ih =>
    have hg := hkeys g
    cases ha : a.get? g with
    | none =>
      rw [ha, Option.map_none, eq_comm, Option.map_eq_none_iff] at hg
      simp only [ask, ha, hg, ih]
    | some d =>
      rw [ha, Option.map_some, eq_comm, Option.map_eq_some_iff] at hg
      obtain ⟨e, he, hsame⟩ := hg
      obtain ⟨hkey, hhash⟩ := Prod.mk.inj hsame
      simp only [ask, ha, he, hkey, hhash, ih]

/-- A write changes nothing that a query finds, nor the questions that are asked for it. -/
theorem find_exchange (m : MatchMap K V) (h : Handle) (v : V) (q : Query K) :
    find (m.exchange h v).2 q = m.find q := by
  refine ask_congr_keys (fun g => ?_) q _
  have hentry := entry?_exchange m h g v
  unfold entry? at hentry
  rw [hentry, Option.map_map]
  rfl

variable [Listed K] [Listed V]

/-- After every run, whatever the match relation, for an entry that a query finds: the query, its
handle, every walk that leaves all other values, and an insertion of any key that finds it too, all
write its value with the same map as result, and those that answer answer the old value. In this
map only this value is another. Every query finds what it found before, and for the query that
found the entry there is the new value. -/
theorem mutation_paths_agree (S : Setting K Q) (capacity : Nat) (steps : List (Step K Q V))
    (q : Query K) (h : Handle)
    (hfind : (((withCapacity capacity : MatchMap K V).after S steps).find q).value = some h)
    (v : V) :
    let m : MatchMap K V := (withCapacity capacity).after S steps
    let written := (m.exchange h v).2
    ∃ entry, (m.exchange h v).1 = some entry.value ∧ (m.set q v).value = m.exchange h v ∧
      (∀ place limit f, m.arena.handles[place]? = some h → limit.all (place < ·) →
        (∀ i key value, m.toList[i]? = some (key, value) →
          f i key value = if i = place then v else value) →
        m.updateFirst limit f = written) ∧
      (∀ k, (m.find (S.matching.query k)).value = some h →
        (m.insert S.matching k v).value = m.exchange h v) ∧
      Writes m written h entry v ∧ Hits written q h { entry with value := v } ∧
      ∀ q', written.find q' = m.find q' := by
  intro m written
  have hm : Coherent S.matching m := (coherent_withCapacity capacity).after steps
  obtain ⟨entry, hentry, _⟩ := exists_entry_of_find hfind
  have hwrites : Writes m written h entry v := hm.writes_exchange hentry v
  have hold : m.value? h = some entry.value := by rw [value?, hentry, Option.map_some]
  refine ⟨entry, hold, ?_, ?_, ?_, hwrites, ?_, find_exchange m h v⟩
  · rw [value_set, hfind]
  · intro place limit f hat hreach hf
    exact updateFirst_eq_setValue hat hreach hf
  · intro k hk
    rw [value_insert, hk]
  · refine hits_of_find ?_ ?_
    · rw [find_exchange]
      exact hfind
    · rw [hwrites.entry?_eq, if_pos rfl]

/-- All hashes are equal and letters next to each other match, so that `d` and `f` both find the
entry of `e` and no other, the third after a hole. -/
theorem mutation_paths_agree_neighbours :
    let near (stored q : Char) : Bool := stored.toNat ≤ q.toNat + 1 && q.toNat ≤ stored.toNat + 1
    let M : Matching Char := ⟨fun _ => 7, near⟩
    let S : Setting Char Char := ⟨M, M, M.query, fun a b => a ≤ b⟩
    let steps : List (Step Char Char Bool) :=
      [.extend [('h', false), ('a', false), ('k', false), ('e', false)], .removeHandle ⟨0, 1⟩]
    let m : MatchMap Char Bool := (withCapacity 0).after S steps
    let written := (m.exchange ⟨3, 1⟩ true).2
    m.toList = [('a', false), ('k', false), ('e', false)] ∧
      (m.find (M.query 'd')).value = some ⟨3, 1⟩ ∧ (m.find (M.query 'f')).value = some ⟨3, 1⟩ ∧
      M.related 'd' 'f' = false ∧
      (m.set (M.query 'd') true).value.2 = written ∧
      m.updateFirst (some 3) (fun _ key old => key == 'e' || old) = written ∧
      (m.insert M 'f' true).value.2 = written ∧
      (get? written (M.query 'd')).value = some true ∧
      written.toList = [('a', false), ('k', false), ('e', true)] := by
  intro near M S steps m
  have hd : (m.find (M.query 'd')).value = some ⟨3, 1⟩ := by decide
  have hf : (m.find (M.query 'f')).value = some ⟨3, 1⟩ := by decide
  have hat : m.arena.handles[2]? = some ⟨3, 1⟩ := by decide
  have hlist : m.toList = [('a', false), ('k', false), ('e', false)] := by decide
  have hsame : ∀ i key value, m.toList[i]? = some (key, value) →
      (key == 'e' || value) = if i = 2 then true else value := by
    intro i key value hi
    rw [hlist] at hi
    match i, hi with
    | 0, rfl | 1, rfl | 2, rfl => rfl
  obtain ⟨entry, _, hset, hwalk, hinsert, _, hhits, _⟩ :=
    mutation_paths_agree S 0 steps (M.query 'd') ⟨3, 1⟩ hd true
  refine ⟨hlist, hd, hf, by decide, congrArg Prod.snd hset, ?_, ?_, hhits.get, by decide⟩
  · exact hwalk 2 (some 3) _ hat rfl hsame
  · exact congrArg Prod.snd (hinsert 'f' hf)

end MatchMap

end KeyedContainers
