import KeyedContainers.Proofs.MatchMap.Find

/-!
# Lifetime of handles

A handle that a query found keeps its stored key, and has the value that was last written to its
entry, until the entry is taken out: by a query that finds it, by the handle itself, or with all
others. From then on it never resolves again and no query finds it, even when its slot has another
entry, because the slot has gone beyond its version.
-/

namespace KeyedContainers.MatchMap

variable {K Q V : Type}

/-- Whether an operation takes out the entry of a handle. -/
def Step.removes (S : Setting K Q) (m : MatchMap K V) (h : Handle) : Step K Q V → Prop
  | .remove q => (m.find (S.query q)).value = some h
  | .removeHandle g => g = h
  | .clear => True
  | _ => False

/-- The value that some pairs, bound one after another, last write to the entry of a handle. -/
def lastBound (M : Matching K) (h : Handle) (m : MatchMap K V) : List (K × V) → Option V
  | [] => none
  | (k, v) :: pairs =>
    (lastBound M h (m.insert M k v).value.2 pairs).or
      (if (m.find (M.query k)).value = some h then some v else none)

/-- The value that an operation writes to the entry of a handle. -/
def Step.written (S : Setting K Q) (m : MatchMap K V) (h : Handle) : Step K Q V → Option V
  | .insert k v => if (m.find (S.matching.query k)).value = some h then some v else none
  | .extend pairs => lastBound S.matching h m pairs
  | .set q v => if (m.find (S.query q)).value = some h then some v else none
  | .exchange g v => if g = h then some v else none
  | .updateFirst limit f => (m.entry? h).bind fun entry =>
    ((limit.elim m.arena.handles m.arena.handles.take).idxOf? h).map fun place =>
      f place entry.key entry.value
  | _ => none

section Runs

variable [Listed K] [Listed V] (S : Setting K Q) (h : Handle)

/-- Whether a run takes out the entry of a handle. -/
def Removed (m : MatchMap K V) : List (Step K Q V) → Prop
  | [] => False
  | s :: steps => s.removes S m h ∨ Removed (m.step S s).value.2 steps

/-- The value that a run last writes to the entry of a handle. -/
def lastWritten (m : MatchMap K V) : List (Step K Q V) → Option V
  | [] => none
  | s :: steps => (lastWritten (m.step S s).value.2 steps).or (s.written S m h)

end Runs

variable {M : Matching K} {S : Setting K Q} {m : MatchMap K V} {h : Handle} {entry : Entry K V}

/-- An insertion writes to the entry that matches the key, if it is that of the handle. -/
theorem Coherent.entry?_insert (hm : Coherent M m) (hentry : m.entry? h = some entry) (k : K)
    (v : V) :
    entry? (m.insert M k v).value.2 h =
      some (entry.rewrite (if (m.find (M.query k)).value = some h then some v else none)) := by
  rw [value_insert]
  cases hfind : (m.find (M.query k)).value with
  | some g =>
    change entry? (m.exchange g v).2 h = _
    rw [entry?_exchange, hentry]
    simp
  | none =>
    have hne : h ≠ m.freshHandle ⟨k, v, M.hash k⟩ := by
      rintro rfl
      simp [hm.entry?_fresh] at hentry
    simpa [hm.entry?_add, hne] using hentry

/-- Binding pairs writes what they last bind to the entry. -/
theorem Coherent.entry?_extend (hm : Coherent M m) (hentry : m.entry? h = some entry)
    (pairs : List (K × V)) :
    entry? (m.extend M pairs).value h = some (entry.rewrite (lastBound M h m pairs)) := by
  induction pairs generalizing m entry with
  | nil => exact hentry
  | cons pair pairs ih =>
    have hinsert := hm.entry?_insert hentry pair.1 pair.2
    have hcoherent := hm.changes (changes_insert m pair.1 pair.2)
    rw [value_extend_cons, ih hcoherent hinsert, Entry.rewrite_rewrite]
    rfl

/-- A handle resolves to a stored key and a value, which can be written. -/
structure Live (m : MatchMap K V) (h : Handle) (k : K) (v : V) : Prop where
  key : m.key? h = some k
  value : m.value? h = some v
  /-- Writing through the handle replaces this value. -/
  exchange : ∀ w, (m.exchange h w).1 = some v ∧ value? (m.exchange h w).2 h = some w

/-- A handle does not resolve, nothing is written or removed through it, and no query finds it. -/
structure Dead (m : MatchMap K V) (h : Handle) : Prop where
  key : m.key? h = none
  value : m.value? h = none
  exchange : ∀ w, m.exchange h w = (none, m)
  removeHandle : m.removeHandle h = (none, m)
  find : ∀ q : Query K, (m.find q).value ≠ some h

/-- The handle of an entry is live. -/
theorem live_of_entry? (hentry : m.entry? h = some entry) : m.Live h entry.key entry.value where
  key := by simp [key?, hentry]
  value := by simp [value?, hentry]
  exchange := by
    intro w
    have hwritten := entry?_exchange m h h w
    refine ⟨by simp [MatchMap.exchange, value?, hentry], ?_⟩
    rw [value?, hwritten, hentry]
    simp [Entry.rewrite]

/-- A spent handle is dead. -/
theorem dead_of_spent (hspent : m.arena.Spent h) : m.Dead h := by
  have hentry : m.entry? h = none := Arena.lawful_handles.get?_of_spent hspent
  refine ⟨by simp [key?, hentry], by simp [value?, hentry], ?_, ?_, ?_⟩
  · intro w
    rw [exchange, setValue, Arena.lawful.modify_of_stale hentry]
    simp [value?, hentry]
  · exact removeHandle_of_stale hentry
  · intro q hfind
    obtain ⟨other, hother, _⟩ := exists_entry_of_find hfind
    rw [hentry] at hother
    cases hother

variable [Listed K] [Listed V]

/-- An operation that does not take out an entry leaves it with the value that it writes. -/
theorem Coherent.entry?_step (hm : Coherent S.matching m) (hentry : m.entry? h = some entry)
    {s : Step K Q V} (hstays : s.stays = true) (hkept : ¬ s.removes S m h) :
    entry? (m.step S s).value.2 h = some (entry.rewrite (s.written S m h)) := by
  have hexchange : ∀ g v, entry? (m.exchange g v).2 h =
      some (entry.rewrite (if g = h then some v else none)) := by
    intro g v
    rw [entry?_exchange, hentry, Option.map_some]
  cases s with
  | insert k v => exact hm.entry?_insert hentry k v
  | extend pairs => exact hm.entry?_extend hentry pairs
  | build pairs => simp [Step.stays] at hstays
  | set q v =>
    change entry? (m.set (S.query q) v).value.2 h = _
    rw [value_set]
    cases hfind : (m.find (S.query q)).value with
    | none => simpa [Step.written, hfind] using hentry
    | some g => simpa [Step.written, hfind] using hexchange g v
  | remove q =>
    change entry? (m.remove (S.query q)).value.2 h = _
    rw [value_remove]
    cases hfind : (m.find (S.query q)).value with
    | none => exact hentry
    | some g =>
      have hne : h ≠ g := by
        rintro rfl
        exact hkept hfind
      have hsame := entry?_removeHandle m g h
      rw [if_neg hne, hentry] at hsame
      exact hsame
  | exchange g v => exact hexchange g v
  | removeHandle g =>
    have hsame := entry?_removeHandle m g h
    rw [if_neg (Ne.symm hkept), hentry] at hsame
    exact hsame
  | clear => exact absurd trivial hkept
  | updateFirst limit f =>
    rw [Step.written, hentry]
    exact (entry?_updateFirst m h limit f).trans (by rw [hentry, Option.map_some]; rfl)
  | intoConventional keys => simp [Step.stays] at hstays
  | contains | get | tryGet | demand | getKeyValue | find | keyOf | valueOf | size | entries
  | firstEntries | keys | values | inspect | conventional => exact hentry

/-- An operation that takes out an entry spends its handle. -/
theorem spent_step (hentry : m.entry? h = some entry) {s : Step K Q V}
    (hremoves : s.removes S m h) : (m.step S s).value.2.arena.Spent h := by
  cases s with
  | remove q =>
    change (m.remove (S.query q)).value.2.arena.Spent h
    have hfind : (m.find (S.query q)).value = some h := hremoves
    rw [value_remove_of_find hfind]
    exact arena_removeHandle m h ▸ Arena.lawful_handles.spent_remove hentry
  | removeHandle g =>
    obtain rfl : g = h := hremoves
    exact arena_removeHandle m g ▸ Arena.lawful_handles.spent_remove hentry
  | clear => exact Arena.lawful_handles.spent_clear hentry
  | _ => exact hremoves.elim

/-- A run that does not take out an entry leaves it with the value that it last writes. -/
theorem Coherent.entry?_after (hm : Coherent S.matching m) (hentry : m.entry? h = some entry)
    {steps : List (Step K Q V)} (hstays : ∀ s ∈ steps, s.stays = true)
    (hkept : ¬ Removed S h m steps) :
    entry? (m.after S steps) h = some (entry.rewrite (lastWritten S h m steps)) := by
  induction steps generalizing m entry with
  | nil => exact hentry
  | cons s steps ih =>
    obtain ⟨hs, hrest⟩ := List.forall_mem_cons.mp hstays
    obtain ⟨hnow, hlater⟩ := not_or.mp hkept
    have hstep := hm.entry?_step hentry hs hnow
    rw [after_cons, ih (hm.step s) hstep hrest hlater, Entry.rewrite_rewrite]
    rfl

/-- A run that takes out an entry ends with its handle spent. -/
theorem Coherent.spent_after (hm : Coherent S.matching m) (hentry : m.entry? h = some entry)
    {steps : List (Step K Q V)} (hstays : ∀ s ∈ steps, s.stays = true)
    (hremoved : Removed S h m steps) : (m.after S steps).arena.Spent h := by
  induction steps generalizing m entry with
  | nil => exact hremoved.elim
  | cons s steps ih =>
    obtain ⟨hs, hrest⟩ := List.forall_mem_cons.mp hstays
    by_cases hnow : s.removes S m h
    -- What the rest of the run does cannot bring the slot back to the version of the handle.
    · have hages := (hm.step s).ages (after_changes _ hrest)
      exact Arena.lawful_handles.spent_mono hages (spent_step hentry hnow)
    · have hstep := hm.entry?_step hentry hs hnow
      exact ih (hm.step s) hstep hrest (hremoved.resolve_left hnow)

/-- A handle that a query found has the key of its entry and the value last written to it until
the entry is taken out, and is dead from then on; no entry added later has this handle. -/
theorem handle_lifetime (S : Setting K Q) (capacity : Nat) (before : List (Step K Q V))
    (q : Query K) (h : Handle)
    (hfind : (((withCapacity capacity : MatchMap K V).after S before).find q).value = some h)
    (steps : List (Step K Q V)) (hstays : ∀ s ∈ steps, s.stays = true) :
    let found : MatchMap K V := (withCapacity capacity).after S before
    let m := found.after S steps
    (∃ k v, found.Live h k v ∧
      (¬ Removed S h found steps → m.Live h k ((lastWritten S h found steps).getD v))) ∧
    (Removed S h found steps → m.Dead h) ∧
    ∀ entry, m.freshHandle entry ≠ h := by
  intro found m
  have hfound : Coherent S.matching found := (coherent_withCapacity capacity).after before
  obtain ⟨entry, hentry, _⟩ := exists_entry_of_find hfind
  refine ⟨⟨entry.key, entry.value, live_of_entry? hentry, ?_⟩, ?_, ?_⟩
  · intro hkept
    exact live_of_entry? (hfound.entry?_after hentry hstays hkept)
  · intro hremoved
    exact dead_of_spent (hfound.spent_after hentry hstays hremoved)
  · intro fresh
    have hissued := Arena.lawful_handles.issued_mono (hfound.ages (after_changes found hstays))
      (Arena.lawful_handles.issued_of_get? hentry)
    rintro rfl
    exact Arena.lawful_handles.not_issued_fresh (hfound.after steps).sound fresh hissued

/-- The handle of a removed key stays dead when its slot has the entry of another key. -/
theorem handle_lifetime_reused_slot :
    let S := Setting.standard (Hasher.constant 7) fun (a b : Bool) => !a || b
    let found : MatchMap Bool Bool := (withCapacity 0).after S [.insert true false]
    let m := found.after S [.remove true, .insert false true]
    (found.find (S.query true)).value = some ⟨0, 1⟩ ∧ m.Dead ⟨0, 1⟩ ∧
      m.key? ⟨0, 3⟩ = some false := by
  intro S found m
  have hfind : (found.find (S.query true)).value = some ⟨0, 1⟩ := by decide
  have hlife := handle_lifetime S 0 [.insert true false] (S.query true) ⟨0, 1⟩ hfind
    [.remove true, .insert false true] (by simp [Step.stays])
  exact ⟨hfind, hlife.2.1 (Or.inl hfind), by decide⟩

end KeyedContainers.MatchMap
