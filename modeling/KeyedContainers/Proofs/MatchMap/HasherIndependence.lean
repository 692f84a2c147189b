import KeyedContainers.Proofs.MatchMap.Report
import KeyedContainers.Proofs.MatchMap.Twin

/-!
# Independence of the hasher

Under one equivalence relation of the keys, two hash functions that are constant on its classes
cannot be told apart by the use of a map, even if one of them has the same hash for all keys. The
two maps are twins after every operation, so their replies, handles and listings are the same;
only the hash itself may show, in the report of a missing or of a replaced key.
-/

namespace KeyedContainers

variable {K V : Type}

/-- An event with the hash of a key left out. -/
def Event.withoutHash : Event → Event
  | .replacedValue _ => .replacedValue 0
  | event => event

namespace MatchMap

/-- A reply with the hash of a missing key left out. -/
def Reply.withoutHash : Reply K V → Reply K V
  | .lookup (.error _) => .lookup (.error ⟨0⟩)
  | .demanded (.error (.missingKey _)) => .demanded (.error (.missingKey ⟨0⟩))
  | reply => reply

/-- Whether an operation makes a conventional table, in which keys match by a hash of their
own. -/
def Step.tabulates {Q : Type} : Step K Q V → Bool
  | .conventional _ | .intoConventional _ => true
  | _ => false

namespace Twin

variable {M₁ M₂ : Matching K} {m₁ m₂ : MatchMap K V}

/-- Insertions into twins report the same but for the hash. -/
theorem events_insert (ht : Twin M₁ M₂ m₁ m₂) (hM : M₁.DifferInHash M₂) (k : K) (v : V) :
    (m₁.insert M₁ k v).trace.events.map Event.withoutHash =
      (m₂.insert M₂ k v).trace.events.map Event.withoutHash := by
  rw [MatchMap.events_insert, MatchMap.events_insert, ht.find_eq hM k]
  split <;> rfl

/-- Binding the same pairs reports the same but for hashes. -/
theorem events_extend (ht : Twin M₁ M₂ m₁ m₂) (hM : M₁.DifferInHash M₂)
    (pairs : List (K × V)) :
    (m₁.extend M₁ pairs).trace.events.map Event.withoutHash =
      (m₂.extend M₂ pairs).trace.events.map Event.withoutHash := by
  induction pairs generalizing m₁ m₂ with
  | nil => rfl
  | cons pair pairs ih =>
    rw [events_extend_cons, events_extend_cons, List.map_append, List.map_append,
      ht.events_insert hM, ih (ht.insert hM pair.1 pair.2).2]

variable [Listed K] [Listed V] {S₁ S₂ : Setting K K}

/-- An operation on twins reports the same but for hashes. -/
theorem events_step (ht : Twin S₁.matching S₂.matching m₁ m₂)
    (hM : S₁.matching.DifferInHash S₂.matching) (s : Step K K V) :
    (m₁.step S₁ s).trace.events.map Event.withoutHash =
      (m₂.step S₂ s).trace.events.map Event.withoutHash := by
  have hnew : Twin S₁.matching S₂.matching (empty : MatchMap K V) empty := withCapacity 0 0
  cases hreports : s.reports with
  | false => rw [events_step_eq_nil S₁ m₁ hreports, events_step_eq_nil S₂ m₂ hreports]
  | true =>
    cases s with
    | insert k v =>
      have hinsert := ht.events_insert hM k v
      simpa [step] using hinsert
    | extend pairs =>
      have hextend := ht.events_extend hM pairs
      simpa [step] using hextend
    | build pairs =>
      have hextend := hnew.events_extend hM pairs
      have hlength := (hnew.extend hM pairs).length_eq
      simp only [step, Traced.trace_bind, Traced.trace_pure, Trace.append_empty, events_ofPairs,
        List.map_append, hextend, hlength]
    | _ => simp [Step.reports] at hreports

/-- An operation leads from twins to twins. -/
theorem step (ht : Twin S₁.matching S₂.matching m₁ m₂)
    (hM : S₁.matching.DifferInHash S₂.matching) (hquery₁ : S₁.query = S₁.matching.query)
    (hquery₂ : S₂.query = S₂.matching.query) (s : Step K K V) :
    Twin S₁.matching S₂.matching (m₁.step S₁ s).value.2 (m₂.step S₂ s).value.2 := by
  have hnew : Twin S₁.matching S₂.matching (empty : MatchMap K V) empty := withCapacity 0 0
  cases s with
  | insert k v => exact (ht.insert hM k v).2
  | extend pairs => exact ht.extend hM pairs
  | build pairs => exact hnew.extend hM pairs
  | set k v =>
    have hset := (ht.set hM k v).2
    rw [← hquery₁, ← hquery₂] at hset
    exact hset
  | remove k =>
    have hremove := (ht.remove hM k).2
    rw [← hquery₁, ← hquery₂] at hremove
    exact hremove
  | exchange h v => exact ht.exchange hM h v
  | removeHandle h => exact ht.removeHandle hM h
  | clear => exact ht.clear hM
  | updateFirst limit f => exact ht.updateFirst hM limit f
  | intoConventional keys => exact hnew
  | contains | get | tryGet | demand | getKeyValue | find | keyOf | valueOf | size | entries
  | firstEntries | keys | values | inspect | conventional => exact ht

/-- An operation on twins has the same reply but for a hash. -/
theorem reply_step (ht : Twin S₁.matching S₂.matching m₁ m₂)
    (hM : S₁.matching.DifferInHash S₂.matching) (hquery₁ : S₁.query = S₁.matching.query)
    (hquery₂ : S₂.query = S₂.matching.query) {s : Step K K V} (hs : s.tabulates = false) :
    (m₁.step S₁ s).value.1.withoutHash = (m₂.step S₂ s).value.1.withoutHash := by
  have hpair : m₁.pair? = m₂.pair? := funext ht.pair?_eq
  have hvalue : m₁.value? = m₂.value? := funext ht.value?_eq
  have hfind : ∀ k, (m₁.find (S₁.query k)).value = (m₂.find (S₂.query k)).value := by
    intro k
    rw [hquery₁, hquery₂]
    exact ht.find_eq hM k
  have hget : ∀ k, (m₁.get? (S₁.query k)).value = (m₂.get? (S₂.query k)).value := by
    intro k
    rw [value_get?, value_get?, hfind, hvalue]
  cases s with
  | insert k v =>
    change Reply.withoutHash (.value (m₁.insert S₁.matching k v).value.1) = _
    rw [(ht.insert hM k v).1]
    rfl
  | extend | build | clear =>
    -- Comparing the two steps as they stand would unfold the maps after them.
    change Reply.withoutHash .done = Reply.withoutHash .done
    rfl
  | contains k =>
    change Reply.withoutHash (.flag (m₁.find (S₁.query k)).value.isSome) = _
    rw [hfind]
    rfl
  | get k =>
    change Reply.withoutHash (.value (m₁.get? (S₁.query k)).value) = _
    rw [hget]
    rfl
  | tryGet k =>
    change Reply.withoutHash (.lookup (m₁.tryGet (S₁.query k)).value) =
      Reply.withoutHash (.lookup (m₂.tryGet (S₂.query k)).value)
    rw [value_tryGet, value_tryGet, hget]
    cases (m₂.get? (S₂.query k)).value <;> rfl
  | demand k =>
    change Reply.withoutHash (.demanded ((m₁.tryGet (S₁.query k)).value.mapError _)) =
      Reply.withoutHash (.demanded ((m₂.tryGet (S₂.query k)).value.mapError _))
    rw [value_tryGet, value_tryGet, hget]
    cases (m₂.get? (S₂.query k)).value <;> rfl
  | getKeyValue k =>
    change Reply.withoutHash (.entry (m₁.getKeyValue? (S₁.query k)).value) =
      Reply.withoutHash (.entry (m₂.getKeyValue? (S₂.query k)).value)
    rw [value_getKeyValue?, value_getKeyValue?, hfind, hpair]
  | set k v =>
    have hset := (ht.set hM k v).1
    rw [← hquery₁, ← hquery₂] at hset
    change Reply.withoutHash (.value (m₁.set (S₁.query k) v).value.1) = _
    rw [hset]
    rfl
  | remove k =>
    have hremove := (ht.remove hM k).1
    rw [← hquery₁, ← hquery₂] at hremove
    change Reply.withoutHash (.entry (m₁.remove (S₁.query k)).value.1) = _
    rw [hremove]
    rfl
  | find k =>
    change Reply.withoutHash (.handle (m₁.find (S₁.query k)).value) = _
    rw [hfind]
    rfl
  | keyOf h =>
    change Reply.withoutHash (.key (m₁.key? h)) = _
    rw [ht.key?_eq]
    rfl
  | valueOf h | exchange h v =>
    change Reply.withoutHash (.value (m₁.value? h)) = _
    rw [ht.value?_eq]
    rfl
  | removeHandle h =>
    change Reply.withoutHash (.entry (m₁.removeHandle h).1) =
      Reply.withoutHash (.entry (m₂.removeHandle h).1)
    rw [removeHandle_fst, removeHandle_fst, hpair]
  | size =>
    change Reply.withoutHash (.size m₁.length (m₁.length == 0)) = _
    rw [ht.length_eq]
    rfl
  | updateFirst limit f =>
    change Reply.withoutHash (.left (limit.elim 0 (m₁.length - ·))) = _
    rw [ht.length_eq]
    rfl
  | entries =>
    change Reply.withoutHash (.entries m₁.toList) = _
    rw [ht.toList_eq]
    rfl
  | firstEntries n =>
    change Reply.withoutHash (.firstEntries (m₁.toList.take n) (m₁.length - n)) = _
    rw [ht.toList_eq, ht.length_eq]
    rfl
  | keys =>
    change Reply.withoutHash (.keys m₁.keys) = Reply.withoutHash (.keys m₂.keys)
    rw [keys_eq_map, keys_eq_map, ht.toList_eq]
  | values =>
    change Reply.withoutHash (.values m₁.values) = Reply.withoutHash (.values m₂.values)
    rw [values_eq_map, values_eq_map, ht.toList_eq]
  | inspect style =>
    have hlisting : Listed.listing m₁ = Listed.listing m₂ := by
      simp only [Listed.listing, ht.toList_eq]
    change Reply.withoutHash (.text ((Listed.listing m₁).render style)) = _
    rw [hlisting]
    rfl
  | conventional | intoConventional => simp [Step.tabulates] at hs

/-- A run on twins has the same replies and reports but for hashes, and ends in twins. -/
theorem run (ht : Twin S₁.matching S₂.matching m₁ m₂)
    (hM : S₁.matching.DifferInHash S₂.matching) (hquery₁ : S₁.query = S₁.matching.query)
    (hquery₂ : S₂.query = S₂.matching.query) {steps : List (Step K K V)}
    (hsteps : ∀ s ∈ steps, s.tabulates = false) :
    (m₁.replies S₁ steps).map Reply.withoutHash = (m₂.replies S₂ steps).map Reply.withoutHash ∧
      (m₁.run S₁ steps).trace.events.map Event.withoutHash =
        (m₂.run S₂ steps).trace.events.map Event.withoutHash ∧
      Twin S₁.matching S₂.matching (m₁.after S₁ steps) (m₂.after S₂ steps) := by
  induction steps generalizing m₁ m₂ with
  | nil => exact ⟨rfl, rfl, ht⟩
  | cons s steps ih =>
    obtain ⟨hs, hrest⟩ := List.forall_mem_cons.mp hsteps
    obtain ⟨hreplies, hevents, htwin⟩ := ih (ht.step hM hquery₁ hquery₂ s) hrest
    refine ⟨?_, ?_, htwin⟩
    · rw [replies_cons, replies_cons, List.map_cons, List.map_cons, hreplies,
        ht.reply_step hM hquery₁ hquery₂ hs]
    · rw [events_run_cons, events_run_cons, List.map_append, List.map_append, hevents,
        ht.events_step hM s]

end Twin

/-- Under an equivalence relation and two hash functions that agree with it, every run from an
empty map has the same replies and reports, up to the hash of a missing or replaced key, and ends
with the same keys and values in the same slots, at the same versions and with the same slots
free. -/
theorem hasher_independence [Listed K] [Listed V] (S₁ S₂ : Setting K K)
    (hquery₁ : S₁.query = S₁.matching.query) (hquery₂ : S₂.query = S₂.matching.query)
    (hM : S₁.matching.DifferInHash S₂.matching) (capacity₁ capacity₂ : Nat)
    (steps : List (Step K K V)) (hsteps : ∀ s ∈ steps, s.tabulates = false) :
    let first : MatchMap K V := .withCapacity capacity₁
    let second : MatchMap K V := .withCapacity capacity₂
    (first.replies S₁ steps).map Reply.withoutHash =
        (second.replies S₂ steps).map Reply.withoutHash ∧
      (first.run S₁ steps).trace.events.map Event.withoutHash =
        (second.run S₂ steps).trace.events.map Event.withoutHash ∧
      (first.after S₁ steps).toList = (second.after S₂ steps).toList ∧
      (first.after S₁ steps).unhashed = (second.after S₂ steps).unhashed := by
  intro first second
  obtain ⟨hreplies, hevents, htwin⟩ :=
    (Twin.withCapacity capacity₁ capacity₂).run hM hquery₁ hquery₂ hsteps
  exact ⟨hreplies, hevents, htwin.toList_eq, htwin.same⟩

/-- A map whose keys collide all together is used like one whose keys do not collide at all. -/
theorem hasher_independence_constant :
    let S₁ := Setting.standard Hasher.byteSum fun (a b : Bool) => !a || b
    let S₂ := Setting.standard (Hasher.constant 7) fun (a b : Bool) => !a || b
    let steps : List (Step Bool Bool Bool) := [.insert true false, .insert false true,
      .remove true, .tryGet true, .insert true true, .find true]
    let first : MatchMap Bool Bool := .withCapacity 0
    let second : MatchMap Bool Bool := .withCapacity 8
    S₁.matching.hash true ≠ S₁.matching.hash false ∧
      S₂.matching.hash true = S₂.matching.hash false ∧
      (first.replies S₁ steps).map Reply.withoutHash =
        (second.replies S₂ steps).map Reply.withoutHash ∧
      (first.after S₁ steps).toList = (second.after S₂ steps).toList ∧
      (second.after S₂ steps).toList = [(true, true), (false, true)] := by
  intro S₁ S₂ steps first second
  have hM : S₁.matching.DifferInHash S₂.matching :=
    ⟨rfl, ⟨by decide, by decide, by decide⟩, by decide, by decide⟩
  have hsame := hasher_independence S₁ S₂ rfl rfl hM 0 8 steps (by decide)
  exact ⟨by decide, by decide, hsame.1, hsame.2.2.1, by decide⟩

end MatchMap

end KeyedContainers
