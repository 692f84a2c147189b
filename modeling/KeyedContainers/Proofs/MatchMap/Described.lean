import KeyedContainers.Proofs.MatchMap.Directory
import KeyedContainers.Proofs.MatchMap.Find

/-!
# Maps that a directory describes

Where only equal keys are related, a map is a finite map: every operation is carried out by the
directory of its keys with the same reply, and the handle of an entry is the name of its key. So it
is for texts under every hasher, and it makes no difference whether they are asked for by texts or
by slices of texts.
-/

namespace KeyedContainers

open MatchMap

/-- Two keys are related exactly when they are equal. -/
def Matching.IsEquality {K : Type} (M : Matching K) : Prop :=
  ∀ a b, M.related a b = true ↔ a = b

theorem Matching.IsEquality.isPartialEquivalence {K : Type} {M : Matching K}
    (hM : M.IsEquality) : M.IsPartialEquivalence where
  symm a b hab := (hM b a).mpr ((hM a b).mp hab).symm
  trans a b c hab hbc := (hM a c).mpr (((hM a b).mp hab).trans ((hM b c).mp hbc))

variable {K Q V : Type} [DecidableEq K]

/-- The keys of a directory are the stored keys of a map, with the same values, and a name of a key
is the handle that resolves to it. -/
structure Describes (M : Matching K) (m : MatchMap K V) (d : Directory K V) : Prop
    extends Regular M m where
  /-- A key has the name and the value that the handle resolves to. -/
  lookup_iff : ∀ k name v, d.table.lookup k = some (name, v) ↔ m.pair? name = some (k, v)
  /-- The names that were given are issued handles. -/
  issued : ∀ name ∈ d.issued, m.arena.Issued name

namespace Describes

variable {M : Matching K} {m m' : MatchMap K V} {d d' : Directory K V} {h : Handle} {k : K} {v : V}

theorem withCapacity (capacity : Nat) :
    Describes M (.withCapacity capacity : MatchMap K V) .empty where
  toRegular := regular_withCapacity capacity
  lookup_iff k name v := by
    rw [Directory.empty, Finmap.lookup_empty]
    simp [MatchMap.withCapacity, pair?, entry?]
  issued := by simp [Directory.empty]

/-- A key finds its name. -/
theorem find_eq (hD : Describes M m d) (hM : M.IsEquality) (k : K) :
    (m.find (M.query k)).value = d.name? k := by
  apply Option.ext
  intro h
  rw [hD.find_query_eq_some_iff hM.isPartialEquivalence, Directory.name?, Option.map_eq_some_iff]
  constructor
  · rintro ⟨⟨stored, v⟩, hpair, hrelated⟩
    obtain rfl := (hM stored k).mp hrelated
    exact ⟨(h, v), (hD.lookup_iff stored h v).mpr hpair, rfl⟩
  · rintro ⟨⟨name, v⟩, hlookup, rfl⟩
    exact ⟨(k, v), (hD.lookup_iff k name v).mp hlookup, (hM k k).mpr rfl⟩

/-- The handle that a key finds resolves to the key and its value. -/
private theorem bind_pair?_find (hD : Describes M m d) (hM : M.IsEquality) (k : K) :
    (m.find (M.query k)).value.bind m.pair? = (d.value? k).map fun v => (k, v) := by
  rw [hD.find_eq hM, Directory.name?, Directory.value?]
  cases hlookup : d.table.lookup k with
  | none => rfl
  | some entry => exact (hD.lookup_iff k entry.1 entry.2).mp hlookup

/-- A key has the same value in the directory and in the map. -/
theorem get?_eq (hD : Describes M m d) (hM : M.IsEquality) (k : K) :
    (m.get? (M.query k)).value = d.value? k := by
  have hvalue : m.value? = Option.map (·.2) ∘ m.pair? := funext (value?_eq_map_pair? m)
  rw [value_get?, hvalue, ← Option.map_bind, hD.bind_pair?_find hM, Option.map_map]
  exact Option.map_id'

/-- A key that is there and its name belong to each other. -/
theorem key_iff_name_of_lookup (hD : Describes M m d) (hlookup : d.table.lookup k = some (h, v))
    (other : K) (name : Handle) (w : V) (hother : d.table.lookup other = some (name, w)) :
    other = k ↔ name = h := by
  constructor
  · rintro rfl
    rw [hlookup] at hother
    cases hother
    rfl
  · rintro rfl
    have hpair := (hD.lookup_iff other name w).mp hother
    rw [(hD.lookup_iff k name v).mp hlookup] at hpair
    cases hpair
    rfl

/-- If one key gets or loses its value in the directory, and a handle that is its name or is new
gets or loses it in the map, then the directory still describes the map. -/
theorem rebind (hD : Describes M m d) (hM : M.IsPartialEquivalence) (hchanges : Changes M m m')
    (hbelong : ∀ other name w, d.table.lookup other = some (name, w) → (other = k ↔ name = h))
    (new : Option V) (hat : d'.table.lookup k = new.map fun v => (h, v))
    (hothers : ∀ other, other ≠ k → d'.table.lookup other = d.table.lookup other)
    (hpair : ∀ name, m'.pair? name = if name = h then new.map (fun v => (k, v)) else m.pair? name)
    (hissued : ∀ name ∈ d'.issued, name ∈ d.issued ∨ m'.arena.Issued name) :
    Describes M m' d' where
  toRegular := hD.toRegular.changes hM hchanges
  lookup_iff := by
    intro other name w
    have hold := hbelong other name w
    rw [hpair]
    -- Neither side holds where only one of the key and the handle is the changed one.
    by_cases hk : other = k
    · subst hk
      rw [hat]
      by_cases hname : name = h
      · subst hname
        rw [if_pos rfl]
        cases new <;> simp
      · have hno : d.table.lookup other ≠ some (name, w) := fun hl => hname ((hold hl).mp rfl)
        rw [if_neg hname, ← hD.lookup_iff]
        cases new <;> simp [hno, Ne.symm hname]
    · rw [hothers other hk]
      by_cases hname : name = h
      · subst hname
        have hno : d.table.lookup other ≠ some (name, w) := fun hl => hk ((hold hl).mpr rfl)
        rw [if_pos rfl]
        cases new <;> simp [hno, Ne.symm hk]
      · rw [if_neg hname, hD.lookup_iff]
  issued := hD.issued_of_changes hchanges hD.issued hissued

/-- Writing through the name of a key writes its value. -/
theorem exchange (hD : Describes M m d) (hM : M.IsEquality) (hname : d.name? k = some h) (v : V) :
    Describes M (m.exchange h v).2 (d.write k v) := by
  obtain ⟨⟨name, old⟩, hlookup, rfl⟩ := Option.map_eq_some_iff.mp hname
  have hpair := (hD.lookup_iff k name old).mp hlookup
  rw [Directory.write, hname]
  refine hD.rebind hM.isPartialEquivalence (changes_exchange m name v)
    (hD.key_iff_name_of_lookup hlookup) (some v) (Finmap.lookup_insert _)
    (fun other hother => Finmap.lookup_insert_of_ne _ hother) ?_ (fun _ => Or.inl)
  intro g
  rw [pair?_exchange, hpair]
  rfl

/-- Taking out the entry of a name takes out its key. -/
theorem removeHandle (hD : Describes M m d) (hM : M.IsEquality)
    (hlookup : d.table.lookup k = some (h, v)) :
    Describes M (m.removeHandle h).2 (d.erase k) :=
  hD.rebind hM.isPartialEquivalence (.single (.removeHandle m h))
    (hD.key_iff_name_of_lookup hlookup) none (Finmap.lookup_erase k _)
    (fun _ hother => Finmap.lookup_erase_ne hother) (pair?_removeHandle m h) (fun _ => Or.inl)

/-- Adding an entry for a key that is not there gives it the handle of the entry as its name. -/
theorem add (hD : Describes M m d) (hM : M.IsEquality) (hname : d.name? k = none) (v : V) :
    Describes M (m.add ⟨k, v, M.hash k⟩) (d.insert (m.freshHandle ⟨k, v, M.hash k⟩) k v) := by
  have hlookup : d.table.lookup k = none := Option.map_eq_none_iff.mp hname
  have hfresh := hD.pair?_fresh ⟨k, v, M.hash k⟩
  have hfind : (m.find (M.query k)).value = none := (hD.find_eq hM k).trans hname
  rw [Directory.insert, hname]
  refine hD.rebind hM.isPartialEquivalence (.single (.add m k v hfind)) ?_ (some v)
    (Finmap.lookup_insert _) (fun other hother => Finmap.lookup_insert_of_ne _ hother)
    (hD.pair?_add ⟨k, v, M.hash k⟩) ?_
  · intro other name w hother
    have hold := (hD.lookup_iff other name w).mp hother
    constructor
    · rintro rfl
      rw [hlookup] at hother
      cases hother
    · rintro rfl
      rw [hfresh] at hold
      cases hold
  · intro name hgiven
    rcases List.mem_cons.mp hgiven with rfl | hold
    · exact Or.inr (hD.issued_fresh _)
    · exact Or.inl hold

theorem clear (hD : Describes M m d) (hM : M.IsEquality) : Describes M m.clear d.clear where
  toRegular := hD.toRegular.changes hM.isPartialEquivalence (.single (.clear m))
  lookup_iff k name v := by
    rw [Directory.clear, Finmap.lookup_empty]
    simp [pair?]
  issued := hD.issued_of_changes (.single (.clear m)) hD.issued fun _ => Or.inl

/-- A write by key answers the old value and writes the value of the key. -/
theorem set (hD : Describes M m d) (hM : M.IsEquality) (k : K) (v : V) :
    (m.set (M.query k) v).value.1 = d.value? k ∧
      Describes M (m.set (M.query k) v).value.2 (d.write k v) := by
  rw [← hD.get?_eq hM, value_get?, value_set, hD.find_eq hM]
  cases hname : d.name? k with
  | none =>
    rw [Directory.write, hname]
    exact ⟨rfl, hD⟩
  | some h => exact ⟨rfl, hD.exchange hM hname v⟩

/-- A removal by key answers the key and its value and takes it out. -/
theorem remove (hD : Describes M m d) (hM : M.IsEquality) (k : K) :
    (m.remove (M.query k)).value.1 = (d.value? k).map (fun v => (k, v)) ∧
      Describes M (m.remove (M.query k)).value.2 (d.erase k) := by
  rw [← hD.bind_pair?_find hM, value_remove, hD.find_eq hM, Directory.name?]
  cases hlookup : d.table.lookup k with
  | none =>
    rw [Directory.erase_of_lookup_eq_none hlookup]
    exact ⟨rfl, hD⟩
  | some entry => exact ⟨removeHandle_fst m entry.1, hD.removeHandle hM hlookup⟩

/-- An insertion answers the old value of the key and writes the new one. -/
theorem insert (hD : Describes M m d) (hM : M.IsEquality) (k : K) (v : V) :
    ∃ name, name ∉ d.issued ∧ (m.insert M k v).value.1 = d.value? k ∧
      Describes M (m.insert M k v).value.2 (d.insert name k v) := by
  -- The fresh handle is the name at hand; it is given only if the key is not there.
  refine ⟨m.freshHandle ⟨k, v, M.hash k⟩,
    fun hold => Arena.lawful_handles.not_issued_fresh hD.sound _ (hD.issued _ hold), ?_⟩
  rw [← hD.get?_eq hM, value_get?, value_insert, hD.find_eq hM]
  cases hname : d.name? k with
  | none => exact ⟨rfl, hD.add hM hname v⟩
  | some h =>
    rw [Directory.insert, hname]
    exact ⟨rfl, hD.exchange hM hname v⟩

/-- Binding pairs is writing them in the directory. -/
theorem extend (hD : Describes M m d) (hM : M.IsEquality) (pairs : List (K × V)) :
    ∃ d', Directory.Extends d pairs d' ∧ Describes M (m.extend M pairs).value d' := by
  induction pairs generalizing m d with
  | nil => exact ⟨d, .nil d, hD⟩
  | cons pair pairs ih =>
    obtain ⟨name, hname, _, hfirst⟩ := hD.insert hM pair.1 pair.2
    obtain ⟨d', hrest, hlast⟩ := ih hfirst
    exact ⟨d', .cons name hname hrest, hlast⟩

/-- A removal by handle takes out the key of which it is the name, if there is one. -/
theorem performs_removeHandle (hD : Describes M m d) (hM : M.IsEquality) (h : Handle) :
    ∃ d', Directory.Performs d (.removeHandle h) (.entry (m.removeHandle h).1) d' ∧
      Describes M (m.removeHandle h).2 d' := by
  cases hpair : m.pair? h with
  | none =>
    have hget : m.arena.get? h = none := Option.map_eq_none_iff.mp hpair
    rw [removeHandle_of_stale hget]
    refine ⟨d, .removeStale ?_, hD⟩
    intro k hname
    obtain ⟨⟨name, v⟩, hlookup, rfl⟩ := Option.map_eq_some_iff.mp hname
    rw [(hD.lookup_iff k name v).mp hlookup] at hpair
    cases hpair
  | some pair =>
    have hlookup := (hD.lookup_iff pair.1 h pair.2).mpr hpair
    rw [removeHandle_fst, hpair]
    exact ⟨_, .removeHandle hlookup, hD.removeHandle hM hlookup⟩

variable [Listed K] [Listed V] {S : Setting K K}

/-- Every operation of the map is one of the directory, with the same reply. -/
theorem step (hD : Describes S.matching m d) (hM : S.matching.IsEquality)
    (hquery : S.query = S.matching.query) {s : Step K K V} (hs : Directory.records s = true) :
    ∃ d', Directory.Performs d s (m.step S s).value.1 d' ∧
      Describes S.matching (m.step S s).value.2 d' := by
  have hq : ∀ k, S.query k = S.matching.query k := congrFun hquery
  cases s with
  | insert k v =>
    obtain ⟨name, hname, hreply, hnext⟩ := hD.insert hM k v
    refine ⟨_, ?_, hnext⟩
    change Directory.Performs d _ (.value (m.insert S.matching k v).value.1) _
    rw [hreply]
    exact .insert k v name hname
  | extend pairs =>
    obtain ⟨d', hpairs, hnext⟩ := hD.extend hM pairs
    exact ⟨d', .extend hpairs, hnext⟩
  | contains k =>
    refine ⟨d, ?_, hD⟩
    change Directory.Performs d _ (.flag (m.find (S.query k)).value.isSome) _
    have hsome : (d.name? k).isSome = (d.value? k).isSome := by
      rw [Directory.name?, Directory.value?, Option.isSome_map, Option.isSome_map]
    rw [hq, hD.find_eq hM, hsome]
    exact .contains k
  | get k =>
    refine ⟨d, ?_, hD⟩
    change Directory.Performs d _ (.value (m.get? (S.query k)).value) _
    rw [hq, hD.get?_eq hM]
    exact .get k
  | set k v =>
    obtain ⟨hreply, hnext⟩ := hD.set hM k v
    rw [← hq] at hreply hnext
    refine ⟨_, ?_, hnext⟩
    change Directory.Performs d _ (.value (m.set (S.query k) v).value.1) _
    rw [hreply]
    exact .set k v
  | remove k =>
    obtain ⟨hreply, hnext⟩ := hD.remove hM k
    rw [← hq] at hreply hnext
    refine ⟨_, ?_, hnext⟩
    change Directory.Performs d _ (.entry (m.remove (S.query k)).value.1) _
    rw [hreply]
    exact .remove k
  | find k =>
    refine ⟨d, ?_, hD⟩
    change Directory.Performs d _ (.handle (m.find (S.query k)).value) _
    rw [hq, hD.find_eq hM]
    exact .find k
  | removeHandle h => exact hD.performs_removeHandle hM h
  | clear => exact ⟨d.clear, .clear, hD.clear hM⟩
  | _ => simp [Directory.records] at hs

/-- A directory explains every run of a map that it describes, whatever stands for the keys. -/
theorem explains (hD : Describes S.matching m d) (hM : S.matching.IsEquality)
    (hquery : S.query = S.matching.query) (key : Q → K) {steps : List (Step K Q V)}
    (hsteps : ∀ s ∈ steps, Directory.records s = true) :
    d.Explains (S.through key) key m steps := by
  induction steps generalizing m d with
  | nil => trivial
  | cons s steps ih =>
    obtain ⟨hs, hrest⟩ := List.forall_mem_cons.mp hsteps
    have hkeys : Directory.records (s.mapRequest key) = true := by
      cases s <;> exact hs
    obtain ⟨d', hperforms, hnext⟩ := hD.step hM hquery hkeys
    rw [← step_through] at hperforms hnext
    exact ⟨d', hperforms, ih hnext hrest⟩

end Describes

/-- Texts are related exactly when they are equal, under every hasher. -/
theorem Matching.isEquality_texts (hasher : Hasher) :
    (Setting.texts hasher).matching.IsEquality := by
  intro a b
  rw [Matching.related_eq_true_iff]
  constructor
  · rintro ⟨_, hagrees⟩
    exact beq_iff_eq.mp hagrees
  · rintro rfl
    exact ⟨rfl, beq_self_eq_true a⟩

/-- Under every hasher, a run on texts is one of a finite map from their characters: with the same
replies, whichever handles are used and however each text is asked for. Asked for in other ways,
the texts give the same replies, the same map after them and the same trace. -/
theorem Directory.explains_texts {V : Type} [Listed V] (hasher : Hasher) (capacity : Nat)
    (steps : List (Step String TextRequest V))
    (hsteps : ∀ s ∈ steps, Directory.records s = true) :
    let start : MatchMap String V := .withCapacity capacity
    (Directory.empty : Directory String V).Explains (.texts hasher) TextRequest.text start steps ∧
    ∀ steps' : List (Step String TextRequest V),
      steps'.map (Step.mapRequest TextRequest.text) = steps.map (Step.mapRequest TextRequest.text) →
      start.run (.texts hasher) steps' = start.run (.texts hasher) steps := by
  intro start
  have hM := Matching.isEquality_texts hasher
  rw [Setting.texts_eq_through] at hM ⊢
  refine ⟨(Describes.withCapacity capacity).explains hM rfl TextRequest.text hsteps, ?_⟩
  intro steps' hsame
  exact run_through_congr TextRequest.text _ start hsame

/-- Texts that all have one hash, asked for by texts and by slices: one of them is taken out by the
handle that was found for it, which is stale then, and is added again. -/
theorem Directory.explains_texts_constant :
    let S : Setting String TextRequest := .texts (.constant 7)
    let start : MatchMap String Bool := .withCapacity 0
    let steps (a b : TextRequest) : List (Step String TextRequest Bool) :=
      [.insert "a" true, .extend [("b", true), ("a", false)], .find a, .set b false,
        .removeHandle ⟨0, 1⟩, .removeHandle ⟨0, 1⟩, .insert "a" true, .contains a, .remove b]
    let mixed := steps (.slice "a".toSlice) (.whole "b")
    (Directory.empty : Directory String Bool).Explains S TextRequest.text start mixed ∧
      start.run S (steps (.whole "a") (.slice "b".toSlice)) = start.run S mixed := by
  intro S start steps mixed
  obtain ⟨hexplains, hsame⟩ :=
    Directory.explains_texts (V := Bool) (.constant 7) 0 mixed (by decide)
  exact ⟨hexplains, hsame _ (by simp [steps, mixed, Step.mapRequest, TextRequest.text])⟩

end KeyedContainers
