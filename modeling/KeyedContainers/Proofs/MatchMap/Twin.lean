import KeyedContainers.Proofs.Arena.Map
import KeyedContainers.Proofs.MatchMap.Find

/-!
# Maps that differ in hashes only

Two maps are twins when they have the same keys and values in the same slots, at the same
versions and with the same slots free; the hashes kept with the entries and the index may differ.
Where the keys match by one equivalence relation and its classes have one hash each, twins find
the same handle for every key, and every operation leads from twins to twins.
-/

namespace KeyedContainers

variable {K V : Type}

/-- Two matchings have the same relation, an equivalence, and equal hashes, each of its own, for
keys that it relates. -/
structure Matching.DifferInHash (M₁ M₂ : Matching K) : Prop where
  agrees_eq : M₁.agrees = M₂.agrees
  equivalence : Equivalence fun a b => M₁.agrees a b = true
  hash_first : ∀ a b, M₁.agrees a b = true → M₁.hash a = M₁.hash b
  hash_second : ∀ a b, M₂.agrees a b = true → M₂.hash a = M₂.hash b

namespace Matching

variable {M₁ M₂ : Matching K}

theorem DifferInHash.symm (hM : M₁.DifferInHash M₂) : M₂.DifferInHash M₁ where
  agrees_eq := hM.agrees_eq.symm
  equivalence := hM.agrees_eq ▸ hM.equivalence
  hash_first := hM.hash_second
  hash_second := hM.hash_first

/-- Keys are related exactly when they agree. -/
theorem DifferInHash.related_iff (hM : M₁.DifferInHash M₂) {stored q : K} :
    M₁.related stored q = true ↔ M₁.agrees stored q = true := by
  rw [related_eq_true_iff]
  constructor
  · exact And.right
  · intro hagrees
    exact ⟨hM.hash_first stored q hagrees, hagrees⟩

theorem DifferInHash.isPartialEquivalence (hM : M₁.DifferInHash M₂) :
    M₁.IsPartialEquivalence where
  symm := by
    intro a b hab
    rw [hM.related_iff] at hab ⊢
    exact hM.equivalence.symm hab
  trans := by
    intro a b c hab hbc
    rw [hM.related_iff] at hab hbc ⊢
    exact hM.equivalence.trans hab hbc

end Matching

namespace MatchMap

/-- The arena of a map with the keys and values only. -/
def unhashed (m : MatchMap K V) : Arena (K × V) :=
  m.arena.map fun entry => (entry.key, entry.value)

theorem get?_unhashed (m : MatchMap K V) (h : Handle) : m.unhashed.get? h = m.pair? h :=
  Arena.get?_map _ m.arena h

theorem handles_unhashed (m : MatchMap K V) : m.unhashed.handles = m.arena.handles :=
  Arena.handles_map _ m.arena

theorem contents_unhashed (m : MatchMap K V) : m.unhashed.contents = m.toList :=
  Arena.contents_map _ m.arena

theorem unhashed_amend (m : MatchMap K V) (h : Handle) (f : K → V → V) :
    unhashed (m.amend h f) = m.unhashed.modify h fun pair => (pair.1, f pair.1 pair.2) := by
  have hseen : ∀ entry : Entry K V,
      (fun e : Entry K V => (e.key, e.value)) { entry with value := f entry.key entry.value } =
        (fun pair : K × V => (pair.1, f pair.1 pair.2)) (entry.key, entry.value) :=
    fun _ => rfl
  exact Arena.modify_map hseen m.arena h

theorem unhashed_removeHandle (m : MatchMap K V) (h : Handle) :
    unhashed (m.removeHandle h).2 = (m.unhashed.remove h).2 := by
  rw [unhashed, arena_removeHandle, unhashed, Arena.remove_map]

theorem unhashed_add (m : MatchMap K V) (entry : Entry K V) :
    unhashed (m.add entry) = (m.unhashed.insert (entry.key, entry.value)).2 := by
  rw [unhashed, arena_add, unhashed, Arena.insert_map (fun e : Entry K V => (e.key, e.value))]

theorem unhashed_clear (m : MatchMap K V) : m.clear.unhashed = m.unhashed.clear :=
  Arena.clear_map _ m.arena

/-- Changing the first values depends on the keys and values only. -/
theorem unhashed_updateFirst (m : MatchMap K V) (limit : Option Nat) (f : Nat → K → V → V) :
    unhashed (m.updateFirst limit f) =
      (limit.elim m.unhashed.handles m.unhashed.handles.take).zipIdx.foldl
        (fun a h => a.modify h.1 fun pair => (pair.1, f h.2 pair.1 pair.2)) m.unhashed := by
  rw [updateFirst_eq_foldl, handles_unhashed]
  generalize (limit.elim m.arena.handles m.arena.handles.take).zipIdx = handles
  induction handles generalizing m with
  | nil => rfl
  | cons h handles ih =>
    rw [List.foldl_cons, List.foldl_cons, ih, unhashed_amend]

/-- Two regular maps with the same keys and values in the same slots. -/
structure Twin (M₁ M₂ : Matching K) (m₁ m₂ : MatchMap K V) : Prop where
  first : Regular M₁ m₁
  second : Regular M₂ m₂
  same : m₁.unhashed = m₂.unhashed

namespace Twin

variable {M₁ M₂ : Matching K} {m₁ m₂ m₁' m₂' : MatchMap K V}

theorem withCapacity (c₁ c₂ : Nat) :
    Twin M₁ M₂ (.withCapacity c₁ : MatchMap K V) (.withCapacity c₂) :=
  ⟨regular_withCapacity c₁, regular_withCapacity c₂, rfl⟩

/-- Handles resolve to the same keys and values in both. -/
theorem pair?_eq (ht : Twin M₁ M₂ m₁ m₂) (h : Handle) : m₁.pair? h = m₂.pair? h := by
  rw [← get?_unhashed, ← get?_unhashed, ht.same]

theorem key?_eq (ht : Twin M₁ M₂ m₁ m₂) (h : Handle) : m₁.key? h = m₂.key? h := by
  rw [key?_eq_map_pair?, key?_eq_map_pair?, ht.pair?_eq]

theorem value?_eq (ht : Twin M₁ M₂ m₁ m₂) (h : Handle) : m₁.value? h = m₂.value? h := by
  rw [value?_eq_map_pair?, value?_eq_map_pair?, ht.pair?_eq]

/-- Both have the same entries in the same order. -/
theorem toList_eq (ht : Twin M₁ M₂ m₁ m₂) : m₁.toList = m₂.toList := by
  rw [← contents_unhashed, ← contents_unhashed, ht.same]

theorem length_eq (ht : Twin M₁ M₂ m₁ m₂) : m₁.length = m₂.length := by
  rw [ht.first.length_toList, ht.second.length_toList, ht.toList_eq]

/-- A key finds the same handle in both: only one entry can match it, and which one it is does not
depend on hashes. -/
theorem find_eq (ht : Twin M₁ M₂ m₁ m₂) (hM : M₁.DifferInHash M₂) (k : K) :
    (m₁.find (M₁.query k)).value = (m₂.find (M₂.query k)).value := by
  ext h
  rw [ht.first.find_query_eq_some_iff hM.isPartialEquivalence,
    ht.second.find_query_eq_some_iff hM.symm.isPartialEquivalence, ht.pair?_eq h]
  simp only [hM.related_iff, hM.symm.related_iff, hM.agrees_eq]

/-- Chains of changes that end with the same keys and values in the same slots keep twins. -/
theorem changes (ht : Twin M₁ M₂ m₁ m₂) (hM : M₁.DifferInHash M₂) (h₁ : Changes M₁ m₁ m₁')
    (h₂ : Changes M₂ m₂ m₂') (hsame : m₁'.unhashed = m₂'.unhashed) : Twin M₁ M₂ m₁' m₂' :=
  ⟨ht.first.changes hM.isPartialEquivalence h₁, ht.second.changes hM.symm.isPartialEquivalence h₂,
    hsame⟩

theorem exchange (ht : Twin M₁ M₂ m₁ m₂) (hM : M₁.DifferInHash M₂) (h : Handle) (v : V) :
    Twin M₁ M₂ (m₁.exchange h v).2 (m₂.exchange h v).2 := by
  refine ht.changes hM (changes_exchange m₁ h v) (changes_exchange m₂ h v) ?_
  have h₁ := unhashed_amend m₁ h fun _ _ => v
  have h₂ := unhashed_amend m₂ h fun _ _ => v
  rw [ht.same] at h₁
  exact h₁.trans h₂.symm

theorem removeHandle (ht : Twin M₁ M₂ m₁ m₂) (hM : M₁.DifferInHash M₂) (h : Handle) :
    Twin M₁ M₂ (m₁.removeHandle h).2 (m₂.removeHandle h).2 := by
  refine ht.changes hM (.single (.removeHandle m₁ h)) (.single (.removeHandle m₂ h)) ?_
  rw [unhashed_removeHandle, unhashed_removeHandle, ht.same]

theorem clear (ht : Twin M₁ M₂ m₁ m₂) (hM : M₁.DifferInHash M₂) :
    Twin M₁ M₂ m₁.clear m₂.clear := by
  refine ht.changes hM (.single (.clear m₁)) (.single (.clear m₂)) ?_
  rw [unhashed_clear, unhashed_clear, ht.same]

theorem updateFirst (ht : Twin M₁ M₂ m₁ m₂) (hM : M₁.DifferInHash M₂) (limit : Option Nat)
    (f : Nat → K → V → V) :
    Twin M₁ M₂ (m₁.updateFirst limit f) (m₂.updateFirst limit f) := by
  refine ht.changes hM (changes_updateFirst m₁ limit f) (changes_updateFirst m₂ limit f) ?_
  rw [unhashed_updateFirst, unhashed_updateFirst, ht.same]

/-- A key that matches no entry of either is added to both under the same handle. -/
theorem add (ht : Twin M₁ M₂ m₁ m₂) (hM : M₁.DifferInHash M₂) {k : K} (v : V)
    (hnone₁ : (m₁.find (M₁.query k)).value = none)
    (hnone₂ : (m₂.find (M₂.query k)).value = none) :
    Twin M₁ M₂ (m₁.add ⟨k, v, M₁.hash k⟩) (m₂.add ⟨k, v, M₂.hash k⟩) := by
  refine ht.changes hM (.single (.add m₁ k v hnone₁)) (.single (.add m₂ k v hnone₂)) ?_
  rw [unhashed_add, unhashed_add, ht.same]

/-- Insertions answer the same and keep twins. -/
theorem insert (ht : Twin M₁ M₂ m₁ m₂) (hM : M₁.DifferInHash M₂) (k : K) (v : V) :
    (m₁.insert M₁ k v).value.1 = (m₂.insert M₂ k v).value.1 ∧
      Twin M₁ M₂ (m₁.insert M₁ k v).value.2 (m₂.insert M₂ k v).value.2 := by
  have hfind := ht.find_eq hM k
  rw [value_insert, value_insert]
  cases hfirst : (m₁.find (M₁.query k)).value with
  | some h =>
    rw [← hfind, hfirst]
    exact ⟨ht.value?_eq h, ht.exchange hM h v⟩
  | none =>
    rw [← hfind, hfirst]
    exact ⟨rfl, ht.add hM v hfirst (hfind ▸ hfirst)⟩

/-- Writes by key answer the same and keep twins. -/
theorem set (ht : Twin M₁ M₂ m₁ m₂) (hM : M₁.DifferInHash M₂) (k : K) (v : V) :
    (m₁.set (M₁.query k) v).value.1 = (m₂.set (M₂.query k) v).value.1 ∧
      Twin M₁ M₂ (m₁.set (M₁.query k) v).value.2 (m₂.set (M₂.query k) v).value.2 := by
  rw [value_set, value_set, ht.find_eq hM k]
  cases (m₂.find (M₂.query k)).value with
  | some h => exact ⟨ht.value?_eq h, ht.exchange hM h v⟩
  | none => exact ⟨rfl, ht⟩

/-- Removals by key answer the same and keep twins. -/
theorem remove (ht : Twin M₁ M₂ m₁ m₂) (hM : M₁.DifferInHash M₂) (k : K) :
    (m₁.remove (M₁.query k)).value.1 = (m₂.remove (M₂.query k)).value.1 ∧
      Twin M₁ M₂ (m₁.remove (M₁.query k)).value.2 (m₂.remove (M₂.query k)).value.2 := by
  rw [value_remove, value_remove, ht.find_eq hM k]
  cases (m₂.find (M₂.query k)).value with
  | some h =>
    refine ⟨?_, ht.removeHandle hM h⟩
    rw [removeHandle_fst, removeHandle_fst, ht.pair?_eq]
  | none => exact ⟨rfl, ht⟩

/-- Binding the same pairs keeps twins. -/
theorem extend (ht : Twin M₁ M₂ m₁ m₂) (hM : M₁.DifferInHash M₂) (pairs : List (K × V)) :
    Twin M₁ M₂ (m₁.extend M₁ pairs).value (m₂.extend M₂ pairs).value := by
  induction pairs generalizing m₁ m₂ with
  | nil => exact ht
  | cons pair pairs ih => exact ih (ht.insert hM pair.1 pair.2).2

end Twin

end MatchMap

end KeyedContainers
