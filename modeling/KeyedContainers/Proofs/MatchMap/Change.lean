import KeyedContainers.MatchMap.Step
import Mathlib.Logic.Relation

/-!
# Elementary changes of a map

Whatever an operation does to a map is a chain of four elementary changes: the value of an entry
is amended, an entry is added for a key that matches none, the entry of a handle is taken out,
or all entries are. Only two operations, which put another map in its place, start such a chain
from an empty map. So a property that the elementary changes keep holds after every run.
-/

namespace KeyedContainers.MatchMap

open Relation

variable {K Q V : Type}

/-- The map after a list of operations. -/
def after [Listed K] [Listed V] (S : Setting K Q) (m : MatchMap K V)
    (steps : List (Step K Q V)) : MatchMap K V :=
  (m.run S steps).value.2

/-- The replies to a list of operations. -/
def replies [Listed K] [Listed V] (S : Setting K Q) (m : MatchMap K V)
    (steps : List (Step K Q V)) : List (Reply K V) :=
  (m.run S steps).value.1

section Runs

variable [Listed K] [Listed V] (S : Setting K Q) (m : MatchMap K V)

@[simp] theorem after_cons (s : Step K Q V) (steps : List (Step K Q V)) :
    m.after S (s :: steps) = (m.step S s).value.2.after S steps := rfl

@[simp] theorem replies_cons (s : Step K Q V) (steps : List (Step K Q V)) :
    m.replies S (s :: steps) =
      (m.step S s).value.1 :: (m.step S s).value.2.replies S steps := rfl

end Runs

/-- An insertion exchanges the value of the matching entry or adds an entry. -/
theorem value_insert (M : Matching K) (m : MatchMap K V) (k : K) (v : V) :
    (m.insert M k v).value =
      match (m.find (M.query k)).value with
      | some h => m.exchange h v
      | none => (none, m.add ⟨k, v, M.hash k⟩) := by
  unfold insert
  rw [Traced.value_bind]
  cases (m.find (M.query k)).value <;> rfl

/-- An insertion of a key that finds nothing answers nothing and adds the entry. -/
theorem value_insert_of_find_none {M : Matching K} {m : MatchMap K V} {k : K}
    (hnone : (m.find (M.query k)).value = none) (v : V) :
    (m.insert M k v).value = (none, m.add ⟨k, v, M.hash k⟩) := by
  rw [value_insert, hnone]

/-- Binding pairs binds the first and then the others. -/
theorem value_extend_cons (M : Matching K) (m : MatchMap K V) (pair : K × V)
    (pairs : List (K × V)) :
    (m.extend M (pair :: pairs)).value =
      ((m.insert M pair.1 pair.2).value.2.extend M pairs).value := rfl

/-- A look-up of a value reads the matching entry. -/
theorem value_get? (m : MatchMap K V) (q : Query K) :
    (m.get? q).value = (m.find q).value.bind m.value? := rfl

/-- A look-up that can fail reports the hash of the query. -/
theorem value_tryGet (m : MatchMap K V) (q : Query K) :
    (m.tryGet q).value =
      match (m.get? q).value with
      | some v => .ok v
      | none => .error ⟨q.hash⟩ := by
  unfold tryGet
  rw [Traced.value_bind]
  cases (m.get? q).value <;> rfl

/-- A write by query exchanges the value of the matching entry. -/
theorem value_set (m : MatchMap K V) (q : Query K) (v : V) :
    (m.set q v).value =
      match (m.find q).value with
      | none => (none, m)
      | some h => m.exchange h v := by
  unfold set
  rw [Traced.value_bind]
  cases (m.find q).value <;> rfl

/-- A removal by query removes the matching entry by its handle. -/
theorem value_remove (m : MatchMap K V) (q : Query K) :
    (m.remove q).value =
      match (m.find q).value with
      | none => (none, m)
      | some h => m.removeHandle h := by
  unfold remove
  rw [Traced.value_bind]
  cases (m.find q).value <;> rfl

/-- A removal by a query that finds an entry is the removal by its handle. -/
theorem value_remove_of_find {m : MatchMap K V} {q : Query K} {h : Handle}
    (hfind : (m.find q).value = some h) :
    (m.remove q).value = m.removeHandle h := by
  rw [value_remove, hfind]

/-- The map with the value of a handle amended by its key and its old value. -/
def amend (m : MatchMap K V) (h : Handle) (f : K → V → V) : MatchMap K V :=
  { m with arena := m.arena.modify h fun entry => { entry with value := f entry.key entry.value } }

/-- Writing a value amends it without regard to the old one. -/
theorem setValue_eq_amend (m : MatchMap K V) (h : Handle) (v : V) :
    m.setValue h v = m.amend h fun _ _ => v := rfl

/-- Changing the first values amends them one after another. -/
theorem updateFirst_eq_foldl (m : MatchMap K V) (limit : Option Nat) (f : Nat → K → V → V) :
    m.updateFirst limit f =
      (limit.elim m.arena.handles m.arena.handles.take).zipIdx.foldl
        (fun m h => m.amend h.1 (f h.2)) m := by
  simp only [updateFirst]
  generalize (limit.elim m.arena.handles m.arena.handles.take).zipIdx = handles
  induction handles generalizing m with
  | nil => rfl
  | cons h handles ih => exact ih (m.amend h.1 (f h.2))

/-- What amendments keep is kept when the first values are changed. -/
theorem updateFirst_induction {P : MatchMap K V → Prop}
    (hamend : ∀ m h (f : K → V → V), P m → P (m.amend h f)) {m : MatchMap K V} (hm : P m)
    (limit : Option Nat) (f : Nat → K → V → V) : P (m.updateFirst limit f) := by
  rw [updateFirst_eq_foldl]
  generalize (limit.elim m.arena.handles m.arena.handles.take).zipIdx = handles
  induction handles generalizing m with
  | nil => exact hm
  | cons h handles ih => exact ih (hamend m h.1 (f h.2) hm)

/-- One elementary change of a map. -/
inductive Change (M : Matching K) : MatchMap K V → MatchMap K V → Prop
  /-- The value of an entry is amended. -/
  | amend (m : MatchMap K V) (h : Handle) (f : K → V → V) : Change M m (m.amend h f)
  /-- An entry is added for a key that matches none. -/
  | add (m : MatchMap K V) (k : K) (v : V) (hnone : (m.find (M.query k)).value = none) :
      Change M m (m.add ⟨k, v, M.hash k⟩)
  /-- The entry of a handle is taken out. -/
  | removeHandle (m : MatchMap K V) (h : Handle) : Change M m (m.removeHandle h).2
  /-- All entries are taken out. -/
  | clear (m : MatchMap K V) : Change M m m.clear

/-- A chain of elementary changes. -/
abbrev Changes (M : Matching K) : MatchMap K V → MatchMap K V → Prop := ReflTransGen (Change M)

variable {M : Matching K} {S : Setting K Q}

theorem changes_exchange (m : MatchMap K V) (h : Handle) (v : V) :
    Changes M m (m.exchange h v).2 :=
  .single (.amend m h fun _ _ => v)

theorem changes_insert (m : MatchMap K V) (k : K) (v : V) :
    Changes M m (m.insert M k v).value.2 := by
  rw [value_insert]
  cases hfind : (m.find (M.query k)).value with
  | some h => exact changes_exchange m h v
  | none => exact .single (.add m k v hfind)

theorem changes_extend (m : MatchMap K V) (pairs : List (K × V)) :
    Changes M m (m.extend M pairs).value := by
  induction pairs generalizing m with
  | nil => exact .refl
  | cons pair pairs ih => exact (changes_insert m pair.1 pair.2).trans (ih _)

theorem changes_set (m : MatchMap K V) (q : Query K) (v : V) :
    Changes M m (m.set q v).value.2 := by
  rw [value_set]
  cases (m.find q).value with
  | none => exact .refl
  | some h => exact changes_exchange m h v

theorem changes_remove (m : MatchMap K V) (q : Query K) :
    Changes M m (m.remove q).value.2 := by
  rw [value_remove]
  cases (m.find q).value with
  | none => exact .refl
  | some h => exact .single (.removeHandle m h)

theorem changes_updateFirst (m : MatchMap K V) (limit : Option Nat) (f : Nat → K → V → V) :
    Changes M m (m.updateFirst limit f) :=
  updateFirst_induction (fun m' h g hm' => hm'.tail (.amend m' h g)) .refl limit f

/-- What the elementary changes keep lasts through a chain of them. -/
theorem changes_induction {P : MatchMap K V → Prop}
    (hchange : ∀ {m m'}, Change M m m' → P m → P m') {m m' : MatchMap K V}
    (hchanges : Changes M m m') (hm : P m) : P m' := by
  induction hchanges with
  | refl => exact hm
  | tail _ hstep ih => exact hchange hstep ih

/-- Whether an operation works on the map that is there, and puts no other in its place. -/
def Step.stays : Step K Q V → Bool
  | .build _ | .intoConventional _ => false
  | _ => true

variable [Listed K] [Listed V]

/-- An operation on the map that is there is a chain of elementary changes. -/
theorem step_changes (m : MatchMap K V) {s : Step K Q V} (hstays : s.stays = true) :
    Changes S.matching m (m.step S s).value.2 := by
  cases s with
  | insert k v => exact changes_insert m k v
  | extend pairs => exact changes_extend m pairs
  | build pairs => simp [Step.stays] at hstays
  | set q v => exact changes_set m (S.query q) v
  | remove q => exact changes_remove m (S.query q)
  | exchange h v => exact changes_exchange m h v
  | removeHandle h => exact .single (.removeHandle m h)
  | clear => exact .single (.clear m)
  | updateFirst limit f => exact changes_updateFirst m limit f
  | intoConventional keys => simp [Step.stays] at hstays
  | contains | get | tryGet | demand | getKeyValue | find | keyOf | valueOf | size | entries
  | firstEntries | keys | values | inspect | conventional => exact .refl

/-- A run on the map that is there is a chain of elementary changes. -/
theorem after_changes (m : MatchMap K V) {steps : List (Step K Q V)}
    (hstays : ∀ s ∈ steps, s.stays = true) : Changes S.matching m (m.after S steps) := by
  induction steps generalizing m with
  | nil => exact .refl
  | cons s steps ih =>
    obtain ⟨hs, hrest⟩ := List.forall_mem_cons.mp hstays
    exact (step_changes m hs).trans (ih _ hrest)

/-- What the elementary changes keep, and an empty map has, holds after every operation. -/
theorem step_induction {P : MatchMap K V → Prop} (hempty : P empty)
    (hchange : ∀ {m m'}, Change S.matching m m' → P m → P m') {m : MatchMap K V} (hm : P m)
    (s : Step K Q V) : P (m.step S s).value.2 := by
  cases hstays : s.stays with
  | true => exact changes_induction hchange (step_changes m hstays) hm
  | false =>
    cases s with
    | build pairs => exact changes_induction hchange (changes_extend empty pairs) hempty
    | intoConventional keys => exact hempty
    | _ => simp [Step.stays] at hstays

/-- What the elementary changes keep, and an empty map has, holds after every run. -/
theorem after_induction {P : MatchMap K V → Prop} (hempty : P empty)
    (hchange : ∀ {m m'}, Change S.matching m m' → P m → P m') {m : MatchMap K V} (hm : P m)
    (steps : List (Step K Q V)) : P (m.after S steps) := by
  induction steps generalizing m with
  | nil => exact hm
  | cons s steps ih => exact ih (step_induction hempty hchange hm s)

end KeyedContainers.MatchMap
