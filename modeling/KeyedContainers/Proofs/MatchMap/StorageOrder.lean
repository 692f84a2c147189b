import KeyedContainers.Proofs.Arena.Refill
import KeyedContainers.Proofs.MatchMap.Find

/-!
# The storage order of maps that are filled and cleared

As long as no single entry is taken out, the order in which a map stores its entries is known from
the operations alone. After a clearing the slots of the map are taken again from the last to
the first, and only then new ones are made. So the first keys that are bound after a clearing are
stored in reverse, as many as there are slots, and all later keys behind them in the order in
which they were bound. It is the order of insertion exactly if at most one slot is taken again.
-/

namespace KeyedContainers

variable {K Q V : Type}

/-- Without repeated elements, a list is its own reverse only if it has at most one. -/
private theorem reverse_eq_self_iff {α : Type} {l : List α} (hnodup : l.Nodup) :
    l.reverse = l ↔ l.length ≤ 1 := by
  constructor
  · intro hreverse
    by_contra hlong
    -- The first element is also the last one, so it stands at two positions of the list.
    have hends : l[0]? = l[l.length - 1]? := by
      conv_lhs => rw [← hreverse]
      rw [List.getElem?_reverse (by omega), Nat.sub_zero]
    have hlast : 0 < l.length := by omega
    have hsame := (List.getElem?_inj hlast hnodup).mp hends
    omega
  · intro hshort
    match l, hshort with
    | [], _ => rfl
    | [_], _ => rfl

/-- The keys that were bound since the last clearing, and how many slots there were before it. -/
structure Filling (K : Type) where
  /-- The greatest number of keys that were ever bound together before the last clearing. -/
  recycled : Nat
  /-- The keys bound since, each when no key bound before was related to it. -/
  keys : List K

namespace Filling

/-- Nothing was bound and nothing cleared. -/
def empty : Filling K := ⟨0, []⟩

/-- Binds a key, unless one of the keys is related to it. -/
def bind (M : Matching K) (f : Filling K) (k : K) : Filling K :=
  if f.keys.any fun key => M.related key k then f else { f with keys := f.keys ++ [k] }

/-- Takes out all keys. -/
def clear (f : Filling K) : Filling K := ⟨max f.recycled f.keys.length, []⟩

/-- What an operation binds or clears. -/
def follow (M : Matching K) (f : Filling K) : MatchMap.Step K Q V → Filling K
  | .insert k _ => f.bind M k
  | .extend pairs => pairs.foldl (fun f pair => f.bind M pair.1) f
  | .clear => f.clear
  | _ => f

/-- The keys in the order of their slots: first those that have taken slots again, the last taken
first, and then those that have new ones. -/
def stored (f : Filling K) : List K :=
  (f.keys.take f.recycled).reverse ++ f.keys.drop f.recycled

variable {f : Filling K}

theorem perm_stored (f : Filling K) : f.stored.Perm f.keys := by
  have hsplit := (List.reverse_perm (f.keys.take f.recycled)).append_right (f.keys.drop f.recycled)
  rwa [List.take_append_drop] at hsplit

/-- A key that takes a slot again comes first. -/
theorem stored_of_lt (hlt : f.keys.length < f.recycled) (k : K) :
    stored { f with keys := f.keys ++ [k] } = k :: f.stored := by
  have hall : (f.keys ++ [k]).length ≤ f.recycled := by
    rw [List.length_append, List.length_singleton]
    omega
  simp only [stored]
  rw [List.take_of_length_le hall, List.drop_of_length_le hall,
    List.take_of_length_le (Nat.le_of_lt hlt), List.drop_of_length_le (Nat.le_of_lt hlt),
    List.reverse_concat, List.cons_append]

/-- A key that has a new slot comes last. -/
theorem stored_of_le (hle : f.recycled ≤ f.keys.length) (k : K) :
    stored { f with keys := f.keys ++ [k] } = f.stored ++ [k] := by
  simp only [stored]
  rw [List.take_append_of_le_length hle, List.drop_append_of_le_length hle, List.append_assoc]

/-- Keys are stored in the order in which they were bound exactly if at most one slot was taken
again. -/
theorem stored_eq_keys_iff (hnodup : f.keys.Nodup) :
    f.stored = f.keys ↔ min f.recycled f.keys.length ≤ 1 := by
  have htaken : (f.keys.take f.recycled).Nodup := hnodup.sublist (List.take_sublist _ _)
  calc
    f.stored = f.keys ↔ f.stored = f.keys.take f.recycled ++ f.keys.drop f.recycled := by
      rw [List.take_append_drop]
    _ ↔ (f.keys.take f.recycled).reverse = f.keys.take f.recycled := List.append_left_inj _
    _ ↔ (f.keys.take f.recycled).length ≤ 1 := reverse_eq_self_iff htaken
    _ ↔ min f.recycled f.keys.length ≤ 1 := by rw [List.length_take]

@[simp] theorem recycled_bind (M : Matching K) (f : Filling K) (k : K) :
    (f.bind M k).recycled = f.recycled := by
  unfold bind
  split <;> rfl

/-- Only a clearing lets slots be taken again. -/
theorem recycled_follow (M : Matching K) (f : Filling K) {s : MatchMap.Step K Q V}
    (hs : s ≠ .clear) : (f.follow M s).recycled = f.recycled := by
  cases s with
  | insert k v => exact recycled_bind M f k
  | extend pairs =>
    induction pairs generalizing f with
    | nil => rfl
    | cons pair pairs ih =>
      have hrest := ih (f.bind M pair.1) (by simp)
      rw [recycled_bind] at hrest
      exact hrest
  | clear => exact absurd rfl hs
  | _ => rfl

theorem recycled_foldl_follow (M : Matching K) (f : Filling K) {steps : List (MatchMap.Step K Q V)}
    (hsteps : ∀ s ∈ steps, s ≠ .clear) : (steps.foldl (follow M) f).recycled = f.recycled := by
  induction steps generalizing f with
  | nil => rfl
  | cons s steps ih =>
    obtain ⟨hs, hrest⟩ := List.forall_mem_cons.mp hsteps
    rw [List.foldl_cons, ih _ hrest, recycled_follow M f hs]

end Filling

namespace MatchMap

/-- Whether an operation takes out no single entry and puts no other map in the place of the map
that is there. -/
def Step.fills : Step K Q V → Bool
  | .remove _ | .removeHandle _ | .build _ | .intoConventional _ => false
  | _ => true

/-- A map has the keys of a filling in the order of their slots. -/
structure Fills (M : Matching K) (m : MatchMap K V) (f : Filling K) : Prop
    extends Coherent M m where
  /-- The free slots are the first ones, which the keys have not taken again yet. -/
  refilled : m.arena.Refilled (f.recycled - f.keys.length)
  size_eq : m.arena.slots.size = max f.recycled f.keys.length
  keys_eq : m.keys = f.stored
  /-- No key was bound after one that is related to it. -/
  unrelated : f.keys.Pairwise fun a b => M.related a b = false

variable {M : Matching K} {m : MatchMap K V} {f : Filling K}

theorem fills_withCapacity (capacity : Nat) :
    Fills M (withCapacity capacity : MatchMap K V) .empty where
  toCoherent := coherent_withCapacity capacity
  refilled := Arena.refilled_empty
  size_eq := rfl
  keys_eq := rfl
  unrelated := List.Pairwise.nil

/-- Amending a value moves no key. -/
theorem Fills.amend (hm : Fills M m f) (h : Handle) (g : K → V → V) : Fills M (m.amend h g) f := by
  obtain ⟨hrefilled, hsize⟩ := hm.refilled.modify h
    fun entry : Entry K V => { entry with value := g entry.key entry.value }
  exact ⟨hm.toCoherent.amend h g, hrefilled, hsize.trans hm.size_eq,
    (keys_amend m h g).trans hm.keys_eq, hm.unrelated⟩

theorem Fills.exchange (hm : Fills M m f) (h : Handle) (v : V) : Fills M (m.exchange h v).2 f :=
  hm.amend h fun _ _ => v

/-- Changing the first values moves no key. -/
theorem Fills.updateFirst (hm : Fills M m f) (limit : Option Nat) (g : Nat → K → V → V) :
    Fills M (m.updateFirst limit g) f :=
  updateFirst_induction (P := fun m' => Fills M m' f) (fun _ h g' hm' => hm'.amend h g') hm limit g

/-- A new key takes the last free slot, before all other keys, or else a new one behind them. -/
theorem Fills.add (hm : Fills M m f) {k : K} (hk : ∀ key ∈ f.keys, M.related key k = false)
    (v : V) : Fills M (m.add ⟨k, v, M.hash k⟩) { f with keys := f.keys ++ [k] } := by
  have hcoherent : Coherent M (m.add ⟨k, v, M.hash k⟩) := hm.toCoherent.add rfl
  have hunrelated : (f.keys ++ [k]).Pairwise fun a b => M.related a b = false := by
    refine List.pairwise_append.mpr ⟨hm.unrelated, List.pairwise_singleton _ _, ?_⟩
    intro key hkey last hlast
    rw [List.mem_singleton.mp hlast]
    exact hk key hkey
  have hlength : (f.keys ++ [k]).length = f.keys.length + 1 := List.length_append
  have hsize := hm.size_eq
  have hkeys := hm.keys_eq
  -- A slot is free as long as fewer keys are bound than slots were freed.
  rcases Nat.lt_or_ge f.keys.length f.recycled with hlt | hle
  · have hrefilled : m.arena.Refilled (f.recycled - (f.keys.length + 1) + 1) := by
      have hfree : f.recycled - (f.keys.length + 1) + 1 = f.recycled - f.keys.length := by omega
      rw [hfree]
      exact hm.refilled
    obtain ⟨hcontents, hnext, hsame⟩ := hrefilled.insert_of_free ⟨k, v, M.hash k⟩
    refine ⟨hcoherent, ?_, ?_, ?_, hunrelated⟩
    · rw [arena_add, hlength]
      exact hnext
    · rw [arena_add, hsame, hlength, hsize, Nat.max_eq_left (Nat.le_of_lt hlt)]
      exact (Nat.max_eq_left hlt).symm
    · rw [Filling.stored_of_lt hlt, ← hkeys, keys, arena_add, hcontents]
      rfl
  · have hrefilled : m.arena.Refilled 0 := by
      have hfree : f.recycled - f.keys.length = 0 := by omega
      rw [← hfree]
      exact hm.refilled
    obtain ⟨hcontents, hnext, hmore⟩ := hrefilled.insert_of_full ⟨k, v, M.hash k⟩
    refine ⟨hcoherent, ?_, ?_, ?_, hunrelated⟩
    · have hnone : f.recycled - (f.keys.length + 1) = 0 := by omega
      rw [arena_add, hlength, hnone]
      exact hnext
    · rw [arena_add, hmore, hlength, hsize, Nat.max_eq_right hle]
      exact (Nat.max_eq_right (Nat.le_succ_of_le hle)).symm
    · rw [Filling.stored_of_le hle, ← hkeys, keys, arena_add, hcontents, List.map_append]
      rfl

/-- An insertion binds its key. -/
theorem Fills.insert (hm : Fills M m f) (k : K) (v : V) :
    Fills M (m.insert M k v).value.2 (f.bind M k) := by
  have hsame : ∀ key, key ∈ m.keys ↔ key ∈ f.keys := by
    intro key
    rw [hm.keys_eq]
    exact f.perm_stored.mem_iff
  unfold Filling.bind
  by_cases hany : (f.keys.any fun key => M.related key k) = true
  · rw [if_pos hany]
    obtain ⟨key, hkey, hrelated⟩ := List.any_eq_true.mp hany
    obtain ⟨g, entry, hentry, rfl⟩ := mem_keys_iff.mp ((hsame key).mpr hkey)
    rw [value_insert]
    cases hfind : (m.find (M.query k)).value with
    | some h => exact hm.exchange h v
    | none =>
      have hno := hm.find_query_eq_none_iff.mp hfind g entry hentry
      rw [hno] at hrelated
      cases hrelated
  · rw [if_neg hany]
    have hk : ∀ key ∈ f.keys, M.related key k = false := by simpa using hany
    rw [hm.toCoherent.insert_of_unrelated (fun key hkey => hk key ((hsame key).mp hkey)) v]
    exact hm.add hk v

/-- Binding pairs binds their keys. -/
theorem Fills.extend (hm : Fills M m f) (pairs : List (K × V)) :
    Fills M (m.extend M pairs).value (pairs.foldl (fun f pair => f.bind M pair.1) f) := by
  induction pairs generalizing m f with
  | nil => exact hm
  | cons pair pairs ih => exact ih (hm.insert pair.1 pair.2)

/-- A clearing leaves all slots to be taken again. -/
theorem Fills.clear (hm : Fills M m f) : Fills M m.clear f.clear := by
  obtain ⟨hrefilled, hsize⟩ := hm.refilled.clear
  have hslots : m.arena.slots.size = (Filling.clear f).recycled - 0 := hm.size_eq
  refine ⟨hm.toCoherent.clear, ?_, ?_, ?_, List.Pairwise.nil⟩
  · rw [hslots] at hrefilled
    exact hrefilled
  · exact hsize.trans (hm.size_eq.trans (Nat.max_zero _).symm)
  · have hnone : m.clear.keys = [] := by
      simp only [keys, MatchMap.clear, Arena.contents, Arena.toList_clear, List.map_nil]
    rw [hnone]
    simp [Filling.clear, Filling.stored]

variable [Listed K] [Listed V] {S : Setting K Q}

/-- Every operation that takes out no single entry goes on filling a map. -/
theorem Fills.step (hm : Fills S.matching m f) {s : Step K Q V} (hs : s.fills = true) :
    Fills S.matching (m.step S s).value.2 (f.follow S.matching s) := by
  cases s with
  | insert k v => exact hm.insert k v
  | extend pairs => exact hm.extend pairs
  | set q v =>
    change Fills S.matching (m.set (S.query q) v).value.2 f
    rw [value_set]
    cases (m.find (S.query q)).value with
    | none => exact hm
    | some h => exact hm.exchange h v
  | exchange h v => exact hm.exchange h v
  | clear => exact hm.clear
  | updateFirst limit g => exact hm.updateFirst limit g
  | remove | removeHandle | build | intoConventional => simp [Step.fills] at hs
  | contains | get | tryGet | demand | getKeyValue | find | keyOf | valueOf | size | entries
  | firstEntries | keys | values | inspect | conventional => exact hm

/-- Every run without a removal fills a map. -/
theorem Fills.after (hm : Fills S.matching m f) {steps : List (Step K Q V)}
    (hsteps : ∀ s ∈ steps, s.fills = true) :
    Fills S.matching (m.after S steps) (steps.foldl (Filling.follow S.matching) f) := by
  induction steps generalizing m f with
  | nil => exact hm
  | cons s steps ih =>
    obtain ⟨hs, hrest⟩ := List.forall_mem_cons.mp hsteps
    exact ih (hm.step hs) hrest

/-- After a run that takes out no single entry, the entries are listed with the keys that have
taken slots again in reverse, and the others behind them in the order in which they were bound. If
every key is related to itself, this is the order in which all of them were bound exactly when
at most one slot was taken again; so it is if nothing was cleared. -/
theorem storage_order (S : Setting K Q) (hM : ∀ k, S.matching.related k k = true)
    (capacity : Nat) (steps : List (Step K Q V)) (hsteps : ∀ s ∈ steps, s.fills = true) :
    let m : MatchMap K V := (withCapacity capacity).after S steps
    let filling : Filling K := steps.foldl (Filling.follow S.matching) .empty
    m.toList.map Prod.fst = filling.stored ∧
    (m.toList.map Prod.fst = filling.keys ↔ min filling.recycled filling.keys.length ≤ 1) ∧
    ((∀ s ∈ steps, s ≠ .clear) → m.toList.map Prod.fst = filling.keys) := by
  intro m filling
  have hm : Fills S.matching m filling := (fills_withCapacity capacity).after hsteps
  have hnodup : filling.keys.Nodup := by
    refine hm.unrelated.imp ?_
    rintro a b hab rfl
    rw [hM a] at hab
    cases hab
  have hstored : m.toList.map Prod.fst = filling.stored := by
    rw [← hm.keys_eq, keys_eq_map]
  have hiff := filling.stored_eq_keys_iff hnodup
  rw [← hstored] at hiff
  refine ⟨hstored, hiff, ?_⟩
  intro hclear
  have hnone : filling.recycled = 0 := Filling.recycled_foldl_follow S.matching .empty hclear
  refine hiff.mpr ?_
  omega

/-- Two slots are taken again and a third is new: the first two keys change places. -/
theorem storage_order_refilled :
    let S := Setting.standard Hasher.byteSum fun (a b : Char) => a ≤ b
    let steps : List (Step Char Char Bool) := [.insert 'a' true, .insert 'b' true, .clear,
      .extend [('c', true), ('a', true), ('b', true)], .insert 'c' false]
    let m : MatchMap Char Bool := (withCapacity 0).after S steps
    let filling : Filling Char := steps.foldl (Filling.follow S.matching) .empty
    m.toList.map Prod.fst = filling.stored ∧
      filling.keys = ['c', 'a', 'b'] ∧ filling.stored = ['a', 'c', 'b'] ∧
      m.toList.map Prod.fst ≠ filling.keys := by
  intro S steps
  have hM : ∀ k, S.matching.related k k = true := by
    intro k
    exact Matching.related_eq_true_iff.mpr ⟨rfl, beq_self_eq_true k⟩
  obtain ⟨hstored, hiff, _⟩ := storage_order (V := Bool) S hM 0 steps (by decide)
  have hrecycled : min (steps.foldl (Filling.follow S.matching) .empty).recycled
      (steps.foldl (Filling.follow S.matching) .empty).keys.length = 2 := by
    decide
  refine ⟨hstored, by decide, by decide, ?_⟩
  intro hinserted
  have hfew := hiff.mp hinserted
  omega

/-- A map that was cleared and has the same two insertions again lists them in reverse, unlike a
fresh map. -/
theorem refilled_in_reverse :
    let S := Setting.standard Hasher.byteSum fun (a b : Bool) => !a || b
    let inserts : List (Step Bool Bool Int64) := [.insert false 1, .insert true 2]
    let fresh : MatchMap Bool Int64 := (withCapacity 0).after S inserts
    let refilled : MatchMap Bool Int64 := (withCapacity 0).after S (inserts ++ .clear :: inserts)
    let filling : Filling Bool :=
      (inserts ++ .clear :: inserts).foldl (Filling.follow S.matching) .empty
    (Equivalence fun a b => S.matching.related a b = true) ∧
      (∀ s ∈ inserts ++ .clear :: inserts, s.fills = true) ∧
      filling.keys = [false, true] ∧ refilled.toList.map Prod.fst ≠ filling.keys ∧
      fresh.toList = [(false, 1), (true, 2)] ∧ refilled.toList = [(true, 2), (false, 1)] := by
  intro S inserts
  exact ⟨⟨by decide, by decide, by decide⟩, by decide, by decide, by decide +kernel, by decide,
    by decide +kernel⟩

end MatchMap

end KeyedContainers
