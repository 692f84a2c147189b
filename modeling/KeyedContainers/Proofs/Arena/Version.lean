import KeyedContainers.Proofs.Arena.Sound

/-!
# Versions of slots

No operation takes a slot away or sets a version back. A handle is issued when its slot has
reached its version, and spent when the slot has gone beyond it. Both last through every
operation. A handle that resolves is issued, removing its content spends it, a spent handle does
not resolve, and an insertion gives a handle that was not issued: so what resolves under a handle
is always the content for which it was issued.
-/

namespace KeyedContainers.Arena

variable {α : Type}

/-- Every slot of the first arena is in the second, at the same version or a later one. -/
def Ages (a b : Arena α) : Prop :=
  ∀ (position : Nat) (s : Slot α), a.slots[position]? = some s →
    ∃ t, b.slots[position]? = some t ∧ s.version ≤ t.version

/-- The slot of a handle has reached its version. -/
def Issued (a : Arena α) (h : Handle) : Prop :=
  ∃ s, a.slots[h.slot]? = some s ∧ h.version ≤ s.version

/-- The slot of a handle has gone beyond its version. -/
def Spent (a : Arena α) (h : Handle) : Prop :=
  ∃ s, a.slots[h.slot]? = some s ∧ h.version < s.version

theorem Ages.refl (a : Arena α) : a.Ages a := fun _ s hs => ⟨s, hs, Nat.le_refl _⟩

theorem Ages.trans {a b c : Arena α} (hab : a.Ages b) (hbc : b.Ages c) : a.Ages c := by
  intro position s hs
  obtain ⟨t, ht, hst⟩ := hab position s hs
  obtain ⟨u, hu, htu⟩ := hbc position t ht
  exact ⟨u, hu, Nat.le_trans hst htu⟩

/-- Writing a later version to one slot ages an arena. -/
private theorem ages_setSlot {a : Arena α} {position : Nat} {s t : Slot α}
    (hs : a.slots[position]? = some s) (hle : s.version ≤ t.version) (free : List Nat)
    (count : Nat) : a.Ages ⟨a.slots.setIfInBounds position t, free, count⟩ := by
  intro other u hu
  by_cases ho : other = position
  · subst ho
    rw [hs, Option.some.injEq] at hu
    have hlt := (Array.getElem?_eq_some_iff.mp hs).1
    exact ⟨t, Array.getElem?_setIfInBounds_self_of_lt hlt, hu ▸ hle⟩
  · exact ⟨u, (Array.getElem?_setIfInBounds_ne (Ne.symm ho)).trans hu, Nat.le_refl _⟩

/-- An insertion ages a sound arena. -/
theorem Sound.ages_insert {a : Arena α} (ha : a.Sound) (c : α) : a.Ages (a.insert c).2 := by
  cases hfree : a.free with
  | nil =>
    rw [insert_of_full hfree]
    intro position s hs
    have hlt := (Array.getElem?_eq_some_iff.mp hs).1
    exact ⟨s, by simp only [Array.getElem?_push, Nat.ne_of_lt hlt, if_false, hs], Nat.le_refl _⟩
  | cons position free =>
    obtain ⟨version, hslot, heq⟩ := ha.insert_of_free hfree c
    rw [heq]
    exact ages_setSlot hslot (Nat.le_succ version) _ _

/-- A removal ages an arena. -/
theorem ages_remove (a : Arena α) (h : Handle) : a.Ages (a.remove h).2 := by
  cases hget : a.get? h with
  | none =>
    rw [remove_of_stale hget]
    exact Ages.refl a
  | some c =>
    simp only [remove, hget]
    exact ages_setSlot (get?_eq_some_iff.mp hget) (Nat.le_succ h.version) _ _

/-- A change ages an arena. -/
theorem ages_modify (a : Arena α) (h : Handle) (f : α → α) : a.Ages (a.modify h f) := by
  cases hget : a.get? h with
  | none =>
    rw [modify_of_stale hget]
    exact Ages.refl a
  | some c =>
    simp only [modify, hget]
    exact ages_setSlot (get?_eq_some_iff.mp hget) (Nat.le_refl h.version) _ _

/-- A clearing ages an arena. -/
theorem ages_clear (a : Arena α) : a.Ages a.clear := by
  intro position s hs
  refine ⟨s.vacate, by simp [clear, hs], ?_⟩
  unfold Slot.vacate
  cases s.content with
  | none => exact Nat.le_refl _
  | some c => exact Nat.le_succ _

/-- A handle that resolves is issued. -/
theorem issued_of_get? {a : Arena α} {h : Handle} {c : α} (hget : a.get? h = some c) :
    a.Issued h :=
  ⟨_, get?_eq_some_iff.mp hget, Nat.le_refl _⟩

/-- An issued handle stays issued. -/
theorem Issued.mono {a b : Arena α} {h : Handle} (hab : a.Ages b) (hissued : a.Issued h) :
    b.Issued h := by
  obtain ⟨s, hs, hle⟩ := hissued
  obtain ⟨t, ht, hst⟩ := hab _ s hs
  exact ⟨t, ht, Nat.le_trans hle hst⟩

/-- A spent handle stays spent. -/
theorem Spent.mono {a b : Arena α} {h : Handle} (hab : a.Ages b) (hspent : a.Spent h) :
    b.Spent h := by
  obtain ⟨s, hs, hlt⟩ := hspent
  obtain ⟨t, ht, hst⟩ := hab _ s hs
  exact ⟨t, ht, Nat.lt_of_lt_of_le hlt hst⟩

/-- A spent handle does not resolve. -/
theorem Spent.get?_eq_none {a : Arena α} {h : Handle} (hspent : a.Spent h) : a.get? h = none := by
  obtain ⟨s, hs, hlt⟩ := hspent
  simp [get?, hs, Nat.ne_of_gt hlt]

/-- The handle of an insertion was not issued before. -/
theorem Sound.not_issued_fresh {a : Arena α} (ha : a.Sound) (c : α) :
    ¬ a.Issued (a.insert c).1 := by
  rintro ⟨s, hs, hle⟩
  cases hfree : a.free with
  | nil => simp [insert_of_full hfree] at hs
  | cons position free =>
    obtain ⟨version, hslot, heq⟩ := ha.insert_of_free hfree c
    simp only [heq, hslot, Option.some.injEq] at hs hle
    subst hs
    exact absurd hle (Nat.not_succ_le_self version)

/-- Removing the content of a handle spends it. -/
theorem spent_remove {a : Arena α} {h : Handle} {c : α} (hget : a.get? h = some c) :
    (a.remove h).2.Spent h := by
  refine ⟨⟨h.version + 1, none⟩, ?_, Nat.lt_succ_self _⟩
  simp only [remove, hget]
  exact Array.getElem?_setIfInBounds_self_of_lt (slot_lt_of_get? hget)

/-- Clearing an arena spends every handle that resolved. -/
theorem spent_clear {a : Arena α} {h : Handle} {c : α} (hget : a.get? h = some c) :
    a.clear.Spent h :=
  ⟨⟨h.version + 1, none⟩, by simp [clear, get?_eq_some_iff.mp hget, Slot.vacate],
    Nat.lt_succ_self _⟩

/-- The handles of arenas keep the laws on which maps rely. -/
theorem lawful_handles :
    LawfulHandles (Sound (α := α)) Ages Issued Spent get? insert remove modify clear where
  ages_refl := Ages.refl
  ages_trans := Ages.trans
  ages_insert := Sound.ages_insert
  ages_remove := ages_remove
  ages_modify := ages_modify
  ages_clear := ages_clear
  issued_of_get? := issued_of_get?
  issued_mono := Issued.mono
  not_issued_fresh := Sound.not_issued_fresh
  spent_remove := spent_remove
  spent_clear := spent_clear
  spent_mono := Spent.mono
  get?_of_spent := Spent.get?_eq_none

end KeyedContainers.Arena
