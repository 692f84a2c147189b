import KeyedContainers.Arena

/-!
# Laws of indexes and arenas

A map keeps its entries in an arena and the handles of the entries in an index. What the theory of
maps relies on in either is stated here as laws of the operations, so it holds of every arena and
every index that keep them. The laws do not say which slot an insertion takes or in what order
contents are listed, nor how an index finds its candidates, which other elements it offers with
them, or in what order.
-/

namespace KeyedContainers

/-- Laws of an arena. `Sound` is what its operations keep of its own bookkeeping. -/
structure LawfulArena {σ α : Type} (Sound : σ → Prop) (get? : σ → Handle → Option α)
    (toList : σ → List (Handle × α)) (count : σ → Nat) (empty : σ) (insert : σ → α → Handle × σ)
    (remove : σ → Handle → Option α × σ) (modify : σ → Handle → (α → α) → σ) (clear : σ → σ) :
    Prop where
  sound_empty : Sound empty
  sound_insert {a : σ} (ha : Sound a) (c : α) : Sound (insert a c).2
  sound_remove {a : σ} (ha : Sound a) (h : Handle) : Sound (remove a h).2
  sound_modify {a : σ} (ha : Sound a) (h : Handle) (f : α → α) : Sound (modify a h f)
  sound_clear {a : σ} (ha : Sound a) : Sound (clear a)
  get?_empty (h : Handle) : get? empty h = none
  /-- An insertion gives a handle that resolved to nothing. -/
  get?_fresh {a : σ} (ha : Sound a) (c : α) : get? a (insert a c).1 = none
  get?_insert {a : σ} (ha : Sound a) (c : α) (g : Handle) :
    get? (insert a c).2 g = if g = (insert a c).1 then some c else get? a g
  remove_fst (a : σ) (h : Handle) : (remove a h).1 = get? a h
  get?_remove (a : σ) (h g : Handle) : get? (remove a h).2 g = if g = h then none else get? a g
  get?_modify (a : σ) (h g : Handle) (f : α → α) :
    get? (modify a h f) g = if g = h then (get? a h).map f else get? a g
  remove_of_stale {a : σ} {h : Handle} (hstale : get? a h = none) : remove a h = (none, a)
  modify_of_stale {a : σ} {h : Handle} (hstale : get? a h = none) (f : α → α) : modify a h f = a
  get?_clear (a : σ) (h : Handle) : get? (clear a) h = none
  /-- The handles that resolve are listed with what they resolve to, each once. -/
  mem_toList_iff {a : σ} {h : Handle} {c : α} : (h, c) ∈ toList a ↔ get? a h = some c
  nodup_handles (a : σ) : ((toList a).map Prod.fst).Nodup
  count_eq {a : σ} (ha : Sound a) : count a = (toList a).length
  /-- An insertion adds its content to the listing. -/
  perm_insert {a : σ} (ha : Sound a) (c : α) :
    (toList (insert a c).2).Perm (((insert a c).1, c) :: toList a)
  /-- A removal takes its content out of the listing. -/
  perm_remove {a : σ} {h : Handle} {c : α} (hget : get? a h = some c) :
    (toList a).Perm ((h, c) :: toList (remove a h).2)
  /-- A change keeps the handles. -/
  perm_modify (a : σ) (h : Handle) (f : α → α) :
    ((toList (modify a h f)).map Prod.fst).Perm ((toList a).map Prod.fst)

/-- Laws of the handles of an arena. `Ages` leads from an arena to what its operations make of it;
`Issued` handles were given by an insertion, and `Spent` ones have lost their content. -/
structure LawfulHandles {σ α : Type} (Sound : σ → Prop) (Ages : σ → σ → Prop)
    (Issued Spent : σ → Handle → Prop) (get? : σ → Handle → Option α) (insert : σ → α → Handle × σ)
    (remove : σ → Handle → Option α × σ) (modify : σ → Handle → (α → α) → σ) (clear : σ → σ) :
    Prop where
  ages_refl (a : σ) : Ages a a
  ages_trans {a b c : σ} (hab : Ages a b) (hbc : Ages b c) : Ages a c
  ages_insert {a : σ} (ha : Sound a) (c : α) : Ages a (insert a c).2
  ages_remove (a : σ) (h : Handle) : Ages a (remove a h).2
  ages_modify (a : σ) (h : Handle) (f : α → α) : Ages a (modify a h f)
  ages_clear (a : σ) : Ages a (clear a)
  issued_of_get? {a : σ} {h : Handle} {c : α} (hget : get? a h = some c) : Issued a h
  issued_mono {a b : σ} {h : Handle} (hab : Ages a b) (hissued : Issued a h) : Issued b h
  /-- No handle is given twice. -/
  not_issued_fresh {a : σ} (ha : Sound a) (c : α) : ¬ Issued a (insert a c).1
  spent_remove {a : σ} {h : Handle} {c : α} (hget : get? a h = some c) : Spent (remove a h).2 h
  spent_clear {a : σ} {h : Handle} {c : α} (hget : get? a h = some c) : Spent (clear a) h
  spent_mono {a b : σ} {h : Handle} (hab : Ages a b) (hspent : Spent a h) : Spent b h
  /-- What was taken out under a handle does not come back. -/
  get?_of_spent {a : σ} {h : Handle} (hspent : Spent a h) : get? a h = none

/-- Laws of an index of elements under hashes. `Placed hashOf` says that the elements are where the
hashes that `hashOf` gives for them put them. -/
structure LawfulIndex {σ α : Type} (Placed : (α → UInt64) → σ → Prop) (toList : σ → List α)
    (count : σ → Nat) (candidates : σ → UInt64 → List α) (withCapacity : Nat → σ)
    (insert : σ → UInt64 → α → (α → UInt64) → σ) (erase : σ → UInt64 → α → σ) : Prop where
  placed_withCapacity (hashOf : α → UInt64) (capacity : Nat) : Placed hashOf (withCapacity capacity)
  toList_withCapacity (capacity : Nat) : toList (withCapacity capacity) = []
  count_withCapacity (capacity : Nat) : count (withCapacity capacity) = 0
  /-- Only the hashes of the elements matter. -/
  placed_congr {f g : α → UInt64} {index : σ} (hf : Placed f index)
    (hfg : ∀ a ∈ toList index, f a = g a) : Placed g index
  /-- A look-up offers elements, among them all of its hash. -/
  mem_toList {index : σ} {hash : UInt64} {a : α} (ha : a ∈ candidates index hash) :
    a ∈ toList index
  mem_candidates {hashOf : α → UInt64} {index : σ} (hplaced : Placed hashOf index) {a : α}
    (ha : a ∈ toList index) : a ∈ candidates index (hashOf a)
  /-- An insertion adds its element. -/
  placed_insert {hashOf : α → UInt64} {index : σ} (hplaced : Placed hashOf index) (a : α) :
    Placed hashOf (insert index (hashOf a) a hashOf)
  perm_insert {hashOf : α → UInt64} {index : σ} (hplaced : Placed hashOf index) (hash : UInt64)
    (a : α) : (toList (insert index hash a hashOf)).Perm (a :: toList index)
  count_insert (index : σ) (hash : UInt64) (a : α) (hashOf : α → UInt64) :
    count (insert index hash a hashOf) = count index + 1
  /-- An erasure under the hash of its element takes the element out. -/
  placed_erase {hashOf : α → UInt64} {index : σ} (hplaced : Placed hashOf index) (hash : UInt64)
    (a : α) : Placed hashOf (erase index hash a)
  perm_erase {hashOf : α → UInt64} {index : σ} (hplaced : Placed hashOf index) {a : α}
    (ha : a ∈ toList index) : (toList index).Perm (a :: toList (erase index (hashOf a) a))
  count_erase {hashOf : α → UInt64} {index : σ} (hplaced : Placed hashOf index) {a : α}
    (ha : a ∈ toList index) : count (erase index (hashOf a) a) = count index - 1

end KeyedContainers
