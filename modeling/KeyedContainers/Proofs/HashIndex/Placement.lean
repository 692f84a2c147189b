import KeyedContainers.HashIndex
import KeyedContainers.Proofs.Storage

/-!
# Placement in hash indexes

An index is well placed when every element is in the bucket of its own hash, so that a look-up
under this hash offers the element. Insertion and growth keep the elements and add one to them;
erasure takes out exactly the named element, provided that the right hash is named with it.
-/

namespace KeyedContainers.HashIndex

variable {α : Type}

/-- Every element is in the bucket of the hash that is given for it. -/
def Placed (hashOf : α → UInt64) (buckets : Array (List α)) : Prop :=
  ∀ (position : Nat) (bucket : List α), buckets[position]? = some bucket →
    ∀ a ∈ bucket, bucketOf buckets.size (hashOf a) = position

/-- All elements of some buckets. -/
def elements (buckets : Array (List α)) : List α := buckets.toList.flatten

private theorem mem_elements_iff {buckets : Array (List α)} {a : α} :
    a ∈ elements buckets ↔
      ∃ (position : Nat) (bucket : List α), buckets[position]? = some bucket ∧ a ∈ bucket := by
  simp only [elements, List.mem_flatten, Array.mem_toList_iff, Array.mem_iff_getElem?]
  constructor
  · rintro ⟨bucket, ⟨position, hbucket⟩, ha⟩
    exact ⟨position, bucket, hbucket, ha⟩
  · rintro ⟨position, bucket, hbucket, ha⟩
    exact ⟨bucket, ⟨position, hbucket⟩, ha⟩

/-- The bucket of a hash is one of the buckets, if there are any. -/
private theorem bucketOf_lt {size : Nat} (hsize : 0 < size) (hash : UInt64) :
    bucketOf size hash < size :=
  Nat.mod_lt _ hsize

/-- Candidates are elements of the index. -/
private theorem mem_toList_of_mem_candidates {index : HashIndex α} {hash : UInt64} {a : α}
    (h : a ∈ index.candidates hash) : a ∈ index.toList := by
  unfold candidates at h
  cases hb : index.buckets[bucketOf index.buckets.size hash]? with
  | none => simp [hb] at h
  | some bucket =>
    have hbucket : bucket ∈ index.buckets.toList :=
      Array.mem_toList_iff.mpr (Array.mem_of_getElem? hb)
    rw [hb, Option.getD_some] at h
    exact List.mem_flatten.mpr ⟨bucket, hbucket, h⟩

/-- Only the hashes of the elements matter for the placement. -/
theorem Placed.congr {f g : α → UInt64} {buckets : Array (List α)} (hf : Placed f buckets)
    (hfg : ∀ a ∈ elements buckets, f a = g a) : Placed g buckets := by
  intro position bucket hbucket a ha
  rw [← hfg a (mem_elements_iff.mpr ⟨position, bucket, hbucket, ha⟩)]
  exact hf position bucket hbucket a ha

/-- A well-placed element is offered to a look-up exactly when the hash has its bucket. -/
theorem Placed.mem_candidates_iff {hashOf : α → UInt64} {index : HashIndex α}
    (hplaced : Placed hashOf index.buckets) {a : α} (ha : a ∈ index.toList) (hash : UInt64) :
    a ∈ index.candidates hash ↔
      bucketOf index.buckets.size hash = bucketOf index.buckets.size (hashOf a) := by
  constructor
  · intro hmem
    rw [candidates] at hmem
    cases hbucket : index.buckets[bucketOf index.buckets.size hash]? with
    | none => simp [hbucket] at hmem
    | some bucket =>
      rw [hbucket] at hmem
      exact (hplaced _ bucket hbucket a hmem).symm
  · intro hsame
    obtain ⟨position, bucket, hbucket, hmem⟩ := mem_elements_iff.mp ha
    rw [candidates, hsame, hplaced position bucket hbucket a hmem, hbucket]
    exact hmem

/-- A well-placed element is offered to a look-up under its hash. -/
theorem Placed.mem_candidates {hashOf : α → UInt64} {index : HashIndex α}
    (hplaced : Placed hashOf index.buckets) {a : α} (ha : a ∈ index.toList) :
    a ∈ index.candidates (hashOf a) :=
  (hplaced.mem_candidates_iff ha _).mpr rfl

/-- Changing one bucket changes its share of the elements only. -/
private theorem exists_perm_elements_modify {buckets : Array (List α)} {position : Nat}
    {bucket : List α} (hbucket : buckets[position]? = some bucket) :
    ∃ others, (elements buckets).Perm (bucket ++ others) ∧
      ∀ f : List α → List α, (elements (buckets.modify position f)).Perm (f bucket ++ others) := by
  have hlist : buckets.toList[position]? = some bucket := by rwa [Array.getElem?_toList]
  obtain ⟨hlt, heq⟩ := List.getElem?_eq_some_iff.mp hlist
  refine ⟨(buckets.toList.take position).flatten ++ (buckets.toList.drop (position + 1)).flatten,
    ?_, ?_⟩
  · have hsplit : buckets.toList = buckets.toList.take position ++
        bucket :: buckets.toList.drop (position + 1) := by
      rw [← heq, List.getElem_cons_drop, List.take_append_drop]
    rw [elements]
    conv => lhs; rw [hsplit]
    rw [List.flatten_append, List.flatten_cons]
    exact List.perm_append_comm_assoc _ _ _
  · intro f
    rw [elements, Array.toList_modify, List.modify_eq_take_cons_drop hlt, heq, List.flatten_append,
      List.flatten_cons]
    exact List.perm_append_comm_assoc _ _ _

@[simp] private theorem size_place (buckets : Array (List α)) (hash : UInt64) (a : α) :
    (place buckets hash a).size = buckets.size := by
  simp [place]

/-- Placing an element adds it to the elements. -/
private theorem perm_elements_place {buckets : Array (List α)} (hsize : 0 < buckets.size)
    (hash : UInt64) (a : α) : (elements (place buckets hash a)).Perm (a :: elements buckets) := by
  obtain ⟨others, hbefore, hafter⟩ := exists_perm_elements_modify
    (Array.getElem?_eq_getElem (bucketOf_lt hsize hash))
  have hplaced := (hafter (· ++ [a])).trans ((List.perm_append_singleton a _).append_right others)
  exact hplaced.trans (hbefore.symm.cons a)

/-- An element that is placed under its own hash is well placed. -/
theorem Placed.place {hashOf : α → UInt64} {buckets : Array (List α)}
    (hplaced : Placed hashOf buckets) (a : α) : Placed hashOf (place buckets (hashOf a) a) := by
  intro position bucket hbucket b hb
  rw [size_place]
  rw [HashIndex.place, Array.getElem?_modify] at hbucket
  split at hbucket
  · rename_i hposition
    obtain ⟨old, hold, rfl⟩ := Option.map_eq_some_iff.mp hbucket
    rcases List.mem_append.mp hb with hb | hb
    · exact hplaced position old hold b hb
    · rw [List.mem_singleton.mp hb]
      exact hposition
  · exact hplaced position bucket hbucket b hb

/-- Buckets without elements are well placed. -/
private theorem placed_replicate (hashOf : α → UInt64) (size : Nat) :
    Placed hashOf (Array.replicate size []) := by
  intro position bucket hbucket a ha
  rw [Array.getElem?_replicate] at hbucket
  split at hbucket
  · simp_all
  · simp at hbucket

private theorem elements_replicate (size : Nat) :
    elements (Array.replicate size ([] : List α)) = [] := by
  simp [elements]

/-- Elements that are placed one after another, each under its own hash, are added to the others
and are well placed. -/
private theorem foldl_place {hashOf : α → UInt64} (added : List α) {buckets : Array (List α)}
    (hsize : 0 < buckets.size) (hplaced : Placed hashOf buckets) :
    let after := added.foldl (fun buckets a => place buckets (hashOf a) a) buckets
    after.size = buckets.size ∧ (elements after).Perm (added ++ elements buckets) ∧
      Placed hashOf after := by
  induction added generalizing buckets with
  | nil => exact ⟨rfl, List.Perm.refl _, hplaced⟩
  | cons a added ih =>
    obtain ⟨hsize', hperm, hplaced'⟩ := ih (by rwa [size_place]) (hplaced.place a)
    refine ⟨hsize'.trans (size_place _ _ _), hperm.trans ?_, hplaced'⟩
    exact ((perm_elements_place hsize _ a).append_left added).trans List.perm_middle

/-- The buckets for one element more hold the same elements, all well placed. -/
private theorem room_spec {hashOf : α → UInt64} {index : HashIndex α}
    (hplaced : Placed hashOf index.buckets) :
    0 < (index.room hashOf).size ∧ (elements (index.room hashOf)).Perm index.toList ∧
      Placed hashOf (index.room hashOf) := by
  unfold room
  split
  · exact ⟨by omega, List.Perm.refl _, hplaced⟩
  · have hpos : 0 < max 4 (2 * index.buckets.size) := by omega
    obtain ⟨hsize, hperm, hplaced'⟩ := foldl_place index.toList
      (by rw [Array.size_replicate]; exact hpos)
      (placed_replicate hashOf (max 4 (2 * index.buckets.size)))
    rw [elements_replicate, List.append_nil] at hperm
    rw [Array.size_replicate] at hsize
    exact ⟨Nat.lt_of_lt_of_eq hpos hsize.symm, hperm, hplaced'⟩

/-- An insertion adds one element to an index. -/
theorem Placed.perm_toList_insert {hashOf : α → UInt64} {index : HashIndex α}
    (hplaced : Placed hashOf index.buckets) (hash : UInt64) (a : α) :
    (index.insert hash a hashOf).toList.Perm (a :: index.toList) := by
  obtain ⟨hsize, hperm, _⟩ := room_spec hplaced
  exact (perm_elements_place hsize hash a).trans (hperm.cons a)

/-- An insertion under the hash of the element keeps an index well placed. -/
theorem Placed.insert {hashOf : α → UInt64} {index : HashIndex α}
    (hplaced : Placed hashOf index.buckets) (a : α) :
    Placed hashOf (index.insert (hashOf a) a hashOf).buckets :=
  (room_spec hplaced).2.2.place a

/-- An erasure under the hash of the element takes the element out of an index. -/
theorem Placed.perm_toList_erase [BEq α] [LawfulBEq α] {hashOf : α → UInt64} {index : HashIndex α}
    (hplaced : Placed hashOf index.buckets) {a : α} (ha : a ∈ index.toList) :
    index.toList.Perm (a :: (index.erase (hashOf a) a).toList) := by
  have hmem := hplaced.mem_candidates ha
  rw [erase, if_pos (List.contains_iff_mem.mpr hmem)]
  rw [candidates] at hmem
  cases hbucket : index.buckets[bucketOf index.buckets.size (hashOf a)]? with
  | none => simp [hbucket] at hmem
  | some bucket =>
    rw [hbucket, Option.getD_some] at hmem
    obtain ⟨others, hbefore, hafter⟩ := exists_perm_elements_modify hbucket
    exact hbefore.trans (((List.perm_cons_erase hmem).append_right others).trans
      ((hafter (·.erase a)).symm.cons a))

/-- An erasure under the hash of the element is counted. -/
theorem Placed.count_erase [BEq α] [LawfulBEq α] {hashOf : α → UInt64} {index : HashIndex α}
    (hplaced : Placed hashOf index.buckets) {a : α} (ha : a ∈ index.toList) :
    (index.erase (hashOf a) a).count = index.count - 1 := by
  rw [HashIndex.erase, if_pos (List.contains_iff_mem.mpr (hplaced.mem_candidates ha))]

/-- An erasure keeps an index well placed. -/
theorem Placed.erase [BEq α] {hashOf : α → UInt64} {index : HashIndex α}
    (hplaced : Placed hashOf index.buckets) (hash : UInt64) (a : α) :
    Placed hashOf (index.erase hash a).buckets := by
  unfold HashIndex.erase
  split
  · intro position bucket hbucket b hb
    rw [Array.size_modify]
    rw [Array.getElem?_modify] at hbucket
    split at hbucket
    · obtain ⟨old, hold, rfl⟩ := Option.map_eq_some_iff.mp hbucket
      exact hplaced position old hold b (List.mem_of_mem_erase hb)
    · exact hplaced position bucket hbucket b hb
  · exact hplaced

/-- Indexes keep the laws on which maps rely. -/
theorem lawful [BEq α] [LawfulBEq α] :
    LawfulIndex (fun hashOf index => Placed hashOf index.buckets) (toList (α := α)) count candidates
      withCapacity insert erase where
  placed_withCapacity := placed_replicate
  toList_withCapacity := elements_replicate
  count_withCapacity _ := rfl
  placed_congr := Placed.congr
  mem_toList := mem_toList_of_mem_candidates
  mem_candidates := Placed.mem_candidates
  placed_insert := Placed.insert
  perm_insert := Placed.perm_toList_insert
  count_insert _ _ _ _ := rfl
  placed_erase := Placed.erase
  perm_erase := Placed.perm_toList_erase
  count_erase := Placed.count_erase

end KeyedContainers.HashIndex
