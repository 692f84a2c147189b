import KeyedContainers.Proofs.MatchMap.Find

/-!
# The order of insertion

Slots are taken again once they are free, so the storage order of a map does not tell which of two
entries was added first. A run is therefore accompanied by the list of the handles that it gave to
new entries, in the order in which it added them. An entry is added only for a key that no stored
key accepts; so no stored key accepts the key of an entry added after it, whatever the match
relation and whatever was removed in between.
-/

namespace KeyedContainers.MatchMap

variable {K Q V : Type}

/-- The handle of the entry that an insertion adds, if it adds one. -/
def newHandles (M : Matching K) (m : MatchMap K V) (k : K) (v : V) : List Handle :=
  match (m.find (M.query k)).value with
  | some _ => []
  | none => [m.freshHandle ⟨k, v, M.hash k⟩]

/-- The handles of the entries that were added in the past and of those that some pairs add, bound
one after another. -/
def recordPairs (M : Matching K) (past : List Handle) (m : MatchMap K V) :
    List (K × V) → List Handle
  | [] => past
  | (k, v) :: pairs =>
    recordPairs M (past ++ m.newHandles M k v) (m.insert M k v).value.2 pairs

/-- The handles of the entries that were added in the past and of those that an operation adds. A
map that is put in the place of another has a past of its own. -/
def Step.record (S : Setting K Q) (past : List Handle) (m : MatchMap K V) :
    Step K Q V → List Handle
  | .insert k v => past ++ m.newHandles S.matching k v
  | .extend pairs => recordPairs S.matching past m pairs
  | .build pairs => recordPairs S.matching [] empty pairs
  | .intoConventional _ => []
  | _ => past

/-- The handles of the entries that were added in the past and of those that a run adds, first
added first. -/
def insertionOrder [Listed K] [Listed V] (S : Setting K Q) (past : List Handle)
    (m : MatchMap K V) : List (Step K Q V) → List Handle
  | [] => past
  | s :: steps => insertionOrder S (s.record S past m) (m.step S s).value.2 steps

/-- A list has the handles of all entries of a map in an order in which no stored key is related
to the key of a later entry. Handles of entries that are gone may be in the list as well. -/
structure Chronicle (M : Matching K) (m : MatchMap K V) (order : List Handle) : Prop
    extends Coherent M m where
  /-- No handle was given twice. -/
  nodup : order.Nodup
  /-- Only handles that were given are listed. -/
  issued : ∀ h ∈ order, m.arena.Issued h
  /-- Every entry is listed. -/
  complete : ∀ h, (m.entry? h).isSome → h ∈ order
  /-- No stored key is related to the key of a later entry. -/
  unshadowed : order.Pairwise fun g h => ∀ d e, m.entry? g = some d → m.entry? h = some e →
    M.related d.key e.key = false

variable {M : Matching K} {m m' : MatchMap K V} {order past : List Handle}

theorem chronicle_withCapacity (capacity : Nat) :
    Chronicle M (withCapacity capacity : MatchMap K V) [] where
  toCoherent := coherent_withCapacity capacity
  nodup := List.nodup_nil
  issued := by simp
  complete := by simp [withCapacity, entry?]
  unshadowed := List.Pairwise.nil

/-- The past of a map is still good after changes that add no entry. -/
theorem Chronicle.inherit (hm : Chronicle M m order) (hchanges : Changes M m m')
    (hinherits : Inherits m m') : Chronicle M m' order where
  toCoherent := hm.toCoherent.changes hchanges
  nodup := hm.nodup
  issued h hmem := (hm.issued h hmem).mono (hm.toCoherent.ages hchanges)
  complete := by
    intro h hsome
    obtain ⟨entry, hentry⟩ := Option.isSome_iff_exists.mp hsome
    obtain ⟨old, hold, _⟩ := hinherits h entry hentry
    exact hm.complete h (by simp [hold])
  unshadowed := by
    refine hm.unshadowed.imp ?_
    intro g h hbefore d e hd he
    obtain ⟨d', hd', hdkey⟩ := hinherits g d hd
    obtain ⟨e', he', hekey⟩ := hinherits h e he
    rw [← hdkey, ← hekey]
    exact hbefore d' e' hd' he'

/-- An entry added for a key that finds nothing comes last. -/
theorem Chronicle.add (hm : Chronicle M m order) {k : K} (v : V)
    (hnone : (m.find (M.query k)).value = none) :
    Chronicle M (m.add ⟨k, v, M.hash k⟩) (order ++ [m.freshHandle ⟨k, v, M.hash k⟩]) := by
  have hcoherent := hm.toCoherent
  have hunrelated := hcoherent.find_query_eq_none_iff.mp hnone
  have hentry := hcoherent.entry?_add ⟨k, v, M.hash k⟩
  have hchanges : Changes M m (m.add ⟨k, v, M.hash k⟩) := .single (.add m k v hnone)
  -- The fresh handle was never given, so the entries of the past stay what they were.
  have hfresh : ∀ h ∈ order, h ≠ m.freshHandle ⟨k, v, M.hash k⟩ := by
    rintro h hmem rfl
    exact Arena.lawful_handles.not_issued_fresh hcoherent.sound _ (hm.issued _ hmem)
  have hold : ∀ h ∈ order, entry? (m.add ⟨k, v, M.hash k⟩) h = m.entry? h := by
    intro h hmem
    rw [hentry, if_neg (hfresh h hmem)]
  have hnew : entry? (m.add ⟨k, v, M.hash k⟩) (m.freshHandle ⟨k, v, M.hash k⟩) =
      some ⟨k, v, M.hash k⟩ := by
    rw [hentry, if_pos rfl]
  refine ⟨hcoherent.changes hchanges, ?_, ?_, ?_, ?_⟩
  · refine List.nodup_append.mpr ⟨hm.nodup, List.nodup_singleton _, ?_⟩
    intro h hmem g hg
    rw [List.mem_singleton.mp hg]
    exact hfresh h hmem
  · intro h hmem
    rcases List.mem_append.mp hmem with hpast | hlast
    · exact (hm.issued h hpast).mono (hcoherent.ages hchanges)
    · rw [List.mem_singleton.mp hlast]
      exact Arena.lawful_handles.issued_of_get? hnew
  · intro h hsome
    rw [List.mem_append, List.mem_singleton]
    by_cases hh : h = m.freshHandle ⟨k, v, M.hash k⟩
    · exact Or.inr hh
    · rw [hentry, if_neg hh] at hsome
      exact Or.inl (hm.complete h hsome)
  · refine List.pairwise_append.mpr ⟨?_, List.pairwise_singleton _ _, ?_⟩
    · refine hm.unshadowed.imp_of_mem ?_
      intro g h hg hh hbefore d e hd he
      rw [hold g hg] at hd
      rw [hold h hh] at he
      exact hbefore d e hd he
    · intro g hg h hh d e hd he
      rw [List.mem_singleton.mp hh, hnew, Option.some.injEq] at he
      rw [hold g hg] at hd
      rw [← he]
      exact hunrelated g d hd

/-- In a chronicle the handles that still resolve are those of the arena. -/
theorem Chronicle.perm_handles (hm : Chronicle M m order) :
    (order.filter fun h => (m.entry? h).isSome).Perm m.arena.handles := by
  refine (List.perm_ext_iff_of_nodup (hm.nodup.filter _) m.nodup_handles).mpr ?_
  intro h
  rw [List.mem_filter, mem_handles_iff]
  exact ⟨And.right, fun hsome => ⟨hm.complete h hsome, hsome⟩⟩

/-- A chronicle lists the entries of its map, in another order than the storage does. -/
theorem Chronicle.perm_toList (hm : Chronicle M m order) :
    (order.filterMap m.pair?).Perm m.toList := by
  have hlive : (order.filter fun h => (m.entry? h).isSome).filterMap m.pair? =
      order.filterMap m.pair? := by
    rw [List.filterMap_filter]
    refine List.filterMap_congr fun h _ => ?_
    cases hentry : m.entry? h with
    | none => simp [pair?, hentry]
    | some entry => rfl
  have hstored : m.arena.handles.filterMap m.pair? = m.toList := by
    rw [toList, ← Arena.filterMap_get?_handles, List.map_filterMap]
    rfl
  rw [← hlive, ← hstored]
  exact hm.perm_handles.filterMap m.pair?

/-- No key of a chronicle is related to the key of a later entry. -/
theorem Chronicle.pairwise_pairs (hm : Chronicle M m order) :
    (order.filterMap m.pair?).Pairwise fun a b => M.related a.1 b.1 = false := by
  rw [List.pairwise_filterMap]
  refine hm.unshadowed.imp ?_
  intro g h hbefore a ha b hb
  obtain ⟨d, hd, rfl⟩ := Option.map_eq_some_iff.mp ha
  obtain ⟨e, he, rfl⟩ := Option.map_eq_some_iff.mp hb
  exact hbefore d e hd he

/-- An insertion adds its handle at the end, if it adds an entry. -/
theorem Chronicle.insert (hm : Chronicle M m order) (k : K) (v : V) :
    Chronicle M (m.insert M k v).value.2 (order ++ m.newHandles M k v) := by
  rw [value_insert, newHandles]
  cases hfind : (m.find (M.query k)).value with
  | some h =>
    rw [List.append_nil]
    exact hm.inherit (changes_exchange m h v) (inherits_exchange m h v)
  | none => exact hm.add v hfind

/-- Binding pairs adds the handles of their new entries at the end. -/
theorem Chronicle.extend (hm : Chronicle M m order) (pairs : List (K × V)) :
    Chronicle M (m.extend M pairs).value (recordPairs M order m pairs) := by
  induction pairs generalizing m order with
  | nil => exact hm
  | cons pair pairs ih => exact ih (hm.insert pair.1 pair.2)

variable [Listed K] [Listed V] {S : Setting K Q}

/-- Every operation continues the past of a map. -/
theorem Chronicle.step (hm : Chronicle S.matching m past) (s : Step K Q V) :
    Chronicle S.matching (m.step S s).value.2 (s.record S past m) := by
  cases s with
  | insert k v => exact hm.insert k v
  | extend pairs => exact hm.extend pairs
  | build pairs => exact (chronicle_withCapacity 0).extend pairs
  | set q v => exact hm.inherit (changes_set m _ v) (inherits_set m _ v)
  | remove q => exact hm.inherit (changes_remove m _) (inherits_remove m _)
  | exchange h v => exact hm.inherit (changes_exchange m h v) (inherits_exchange m h v)
  | removeHandle h => exact hm.inherit (.single (.removeHandle m h)) (inherits_removeHandle m h)
  | clear => exact hm.inherit (.single (.clear m)) (inherits_clear m)
  | updateFirst limit f =>
    exact hm.inherit (changes_updateFirst m limit f) (inherits_updateFirst m limit f)
  | intoConventional keys => exact chronicle_withCapacity 0
  | contains | get | tryGet | demand | getKeyValue | find | keyOf | valueOf | size | entries
  | firstEntries | keys | values | inspect | conventional => exact hm

/-- Every run continues the past of a map. -/
theorem Chronicle.after (hm : Chronicle S.matching m past) (steps : List (Step K Q V)) :
    Chronicle S.matching (m.after S steps) (insertionOrder S past m steps) := by
  induction steps generalizing m past with
  | nil => exact hm
  | cons s steps ih => exact ih (hm.step s)

/-- After every run, whatever the match relation and whichever handles were tried, no stored key is
related to the key of an entry that was added later. If the relation of the keys is symmetric, no
two entries match in either direction. -/
theorem no_key_shadows_later (S : Setting K Q) (capacity : Nat) (steps : List (Step K Q V)) :
    let m : MatchMap K V := (withCapacity capacity).after S steps
    let order := insertionOrder S [] (withCapacity capacity : MatchMap K V) steps
    (order.filterMap m.pair?).Perm m.toList ∧
    ((order.filterMap m.pair?).Pairwise fun a b => S.matching.related a.1 b.1 = false) ∧
    ((∀ a b, S.matching.agrees a b = true → S.matching.agrees b a = true) →
      m.toList.Pairwise fun a b =>
        S.matching.related a.1 b.1 = false ∧ S.matching.related b.1 a.1 = false) := by
  intro m order
  have hm : Chronicle S.matching m order := (chronicle_withCapacity capacity).after steps
  refine ⟨hm.perm_toList, hm.pairwise_pairs, ?_⟩
  intro hsymm
  have hback : ∀ a b : K, S.matching.related a b = false → S.matching.related b a = false := by
    intro a b hno
    by_contra hyes
    rw [Bool.not_eq_false, Matching.related_eq_true_iff] at hyes
    have hforth := Matching.related_eq_true_iff.mpr ⟨hyes.1.symm, hsymm b a hyes.2⟩
    rw [hno] at hforth
    cases hforth
  have hboth := hm.pairwise_pairs.imp fun hno => And.intro hno (hback _ _ hno)
  exact (hm.perm_toList.pairwise_iff And.symm).mp hboth

/-- A key that was added later may accept an earlier one: here `false` accepts both keys, and
`true` only itself. -/
example :
    let M : Matching Bool := ⟨fun _ => 7, fun stored q => !stored || q⟩
    let m : MatchMap Bool Nat := (empty.extend M [(true, 1), (false, 2)]).value
    m.keys = [true, false] ∧ M.related false true = true := by
  decide

end KeyedContainers.MatchMap
