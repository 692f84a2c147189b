import KeyedContainers.Proofs.MatchMap.Lookup

/-!
# The text of a miss

Where a query matches no entry, the look-up that can fail ends in an error and the demand in a
fault, and both are explained by one sentence. The hash of the query stands in it in sixteen
lower-case digits: those of the number, with zeros before them. They are read back as the hash, so
two misses have the same text only if their queries have the same hash, be it in two maps of
different keys.
-/

namespace KeyedContainers

open Text

/-- A word fits sixteen digits: they are those of its number, with zeros before them. -/
theorem Text.hexDigits_toNat (w : UInt64) :
    hexDigits 16 w.toNat = (Nat.toDigits 16 w.toNat).leftpad 16 '0' := by
  have hfits : w.toNat < Nat.pow 16 (15 + 1) := w.toNat_lt_size
  exact hexDigits_eq_leftpad hfits

/-- Misses have the same sentence exactly if they have the same hash. -/
theorem KeyNotFound.message_eq_iff {a b : KeyNotFound} :
    a.message = b.message ↔ a.hash = b.hash := by
  unfold message
  rw [String.append_left_inj, String.append_right_inj]
  constructor
  · intro hwords
    have hread := congrArg word? hwords
    rw [word?_hexWord, word?_hexWord] at hread
    exact Option.some.inj hread
  · intro hhash
    rw [hhash]

namespace MatchMap

variable {K Q V : Type} {m : MatchMap K V} {q : Query K}

/-- A query ends in this text, whether it is demanded or looked up. -/
structure MissesWith (m : MatchMap K V) (q : Query K) (text : String) : Prop where
  demand : ∃ fault, (m.demand q).value = .error fault ∧ fault.message = text
  tryGet : ∃ miss, (m.tryGet q).value = .error miss ∧ miss.message = text

/-- A query that finds nothing ends in the sentence with its hash. -/
theorem Misses.missesWith (hmisses : m.Misses q) : m.MissesWith q (KeyNotFound.message ⟨q.hash⟩) :=
  ⟨⟨_, hmisses.demand, rfl⟩, ⟨_, hmisses.tryGet, rfl⟩⟩

/-- If a query ends in a text, this is the sentence with its hash. -/
theorem MissesWith.text_eq {text : String} (hmiss : m.MissesWith q text) :
    text = KeyNotFound.message ⟨q.hash⟩ := by
  obtain ⟨miss, herror, rfl⟩ := hmiss.tryGet
  rw [value_tryGet] at herror
  cases hget : (m.get? q).value with
  | some v =>
    rw [hget] at herror
    cases herror
  | none =>
    rw [hget] at herror
    cases herror
    rfl

/-- After every run, whatever the match relation, and for every query that matches no entry:
demanding it and looking it up end in the same text. In the text stands the hash of the query, in
sixteen lower-case digits, which are read back as the hash. So any two misses have the same text
exactly if the hashes of the queries are equal. -/
theorem misses_tell_hashes [Listed K] [Listed V] (S : Setting K Q) (capacity : Nat)
    (steps : List (Step K Q V)) (q : Query K) :
    let m : MatchMap K V := (withCapacity capacity).after S steps
    let digits := (Nat.toDigits 16 q.hash.toNat).leftpad 16 '0'
    let text := "key not found (hash 0x" ++ String.ofList digits ++ ")"
    (∀ h entry, m.entry? h = some entry → entry.hash = q.hash → q.accepts entry.key = false) →
    m.MissesWith q text ∧
    digits.length = 16 ∧ (∀ d ∈ digits, d ∈ "0123456789abcdef".toList) ∧
    readHex? digits = some q.hash.toNat ∧
    ∀ (K' V' : Type) (other : MatchMap K' V') (q' : Query K') (text' : String),
      other.MissesWith q' text' → (text = text' ↔ q.hash = q'.hash) := by
  intro m digits text hmiss
  have hm : Coherent S.matching m := (coherent_withCapacity capacity).after steps
  have hdigits : hexDigits 16 q.hash.toNat = digits := Text.hexDigits_toNat q.hash
  have htext : KeyNotFound.message ⟨q.hash⟩ = text := by
    unfold KeyNotFound.message hexWord
    rw [hdigits]
  have hmisses : m.Misses q := misses_of_find (hm.find_eq_none_iff.mpr hmiss)
  refine ⟨htext ▸ hmisses.missesWith, ?_, ?_, ?_, ?_⟩
  · rw [← hdigits, length_hexDigits]
  · intro d hd
    exact mem_hexDigits (hdigits ▸ hd)
  · rw [← hdigits]
    exact readHex?_hexDigits (by decide) q.hash.toNat_lt_size
  · intro K' V' other q' text' hother
    rw [← htext, hother.text_eq]
    exact KeyNotFound.message_eq_iff

/-- A letter that is not stored although its hash is that of a stored one, and the text in which
another query does not end because its hash is different. -/
theorem misses_tell_hashes_colliding :
    let S := Setting.standard (.constant 0xab) fun (a b : Char) => decide (a ≤ b)
    let m : MatchMap Char String := (withCapacity 0).after S [.insert 'a' "first"]
    let text := "key not found (hash 0x00000000000000ab)"
    m.keys = ['a'] ∧ S.matching.hash 'a' = (S.query 'b').hash ∧ m.MissesWith (S.query 'b') text ∧
      ¬ (empty : MatchMap Bool Bool).MissesWith ⟨0xab0, fun _ => true⟩ text := by
  intro S m text
  have hm : Coherent S.matching m := (coherent_withCapacity 0).after _
  have hmiss := hm.find_eq_none_iff.mp (show (m.find (S.query 'b')).value = none by decide)
  have htext : "key not found (hash 0x" ++
      String.ofList ((Nat.toDigits 16 (S.query 'b').hash.toNat).leftpad 16 '0') ++ ")" = text := by
    decide
  obtain ⟨hends, _, _, _, hother⟩ := misses_tell_hashes (V := String) S 0 [.insert 'a' "first"]
    (S.query 'b') hmiss
  rw [htext] at hends hother
  refine ⟨by decide, rfl, hends, ?_⟩
  intro hsame
  exact absurd ((hother Bool Bool empty _ text hsame).mp rfl) (by decide)

end MatchMap

end KeyedContainers
