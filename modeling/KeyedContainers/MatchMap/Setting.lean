import KeyedContainers.Key.Item

/-!
# Settings of a map

A setting says what a map needs to know of its keys: how they match, what else they may be
asked for, and, for the conventional table, which of them are equal and in which order they are
shown. Plain values match by their own relation and are asked for by themselves; texts are also
asked for by slices; items follow their rules; held keys behave as their contents.
-/

namespace KeyedContainers

open Text

/-- What a map needs to know of its keys `K` and requests `Q`. -/
structure Setting (K Q : Type) where
  matching : Matching K
  /-- The matching that governs a conventional table. -/
  native : Matching K
  /-- A request as a query. -/
  query : Q → Query K
  /-- The order in which a conventional table is shown. -/
  le : K → K → Bool

/-- A request for a text. -/
inductive TextRequest where
  | whole (s : String)
  | slice (s : String.Slice)

/-- The characters of a requested text. -/
def TextRequest.text : TextRequest → String
  | whole s => s
  | slice s => s.copy

namespace Setting

variable {K Q : Type}

/-- Plain values, asked for by themselves. -/
def standard [Feed K] [BEq K] [Matches K K] (hasher : Hasher) (le : K → K → Bool) :
    Setting K K where
  matching := .standard hasher
  native := .byEquality hasher
  query k := .of hasher k
  le := le

/-- Texts, asked for by texts and slices. -/
def texts (hasher : Hasher) : Setting String TextRequest where
  matching := .standard hasher
  native := .byEquality hasher
  query
    | .whole s => .of hasher s
    | .slice s => .of hasher s
  le s t := !(t < s)

/-- Items under their rules. -/
def items (rules : Item.Rules) : Setting Item Item.Request where
  matching := rules.matching
  native := rules.nativeMatching
  query := rules.query
  le := Item.le

/-- The matching of held keys by their contents. -/
def heldMatching (holder : Holder) (M : Matching K) : Matching (Held holder K) :=
  ⟨fun k => M.hash k.content, fun stored q => M.agrees stored.content q.content⟩

/-- Keys in holders, which behave as their contents. -/
def held (holder : Holder) (S : Setting K Q) : Setting (Held holder K) Q where
  matching := heldMatching holder S.matching
  native := heldMatching holder S.native
  query q := ⟨(S.query q).hash, fun stored => (S.query q).accepts stored.content⟩
  le a b := S.le a.content b.content

end Setting

end KeyedContainers
