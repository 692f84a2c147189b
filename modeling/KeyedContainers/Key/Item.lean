import KeyedContainers.Key.Matching

/-!
# Items

An item is a key with an identity and a tag, for which everything about matching can be chosen:
which part is hashed, the relation by which a stored item accepts another, the equality that
governs a conventional table, and whether a bare number or a bare text is accepted as a query.
-/

namespace KeyedContainers

open Text

/-- A key object with an identity and a tag. -/
structure Item where
  id : Int64
  tag : String
deriving DecidableEq, Repr

namespace Item

instance : Listed Item :=
  ⟨fun item => .record "Item" [("id", Listed.listing item.id), ("tag", Listed.listing item.tag)]⟩

/-- Items are ordered by identity, then by tag. -/
def le (a b : Item) : Bool :=
  a.id < b.id || (a.id == b.id && !(b.tag < a.tag))

/-- Which parts of an item are hashed. -/
inductive Place where
  | id
  | tag
  | both
  | none
deriving DecidableEq, Repr

/-- The bytes that an item feeds. -/
def Place.feed : Place → Item → List UInt8
  | .id, item => Feed.feed item.id
  | .tag, item => Feed.feed item.tag
  | .both, item => Feed.feed item.id ++ Feed.feed item.tag
  | .none, _ => []

/-- The relations by which a stored item accepts another. -/
inductive Relation where
  | sameId
  | sameTag
  | same
  /-- The tags are equal but for the case of ASCII letters. -/
  | sameTagIgnoringCase
  | always
  | never
  /-- The stored identity is not above the other. -/
  | notAbove
  /-- The identities differ by one at most. -/
  | near
  /-- The other tag begins with the stored one. -/
  | extendsTag
deriving DecidableEq, Repr

/-- Whether the stored item accepts the other. -/
def Relation.holds : Relation → Item → Item → Bool
  | sameId, stored, q => stored.id == q.id
  | sameTag, stored, q => stored.tag == q.tag
  | same, stored, q => stored == q
  | sameTagIgnoringCase, stored, q => stored.tag.map Char.toLower == q.tag.map Char.toLower
  | always, _, _ => true
  | never, _, _ => false
  | notAbove, stored, q => stored.id ≤ q.id
  | near, stored, q => (stored.id.toInt - q.id.toInt).natAbs ≤ 1
  | extendsTag, stored, q => stored.tag.toList.isPrefixOf q.tag.toList

/-- The choices about items as keys. -/
structure Rules where
  hasher : Hasher
  place : Place
  relation : Relation
  /-- The equality that governs a conventional table of items. -/
  native : Relation
  acceptsNumber : Bool
  acceptsText : Bool

/-- What a map of items may be asked for. -/
inductive Request where
  | item (item : Item)
  | number (n : Int64)
  | text (s : String.Slice)

namespace Rules

/-- The hash of an item. -/
def hash (rules : Rules) (item : Item) : UInt64 :=
  rules.hasher.hashBytes (rules.place.feed item)

/-- How items match as keys of a map. -/
def matching (rules : Rules) : Matching Item := ⟨rules.hash, rules.relation.holds⟩

/-- How items match as keys of a conventional table, where the asked item compares itself with the
stored one. -/
def nativeMatching (rules : Rules) : Matching Item :=
  ⟨rules.hash, fun stored q => rules.native.holds q stored⟩

/-- A request as a query. A bare number asks for an identity and a bare text for a tag; either is
hashed as it is. -/
def query (rules : Rules) : Request → Query Item
  | .item item => rules.matching.query item
  | .number n => ⟨rules.hasher.hash n, fun stored => rules.acceptsNumber && stored.id == n⟩
  | .text s => ⟨rules.hasher.hash s, fun stored => rules.acceptsText && stored.tag == s.copy⟩

end Rules

end Item

end KeyedContainers
