import KeyedContainers.Text.Listing

/-!
# Generational arenas

An arena keeps contents in slots and hands out handles to them. Removing a content frees its
slot, and an insertion takes the slot that was freed last before it makes a new one. Each
slot counts, in its version, how often it was taken or freed; a handle carries the version at which
its content was put in, and resolves only while the slot still has it. So a handle to a removed
content never resolves to a later one in the same slot.
-/

namespace KeyedContainers

open Text

/-- A reference to a content: a slot, and the version of the slot when the content was put in. -/
structure Handle where
  slot : Nat
  version : Nat
deriving DecidableEq, Repr

/-- A handle shows its slot, counted from one, and its version. -/
def Handle.listing (h : Handle) : Listing :=
  .wrapped "Handle" (.wrapped "DefaultKey" (.atom ((h.slot + 1).repr ++ "v" ++ h.version.repr)))

/-- A place for a content, with the number of times it was taken or freed. -/
structure Slot (α : Type) where
  version : Nat
  content : Option α
deriving DecidableEq, Repr

/-- The slot without its content. -/
def Slot.vacate {α : Type} (s : Slot α) : Slot α :=
  match s.content with
  | none => s
  | some _ => ⟨s.version + 1, none⟩

/-- Slots, the positions of the free ones with the last freed first, and the number of contents. -/
structure Arena (α : Type) where
  slots : Array (Slot α)
  free : List Nat
  count : Nat
deriving DecidableEq, Repr

namespace Arena

variable {α : Type}

/-- The arena without slots. -/
def empty : Arena α := ⟨#[], [], 0⟩

/-- The content that a handle refers to, unless the handle is stale. -/
def get? (a : Arena α) (h : Handle) : Option α :=
  match a.slots[h.slot]? with
  | none => none
  | some s => if s.version = h.version then s.content else none

/-- The handle and the content of a slot. -/
def slotEntry? (s : Slot α) (position : Nat) : Option (Handle × α) :=
  s.content.map fun content => (⟨position, s.version⟩, content)

/-- The handles and contents in the order of the slots. -/
def toList (a : Arena α) : List (Handle × α) :=
  a.slots.toList.zipIdx.filterMap fun s => slotEntry? s.1 s.2

/-- The handles in the order of the slots. -/
def handles (a : Arena α) : List Handle := a.toList.map (·.1)

/-- The contents in the order of the slots. -/
def contents (a : Arena α) : List α := a.toList.map (·.2)

/-- Puts a content into the slot freed last, or else into a new one. -/
def insert (a : Arena α) (content : α) : Handle × Arena α :=
  match a.free with
  | position :: free =>
    let version := (a.slots[position]?.elim 0 (·.version)) + 1
    (⟨position, version⟩,
      ⟨a.slots.setIfInBounds position ⟨version, some content⟩, free, a.count + 1⟩)
  | [] => (⟨a.slots.size, 1⟩, ⟨a.slots.push ⟨1, some content⟩, [], a.count + 1⟩)

/-- Takes out the content that a handle refers to and frees its slot. -/
def remove (a : Arena α) (h : Handle) : Option α × Arena α :=
  match a.get? h with
  | none => (none, a)
  | some content =>
    (some content,
      ⟨a.slots.setIfInBounds h.slot ⟨h.version + 1, none⟩, h.slot :: a.free, a.count - 1⟩)

/-- Changes the content that a handle refers to. -/
def modify (a : Arena α) (h : Handle) (f : α → α) : Arena α :=
  match a.get? h with
  | none => a
  | some content => { a with slots := a.slots.setIfInBounds h.slot ⟨h.version, some (f content)⟩ }

/-- Takes out all contents, freeing the slots in ascending order. -/
def clear (a : Arena α) : Arena α :=
  ⟨a.slots.map Slot.vacate, (a.handles.map (·.slot)).reverse ++ a.free, 0⟩

@[simp] theorem get?_empty (h : Handle) : (empty : Arena α).get? h = none := rfl

/-- A removal answers the content of its handle. -/
theorem remove_fst (a : Arena α) (h : Handle) : (a.remove h).1 = a.get? h := by
  unfold remove
  cases a.get? h <;> rfl

/-- A stale handle removes nothing. -/
theorem remove_of_stale {a : Arena α} {h : Handle} (hstale : a.get? h = none) :
    a.remove h = (none, a) := by
  simp [remove, hstale]

/-- A stale handle changes nothing. -/
theorem modify_of_stale {a : Arena α} {h : Handle} (hstale : a.get? h = none) (f : α → α) :
    a.modify h f = a := by
  simp [modify, hstale]

end Arena

end KeyedContainers
