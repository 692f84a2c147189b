import KeyedContainers.View.Step

/-!
# Sessions over a caller's buffer

A caller keeps a buffer of elements and lays views over it, one after another. A session
says how the view gets its elements and which accesses go through it. A view that borrows the
buffer for writing leaves its writes there; one that was given a copy, or fresh zeros, leaves
the buffer alone, and so does a view for reading only.
-/

namespace KeyedContainers

/-- How a view gets its elements. -/
inductive Storage where
  /-- The caller's buffer, for reading and writing. -/
  | borrowed
  /-- The caller's buffer, for reading. -/
  | shared
  /-- A copy of the caller's buffer. -/
  | owned
  /-- A fresh buffer of zeros. -/
  | zeros
deriving DecidableEq, Repr

/-- One view over the caller's buffer and the accesses that go through it. -/
structure Session (α : Type) where
  storage : Storage
  /-- A write of the caller to its buffer before the view is made. -/
  poke : Option (Nat × α)
  steps : List (View.Step α)

namespace Session

variable {α : Type}

/-- How a session ended, and with what the caller's buffer held then. -/
inductive Outcome (α : Type) where
  /-- There was no layout to view the buffer through. -/
  | undefined (error : ViewError)
  /-- The buffer could not be viewed. -/
  | refused (error : ViewError) (data : Array α)
  /-- The replies to the accesses, and the buffer of the view at the end. -/
  | completed (replies : List (View.Reply α)) (inner data : Array α)

/-- The view that a session opens over the caller's buffer. -/
def openView [Element α] (storage : Storage) (layout : Layout) (data : Array α) :
    Except ViewError (View α) :=
  match storage with
  | .zeros => .ok layout.zeros
  | .borrowed | .shared | .owned => layout.view data

/-- The caller's buffer after a view with this final buffer. -/
def settle (storage : Storage) (data inner : Array α) : Array α :=
  match storage with
  | .borrowed => inner
  | .shared | .owned | .zeros => data

/-- The caller's buffer after its own write. -/
def poked (session : Session α) (data : Array α) : Array α :=
  match session.poke with
  | none => data
  | some (i, a) => data.setIfInBounds i a

/-- Runs a session; answers its outcome and the caller's buffer afterwards. -/
def run [Element α] (layout : Except ViewError Layout) (session : Session α) (data : Array α) :
    Outcome α × Array α :=
  let data := session.poked data
  match layout with
  | .error error => (.undefined error, data)
  | .ok layout =>
    match openView session.storage layout data with
    | .error error => (.refused error data, data)
    | .ok v =>
      let after := v.run session.steps
      let data := settle session.storage data after.1.buffer
      (.completed after.2 after.1.buffer data, data)

/-- The outcomes of sessions that follow one another over the same buffer. -/
def runAll [Element α] (data : Array α) :
    List (Except ViewError Layout × Session α) → List (Outcome α)
  | [] => []
  | (layout, session) :: rest =>
    let after := session.run layout data
    after.1 :: runAll after.2 rest

end Session

end KeyedContainers
