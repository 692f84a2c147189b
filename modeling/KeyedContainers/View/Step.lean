import KeyedContainers.View

/-!
# Steps through a view

The reads and writes of a view as data, each with its reply. A read replies with what it
read and leaves the view as it was. A write replies with the whole buffer after it; one that
fails changes nothing.
-/

namespace KeyedContainers.View

/-- One access to a view. -/
inductive Step (α : Type) where
  /-- The element of a field. -/
  | get (field : String)
  /-- The element of a field that must be there. -/
  | demand (field : String)
  /-- The element at a position. -/
  | elementAt (i : Nat)
  /-- The whole buffer. -/
  | contents
  /-- The fields with their elements. -/
  | pairs
  /-- The plain text. -/
  | display
  /-- The text for inspection. -/
  | debug
  /-- The size and the names of the layout. -/
  | describe
  /-- Writes the element of a field. -/
  | set (field : String) (a : α)
  /-- Changes the element of a field in its place. -/
  | modify (field : String) (f : α → α)
  /-- Writes the element of a field that must be there. -/
  | demandSet (field : String) (a : α)
  /-- Writes the element at a position. -/
  | setAt (i : Nat) (a : α)
  /-- Changes the element at a position in its place. -/
  | modifyAt (i : Nat) (f : α → α)
  /-- Turns the buffer around. -/
  | reverse
  /-- Writes one element to every position. -/
  | fill (a : α)
  /-- Writes all elements. -/
  | assign (values : Array α)

/-- What an access answers. -/
inductive Reply (α : Type) where
  | element (a : α)
  | elements (as : Array α)
  | pairs (pairs : List (String × α))
  | text (text : String)
  | description (length : Nat) (isEmpty : Bool) (fields : List String) (name : String)
  | failed (failure : Failure)
deriving Repr

variable {α : Type}

/-- The reply to a read of one element. -/
def Reply.ofElement : Except Failure α → Reply α
  | .ok a => element a
  | .error failure => failed failure

/-- The view and the reply after an attempt to write. -/
def written (v : View α) : Except Failure (View α) → View α × Reply α
  | .ok w => (w, .elements w.buffer)
  | .error failure => (v, .failed failure)

/-- The view and the reply after one access. -/
def step [Element α] (v : View α) : Step α → View α × Reply α
  | .get field => (v, .ofElement (v.get field))
  | .demand field => (v, .ofElement (v.demand field))
  | .elementAt i => (v, .ofElement (v.elementAt i))
  | .contents => (v, .elements v.buffer)
  | .pairs => (v, .pairs v.pairs)
  | .display => (v, .text v.display)
  | .debug => (v, .text v.debug)
  | .describe => (v, .description v.length v.isEmpty v.layout.fields v.layout.name)
  | .set field a => v.written (v.set field a)
  | .modify field f => v.written (v.modify field f)
  | .demandSet field a => v.written (v.demandSet field a)
  | .setAt i a => v.written (v.setAt i a)
  | .modifyAt i f => v.written (v.modifyAt i f)
  | .reverse => v.written (.ok v.reverse)
  | .fill a => v.written (.ok (v.fill a))
  | .assign values => v.written (v.assign values)

/-- The view after a list of accesses, and their replies in order. -/
def run [Element α] (v : View α) : List (Step α) → View α × List (Reply α)
  | [] => (v, [])
  | s :: steps =>
    let after := v.step s
    let rest := after.1.run steps
    (rest.1, after.2 :: rest.2)

theorem run_cons [Element α] (v : View α) (s : Step α) (steps : List (Step α)) :
    v.run (s :: steps) =
      (((v.step s).1.run steps).1, (v.step s).2 :: ((v.step s).1.run steps).2) := rfl

end KeyedContainers.View
