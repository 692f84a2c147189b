/-!
# Reported events

What the library reports while it works: a layout was defined, a solver was refused, an
insertion found its key already stored, a map was built from pairs. An event has a level, a
message and named fields, all of whose values are text.
-/

namespace KeyedContainers

/-- How much a reader of the log has to want to know. -/
inductive Level where
  | debug
  | trace
deriving DecidableEq, Repr

/-- The name of a level in a log. -/
def Level.label : Level → String
  | .debug => "DEBUG"
  | .trace => "TRACE"

/-- Something worth reporting. -/
inductive Event where
  /-- A layout was defined; `renamed` says whether any field name was changed for it. -/
  | definedLayout (name : String) (fields : Nat) (renamed : Bool)
  /-- A program was refused because its solver is not available. -/
  | solverUnavailable (solver : String)
  /-- An insertion replaced the value of a stored key with this hash. -/
  | replacedValue (hash : UInt64)
  /-- A map of this many entries was built from a list of pairs. -/
  | builtFromPairs (size : Nat)
deriving DecidableEq, Repr

namespace Event

/-- Events about one entry or one map are of the finer level. -/
def level : Event → Level
  | definedLayout .. | solverUnavailable .. => .debug
  | replacedValue .. | builtFromPairs .. => .trace

/-- The fixed text of an event. -/
def message : Event → String
  | definedLayout .. => "defined view type"
  | solverUnavailable .. => "solver unavailable"
  | replacedValue .. => "EqualToMap insert replaced existing value"
  | builtFromPairs .. => "built EqualToMap from pairs"

/-- The named values of an event as text; numbers are decimal. -/
def fields : Event → List (String × String)
  | definedLayout name fields renamed =>
    [("type_name", name), ("fields", fields.repr), ("renamed", if renamed then "true" else "false")]
  | solverUnavailable solver => [("solver", solver)]
  | replacedValue hash => [("hash", hash.toNat.repr)]
  | builtFromPairs size => [("len", size.repr)]

end Event

end KeyedContainers
