import KeyedContainers.MatchMap.Step

/-!
# Workspaces

A workspace holds maps by number, handles by name, and the setting that all its maps share. It
starts with one empty map; copies are added behind the others. A handle is kept under a name
when a query found it, and can be tried on any of the maps. Changing the setting changes how
keys match from then on, and changes no map.
-/

namespace KeyedContainers

/-- Maps by number, handles by name, and the setting of the maps. -/
structure Workspace (K Q V : Type) where
  setting : Setting K Q
  maps : Array (MatchMap K V)
  /-- Kept handles, the last kept first. -/
  handles : List (String × Handle)

namespace Workspace

variable {K Q V : Type}

/-- One thing to do in a workspace. -/
inductive Command (K Q V : Type) where
  /-- An operation on a map. -/
  | perform (map : Nat) (step : MatchMap.Step K Q V)
  /-- Looks for a handle and keeps it under a name. -/
  | keep (map : Nat) (q : Q) (name : String)
  /-- An operation on a map with a kept handle. -/
  | withHandle (map : Nat) (name : String) (step : Handle → MatchMap.Step K Q V)
  /-- Whether two kept handles are the same. -/
  | compare (left right : String)
  /-- Adds a copy of a map. -/
  | copy (map : Nat)
  /-- Changes the setting. -/
  | change (setting : Setting K Q)

/-- What a command answers. -/
inductive Answer (K V : Type) where
  | reply (reply : MatchMap.Reply K V)
  /-- No handle is kept under the name. -/
  | noHandle
  /-- The number of a new map. -/
  | added (map : Nat)

/-- A workspace with one empty map. -/
def start (setting : Setting K Q) : Workspace K Q V := ⟨setting, #[.empty], []⟩

/-- The map of a number; an empty one where there is none. -/
def map (w : Workspace K Q V) (number : Nat) : MatchMap K V := w.maps[number]?.getD .empty

/-- The handle kept under a name. -/
def handle? (w : Workspace K Q V) (name : String) : Option Handle := w.handles.lookup name

/-- Performs an operation on a map. -/
def perform [Listed K] [Listed V] (w : Workspace K Q V) (number : Nat)
    (step : MatchMap.Step K Q V) : Traced (MatchMap.Reply K V × Workspace K Q V) := do
  let (reply, after) ← (w.map number).step w.setting step
  return (reply, { w with maps := w.maps.setIfInBounds number after })

/-- Keeps the handle of a reply, if it has one, under a name. -/
def keeping (w : Workspace K Q V) (name : String) : MatchMap.Reply K V → Workspace K Q V
  | .handle (some h) => { w with handles := (name, h) :: w.handles }
  | _ => w

/-- The answer to a command, and the workspace after it. -/
def execute [Listed K] [Listed V] (w : Workspace K Q V) :
    Command K Q V → Traced (Answer K V × Workspace K Q V)
  | .perform number step => return (← w.perform number step).map .reply id
  | .keep number q name => do
    let (reply, w) ← w.perform number (.find q)
    return (.reply reply, w.keeping name reply)
  | .withHandle number name step =>
    match w.handle? name with
    | none => return (.noHandle, w)
    | some h => return (← w.perform number (step h)).map .reply id
  | .compare left right =>
    match w.handle? left, w.handle? right with
    | some g, some h => return (.reply (.flag (g == h)), w)
    | _, _ => return (.noHandle, w)
  | .copy number =>
    return (.added w.maps.size, { w with maps := w.maps.push (w.map number) })
  | .change setting => return (.reply .done, { w with setting := setting })

end Workspace

end KeyedContainers
