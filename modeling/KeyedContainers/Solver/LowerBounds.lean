import KeyedContainers.Solver

/-!
# A solver for lower bounds

The program is a list of lower bounds, and the solution is the least point that is nowhere below
zero or its bound. The solver counts how often it is asked. It can be set up to claim failure, to
be unavailable, or to answer with the error of another solver.
-/

namespace KeyedContainers

/-- The status with which a solver for lower bounds ends. -/
structure Status where
  code : Int64
deriving DecidableEq, Repr

instance : Listed Status := ⟨fun s => .record "Details" [("status", Listed.listing s.code)]⟩

/-- How a solver for lower bounds behaves. -/
structure LowerBounds where
  id : SolverId
  available : Bool
  success : Bool
  status : Status
  /-- The solver that is named unavailable in place of an answer. -/
  failAs : Option SolverId

namespace LowerBounds

/-- The least number that is neither below zero nor below the bound; zero where the bound is no
number. -/
def leastPoint (bound : Binary64) : Binary64 := if bound.isPositive then bound else .zero

/-- The answer to a program. -/
def answer (setup : LowerBounds) (bounds : Array Binary64) :
    Except SolverError (Solution Status) :=
  match setup.failAs with
  | some id => .error (.unavailable id)
  | none => .ok ⟨setup.success, bounds.map leastPoint, setup.status⟩

/-- The solver, whose state is the number of programs it was asked to solve. -/
def solver (setup : LowerBounds) : Solver (StateM Nat) (Array Binary64) Status where
  id := setup.id
  available := setup.available
  solve bounds := do
    modify (· + 1)
    return setup.answer bounds

end LowerBounds

end KeyedContainers
