import KeyedContainers.View

/-!
# Solvers

The calling contract of a solver for optimization programs. A solver has a name, says whether
it is available, and answers a program with a success flag, a solution and details of its
own, or with an error. What a solver does while it works is left to a monad. Asking with a check
never reaches a solver that is not available.
-/

namespace KeyedContainers

open Text

/-- The name by which a solver is known. -/
structure SolverId where
  name : String
deriving DecidableEq, Repr

namespace SolverId

/-- A solver is shown by its name. -/
def display (id : SolverId) : String := id.name

instance : Listed SolverId := ⟨fun id => .record "SolverId" [("name", Listed.listing id.name)]⟩

end SolverId

/-- Why a program was not solved. -/
inductive SolverError where
  | unavailable (solver : SolverId)
deriving DecidableEq, Repr

namespace SolverError

/-- The sentence that explains the error. -/
def message : SolverError → String
  | unavailable solver => "solver " ++ solver.display ++ " is not available"

/-- The solver that the error is about. -/
def solver : SolverError → SolverId
  | unavailable solver => solver

/-- The error with its solver. -/
def listing : SolverError → Listing
  | unavailable solver => .wrapped "Unavailable" (Listed.listing solver)

end SolverError

/-- What a solver answers to a program. -/
structure Solution (D : Type) where
  success : Bool
  point : Array Binary64
  details : D
deriving BEq, Repr

namespace Solution

variable {D : Type}

/-- The solution read through the names of a layout. -/
def view (solution : Solution D) (layout : Layout) : Except ViewError (View Binary64) :=
  layout.view solution.point

instance [Listed D] : Listed (Solution D) where
  listing solution :=
    .record "SolveResult"
      [("success", Listed.listing solution.success), ("solution", Listed.listing solution.point),
        ("details", Listed.listing solution.details)]

end Solution

/-- A solver for programs `P` with details `D`, which works in the monad `m`. -/
structure Solver (m : Type → Type) (P D : Type) where
  id : SolverId
  available : Bool
  solve : P → m (Except SolverError (Solution D))

/-- Solves a program unless the solver is not available, which is reported. -/
def Solver.solveChecked {m : Type → Type} [Monad m] {P D : Type} (solver : Solver m P D)
    (program : P) : m (Traced (Except SolverError (Solution D))) :=
  if solver.available then do
    return pure (← solver.solve program)
  else
    return do
      .report (.solverUnavailable solver.id.name)
      return .error (.unavailable solver.id)

end KeyedContainers
