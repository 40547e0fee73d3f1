/-
Iteration to a fixed point, with a bound on the number of steps.

A step may fail. The iteration stops at the first value that a step leaves unchanged; a value that still changes at the
last step allowed is an error. A monotone step on a finite lattice always gets there, so the bound is a guard only.
-/

namespace GrammarLab

/-- `step` applied to `x` until nothing changes, at most `bound` times -/
def fixpoint {m : Type → Type} {α : Type} [Monad m] [DecidableEq α] (tooMany : m α) (step : α → m α) :
    Nat → α → m α
  | 0, _ => tooMany
  | bound + 1, x => do
    let y ← step x
    if y = x then pure x else fixpoint tooMany step bound y

/-- the steps that an iteration may take unless told otherwise -/
def fixpointBound : Nat := 1000

end GrammarLab
