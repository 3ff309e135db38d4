/-
The controls with which a player moves from state to state.

Every control changes its own part of the state and leaves the rest alone; only a step can
fail, when its sum leaves the width in which it is added.
-/
import Sparring.Query.State

namespace Sparring

/-- One move of a control. -/
inductive Control where
  /-- Brings hand and roll back into range. -/
  | clamp
  | stepHand (delta : Int32)
  | stepChoice (delta : Int32)
  | toggle (m : Mode)
  | flipDesperate
  | flipHitback
deriving DecidableEq, Repr

namespace State

/-- The state after one move of a control. -/
def after? (s : State) : Control → Option State
  | .clamp => some s.clamped
  | .stepHand delta => s.stepHand? delta
  | .stepChoice delta => s.stepChoice? delta
  | .toggle m => some { s with mode := s.mode.toggle m }
  | .flipDesperate => some { s with desperate := !s.desperate }
  | .flipHitback => some { s with hitback := !s.hitback }

/-- The state after several moves, none of which fails. -/
def run? (s : State) (controls : List Control) : Option State := controls.foldlM after? s

end State

end Sparring
