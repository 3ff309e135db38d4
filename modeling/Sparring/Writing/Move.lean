/-
Writing moves and their specs.
-/
import Sparring.Move.Basic
import Sparring.Writing.Card

namespace Sparring

/-- The spec as a record; overrides that are unset are null. -/
def Spec.toDatum (s : Spec) : Datum :=
  .record (("kind", .text s.kind.name) :: s.overrides.entries ++ [
    ("pump_damage", .list (s.pumps.map .ofAmount)),
    ("meter", .ofAmount s.meter)])

/-- The move as a record. -/
def Move.toDatum (m : Move) : Datum :=
  .record (("name", .text m.name.toString) :: m.toAttributes.entries ++ [
    ("pump_damage", .list (m.pumps.map .ofAmount)),
    ("meter", .ofAmount m.meter)])

end Sparring
