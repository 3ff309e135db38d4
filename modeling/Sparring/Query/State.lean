/-
Where the player stands at the table: cards in hand, the roll of the die, the mode,
and whether the bot is desperate or hitting back.

The controls step the hand and the roll and keep both in range.  A step is added in a
fixed width before it is clamped, so a step that leaves the width has no answer; the
roll is read as a signed number first, as its control does.
-/
import Sparring.Amount
import Sparring.Bot.Playbook
import Sparring.Width

namespace Sparring

/-- The situation that selects a replacement row. -/
inductive Mode where
  | none
  | knockdown
  | wakeup
  | dragon
deriving DecidableEq, Repr

namespace Mode

/-- Every mode, in table order. -/
def all : List Mode := [none, knockdown, wakeup, dragon]

/-- The mode as queries write it. -/
def name : Mode → String
  | none => "none"
  | knockdown => "knockdown"
  | wakeup => "wakeup"
  | dragon => "dragon"

/-- The mode of that name. -/
def ofName? (s : String) : Option Mode := all.find? (·.name == s)

/-- Selecting the active mode switches it off. -/
def toggle (m other : Mode) : Mode := if m = other then none else other

end Mode

/-! ### Brackets of the hand -/

/-- The fewest cards a hand may hold. -/
def leastHand : Nat := 5

/-- The most cards a hand may hold. -/
def greatestHand : Nat := 12

namespace Bracket

/-- Two hand sizes to a bracket, from the least hand up; sizes beyond belong to the ends. -/
def ofHand (hand : UInt8) : Fin brackets :=
  ⟨min ((hand.toNat - leastHand) / 2) 3, Nat.lt_succ_of_le (Nat.min_le_right _ _)⟩

/-- The hand sizes of a bracket, first and last. -/
def range : Fin brackets → Nat × Nat
  | 0 => (5, 6)
  | 1 => (7, 8)
  | 2 => (9, 10)
  | 3 => (11, 12)

/-- The hand sizes of a bracket as they are shown. -/
def label (b : Fin brackets) : String := toString (range b).1 ++ "-" ++ toString (range b).2

end Bracket

/-! ### The state -/

/-- A position at the table. -/
structure State where
  handSize : UInt8 := 9
  /-- The face of the die, counted from zero. -/
  choiceIndex : UInt64 := 0
  mode : Mode := .none
  desperate : Bool := false
  hitback : Bool := false
deriving DecidableEq, Repr

namespace State

/-- The nearest number between two bounds. -/
def clampInt (lo hi n : Int) : Int := max lo (min n hi)

/-- With hand size and roll in range. -/
def clamped (s : State) : State :=
  { s with
    handSize := if s.handSize < 5 then 5 else if 12 < s.handSize then 12 else s.handSize
    choiceIndex := if s.choiceIndex < 8 then s.choiceIndex else 7 }

/-- The hand larger by `delta`, within its bounds; nothing if the sum overflows. -/
def stepHand? (s : State) (delta : Int32) : Option State :=
  (Amount.fit? (s.handSize.toNat + delta.toInt)).map fun n =>
    { s with handSize := UInt8.ofNat (clampInt leastHand greatestHand n.toInt).toNat }

/-- The roll further by `delta`, within its bounds; nothing if the sum overflows. -/
def stepChoice? (s : State) (delta : Int32) : Option State :=
  let sum := s.choiceIndex.toInt64.toInt + delta.toInt
  if Width.Fits64 sum then
    some { s with choiceIndex := UInt64.ofNat (clampInt 0 (faces - 1 : Nat) sum).toNat }
  else
    none

/-- The bracket of the hand. -/
def bracket (s : State) : Fin brackets := Bracket.ofHand s.handSize

end State

end Sparring
