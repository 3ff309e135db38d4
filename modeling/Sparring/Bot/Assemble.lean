/-
From a table to a bot.

First the numbers are checked: the difficulty, then the moves in order.  Then every
cell is compiled and changed as its place asks:

  * a hitback answers an attack and opens none, so it loses what only an opener has,
    and it costs one card more unless it is a super;
  * on wakeup nothing is faster than the reversal threshold;
  * a dragon never touches the size of the hand.

The first thing that is wrong rejects the table, and the error says where it is.
-/
import Sparring.Bot.Playbook
import Sparring.Bot.Token

namespace Sparring

/-- A table as its author writes it. -/
structure Table where
  moves : Registry
  book : Playbook Token
deriving Repr

/-- A bot ready to fight. -/
abbrev Bot := Playbook Card

/-! ### What is wrong with a table -/

/-- Anything that rejects a table. -/
inductive AuthoringError where
  | combo (e : Combo.Error)
  | difficulty (n : UInt8)
  | negative (move : Char) (quantity : Quantity) (value : Amount)
  | codeTaken (code : String)
deriving DecidableEq, Repr

/-- The error as the author of the table reads it. -/
def AuthoringError.message : AuthoringError → String
  | combo e => e.message
  | difficulty n => "difficulty " ++ toString n.toNat ++ " is outside 1-5"
  | negative move quantity value =>
    "move '" ++ move.toString ++ "' has negative " ++ quantity.key ++ " (" ++
      toString value.toInt ++ ")"
  | codeTaken code => "code '" ++ code ++ "' is already used by another bot"

/-- The part of a table that is to blame. -/
inductive Spot where
  | name
  | difficulty
  | moves
  | cell (c : Cell)
deriving DecidableEq, Repr

/-- The part as errors name it. -/
def Spot.label : Spot → String
  | name => "name"
  | difficulty => "difficulty"
  | moves => "moves"
  | cell c => c.label

/-- What is wrong, and with which bot. -/
structure BuildError where
  bot : String
  spot : Spot
  cause : AuthoringError
deriving DecidableEq, Repr

/-- The error with its place. -/
def BuildError.message (e : BuildError) : String :=
  "bot '" ++ e.bot ++ "', " ++ e.spot.label ++ ": " ++ e.cause.message

/-! ### What places ask of their cards -/

namespace Card

/-- A card that answers an attack. -/
def asHitback {ε : Type} (c : Card) : Checked ε Card := do
  let adjust ← if c.super then .ok c.adjust else Amount.fit (c.adjust.toInt - 1)
  pure { c with
    always := false
    isUnsafe := false
    backstep := false
    recur := false
    lockdown := false
    speed := 0
    blockDamage := 0
    firstDamage := 0
    adjust }

/-- The speed from which a move is as fast as wakeup allows. -/
def wakeupFloor : Amount := 10

/-- No speed between zero and the floor, and none below zero. -/
def withSpeedFloor (c : Card) : Card :=
  if c.speed ≠ 0 ∧ c.speed.toInt < wakeupFloor.toInt then { c with speed := wakeupFloor } else c

/-- Nothing that changes the size of a hand. -/
def handNeutral (c : Card) : Card :=
  { c with adjust := 0, recur := false, drawOnBlock := false }

/-- What a place in a row asks of its card. -/
def forPlace {ε : Type} : Place → Card → Checked ε Card
  | .slot _, c => .ok c
  | .hitback, c => c.asHitback

/-- What a row asks of all its cards. -/
def forRow : RowName → Card → Card
  | .wakeup, c => c.withSpeedFloor
  | .dragon, c => c.handNeutral
  | _, c => c

end Card

/-! ### Assembling -/

namespace Table

/-- The hardest a bot may be, and the easiest. -/
def DifficultyOk (n : UInt8) : Prop := 1 ≤ n.toNat ∧ n.toNat ≤ 5

instance (n : UInt8) : Decidable (DifficultyOk n) := by
  unfold DifficultyOk
  infer_instance

/-- An error of this table. -/
def error (t : Table) (spot : Spot) (cause : AuthoringError) : BuildError :=
  { bot := t.book.name, spot, cause }

/-- The first number that is out of order. -/
def badNumber? (t : Table) : Option BuildError :=
  if DifficultyOk t.book.difficulty then
    t.moves.moves.findSome? fun m =>
      m.firstNegative?.map fun q => t.error .moves (.negative m.name q.1 q.2)
  else
    some (t.error .difficulty (.difficulty t.book.difficulty))

/-- The card of one cell. -/
def compileCell (t : Table) (cell : Cell) (token : Token) : Checked BuildError Card := do
  let c ← (token.compile t.moves).mapError fun
    | .overflow => .overflow
    | .refused e => .refused (t.error (.cell cell) (.combo e))
  let c ← c.forPlace cell.place
  pure (c.forRow cell.row)

/-- The bot of a table. -/
def assemble (t : Table) : Checked BuildError Bot :=
  match t.badNumber? with
  | some e => .error (.refused e)
  | none => t.book.traverse t.compileCell

end Table

end Sparring
