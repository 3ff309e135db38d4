/-
Combos as their authors write them: symbols of moves, each followed by its pumps.

    Y++DE+   is   Y pumped twice, D, E pumped once

`parse` and `render` are inverse to each other on the combos that `parse` accepts,
and it refuses only two: the empty one and one that begins with a pump.
-/
import Sparring.Amount

namespace Sparring

namespace Combo

/-- The pump symbol. -/
def pumpSymbol : Char := '+'

/-- A move of a combo and how often it is pumped. -/
structure Step where
  name : Char
  pumps : Nat := 0
deriving DecidableEq, Repr

/-- What is wrong with a combo. -/
inductive Error where
  | empty
  | pumpWithoutMove (combo : String)
  | unknownMove (name : Char) (combo : String)
  | pumpOverflow (name : Char) (count available : Nat) (combo : String)
  | positiveAdjust (adjust : Amount) (combo : String)
deriving DecidableEq, Repr

/-- The error as its author reads it. -/
def Error.message : Error → String
  | empty => "combo must reference at least one move"
  | pumpWithoutMove combo => "pump symbol must follow a move in '" ++ combo ++ "'"
  | unknownMove name combo => "unknown move '" ++ name.toString ++ "' in '" ++ combo ++ "'"
  | pumpOverflow name count available combo =>
    "move " ++ name.toString ++ " cannot be pumped " ++ toString count ++ " times (has " ++
      toString available ++ " pump tiers) in '" ++ combo ++ "'"
  | positiveAdjust adjust combo =>
    "override sets a positive adjust (" ++ toString adjust.toInt ++ ") in '" ++ combo ++ "'"

/-- The pumps at the front, and the steps after them. -/
def gather : List Char → Nat × List Step
  | [] => (0, [])
  | c :: cs =>
    let (pumps, steps) := gather cs
    if c = pumpSymbol then (pumps + 1, steps) else (0, ⟨c, pumps⟩ :: steps)

/-- The steps of a combo. -/
def parse (combo : String) : Except Error (List Step) :=
  match gather combo.toList with
  | (0, []) => .error .empty
  | (0, steps) => .ok steps
  | (_ + 1, _) => .error (.pumpWithoutMove combo)

/-- A step as it is written. -/
def Step.render (s : Step) : List Char := s.name :: List.replicate s.pumps pumpSymbol

/-- Steps as they are written. -/
def render (steps : List Step) : String := String.ofList (steps.flatMap Step.render)

end Combo

end Sparring
