/-
One question and its answer: which card does this bot play in that position?
-/
import Sparring.Card.Legend
import Sparring.Catalog.Basic
import Sparring.Query.Row

namespace Sparring

/-- A question to a catalog. The state may be out of range. -/
structure Question where
  bot : BotId
  state : State := {}
  /-- Tables to be used in place of the built-in ones. -/
  botsPath : Option String := none
deriving DecidableEq, Repr

/-- The answer, with the state as it was used. -/
structure Answer where
  bot : String
  difficulty : UInt8
  bracket : String
  state : State
  card : Card
  labels : List String
deriving DecidableEq, Repr

/-- Why a question has no answer. -/
inductive LookupError where
  | notFound (id : BotId)
  /-- The roll is off the die. -/
  | offTheDie
deriving DecidableEq, Repr

/-- The reason in words. -/
def LookupError.message : LookupError → String
  | notFound id => "bot '" ++ id.shown ++ "' not found"
  | offTheDie => "no card has that number"

/-- Answers a question from the bots of a catalog. -/
def Catalog.lookup (c : Catalog) (q : Question) : Except LookupError Answer :=
  match c.get? q.bot with
  | none => .error (.notFound q.bot)
  | some b =>
    let state := q.state.clamped
    match b.resolve? state with
    | none => .error .offTheDie
    | some card => .ok {
        bot := b.name
        difficulty := b.difficulty
        bracket := Bracket.label state.bracket
        state
        card
        labels := card.labels }

end Sparring
