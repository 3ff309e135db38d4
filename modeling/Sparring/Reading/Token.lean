/-
Reading the cells of a table.

A cell is a text, a text with a patch, or a card, and it is tried in that order.  If it is
none of them the complaint is about what holds the cell, not about the cell itself.
-/
import Sparring.Bot.Token
import Sparring.Reading.Card

namespace Sparring

namespace Token

/-- The token that a value spells, if it is one. -/
def ofDatum? : Datum → Option Token
  | .text s => some (.combo s)
  | .list [.text s, patch] =>
    match Patch.ofDatum patch with
    | .ok p => some (.patched s p)
    | .error _ => none
  | .map es =>
    match Card.ofDatum (.map es) with
    | .ok c => some (.card c)
    | .error _ => none
  | _ => none

/-- The token at a step. -/
def read {α : Type} [Source α] (step : PathStep) (v : α) : Reading Token := do
  let d ← Reading.within step (Source.datum v)
  match ofDatum? d with
  | some t => pure t
  | none => Reading.fail (.noShape Wanted.token)

/-- The token at a step, if there is one. -/
def readOptional {α : Type} [Source α] (step : PathStep) : α → Reading (Option Token) :=
  Reading.optional (read step)

end Token

end Sparring
