/-
Which row the bot fights from, and which card of it.

The hand picks a normal row.  A desperate bot puts its own cards over that row, slot
by slot, and then no mode counts.  Otherwise the row of the mode replaces all eight
slots, and its hitback too if it has one.  A mode that the bot does not know leaves the
normal row as it is.
-/
import Sparring.Bot.Assemble
import Sparring.Query.State

namespace Sparring

/-- A row as it is played. -/
abbrev PlayedRow := Row Card Card

namespace Row

/-- The row with every filled slot of `top` in place. -/
def overlay (base : PlayedRow) (top : Row (Option Card) (Option Card)) : PlayedRow where
  slots := top.slots.zipWith (fun o c => o.getD c) base.slots
  hitback := top.hitback.getD base.hitback

/-- All slots of `top`, and its hitback if it has one. -/
def replace (base : PlayedRow) (top : Row Card (Option Card)) : PlayedRow where
  slots := top.slots
  hitback := top.hitback.getD base.hitback

/-- The card of a state: the hitback, or the slot that was rolled. -/
def pick? (r : PlayedRow) (s : State) : Option Card :=
  if s.hitback then some r.hitback else r.slots.toList[s.choiceIndex.toNat]?

end Row

namespace Playbook

/-- The replacement row of a mode. -/
def rowOfMode (b : Bot) : Mode → Option (Row Card (Option Card))
  | .none => none
  | .knockdown => some b.knockdown
  | .wakeup => b.wakeup
  | .dragon => b.dragon

/-- The row of a state. -/
def playedRow (b : Bot) (s : State) : PlayedRow :=
  let base := b.normal.get s.bracket
  let ofMode : PlayedRow :=
    match rowOfMode b s.mode with
    | some top => base.replace top
    | none => base
  if s.desperate then
    match b.desperate with
    | some top => base.overlay top
    | none => ofMode
  else
    ofMode

/-- The card of a state; none if the roll is off the die. -/
def resolve? (b : Bot) (s : State) : Option Card := (playedRow b s).pick? s

end Playbook

end Sparring
