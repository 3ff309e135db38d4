/-
A card: what a bot does when its row and slot have been found.

On top of the attributes it carries the text shown to the player, the damage of
the opening move when a combo follows, and what the combo costs the hand.
`Patch` changes a compiled card field by field, `Card.apply` last of all.
-/
import Sparring.Card.Attributes

namespace Sparring

/-- An outcome ready to be shown. -/
structure Card extends Attributes where
  description : String := ""
  /-- Damage of the opener of a combo, zero for a single move. -/
  firstDamage : Amount := 0
  /-- The change of the hand size. -/
  adjust : Amount := 0
  /-- The hand size changes even when the move whiffs. -/
  always : Bool := false
deriving DecidableEq, Repr

/-- Changes to a compiled card, each of them optional. -/
structure Patch extends Overrides where
  kind : Option Kind := none
  description : Option String := none
  firstDamage : Option Amount := none
  adjust : Option Amount := none
  always : Option Bool := none
deriving DecidableEq, Repr

namespace Card

/-- A card with these attributes and nothing else. -/
def ofAttributes (a : Attributes) : Card := { toAttributes := a }

/-- The card with every set field of the patch in place. -/
def apply (c : Card) (p : Patch) : Card where
  toAttributes := { p.toOverrides.apply c.toAttributes with kind := p.kind.getD c.kind }
  description := p.description.getD c.description
  firstDamage := p.firstDamage.getD c.firstDamage
  adjust := p.adjust.getD c.adjust
  always := p.always.getD c.always

theorem apply_empty (c : Card) : c.apply {} = c := rfl

end Card

/-- The patch that only sets the hand-size change. -/
def Patch.ofAdjust (n : Amount) : Patch := { adjust := some n }

end Sparring
