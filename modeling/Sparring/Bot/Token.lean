/-
What an author writes in one cell of a table.

Usually a combo; sometimes a combo with changes to the card it makes; rarely a
whole card, which is used as it stands.
-/
import Sparring.Combo.Compile

namespace Sparring

/-- One cell of a table. -/
inductive Token where
  | combo (text : String)
  | patched (text : String) (patch : Patch)
  /-- A complete card. -/
  | card (c : Card)
deriving DecidableEq, Repr

/-- The card a token stands for. -/
def Token.compile (r : Registry) : Token → Checked Combo.Error Card
  | combo text => Combo.compile r text
  | patched text patch => Combo.compilePatched r text patch
  | card c => .ok c

end Sparring
