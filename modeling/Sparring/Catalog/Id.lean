/-
Bots asked for by what a player types.

The text is trimmed.  If it is a number of 64 bits it is a position, otherwise it is a
code in lower case.
-/
import Sparring.Catalog.Basic
import Sparring.Text.Digits
import Sparring.Text.LowerCase

namespace Sparring

/-- The id that a player typed. -/
def BotId.ofText (s : String) : BotId :=
  let cs := Text.trim s.toList
  match Text.natBelow? Width.size64 cs with
  | some n => .index n
  | none => .code (String.ofList (Text.lower cs))

end Sparring
