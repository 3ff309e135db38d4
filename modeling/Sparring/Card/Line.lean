/-
A card on one line, such as

    Strike 11 (4) spd 7 blk 1 adj -1 | B → Z | KD

The head says what it is and how hard it hits, then come level, speed, damage on
block and hand-size change, each only when it is not zero; after a bar the
description, after another the labels.
-/
import Sparring.Card.Legend

namespace Sparring.Card

/-- Kind, damage and the damage of the opener. -/
def head (c : Card) : String :=
  c.kind.title ++ (if c.damage = 0 then "" else " " ++ toString c.damage.toInt) ++
    (if c.firstDamage = 0 then "" else " (" ++ toString c.firstDamage.toInt ++ ")")

/-- Level, speed, damage on block and hand-size change. -/
def figures (c : Card) : List String :=
  (if c.level = 0 then [] else [String.ofList (List.replicate c.level.toInt.toNat 'I')]) ++
    (if c.speed = 0 then []
      else ["spd " ++ toString c.speed.toInt ++ (if c.isReversal then "R" else "")]) ++
    (if c.blockDamage = 0 then [] else ["blk " ++ toString c.blockDamage.toInt]) ++
    (if c.adjust = 0 then []
      else ["adj " ++ toString c.adjust.toInt ++ (if c.always then "!" else "")])

/-- The card on one line. -/
def line (c : Card) : String :=
  " ".intercalate (c.head :: c.figures) ++
    (if c.description = "" then "" else " | " ++ c.description) ++
    (if c.labels = [] then "" else " | " ++ " ".intercalate c.labels)

end Sparring.Card
