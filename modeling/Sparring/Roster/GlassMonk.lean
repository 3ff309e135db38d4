/-
Glass Monk, an even fighter: one move of every sort and two supers.

The only table with a desperate row.  It fills the upper half of the die with the first
super and leaves the lower half to the row of the hand.
-/
import Sparring.Roster.Basic

namespace Sparring.Roster

open Spec

/-- The table of Glass Monk. -/
def glassMonk : Table where
  moves := .ofList [
    -- normals
    ('A', strike 3 8 |>.height .low),
    ('B', strike 4 7 |>.height .low),
    ('C', strike 5 6),
    ('D', strike 6 5 |>.height .high),
    ('E', strike 7 4 |>.height .high),
    ('t', throw 7 5),
    -- defense
    ('h', ofKind .blockHigh),
    ('l', ofKind .blockLow),
    ('d', ofKind .dodge),
    -- specials
    ('X', projectile 8 7 |>.blockDamage 4),
    ('Y', strike 10 11 |>.blockDamage 2 |>.tweak ({ · with isUnsafe := true })),
    ('Z', strike 7 7 |>.blockDamage 1 |>.height .high),
    -- supers
    ('1', strike 20 15 |>.blockDamage 1 |>.superMeter 2 |>.tweak ({ · with isUnsafe := true })),
    ('2', ofKind .dodge |>.damage 30 |>.superMeter 2)]
  book := {
    name := "Glass Monk"
    difficulty := 1
    normal := four
      ⟨eight "l" "h" "l" "t" "BZ" "ZC" "X" "X", "t"⟩
      ⟨eight "l" "h" "l" "t" "ABC" "Y" "X" "X", "Y"⟩
      ⟨eight "l" "h" "l" "tCD" "tCD" "ABCX" "ABCX" "dt", "Y"⟩
      ⟨eight "2" "dt" "tDE" "tDE" "ABCX" "Y" "1" "1", "1"⟩
    knockdown := ⟨eight "h" "t" "Y" "Y" "Y" "Y" "Y" "Y", none⟩
    desperate := some
      ⟨eight none none none none (some "1") (some "1") (some "1") (some "1"), none⟩ }

end Sparring.Roster
