/-
Dragonborn Centurion, who turns into a dragon with its second super.

The moves of the dragon stand in the same list under small letters.  Only the dragon row
plays them, and it has a hitback of its own, so nothing of the human rows is inherited.
-/
import Sparring.Roster.Basic

namespace Sparring.Roster

open Spec

/-- The table of Dragonborn Centurion. -/
def dragonbornCenturion : Table where
  moves := .ofList [
    ('A', strike 3 8 |>.height .low),
    ('B', strike 4 7),
    ('C', strike 5 6),
    ('D', strike 6 5 |>.height .low),
    ('E', strike 7 4 |>.height .high),
    ('t', throw 8 6),
    ('h', ofKind .blockHigh),
    ('l', ofKind .blockLow),
    ('d', ofKind .dodge),
    ('X', projectile 12 7 |>.blockDamage 5),
    ('Y', projectile 16 6 |>.blockDamage 6
      |>.tweak ({ · with level := some 2, edge := true, lockdown := false })),
    ('Z', strike 10 11 |>.blockDamage 2 |>.tweak ({ · with isUnsafe := true })),
    -- dragon form
    ('b', ofKind .blockFull |>.tweak ({ · with drawOnBlock := false, recur := false })),
    ('x', projectile 28 7 |>.blockDamage 6
      |>.tweak ({ · with level := some 2, lockdown := false })),
    ('y', strike 18 13 |>.blockDamage 2),
    ('z', throw 23 7 |>.tweak ({ · with knockdown := false })),
    ('1', strike 20 15 |>.blockDamage 1 |>.superMeter 2 |>.tweak ({ · with isUnsafe := true })),
    ('2', strike 1 15 |>.superMeter 3 |>.tweak ({ · with transform := true }))]
  book := {
    name := "Dragonborn Centurion"
    difficulty := 5
    normal := four
      ⟨eight "l" "h" "l" "t" "AB" "DE" "X" "Y", "t"⟩
      ⟨eight "l" "h" "l" "t" "AB" "Z" "X" "Y", "Y"⟩
      ⟨eight "l" "h" "l" "tCD" "tCD" "ABX" "X" "dY", "Y"⟩
      ⟨eight "2" "2" "tDE" "tDE" "ABX" "Z" "1" "1", "1"⟩
    knockdown := ⟨eight "l" "h" "l" "h" "tCD" "Z" "Z" "2", none⟩
    dragon := some ⟨eight "l" "h" "b" "dz" "x" "y" "z" "z", some "z"⟩ }

end Sparring.Roster
