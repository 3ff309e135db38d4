/-
Ancient Hero, who rarely needs a second move: most moves have tiers of pumps, and each tier
adds half of the move's damage or more.

There is only one super, under the symbol of a second one.
-/
import Sparring.Roster.Basic

namespace Sparring.Roster

open Spec

/-- The table of Ancient Hero. -/
def ancientHero : Table where
  moves := .ofList [
    ('A', strike 5 7 |>.height .low |>.pump [5] |>.tweak ({ · with edge := true })),
    ('C', strike 10 4 |>.height .low |>.pump [5] |>.tweak ({ · with edge := true })),
    ('E', strike 10 3 |>.armor .heavy |>.pump [6] |>.tweak ({ · with edge := true })),
    ('G', strike 10 2 |>.height .high |>.pump [8] |>.tweak ({ · with edge := true })),
    ('J', strike 10 1 |>.height .high |>.pump [10] |>.tweak ({ · with edge := true })),
    ('t', throw 8 3 |>.pump [4, 4]),
    ('h', ofKind .blockHigh),
    ('l', ofKind .blockLow),
    ('d', ofKind .dodge),
    ('X', strike 10 7 |>.blockDamage 1 |>.pump [10]),
    ('Y', strike 10 12 |>.blockDamage 2 |>.tweak ({ · with isUnsafe := true })),
    ('Z', strike 8 6 |>.blockDamage 3 |>.pump [12] |>.armor .heavy),
    ('2', strike 20 8 |>.blockDamage 10 |>.superMeter 2 |>.tweak ({ · with unblockable := true }))]
  book := {
    name := "Ancient Hero"
    difficulty := 3
    normal := four
      ⟨eight "l" "h" "l" "h" "dG" "t" "C" "E", "C"⟩
      ⟨eight "l" "h" "l" "dG" "t+" "A" "C+" "E+", "C"⟩
      ⟨eight "l" "h" "l" "h" "t++" "A+" "X+" "E+", "G+"⟩
      ⟨eight "dJ+" "dJ+" "t++" "X+" "Y" "Z+" "2" "2", "J+"⟩
    knockdown := ⟨eight "l" "h" "l" "t+" "Y" "Y" "Y" "E+", none⟩ }

end Sparring.Roster
