/-
Colossus, slow and armored: most of its strikes have armor, and its throws hit hardest.

One special is always pumped and pays nothing for it, so it has no tiers and its damage is
written in full.  Two throws do not knock down, which their kind would do.
-/
import Sparring.Roster.Basic

namespace Sparring.Roster

open Spec

/-- The table of Colossus. -/
def colossus : Table where
  moves := .ofList [
    ('A', strike 5 7 |>.height .low |>.armor .medium |>.tweak ({ · with knockdown := true })),
    ('C', strike 6 5 |>.height .low |>.armor .medium),
    ('D', strike 7 4 |>.armor .medium),
    ('E', strike 8 3 |>.height .high |>.armor .medium),
    ('F', strike 9 2 |>.height .high |>.armor .medium),
    ('t', throw 12 8),
    ('h', ofKind .blockHigh),
    ('l', ofKind .blockLow),
    -- stands in for entangling vines
    ('d', ofKind .dodge),
    ('X', strike 6 6 |>.blockDamage 2),
    -- fully pumped, for free
    ('Y', strike 14 5 |>.blockDamage 1 |>.armor .heavy),
    ('Z', throw 16 9 |>.armor .light |>.tweak ({ · with knockdown := false })),
    ('1', strike 20 12 |>.blockDamage 3 |>.superMeter 3),
    ('2', throw 50 15 |>.superMeter 3 |>.tweak ({ · with knockdown := false }))]
  book := {
    name := "Colossus"
    difficulty := 3
    normal := four
      ⟨eight "l" "h" "l" "h" "t" "t" "A" "EF", "t"⟩
      ⟨eight "l" "h" "l" "t" "Z" "AXD" "CDE" "EF", "t"⟩
      ⟨eight "l" "h" "l" "h" "t" "Z" "Z" "AXD", "Z"⟩
      ⟨eight "2" "2" "2" "1" "Y" "dZ" "dZ" "EF", "2"⟩
    knockdown := ⟨eight "l" "h" "l" "t" "Y" "Y" "1" "1", none⟩
    wakeup := some ⟨eight "l" "h" "t" "t" "CDE" "EF" "EF" "Z", none⟩ }

end Sparring.Roster
