/-
Twilight Baron, who steps back and strikes: two of his strikes have backstep.

His first super is a dodge that costs no meter.  A combo behind it would change the hand
even when it whiffs, as supers do, and so every token that opens with it takes that back.
-/
import Sparring.Roster.Basic

namespace Sparring.Roster

open Spec

/-- The table of Twilight Baron. -/
def twilightBaron : Table where
  moves := .ofList [
    ('A', strike 4 8 |>.height .low),
    ('B', strike 4 7),
    ('D', strike 5 6 |>.height .low),
    ('E', strike 6 5 |>.height .low),
    ('F', strike 7 4 |>.height .high),
    ('t', throw 8 4),
    ('h', ofKind .blockHigh),
    ('l', ofKind .blockLow),
    ('d', ofKind .dodge),
    ('X', strike 7 2 |>.blockDamage 2 |>.tweak ({ · with backstep := true })),
    ('Y', strike 14 1 |>.blockDamage 4
      |>.tweak ({ · with backstep := true, knockdown := true, isUnsafe := true })),
    ('Z', projectile 1 4 |>.blockDamage 1
      |>.tweak ({ · with level := some 2, edge := true, recur := false, lockdown := false })),
    ('1', ofKind .dodge |>.superMeter 0 |>.tweak ({ · with recur := true })),
    ('2', strike 20 11 |>.blockDamage 2 |>.superMeter 2)]
  book := {
    name := "Twilight Baron"
    difficulty := 4
    normal := four
      ⟨eight "l" "h" "l" "t" "t" "AB" "AB" "Y", "t"⟩
      ⟨eight "l" "h" "l" "t" "YEF" "YEF" "Y" "Y", "Y"⟩
      ⟨eight "l" "h" "tDE" "tDE" "YEF" "YEF" (.patched "1DEF" { always := false }) "ZDEF", "Y"⟩
      ⟨eight (.patched "1EF2" { always := false }) (.patched "1DEF" { always := false })
        "tDE" "tDE" "YEF" "YEF" "2" "ZEF2", "2"⟩
    knockdown := ⟨eight "l" "h" "l" "h" "t" "EF" "2" "2", none⟩
    wakeup := some ⟨eight "l" "h" "t" "t" "EF" "FZF" "FZF" "YEF", none⟩ }

end Sparring.Roster
