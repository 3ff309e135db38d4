/-
Jandra, the Negator, who freezes and heals: her throw and her projectile freeze, a special
and the first super heal.

A throw on wakeup does not freeze, nor does one behind a dodge; a patch says so in each
place.  The second super has its pumps in its damage already.
-/
import Sparring.Roster.Basic

namespace Sparring.Roster

open Spec

/-- The table of Jandra, the Negator. -/
def jandraTheNegator : Table where
  moves := .ofList [
    ('A', strike 2 9 |>.height .low),
    ('B', strike 3 8 |>.height .low),
    ('C', strike 4 7 |>.height .high),
    ('D', strike 5 6 |>.height .high),
    ('E', strike 6 5),
    ('t', throw 6 6 |>.tweak ({ · with freeze := true })),
    ('h', ofKind .blockHigh),
    ('l', ofKind .blockLow),
    ('d', ofKind .dodge),
    ('X', strike 4 8 |>.blockDamage 3 |>.pump [4, 4] |>.tweak ({ · with edge := true })),
    ('Y', strike 6 12 |>.blockDamage 1 |>.tweak ({ · with isUnsafe := true, selfHeal := some 6 })),
    ('Z', projectile 7 6 |>.blockDamage 5 |>.pump [7] |>.tweak ({ · with freeze := true })),
    ('1', strike 8 6 |>.superMeter 2 |>.tweak ({ · with selfHeal := some 10 })),
    -- fully pumped
    ('2', strike 16 9 |>.superMeter 2)]
  book := {
    name := "Jandra, the Negator"
    difficulty := 4
    normal := four
      ⟨eight "tB" "tC" "AB" "AB" "AB" "CD" "CD" (.patched "dt" { freeze := false }), "t"⟩
      ⟨eight "l" "h" "l" "t" "BCD" "CDE" "dZ+" "dZ+", "t"⟩
      ⟨eight "l" "h" "tCDE" "tCDE" "BXDE" "BXDE" "CDXDE" "d2", "2"⟩
      ⟨eight "1" "1" "tX++DE" "tX++DE" "ABCD2" "CDE2" "dZ+" "2", "2"⟩
    knockdown := ⟨eight "l" "h" "l" "h" "Y" "Y" "1" "1", none⟩
    wakeup := some
      ⟨eight "l" "h" (.patched "t" { freeze := false }) (.patched "t" { freeze := false })
        "BCDE" "BCDE" "CDE" "CDE", none⟩ }

end Sparring.Roster
