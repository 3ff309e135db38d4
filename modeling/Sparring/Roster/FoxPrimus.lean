/-
Fox Primus, quick and light: from the second row on, most cards are chains.

The pumps of the two strikes that have tiers are written in the combos; the second super
has its pumps in its damage already.
-/
import Sparring.Roster.Basic

namespace Sparring.Roster

open Spec

/-- The table of Fox Primus. -/
def foxPrimus : Table where
  moves := .ofList [
    ('A', strike 2 9 |>.height .low),
    ('B', strike 3 8 |>.height .low),
    ('C', strike 4 7 |>.height .high),
    ('D', strike 5 6 |>.height .high),
    ('E', strike 6 5),
    ('t', throw 6 6),
    ('h', ofKind .blockHigh),
    ('l', ofKind .blockLow),
    ('d', ofKind .dodge),
    ('X', strike 5 8 |>.blockDamage 1 |>.height .high),
    ('Y', strike 1 9 |>.blockDamage 1 |>.pump [4, 4]),
    ('Z', strike 5 7 |>.blockDamage 2 |>.pump [3, 3]),
    ('1', strike 17 9 |>.blockDamage 3 |>.superMeter 2),
    -- fully pumped
    ('2', ofKind .dodge |>.damage 30 |>.superMeter 2)]
  book := {
    name := "Fox Primus"
    difficulty := 2
    normal := four
      ⟨eight "tB" "tC" "AB" "AB" "AB" "CD" "CD" "dt", "tC"⟩
      ⟨eight "l" "h" "l" "t" "BCD" "CDE" "dY++" "dY++", "CDE"⟩
      ⟨eight "l" "h" "l" "tCDE" "tCDE" "ABXDE" "CDXDE" "d1", "tCDE"⟩
      ⟨eight "2" "2" "tZ++DE" "tZ++DE" "ABCD1" "CDE1" "Y++DE1" "1", "Y++DE1"⟩
    knockdown := ⟨eight "l" "h" "l" "h" "l" "h" "t" "BCD", none⟩ }

end Sparring.Roster
