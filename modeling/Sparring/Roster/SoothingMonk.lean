/-
Soothing Monk, whose third special is free: a combo costs one card less for it.

No attribute says so, hence the patches on the combos that have it.  The second super hurts
the monk as much as the opponent.
-/
import Sparring.Roster.Basic

namespace Sparring.Roster

open Spec

/-- The table of Soothing Monk. -/
def soothingMonk : Table where
  moves := .ofList [
    ('A', strike 3 8 |>.height .high),
    ('B', strike 4 7 |>.height .low),
    ('D', strike 5 6),
    ('E', strike 6 5 |>.height .low),
    ('F', strike 7 4),
    ('t', throw 6 3),
    ('h', ofKind .blockHigh),
    ('l', ofKind .blockLow),
    ('d', ofKind .dodge),
    ('X', projectile 8 7 |>.blockDamage 4 |>.tweak ({ · with knockdown := true })),
    ('Y', strike 6 5 |>.blockDamage 2 |>.pump [7]
      |>.tweak ({ · with knockdown := true, undodgeable := true })),
    ('Z', strike 5 7 |>.blockDamage 2),
    ('1', strike 31 13 |>.blockDamage 2 |>.superMeter 4 |>.tweak ({ · with isUnsafe := true })),
    ('2', strike 10 15 |>.blockDamage 10 |>.superMeter 1
      |>.tweak ({ · with selfDamage := some 10 }))]
  book := {
    name := "Soothing Monk"
    difficulty := 1
    normal := four
      ⟨eight "l" "h" "l" "t" "AB" (.patched "BZ" { adjust := some 0 }) "X" "X", "t"⟩
      ⟨eight "l" "h" "l" "t" (.patched "ABZ" { adjust := some (-1) }) "Y+E" "X" "X", "t"⟩
      ⟨eight "l" "h" "l" "tDE" "Y+DE" "X" "2" "dt", "Y+"⟩
      ⟨eight "d1" "dt" "tEF" "tEF" "Y+DE" (.patched "ABZF" { adjust := some (-2) }) "1" "1",
        "1"⟩
    knockdown := ⟨eight "h" "t" "t" "2" "2" "2" "2" "2", none⟩ }

end Sparring.Roster
