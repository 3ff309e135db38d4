/-
Whitestar Grappler: slow strikes, and throws that are faster than nearly all of them.

The dodge is slow as well, but no attribute of a dodge says so.  Two of the throws do not
knock down, which their kind would do.
-/
import Sparring.Roster.Basic

namespace Sparring.Roster

open Spec

/-- The table of Whitestar Grappler. -/
def whitestarGrappler : Table where
  moves := .ofList [
    ('A', strike 5 7 |>.height .high),
    ('B', strike 6 5),
    ('C', strike 7 4 |>.height .high),
    ('D', strike 8 3 |>.height .low),
    ('E', strike 8 6 |>.tweak ({ · with knockdown := true })),
    ('t', throw 9 8),
    ('h', ofKind .blockHigh),
    ('l', ofKind .blockLow),
    -- slow dodge
    ('d', ofKind .dodge),
    ('X', strike 14 1 |>.blockDamage 4 |>.tweak ({ · with edge := true, backstep := true })),
    ('Y', strike 9 6 |>.blockDamage 3 |>.pump [5] |>.tweak ({ · with knockdown := true })),
    ('Z', throw 16 9 |>.tweak ({ · with knockdown := false })),
    ('1', strike 10 9 |>.blockDamage 2 |>.superMeter 2),
    ('2', throw 40 14 |>.superMeter 3 |>.tweak ({ · with knockdown := false }))]
  book := {
    name := "Whitestar Grappler"
    difficulty := 2
    normal := four
      ⟨eight "l" "h" "l" "h" "t" "t" "AB" "DE", "t"⟩
      ⟨eight "l" "h" "l" "t" "Z" "X" "ABC" "DE", "t"⟩
      ⟨eight "l" "h" "l" "h" "t" "Z" "Z" "XD", "Z"⟩
      ⟨eight "2" "2" "2" "1" "XD" "dZ" "dZ" "ABC", "2"⟩
    knockdown := ⟨eight "l" "h" "l" "h" "l" "h" "t" "DE", none⟩ }

end Sparring.Roster
