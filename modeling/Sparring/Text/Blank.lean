/-
Blank characters, and texts without the blanks around them.

Blank is what Unicode calls White_Space: twenty-five characters, of which core's
`Char.isWhitespace` has the four in daily use.
-/

namespace Sparring.Text

/-- First and last characters of the runs of a character class. -/
abbrev Ranges := List (Nat × Nat)

/-- Does the class hold the character? -/
def Ranges.holds (r : Ranges) (c : Char) : Bool :=
  r.any fun (lo, hi) => lo ≤ c.toNat && c.toNat ≤ hi

/-- The runs of blanks. -/
def blanks : Ranges := [
  (0x9, 0xD), (0x20, 0x20), (0x85, 0x85), (0xA0, 0xA0), (0x1680, 0x1680), (0x2000, 0x200A),
  (0x2028, 0x2029), (0x202F, 0x202F), (0x205F, 0x205F), (0x3000, 0x3000)]

/-- White_Space. -/
def isBlank (c : Char) : Bool := blanks.holds c

/-- Without the blanks at both ends. -/
def trim (cs : List Char) : List Char :=
  ((cs.dropWhile isBlank).reverse.dropWhile isBlank).reverse

end Sparring.Text
