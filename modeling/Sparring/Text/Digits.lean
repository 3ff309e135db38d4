/-
Whole numbers as players type them: ASCII digits, with a sign if one likes.
-/
import Sparring.Width

namespace Sparring.Text

/-- The value of a digit in a base of at most sixteen. -/
def digitValue? (base : Nat) (c : Char) : Option Nat :=
  let v :=
    if '0' ≤ c ∧ c ≤ '9' then some (c.toNat - '0'.toNat)
    else if 'a' ≤ c ∧ c ≤ 'f' then some (c.toNat - 'a'.toNat + 10)
    else if 'A' ≤ c ∧ c ≤ 'F' then some (c.toNat - 'A'.toNat + 10)
    else none
  v.filter (· < base)

/-- The value of digits, the first of them the most significant, after `n`. -/
def digitsFrom? (base n : Nat) : List Char → Option Nat
  | [] => some n
  | c :: cs => (digitValue? base c).bind fun d => digitsFrom? base (base * n + d) cs

/-- The number that digits of a base spell; there must be one digit at least. -/
def digits? (base : Nat) : List Char → Option Nat
  | [] => none
  | cs => digitsFrom? base 0 cs

/-- The digits after a plus sign, if there is one. -/
def withoutPlus : List Char → List Char
  | '+' :: cs => cs
  | cs => cs

/-- The number below `bound` that a text spells. -/
def natBelow? (bound : Nat) (cs : List Char) : Option Nat :=
  (digits? 10 (withoutPlus cs)).filter (· < bound)

/-- The number in the signed word of 64 bits that a text spells. -/
def word? : List Char → Option Int
  | '-' :: cs => ((digits? 10 cs).filter (· ≤ Width.half64)).map fun n => -(n : Int)
  | cs => (natBelow? Width.half64 cs).map Int.ofNat

end Sparring.Text
