/-
The fewest digits that read back.

The decimals that read as a given value form an interval around it, ends included when
the significand is even.  First the power of ten above the value is tried, then for one
digit, two, and so on up to seventeen the two nearest decimals of that many digits; the first
try with a hit wins, and of two hits the nearer one.  Two may be equally near, and then the
format decides.

`text` writes the result positionally, with a digit on both sides of the point; `brief`
does so as long as the result is short, and then turns to powers of ten.
-/
import Sparring.Decimal.Binary64

namespace Sparring

namespace Binary64

/-- The value and the ends of its interval, each as a numerator over four times a common
denominator. -/
structure Interval where
  low : Nat
  value : Nat
  high : Nat
  den : Nat
  closed : Bool

/-- The decimals that read as `x`. -/
def interval (x : Binary64) : Interval :=
  let (num, den) := scaled 2 x.significand x.exponent 1
  let (unit, _) := scaled 2 1 x.exponent 1
  let below := if x.significand = leastFull ∧ leastExponent < x.exponent then unit else 2 * unit
  { low := 4 * num - below
    value := 4 * num
    high := 4 * num + 2 * unit
    den := 4 * den
    closed := x.significand % 2 = 0 }

/-- Does `digits · 10 ^ e` lie in the interval? -/
def Interval.holds (i : Interval) (digits : Nat) (e : Int) : Bool :=
  let (n, d) := scaled 10 digits e 1
  let (here, low, high) := (n * i.den, i.low * d, i.high * d)
  if i.closed then low ≤ here && here ≤ high else low < here && here < high

/-- Which of two decimals is taken that are equally near. -/
inductive Tie where
  | greater
  | even
deriving DecidableEq, Repr

/-- Is the lower of two equally near decimals taken, which has these digits? -/
def Tie.isDown : Tie → Nat → Bool
  | greater, _ => false
  | even, digits => digits % 2 == 0

/-- The digits of a decimal of exponent `e` in the interval, if there is one. -/
def Interval.onGrid? (i : Interval) (tie : Tie) (e : Int) : Option Nat :=
  let (n, d) := scaled 10 i.value (-e) i.den
  let down := n / d
  let r := n % d
  let up := down + 1
  match i.holds down e, i.holds up e with
  | true, true => some (if 2 * r < d || (2 * r == d && tie.isDown down) then down else up)
  | true, false => some down
  | false, true => some up
  | false, false => none

/-- The greatest power of ten that is not above a positive value. -/
def magnitude (x : Binary64) : Int :=
  let (n, d) := scaled 2 x.significand x.exponent 1
  let guess : Int := ((Nat.toDigits 10 n).length : Int) - (Nat.toDigits 10 d).length
  let (p, q) := scaled 10 1 guess 1
  if p * d ≤ n * q then guess else guess - 1

/-- Digits and exponent of the shortest decimal that reads as `x`. -/
def shortest (tie : Tie) (x : Binary64) : Nat × Int :=
  if x.significand = 0 then (0, 0)
  else
    let top := x.magnitude + 1
    let grids := (List.range 18).map fun (k : Nat) => top - (k : Int)
    (grids.findSome? fun e => (x.interval.onGrid? tie e).map fun digits => (digits, e)).getD (0, 0)

/-! ### Writing the digits -/

/-- `digits · 10 ^ e` in full, with a digit on both sides of the point. -/
def positional (digits : List Char) (e : Int) : List Char :=
  if 0 ≤ e then digits ++ List.replicate e.toNat '0' ++ ['.', '0']
  else
    let places := (-e).toNat
    let padded := List.replicate (places + 1 - digits.length) '0' ++ digits
    padded.take (padded.length - places) ++ '.' :: padded.drop (padded.length - places)

/-- `digits · 10 ^ e` with one digit before the point and a power of ten, which has a sign. -/
def scientific (digits : List Char) (e : Int) : List Char :=
  let exponent := e + (digits.length : Int) - 1
  let power := (if exponent < 0 then '-' else '+') :: Nat.toDigits 10 exponent.natAbs
  match digits with
  | d :: d' :: ds => d :: '.' :: d' :: ds ++ 'e' :: power
  | ds => ds ++ 'e' :: power

/-- The digits as `form` writes them, behind a minus if there is one. -/
def write (tie : Tie) (form : List Char → Int → List Char) (x : Binary64) : String :=
  let (digits, e) := x.shortest tie
  let body := form (Nat.toDigits 10 digits) e
  String.ofList (if x.negative then '-' :: body else body)

/-- The value in full; of two equally near decimals the greater. -/
def text (x : Binary64) : String := x.write .greater positional

/-- The value in full if its point lies within sixteen digits, or at most four zeros stand between
it and the first digit; otherwise with a power of ten. Of two equally near decimals the even. -/
def brief (x : Binary64) : String :=
  x.write .even fun digits e =>
    let point := e + (digits.length : Int)
    if -5 < point ∧ point ≤ 16 then positional digits e else scientific digits e

end Binary64

end Sparring
