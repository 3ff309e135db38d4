/-
Fractions as a machine keeps them: a whole number of at most 53 bits times a power
of two.

`ofDecimal?` finds the value nearest to a decimal; of two that are equally near it
takes the one with the even significand, and a decimal too large for any value has
none.  All of it is exact arithmetic on whole numbers.
-/

namespace Sparring

/-- A finite value `significand · 2 ^ exponent`, with a sign that zero has too. -/
structure Binary64 where
  negative : Bool := false
  significand : Nat
  exponent : Int
deriving DecidableEq, Repr

namespace Binary64

/-- The least exponent. -/
def leastExponent : Int := -1074

/-- The greatest exponent of a value with all 53 bits in use. -/
def greatestExponent : Int := 971

/-- The least significand that has all 53 bits in use. -/
def leastFull : Nat := 4503599627370496

/-- The quotient rounded to the nearest whole number, halves to the even one. -/
def roundDiv (num den : Nat) : Nat :=
  let q := num / den
  let r := num % den
  if 2 * r < den then q
  else if den < 2 * r then q + 1
  else q + q % 2

/-- Numerator and denominator of `n · base ^ e`. -/
def scaled (base n : Nat) (e : Int) (den : Nat) : Nat × Nat :=
  if 0 ≤ e then (n * base.pow e.toNat, den) else (n, den * base.pow (-e).toNat)

/-- The value nearest to a positive fraction. -/
def ofFraction? (negative : Bool) (num den : Nat) : Option Binary64 :=
  let guess : Int := (Nat.log2 num : Int) - Nat.log2 den - 52
  let fits (q : Int) : Bool :=
    let (n, d) := scaled 2 num (-q) den
    n / d < 2 * leastFull
  let q := max leastExponent (if fits (guess - 1) then guess - 1 else if fits guess then guess
    else guess + 1)
  let (n, d) := scaled 2 num (-q) den
  let m := roundDiv n d
  let (m, q) := if m = 2 * leastFull then (leastFull, q + 1) else (m, q)
  if greatestExponent < q then none else some { negative, significand := m, exponent := q }

/-- The value nearest to `digits · 10 ^ e`. -/
def ofDecimal? (negative : Bool) (digits : Nat) (e : Int) : Option Binary64 :=
  let size : Int := (Nat.toDigits 10 digits).length + e
  if digits = 0 ∨ size < -400 then some { negative, significand := 0, exponent := leastExponent }
  else if 400 < size then none
  else
    let (n, d) := scaled 10 digits e 1
    ofFraction? negative n d

end Binary64

end Sparring
