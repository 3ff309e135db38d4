/-
Decimals read in two steps that both round.

The digits are gathered in a word of 64 bits as long as they fit; whole digits beyond it
only count, and further places are dropped.  The word is rounded to a fraction, and then
multiplied or divided once by a power of ten, which is rounded too.  That is quick, and a
value may come out next to the nearest one.

A power of ten beyond 308 has no fraction.  So a smaller quotient is taken in several
divisions, and a greater product is out of range unless it is zero.
-/
import Sparring.Decimal.Binary64
import Sparring.Width

namespace Sparring

namespace Binary64

/-! ### Rounded products -/

/-- Numerator and denominator of a value without its sign. -/
def ratio (x : Binary64) : Nat × Nat := scaled 2 x.significand x.exponent 1

/-- `x · p`, rounded, with the sign of `x`. -/
def times? (x p : Binary64) : Option Binary64 :=
  let ((a, b), (c, d)) := (x.ratio, p.ratio)
  ofFraction? x.negative (a * c) (b * d)

/-- `x / p`, rounded, with the sign of `x`. -/
def over? (x p : Binary64) : Option Binary64 :=
  let ((a, b), (c, d)) := (x.ratio, p.ratio)
  ofFraction? x.negative (a * d) (b * c)

/-- The greatest power of ten that a fraction can hold. -/
def greatestPower : Nat := 308

/-- `10 ^ k`, rounded. -/
def tens? (k : Nat) : Option Binary64 := ofDecimal? false 1 k

/-- `x · 10 ^ e` by one rounded product or quotient, or by as many quotients as `10 ^ -e` needs. -/
def shifted? (x : Binary64) (e : Int) : Option Binary64 :=
  if x.significand = 0 then some x
  else if greatestPower < e then none
  else if 0 ≤ e then do x.times? (← tens? e.toNat)
  else if -(greatestPower : Int) ≤ e then do x.over? (← tens? (-e).toNat)
  else do
    let y ← x.over? (← tens? greatestPower)
    shifted? y (e + greatestPower)
termination_by (-e).toNat
decreasing_by simp only [greatestPower] at *; omega

/-- The value of a whole number. -/
def ofNat? (negative : Bool) (n : Nat) : Option Binary64 := ofDecimal? negative n 0

end Binary64

/-! ### Gathering digits -/

/-- Digits that have been read: `significand · 10 ^ exponent`. -/
structure Gathered where
  significand : Nat := 0
  exponent : Int := 0
  /-- The word is full, and what follows does not enter it. -/
  isFull : Bool := false
deriving DecidableEq, Repr

namespace Gathered

/-- Does one more digit fit the word? -/
def fits (g : Gathered) (d : Nat) : Bool := !g.isFull && g.significand * 10 + d < Width.size64

/-- With one more whole digit. -/
def whole (g : Gathered) (d : Nat) : Gathered :=
  if g.fits d then { g with significand := g.significand * 10 + d }
  else { g with exponent := g.exponent + 1, isFull := true }

/-- With one more place behind the point. -/
def place (g : Gathered) (d : Nat) : Gathered :=
  if g.fits d then { g with significand := g.significand * 10 + d, exponent := g.exponent - 1 }
  else { g with isFull := true }

/-- Whole digits, and then the places behind the point, for which the word may have room again. -/
def ofDigits (digits places : List Nat) : Gathered :=
  places.foldl place { digits.foldl whole {} with isFull := false }

/-- The number times a power of ten, by rounded steps. -/
def value? (g : Gathered) (negative : Bool) (power : Int) : Option Binary64 := do
  (← Binary64.ofNat? negative g.significand).shifted? (g.exponent + power)

end Gathered

end Sparring
