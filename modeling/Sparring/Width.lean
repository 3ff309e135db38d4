/-
How many numbers fit in words of fixed widths.

What a document holds is read through words of 64 bits, and now and then of 128, before it
becomes anything of the game; a die is rolled with words of 32 bits.  The sizes are written
out, so that a bound is a numeral and not a power.
-/

namespace Sparring.Width

/-- The numbers of 32 bits. -/
def size32 : Nat := 4294967296

/-- The numbers of 64 bits. -/
def size64 : Nat := 18446744073709551616

/-- Half of them, which is as many as a signed word has from zero up. -/
def half64 : Nat := 9223372036854775808

/-- The numbers of 128 bits. -/
def size128 : Nat := 340282366920938463463374607431768211456

/-- Half of them. -/
def half128 : Nat := 170141183460469231731687303715884105728

/-- Does a signed word of 64 bits hold the number? -/
def Fits64 (n : Int) : Prop := -(half64 : Int) ≤ n ∧ n < half64

instance (n : Int) : Decidable (Fits64 n) := by
  unfold Fits64
  infer_instance

end Sparring.Width
