/-
Numbers on cards are signed and 32 bits wide, and adding them is checked.

A sum that leaves the range is neither wrapped nor an error of the author: the
computation stops.  `Halt` keeps the two ways to stop apart, so that a rule about
authoring errors never has to mention the width of a number.

Everything is said through the exact integer: `Amount.fit n` is the amount whose
value is `n`, when there is one.
-/

namespace Sparring

/-- A number printed on a card. -/
abbrev Amount := Int32

/-- Why a computation on cards stopped. -/
inductive Halt (ε : Type) where
  /-- A number left its range. -/
  | overflow
  /-- The table is wrong, and this is what is wrong with it. -/
  | refused (cause : ε)
deriving DecidableEq, Repr

/-- A result, or the reason why there is none. -/
abbrev Checked (ε α : Type) := Except (Halt ε) α

namespace Amount

/-- The least amount. -/
def least : Int := -2147483648

/-- The greatest amount. -/
def greatest : Int := 2147483647

/-- The amount of value `n`, if `n` is in range. -/
def fit? (n : Int) : Option Amount :=
  if least ≤ n ∧ n ≤ greatest then some (Int32.ofInt n) else none

/-- The amount of value `n`; out of range is an overflow. -/
def fit {ε : Type} (n : Int) : Checked ε Amount :=
  match fit? n with
  | some a => .ok a
  | none => .error .overflow

theorem least_le (a : Amount) : least ≤ a.toInt := by
  have := Int32.le_toInt a
  simpa [least] using this

theorem le_greatest (a : Amount) : a.toInt ≤ greatest := by
  have := Int32.toInt_lt a
  have h : (2 : Int) ^ 31 = 2147483648 := by decide
  rw [h] at this
  simp only [greatest]
  omega

/-- `fit?` finds exactly the amount of that value. -/
theorem fit?_eq_some_iff {n : Int} {a : Amount} : fit? n = some a ↔ a.toInt = n := by
  constructor
  · intro h
    unfold fit? at h
    split at h
    next hn =>
      obtain ⟨lo, hi⟩ := hn
      simp only [least, greatest] at lo hi
      simp only [Option.some.injEq] at h
      rw [← h, Int32.toInt_ofInt_of_le (by simpa using lo) (by omega)]
    next => simp at h
  · rintro rfl
    simp [fit?, least_le, le_greatest]

/-- `fit?` fails exactly out of range. -/
theorem fit?_eq_none_iff {n : Int} : fit? n = none ↔ n < least ∨ greatest < n := by
  unfold fit?
  split
  next h => simp; omega
  next h => simp; omega

/-- Checked sum of a list, from zero and from the left. -/
def sum {ε : Type} (xs : List Amount) : Checked ε Amount :=
  xs.foldlM (fun acc x => fit (acc.toInt + x.toInt)) 0

end Amount

end Sparring
