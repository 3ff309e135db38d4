/-
When a step of a control saturates.

A step should lead to the sum of what there was and the step, as near to it as the bounds
allow, from every state and by every step.  It does not, because the sum is formed first and
clamped afterwards, and a sum can leave its width.  What is shown here is where exactly.

The hand is added in 32 bits.  It has room below, since a hand is never negative, so the sum
is lost only above the greatest amount (`stepHand?_eq_none_iff`).

The roll is added in 64 bits, but it is read as a signed word first, and a roll of the upper
half is then one below zero (`toInt_choiceIndex`).  A step is lost if it crosses the middle of
the word, in either direction (`stepChoice?_eq_none_iff`).  One that stays in the lower half
saturates; one that stays in the upper half starts from the wrong side of the table, and only
the longest steps make up for it (`rollSaturates_iff`).
-/
import Sparring.Proofs.Query.Controls

namespace Sparring.State

/-- The hand is stepped to the nearest size on the table, and nothing else changes. -/
def HandSaturates (s : State) (delta : Int32) : Prop :=
  ∃ hand : UInt8, s.stepHand? delta = some { s with handSize := hand } ∧
    (hand.toNat : Int) = max 5 (min (s.handSize.toNat + delta.toInt) 12)

/-- The roll is stepped to the nearest face of the die, and nothing else changes. -/
def RollSaturates (s : State) (delta : Int32) : Prop :=
  ∃ roll : UInt64, s.stepChoice? delta = some { s with choiceIndex := roll } ∧
    (roll.toNat : Int) = max 0 (min (s.choiceIndex.toNat + delta.toInt) 7)

variable {s : State} {delta : Int32}

/-! ### The hand -/

/-- A step of the hand is lost only above the greatest amount. -/
theorem stepHand?_eq_none_iff :
    s.stepHand? delta = none ↔ Amount.greatest < s.handSize.toNat + delta.toInt := by
  have hleast := Amount.least_le delta
  simp only [stepHand?, Option.map_eq_none_iff, Amount.fit?_eq_none_iff]
  omega

theorem handSaturates_iff :
    s.HandSaturates delta ↔ s.handSize.toNat + delta.toInt ≤ Amount.greatest := by
  constructor
  · intro h
    obtain ⟨hand, hstep, -⟩ := h
    refine Int.not_lt.mp fun hlost => ?_
    simp [stepHand?_eq_none_iff.mpr hlost] at hstep
  · exact stepHand?_of_le

/-! ### The roll -/

/-- A roll of the upper half is read as one below zero. -/
theorem toInt_choiceIndex (s : State) :
    s.choiceIndex.toInt64.toInt =
      if s.choiceIndex.toNat < Width.half64 then (s.choiceIndex.toNat : Int)
      else s.choiceIndex.toNat - Width.size64 := by
  have hread : s.choiceIndex.toInt64.toInt =
      if 2 * s.choiceIndex.toNat < 2 ^ 64 then (s.choiceIndex.toNat : Int)
      else s.choiceIndex.toNat - (2 ^ 64 : Nat) := BitVec.toInt_eq_toNat_cond _
  rw [hread, Width.half64, Width.size64]
  by_cases h : 2 * s.choiceIndex.toNat < 2 ^ 64
  · rw [if_pos h, if_pos (by omega)]
  · have hupper : ¬ s.choiceIndex.toNat < 9223372036854775808 := by omega
    exact (if_neg h).trans (if_neg hupper).symm

/-- The sum of a step keeps to its width if it stays in its half of the word. -/
theorem fits64_iff (s : State) (delta : Int32) :
    Width.Fits64 (s.choiceIndex.toInt64.toInt + delta.toInt) ↔
      (s.choiceIndex.toNat < Width.half64 ↔
        s.choiceIndex.toNat + delta.toInt < Width.half64) := by
  have hword := s.choiceIndex.toNat_lt
  have hleast := Amount.least_le delta
  have hgreatest := Amount.le_greatest delta
  simp only [Amount.least, Amount.greatest] at hleast hgreatest
  rw [toInt_choiceIndex, Width.Fits64, Width.size64]
  by_cases h : s.choiceIndex.toNat < Width.half64
  · rw [if_pos h]
    simp only [Width.half64] at h ⊢
    omega
  · rw [if_neg h]
    simp only [Width.half64] at h ⊢
    omega

/-- A step of the roll is lost if it crosses the middle of the word. -/
theorem stepChoice?_eq_none_iff :
    s.stepChoice? delta = none ↔
      ¬ (s.choiceIndex.toNat < Width.half64 ↔
        s.choiceIndex.toNat + delta.toInt < Width.half64) := by
  rw [← fits64_iff]
  by_cases h : Width.Fits64 (s.choiceIndex.toInt64.toInt + delta.toInt)
  · simp [stepChoice?, h]
  · simp [stepChoice?, h]

/-- A step of the roll that is not lost saturates if it starts from the right number. -/
theorem rollSaturates_iff_of_fits
    (h : Width.Fits64 (s.choiceIndex.toInt64.toInt + delta.toInt)) :
    s.RollSaturates delta ↔
      max 0 (min (s.choiceIndex.toInt64.toInt + delta.toInt) 7) =
        max 0 (min (s.choiceIndex.toNat + delta.toInt) 7) := by
  obtain ⟨roll, hstep, hroll⟩ := stepChoice?_of_fits h
  have hclamp : (roll.toNat : Int) =
      max 0 (min (s.choiceIndex.toInt64.toInt + delta.toInt) 7) := hroll
  rw [← hclamp]
  constructor
  · intro hsat
    obtain ⟨roll', hstep', hroll'⟩ := hsat
    rw [hstep] at hstep'
    simp only [Option.some.injEq, State.mk.injEq, true_and, and_true] at hstep'
    rw [hstep']
    exact hroll'
  · intro hsat
    exact ⟨roll, hstep, hsat⟩

/-- In the lower half a step saturates, in the upper half only one that is so long that it
would come to the last face anyway. -/
theorem rollSaturates_iff :
    s.RollSaturates delta ↔
      (s.choiceIndex.toNat < Width.half64 ∧
        s.choiceIndex.toNat + delta.toInt < Width.half64) ∨
      Width.size64 + 7 ≤ s.choiceIndex.toNat + delta.toInt := by
  have hread := toInt_choiceIndex s
  have hgreatest := Amount.le_greatest delta
  simp only [Amount.greatest] at hgreatest
  have hwidth : Width.size64 = 2 * Width.half64 := rfl
  have hhalf : 4294967296 < Width.half64 := by decide
  by_cases h : Width.Fits64 (s.choiceIndex.toInt64.toInt + delta.toInt)
  · rw [rollSaturates_iff_of_fits h]
    rw [fits64_iff] at h
    by_cases hlow : s.choiceIndex.toNat < Width.half64
    · rw [hread, if_pos hlow]
      simp only [true_iff]
      omega
    · rw [hread, if_neg hlow]
      omega
  · have hlost : ¬ s.RollSaturates delta := by
      intro hsat
      obtain ⟨roll, hstep, -⟩ := hsat
      simp [stepChoice?, h] at hstep
    rw [fits64_iff] at h
    simp only [hlost, false_iff]
    omega

/-! ### Both -/

/-- A step of the roll that is not lost leads to a face of the die and changes nothing else. -/
theorem of_stepChoice?_eq_some {t : State} (h : s.stepChoice? delta = some t) :
    t = { s with choiceIndex := t.choiceIndex } ∧ t.choiceIndex.toNat ≤ 7 := by
  have hfits : Width.Fits64 (s.choiceIndex.toInt64.toInt + delta.toInt) := by
    rw [fits64_iff]
    refine Classical.not_not.mp fun hlost => ?_
    simp [stepChoice?_eq_none_iff.mpr hlost] at h
  obtain ⟨roll, hstep, hroll⟩ := stepChoice?_of_fits hfits
  have ht : t = { s with choiceIndex := roll } := by
    rw [h] at hstep
    exact Option.some.inj hstep
  subst ht
  have hbounds := clampInt_bounds (show (0 : Int) ≤ 7 by decide)
    (s.choiceIndex.toInt64.toInt + delta.toInt)
  refine ⟨rfl, ?_⟩
  show roll.toNat ≤ 7
  omega

/--
**Where the controls saturate, and where a step is lost.**  A step of the hand saturates unless
its sum is above the greatest amount, and then it is lost.  A step of the roll saturates in the
lower half of the word, and is lost if it leaves its half; one that stays in the upper half
leads to some face of the die, and to the right one only if it is long enough.
-/
theorem steps_saturate_iff (s : State) (delta : Int32) :
    (s.HandSaturates delta ↔ s.handSize.toNat + delta.toInt ≤ Amount.greatest) ∧
    (s.stepHand? delta = none ↔ Amount.greatest < s.handSize.toNat + delta.toInt) ∧
    (s.RollSaturates delta ↔
      (s.choiceIndex.toNat < Width.half64 ∧
        s.choiceIndex.toNat + delta.toInt < Width.half64) ∨
      Width.size64 + 7 ≤ s.choiceIndex.toNat + delta.toInt) ∧
    (s.stepChoice? delta = none ↔
      ¬ (s.choiceIndex.toNat < Width.half64 ↔
        s.choiceIndex.toNat + delta.toInt < Width.half64)) ∧
    ∀ t, s.stepChoice? delta = some t →
      t = { s with choiceIndex := t.choiceIndex } ∧ t.choiceIndex.toNat ≤ 7 :=
  ⟨handSaturates_iff, stepHand?_eq_none_iff, rollSaturates_iff, stepChoice?_eq_none_iff,
    fun _ => of_stepChoice?_eq_some⟩

/-- The longest step of the hand is lost from nine cards on, and the greatest roll of all is
stepped to the first face instead of the last, even by a step of nothing. -/
theorem not_every_step_saturates :
    (¬ ∀ (s : State) (delta : Int32), s.HandSaturates delta) ∧
      ¬ ∀ (s : State) (delta : Int32), s.RollSaturates delta := by
  refine ⟨?_, ?_⟩
  · intro h
    have hfits := handSaturates_iff.mp (h {} 2147483647)
    revert hfits
    decide
  · intro h
    have hfits := rollSaturates_iff.mp (h { choiceIndex := 18446744073709551615 } 0)
    revert hfits
    decide

end Sparring.State
