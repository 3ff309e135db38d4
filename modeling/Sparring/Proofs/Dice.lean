/-
A roll shows the first number that counts.

A roll takes numbers until one counts, and there is no telling how many it takes.  `rollWithin`
tries a given number of them, which looks like a bound on something that has none.  It is no
bound, because the stream is periodic: a block is a function of a counter of 64 bits, so after
`period` numbers the same numbers come again (`drawn_periodic`).  Where none of these counts, no
number ever does.  So `roll?` fails for just the dice that would be rolled for ever
(`roll?_eq_none_iff`), and for every other one it shows what it has to (`roll?_eq_some_iff`).
-/
import Mathlib.Data.Nat.Periodic
import Sparring.Dice

namespace Sparring.Dice

variable {d d' : Dice} {r : Fin faces} {n tries : Nat}

theorem skip_skip (d : Dice) (m n : Nat) : (d.skip m).skip n = d.skip (m + n) := by
  simp only [skip, Nat.mul_add, Nat.add_assoc]

theorem skip_succ (d : Dice) (n : Nat) : d.skip (n + 1) = (d.skip 1).skip n := by
  rw [skip_skip, Nat.add_comm]

/-! ### A number of tries -/

theorem rollWithin_of_counts (h : counts d.drawn = true) :
    rollWithin (tries + 1) d = some (face d.drawn, d.skip 1) := by
  rw [rollWithin, if_pos h]

theorem rollWithin_of_not_counts (h : counts d.drawn = false) :
    rollWithin (tries + 1) d = rollWithin tries (d.skip 1) := by
  rw [rollWithin, h, if_neg Bool.false_ne_true]

theorem rollWithin_eq_none_iff :
    rollWithin tries d = none ↔ ∀ n < tries, counts (d.skip n).drawn = false := by
  induction tries generalizing d with
  | zero => simp [rollWithin]
  | succ tries ih =>
      cases hcounts : counts d.drawn with
      | true =>
          rw [rollWithin_of_counts hcounts]
          refine ⟨fun h => ?_, fun h => ?_⟩
          · cases h
          · cases hcounts.symm.trans (h 0 (Nat.succ_pos tries))
      | false =>
          rw [rollWithin_of_not_counts hcounts, ih]
          refine ⟨fun h n hn => ?_, fun h n hn => ?_⟩
          · cases n with
            | zero => exact hcounts
            | succ n =>
                rw [skip_succ]
                exact h n (Nat.lt_of_succ_lt_succ hn)
          · rw [← skip_succ]
            exact h (n + 1) (Nat.succ_lt_succ hn)

/-- The first number that counts is found by any number of tries that comes to it. -/
theorem rollWithin_eq (hpassed : ∀ m < n, counts (d.skip m).drawn = false)
    (hcounts : counts (d.skip n).drawn = true) (hn : n < tries) :
    rollWithin tries d = some (face (d.skip n).drawn, d.skip (n + 1)) := by
  obtain ⟨tries, rfl⟩ := Nat.exists_eq_add_one_of_ne_zero (Nat.ne_zero_of_lt hn)
  induction n generalizing d tries with
  | zero => exact rollWithin_of_counts hcounts
  | succ n ih =>
      have hhere : counts d.drawn = false := hpassed 0 (Nat.succ_pos n)
      obtain ⟨tries, rfl⟩ := Nat.exists_eq_add_one_of_ne_zero (show tries ≠ 0 by omega)
      rw [rollWithin_of_not_counts hhere, skip_succ d n, skip_succ d (n + 1)]
      refine ih ?_ ?_ tries (by omega)
      · intro m hm
        rw [← skip_succ]
        exact hpassed (m + 1) (Nat.succ_lt_succ hm)
      · rw [← skip_succ]
        exact hcounts

/-! ### As many tries as it takes -/

theorem word_add_period (d : Dice) (i : Nat) : d.word (i + 2 * period) = d.word i := by
  have hplace : i + 2 * period = i + Width.size64 * 16 := by
    rw [period]
    omega
  have hcounter : UInt64.ofNat ((i + Width.size64 * 16) / 16) = UInt64.ofNat (i / 16) := by
    rw [Nat.add_mul_div_right _ _ (by decide)]
    refine UInt64.toNat_inj.mp ?_
    rw [UInt64.toNat_ofNat', UInt64.toNat_ofNat']
    exact Nat.add_mod_right _ _
  have hword : (i + Width.size64 * 16) % 16 = i % 16 := Nat.add_mul_mod_self_right _ _ _
  rw [hplace, word, word, hcounter]
  congr 1
  exact Fin.ext hword

-- Both sides are taken apart by hand: compared as they are, they would be computed.
theorem word_skip (d : Dice) (n i : Nat) : (d.skip n).word i = d.word i := by
  simp only [word, skip]

theorem val_drawn_skip (d : Dice) (n : Nat) :
    (d.skip n).drawn.val =
      (d.word (d.used + 2 * n)).toNat + Width.size32 * (d.word (d.used + 2 * n + 1)).toNat := by
  simp only [drawn, word_skip]
  simp only [skip]

theorem drawn_periodic (d : Dice) : Function.Periodic (fun n => (d.skip n).drawn) period := by
  intro n
  have hused : d.used + 2 * (n + period) = d.used + 2 * n + 2 * period := by
    rw [Nat.mul_add, Nat.add_assoc]
  refine Fin.ext ?_
  simp only [val_drawn_skip]
  rw [hused, Nat.add_right_comm (d.used + 2 * n), word_add_period, word_add_period]

theorem period_pos : 0 < period := Nat.mul_pos (by decide) (by decide)

/-- A die has no roll if and only if none of its numbers ever counts. -/
theorem roll?_eq_none_iff : d.roll? = none ↔ ∀ n, counts (d.skip n).drawn = false := by
  rw [roll?, rollWithin_eq_none_iff]
  refine ⟨fun h n => ?_, fun h n _ => h n⟩
  rw [← (drawn_periodic d).map_mod_nat n]
  exact h _ (Nat.mod_lt _ period_pos)

/-- The first number that counts is not beyond the period, where it would be a repetition. -/
theorem lt_period (hpassed : ∀ m < n, counts (d.skip m).drawn = false)
    (hcounts : counts (d.skip n).drawn = true) : n < period := by
  by_contra hbeyond
  have hearlier : n % period < n :=
    Nat.lt_of_lt_of_le (Nat.mod_lt n period_pos) (Nat.le_of_not_lt hbeyond)
  have hsame : (d.skip (n % period)).drawn = (d.skip n).drawn := (drawn_periodic d).map_mod_nat n
  have hnot := hpassed _ hearlier
  rw [hsame, hcounts] at hnot
  cases hnot

theorem roll?_eq (hpassed : ∀ m < n, counts (d.skip m).drawn = false)
    (hcounts : counts (d.skip n).drawn = true) :
    d.roll? = some (face (d.skip n).drawn, d.skip (n + 1)) :=
  rollWithin_eq hpassed hcounts (lt_period hpassed hcounts)

/-- Of the numbers that count one comes first. -/
theorem exists_first (h : d.roll? ≠ none) : ∃ n,
    (∀ m < n, counts (d.skip m).drawn = false) ∧ counts (d.skip n).drawn = true := by
  have hsome : ∃ n, counts (d.skip n).drawn = true := by
    by_contra hnone
    refine h (roll?_eq_none_iff.mpr ?_)
    intro n
    exact Bool.eq_false_iff.mpr fun hn => hnone ⟨n, hn⟩
  refine ⟨Nat.find hsome, ?_, Nat.find_spec hsome⟩
  intro m hm
  exact Bool.eq_false_iff.mpr (Nat.find_min hsome hm)

/-- A roll shows the first number that counts, and passes over all numbers up to it. -/
theorem roll?_eq_some_iff : d.roll? = some (r, d') ↔
    ∃ n, (∀ m < n, counts (d.skip m).drawn = false) ∧ counts (d.skip n).drawn = true ∧
      r = face (d.skip n).drawn ∧ d' = d.skip (n + 1) := by
  constructor
  · intro h
    have hrolls : d.roll? ≠ none := by
      rw [h]
      exact Option.some_ne_none _
    obtain ⟨n, hpassed, hcounts⟩ := exists_first hrolls
    rw [roll?_eq hpassed hcounts, Option.some.injEq, Prod.mk.injEq] at h
    exact ⟨n, hpassed, hcounts, h.1.symm, h.2.symm⟩
  · rintro ⟨n, hpassed, hcounts, rfl, rfl⟩
    exact roll?_eq hpassed hcounts

theorem roll_eq (hpassed : ∀ m < n, counts (d.skip m).drawn = false)
    (hcounts : counts (d.skip n).drawn = true) :
    d.roll = (face (d.skip n).drawn, d.skip (n + 1)) := by
  rw [roll, roll?_eq hpassed hcounts, Option.getD_some]

-- An equation between functions, for unfolding at a seed that is given would compute its rolls.
theorem firstRoll_def : firstRoll = fun seed => (ofSeed seed).roll.1 := by
  delta firstRoll
  rfl

theorem firstRoll_eq {seed : UInt64}
    (hpassed : ∀ m < n, counts ((ofSeed seed).skip m).drawn = false)
    (hcounts : counts ((ofSeed seed).skip n).drawn = true) :
    firstRoll seed = face ((ofSeed seed).skip n).drawn := by
  rw [firstRoll_def]
  simp only [roll_eq hpassed hcounts]

/-- A seed whose first number does not count. -/
theorem firstRoll_twentyEight : firstRoll 28 = 7 := by
  have hpassed : ∀ m < 1, counts ((ofSeed 28).skip m).drawn = false := by decide +kernel
  rw [firstRoll_eq hpassed (by decide +kernel)]
  decide +kernel

end Sparring.Dice
