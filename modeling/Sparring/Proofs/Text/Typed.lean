/-
What typing does to a text.

A player's text is trimmed, read as a number if it is one, and put into lower case if it is
none.  Here is what is needed to know when these do nothing: visible characters of ASCII are
not blank (`isBlank_eq_false`), only the capitals of ASCII have a small letter other than
themselves in ASCII (`lowerChar_eq_self`), and a text is read as a number if and only if it
spells one (`natBelow?_eq_some_iff`).

The tables of blanks and of capitals are long.  Of each only one fact is used: where its runs
lie that meet ASCII.
-/
import Sparring.Catalog.Id

namespace Sparring.Text

/-! ### Blanks and capitals -/

variable {cs : List Char} {c : Char}

/-- A text without blanks is trimmed already. -/
theorem trim_eq_self (h : ∀ c ∈ cs, isBlank c = false) : trim cs = cs := by
  have hdrop : ∀ ds : List Char, (∀ d ∈ ds, isBlank d = false) → ds.dropWhile isBlank = ds := by
    intro ds hds
    cases ds with
    | nil => rfl
    | cons d ds => rw [List.dropWhile_cons_of_neg (by simp [hds d])]
  have hreverse : ∀ d ∈ cs.reverse, isBlank d = false := fun d hd => h d (List.mem_reverse.mp hd)
  rw [trim, hdrop cs h, hdrop _ hreverse, List.reverse_reverse]

/-- The runs of blanks are below the visible characters of ASCII or above all ASCII. -/
theorem blanks_from (r : Nat × Nat) (hr : r ∈ blanks) : r.2 ≤ 32 ∨ 128 ≤ r.1 := by
  revert r
  decide

/-- No visible character of ASCII is blank. -/
theorem isBlank_eq_false (hvisible : 32 < c.toNat) (hascii : c.toNat < 128) :
    isBlank c = false := by
  rw [isBlank, Ranges.holds, List.any_eq_false]
  intro r hr
  have := blanks_from r hr
  simp only [Bool.and_eq_true, decide_eq_true_eq, not_and]
  omega

/-- The runs of capitals begin with those of ASCII, and the others come later. -/
theorem shifts_from (s : Shift) (hs : s ∈ shifts) :
    (s.first = 65 ∧ s.last = 90) ∨ 192 ≤ s.first := by
  revert s
  decide +kernel

/-- In ASCII only the capitals have a small letter other than themselves. -/
theorem lowerChar_eq_self (hascii : c.toNat < 128) (h : ¬ (65 ≤ c.toNat ∧ c.toNat ≤ 90)) :
    lowerChar c = [c] := by
  have hnone : shifts.find? (·.holds c.toNat) = none := by
    rw [List.find?_eq_none]
    intro s hs
    have := shifts_from s hs
    simp only [Shift.holds, Bool.and_eq_true, decide_eq_true_eq, not_and]
    omega
  rw [lowerChar, if_neg (by omega), hnone]

theorem lower_eq_self (h : ∀ c ∈ cs, c ≠ 'Σ' ∧ lowerChar c = [c]) : lower cs = cs := by
  have hfrom : ∀ before, lowerFrom before cs = cs := by
    induction cs with
    | nil =>
        intro before
        rfl
    | cons c cs ih =>
        intro before
        obtain ⟨hsigma, hc⟩ := h c (by simp)
        have hcs := ih fun d hd => h d (List.mem_cons_of_mem c hd)
        rw [lowerFrom, if_neg hsigma, hc, hcs, List.singleton_append]
  exact hfrom []

/-! ### Numbers -/

/-- The number that decimal digits spell. -/
def value (cs : List Char) : Nat := cs.foldl (fun n c => 10 * n + (c.toNat - '0'.toNat)) 0

/-- A text that spells a number of 64 bits: one digit at least, and nothing but digits. -/
structure IsNumber64 (cs : List Char) : Prop where
  ne_nil : cs ≠ []
  digits : ∀ c ∈ cs, c.isDigit = true
  fits : value cs < Width.size64

theorem digitValue?_ten (c : Char) :
    digitValue? 10 c = if c.isDigit = true then some (c.toNat - '0'.toNat) else none := by
  have hdigit : c.isDigit = true ↔ '0' ≤ c ∧ c ≤ '9' := Char.isDigit_iff_toNat
  simp only [digitValue?, hdigit]
  by_cases h : '0' ≤ c ∧ c ≤ '9'
  · have hle : c.toNat ≤ 57 := h.2
    have hlt : c.toNat - '0'.toNat < 10 := by
      show c.toNat - 48 < 10
      omega
    rw [if_pos h, if_pos h, Option.filter_some, if_pos (by simpa using hlt)]
  · rw [if_neg h, if_neg h]
    split
    · rw [Option.filter_some, if_neg (by simp)]
    · split
      · rw [Option.filter_some, if_neg (by simp)]
      · rfl

theorem digitsFrom?_eq_some_iff {n m : Nat} :
    digitsFrom? 10 n cs = some m ↔ (∀ c ∈ cs, c.isDigit = true) ∧
      cs.foldl (fun n c => 10 * n + (c.toNat - '0'.toNat)) n = m := by
  induction cs generalizing n with
  | nil => simp [digitsFrom?]
  | cons c cs ih =>
      rw [digitsFrom?, digitValue?_ten, List.foldl_cons]
      by_cases hc : c.isDigit = true
      · rw [if_pos hc, Option.bind_some, ih]
        simp [hc]
      · rw [if_neg hc, Option.bind_none]
        simp [hc]

/-- A text is read as the number that it spells behind its plus sign, if it has one. -/
theorem natBelow?_eq_some_iff_withoutPlus {n : Nat} :
    natBelow? Width.size64 cs = some n ↔
      IsNumber64 (withoutPlus cs) ∧ value (withoutPlus cs) = n := by
  rw [natBelow?, Option.filter_eq_some_iff]
  generalize withoutPlus cs = ds
  cases ds with
  | nil =>
      have hnone : digits? 10 [] = none := rfl
      rw [hnone]
      refine ⟨?_, ?_⟩
      · intro h
        cases h.1
      · intro h
        exact absurd rfl h.1.ne_nil
  | cons d ds =>
      have hsome : digits? 10 (d :: ds) = digitsFrom? 10 0 (d :: ds) := rfl
      rw [hsome, digitsFrom?_eq_some_iff, decide_eq_true_eq]
      refine ⟨?_, ?_⟩
      · intro h
        obtain ⟨⟨hdigits, rfl⟩, hfits⟩ := h
        exact ⟨⟨by simp, hdigits, hfits⟩, rfl⟩
      · intro h
        obtain ⟨hnumber, rfl⟩ := h
        exact ⟨⟨hnumber.digits, rfl⟩, hnumber.fits⟩

/-- Without a plus sign in front, a text is read as the number that it spells. -/
theorem natBelow?_eq_some_iff {n : Nat} (hplus : '+' ∉ cs) :
    natBelow? Width.size64 cs = some n ↔ IsNumber64 cs ∧ value cs = n := by
  have hunsigned : withoutPlus cs = cs := by
    unfold withoutPlus
    split
    · simp at hplus
    · rfl
  rw [natBelow?_eq_some_iff_withoutPlus, hunsigned]

theorem natBelow?_eq_none_iff :
    natBelow? Width.size64 cs = none ↔ ¬ IsNumber64 (withoutPlus cs) := by
  rw [Option.eq_none_iff_forall_ne_some]
  constructor
  · intro h hnumber
    exact h _ (natBelow?_eq_some_iff_withoutPlus.mpr ⟨hnumber, rfl⟩)
  · intro h n hn
    exact h (natBelow?_eq_some_iff_withoutPlus.mp hn).1

end Sparring.Text
