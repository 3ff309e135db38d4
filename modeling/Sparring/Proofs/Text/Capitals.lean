/-
Which characters have a small letter of ASCII.

Lower case is a matter of all Unicode, but only the letters and digits of ASCII count in a
code.  So what matters about the small letters of a character is whether there is an ASCII
letter among them, and `Small` lists the three ways in which that can turn out.  A letter or
digit of ASCII has its own small letter.  Almost every other character has none of ASCII.  Two
have one, and it comes out of nowhere: the capital I with a dot above and the sign of the
kelvin (`isForeign`).

A text in lower case is its characters' small letters one behind another (`lowerFrom_cons`).
So it has as many letters and digits of ASCII as the text had, and one more for each of the
two (`countP_lower`).
-/
import Sparring.Proofs.Catalog.Code
import Sparring.Proofs.Text.Typed

namespace Sparring.Text

/-- The capitals outside of ASCII that have a letter of ASCII among their small letters. -/
def isForeign (c : Char) : Bool := c.toNat == 0x130 || c.toNat == 0x212A

/-- What stands for a character in lower case, as far as letters and digits of ASCII go. -/
inductive Small (c : Char) : List Char → Prop where
  | letter (h : c.isAlphanum = true) : Small c [c.toLower]
  | foreign {ds : List Char} (h : isForeign c = true)
      (one : ds.countP Char.isAlphanum = 1) : Small c ds
  | other {ds : List Char} (h : c.isAlphanum = false) (plain : isForeign c = false)
      (ne_nil : ds ≠ []) (none : ∀ d ∈ ds, d.isAlphanum = false) : Small c ds

variable {c : Char} {cs ds : List Char}

/-! ### One character -/

theorem isAlphanum_eq_false (h : 128 ≤ c.toNat) : c.isAlphanum = false := by
  refine Bool.eq_false_iff.mpr fun halnum => ?_
  rw [Code.isAlphanum_iff, Code.isWordChar_iff] at halnum
  omega

theorem eq_of_isForeign (h : isForeign c = true) :
    c = Char.ofNat 0x130 ∨ c = Char.ofNat 0x212A := by
  simp only [isForeign, Bool.or_eq_true, beq_iff_eq] at h
  rcases h with h | h
  · exact Or.inl (by rw [← h, Char.ofNat_toNat])
  · exact Or.inr (by rw [← h, Char.ofNat_toNat])

theorem isAlphanum_of_isForeign (h : isForeign c = true) : c.isAlphanum = false := by
  rcases eq_of_isForeign h with rfl | rfl
  · decide
  · decide

/-- A number that is no character is taken for the null character, which is no letter either. -/
theorem isAlphanum_ofNat {n : Nat} (h : 128 ≤ n) : (Char.ofNat n).isAlphanum = false := by
  by_cases hn : n.isValidChar
  · have hvalue : (Char.ofNat n).toNat = n := by
      rw [Char.ofNat, dif_pos hn]
      rfl
    exact isAlphanum_eq_false (by omega)
  · rw [Char.ofNat, dif_neg hn]
    decide

/-- The capitals of ASCII are the first run. -/
theorem lowerChar_of_capital (h : 65 ≤ c.toNat ∧ c.toNat ≤ 90) : lowerChar c = [c.toLower] := by
  have hholds : Shift.holds ⟨0x41, 0x5A, 1, 32⟩ c.toNat = true := by
    simp [Shift.holds, h, Nat.mod_one]
  have hfirst : shifts.find? (·.holds c.toNat) = some ⟨0x41, 0x5A, 1, 32⟩ :=
    List.find?_cons_of_pos hholds
  have hsum : ((c.toNat : Int) + 32).toNat = c.toLower.toNat := by
    rw [Code.toNat_toLower, if_pos h]
    omega
  rw [lowerChar, if_neg (by omega), hfirst]
  simp only [hsum, Char.ofNat_toNat]

theorem lowerChar_of_isAlphanum (h : c.isAlphanum = true) : lowerChar c = [c.toLower] := by
  by_cases hcapital : 65 ≤ c.toNat ∧ c.toNat ≤ 90
  · exact lowerChar_of_capital hcapital
  · have hword : Code.IsWordChar c := (Code.isAlphanum_iff.mp h).resolve_left hcapital
    have hascii : c.toNat < 128 := by
      rw [Code.isWordChar_iff] at hword
      omega
    rw [lowerChar_eq_self hascii hcapital, hword.toLower_eq]

/-- The runs of capitals outside of ASCII lead outside of ASCII, but for the sign of the kelvin. -/
theorem shifts_to (s : Shift) (hs : s ∈ shifts) :
    s.last < 128 ∨ (s.first = 0x212A ∧ s.last = 0x212A) ∨ 128 ≤ s.first + s.shift := by
  revert s
  decide +kernel

/-- The small letters of a character outside of ASCII are outside of ASCII, but for the two. -/
theorem isAlphanum_of_mem_lowerChar (h : 128 ≤ c.toNat) (hc : isForeign c = false) :
    ∀ d ∈ lowerChar c, d.isAlphanum = false := by
  simp only [isForeign, Bool.or_eq_false_iff, beq_eq_false_iff_ne] at hc
  obtain ⟨hdotted, hkelvin⟩ := hc
  intro d hd
  rw [lowerChar, if_neg hdotted] at hd
  split at hd
  · rename_i s hs
    have hholds := List.find?_some hs
    simp only [Shift.holds, Bool.and_eq_true, decide_eq_true_eq] at hholds
    have hto := shifts_to s (List.mem_of_find?_eq_some hs)
    rw [List.mem_singleton] at hd
    rw [hd]
    exact isAlphanum_ofNat (by omega)
  · rw [List.mem_singleton] at hd
    rw [hd]
    exact isAlphanum_eq_false h

theorem lowerChar_ne_nil (c : Char) : lowerChar c ≠ [] := by
  unfold lowerChar
  split
  · simp
  · split
    · simp
    · simp

theorem countP_lowerChar_of_isForeign (h : isForeign c = true) :
    (lowerChar c).countP Char.isAlphanum = 1 := by
  rcases eq_of_isForeign h with rfl | rfl
  · decide +kernel
  · decide +kernel

theorem small_lowerChar (c : Char) : Small c (lowerChar c) := by
  by_cases hforeign : isForeign c = true
  · exact .foreign hforeign (countP_lowerChar_of_isForeign hforeign)
  · have hplain : isForeign c = false := by simpa using hforeign
    by_cases halnum : c.isAlphanum = true
    · rw [lowerChar_of_isAlphanum halnum]
      exact .letter halnum
    · refine .other (by simpa using halnum) hplain (lowerChar_ne_nil c) ?_
      by_cases hascii : c.toNat < 128
      · have hcapital : ¬ (65 ≤ c.toNat ∧ c.toNat ≤ 90) := by
          rw [Code.isAlphanum_iff] at halnum
          omega
        rw [lowerChar_eq_self hascii hcapital]
        simpa using halnum
      · exact isAlphanum_of_mem_lowerChar (by omega) hplain

/-! ### A text -/

/-- A sigma in front becomes one of two small letters, neither of them of ASCII. -/
theorem lowerFrom_cons (before : List Char) (c : Char) (cs : List Char) :
    ∃ ds, lowerFrom before (c :: cs) = ds ++ lowerFrom (c :: before) cs ∧ Small c ds := by
  refine ⟨_, rfl, ?_⟩
  by_cases hsigma : c = 'Σ'
  · rw [if_pos hsigma, hsigma]
    refine .other (by decide) (by decide) (by simp) ?_
    split
    · simp
    · simp
  · rw [if_neg hsigma]
    exact small_lowerChar c

theorem Small.countP_eq (h : Small c ds) :
    ds.countP Char.isAlphanum = [c].countP Char.isAlphanum + [c].countP isForeign := by
  cases h with
  | letter halnum =>
      have hforeign : isForeign c ≠ true := fun hforeign => by
        rw [isAlphanum_of_isForeign hforeign] at halnum
        cases halnum
      have hlower : c.toLower.isAlphanum = true := (Code.isWordChar_toLower halnum).isAlphanum
      simp [halnum, hforeign, hlower]
  | foreign hforeign one => simp [one, hforeign, isAlphanum_of_isForeign hforeign]
  | other halnum hplain ne_nil none =>
      have hzero : ds.countP Char.isAlphanum = 0 := by
        rw [List.countP_eq_zero]
        intro d hd
        simp [none d hd]
      simp [hzero, halnum, hplain]

/-- In lower case a text has its letters and digits of ASCII, and one more for each foreign
capital. -/
theorem countP_lower (cs : List Char) :
    (lower cs).countP Char.isAlphanum = cs.countP Char.isAlphanum + cs.countP isForeign := by
  have hfrom : ∀ before, (lowerFrom before cs).countP Char.isAlphanum =
      cs.countP Char.isAlphanum + cs.countP isForeign := by
    induction cs with
    | nil =>
        intro before
        rfl
    | cons c cs ih =>
        intro before
        obtain ⟨ds, hds, hsmall⟩ := lowerFrom_cons before c cs
        have hc := hsmall.countP_eq
        have hcs := ih (c :: before)
        have hfront : c :: cs = [c] ++ cs := rfl
        rw [hds, List.countP_append, hc, hcs, hfront, List.countP_append, List.countP_append]
        omega
  exact hfrom []

end Sparring.Text
