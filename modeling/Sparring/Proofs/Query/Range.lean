/-
The states that lie on the table.

A state may come from anywhere, with a hand and a roll of any size.  A state on the table has
between five and twelve cards and a roll that the die has (`State.InRange`).  Clamping puts
every state on the table, as near to where it was as can be, and leaves alone what is there
already; so it is never worth doing twice.

On the table nothing can go wrong.  There is a card for every state, and the label of its
bracket is true of its hand.
-/
import Sparring.Proofs.Query.Cells

namespace Sparring

namespace Bracket

/-- A hand size between the two that the label of a bracket names. -/
def Covers (label : String) (hand : Nat) : Prop :=
  ∃ least greatest : Nat,
    label = toString least ++ "-" ++ toString greatest ∧ least ≤ hand ∧ hand ≤ greatest

theorem range_eq (i : Fin brackets) : range i = (5 + 2 * i.val, 6 + 2 * i.val) := by
  revert i
  decide

/-- A bracket is called by its two hand sizes. -/
theorem label_eq (i : Fin brackets) :
    label i = toString (5 + 2 * i.val) ++ "-" ++ toString (6 + 2 * i.val) := by
  rw [label, range_eq]

end Bracket

namespace State

/-- Hand and roll within their bounds. -/
structure InRange (s : State) : Prop where
  five_le : 5 ≤ s.handSize.toNat
  le_twelve : s.handSize.toNat ≤ 12
  lt_faces : s.choiceIndex.toNat < 8

theorem inRange_default : ({} : State).InRange := ⟨by decide, by decide, by decide⟩

variable {s : State}

/-! ### Clamping -/

theorem clampInt_bounds {lo hi : Int} (h : lo ≤ hi) (n : Int) :
    lo ≤ clampInt lo hi n ∧ clampInt lo hi n ≤ hi := by
  rw [clampInt]
  omega

/-- The hand is clamped to the nearest one on the table. -/
theorem toNat_handSize_clamped (s : State) :
    (s.clamped.handSize.toNat : Int) = clampInt 5 12 s.handSize.toNat := by
  have h5 : (5 : UInt8).toNat = 5 := rfl
  have h12 : (12 : UInt8).toNat = 12 := rfl
  simp only [clamped, clampInt, UInt8.lt_iff_toNat_lt, h5, h12]
  split
  · rw [h5]
    omega
  · split
    · rw [h12]
      omega
    · omega

/-- The roll is clamped to the nearest face of the die. -/
theorem toNat_choiceIndex_clamped (s : State) :
    s.clamped.choiceIndex.toNat = min s.choiceIndex.toNat 7 := by
  have h7 : (7 : UInt64).toNat = 7 := rfl
  have h8 : (8 : UInt64).toNat = 8 := rfl
  simp only [clamped, UInt64.lt_iff_toNat_lt, h8]
  split
  · omega
  · rw [h7]
    omega

theorem inRange_clamped (s : State) : s.clamped.InRange := by
  have hhand := toNat_handSize_clamped s
  have hroll := toNat_choiceIndex_clamped s
  have hbounds := clampInt_bounds (show (5 : Int) ≤ 12 by decide) s.handSize.toNat
  exact ⟨by omega, by omega, by omega⟩

theorem ext_toNat {s t : State} (hhand : s.handSize.toNat = t.handSize.toNat)
    (hroll : s.choiceIndex.toNat = t.choiceIndex.toNat) (hmode : s.mode = t.mode)
    (hdesperate : s.desperate = t.desperate) (hhitback : s.hitback = t.hitback) : s = t := by
  obtain ⟨hand, roll, mode, desperate, hitback⟩ := s
  obtain ⟨hand', roll', mode', desperate', hitback'⟩ := t
  cases UInt8.toNat_inj.mp hhand
  cases UInt64.toNat_inj.mp hroll
  cases hmode
  cases hdesperate
  cases hhitback
  rfl

theorem clamped_of_inRange (h : s.InRange) : s.clamped = s := by
  refine ext_toNat ?_ ?_ rfl rfl rfl
  · have hhand := toNat_handSize_clamped s
    have hleast := h.five_le
    have hgreatest := h.le_twelve
    rw [clampInt] at hhand
    omega
  · have hroll := toNat_choiceIndex_clamped s
    have hlt := h.lt_faces
    omega

/-! ### What is true on the table -/

/-- The label tells the truth about the hand. -/
theorem InRange.covers (h : s.InRange) :
    Bracket.Covers (Bracket.label s.bracket) s.handSize.toNat := by
  refine ⟨(Bracket.range s.bracket).1, (Bracket.range s.bracket).2, rfl, ?_⟩
  have hleast := h.five_le
  have hgreatest := h.le_twelve
  have hbracket : s.bracket.val = (s.handSize.toNat - 5) / 2 := by
    show min ((s.handSize.toNat - 5) / 2) 3 = _
    omega
  rw [Bracket.range_eq, hbracket]
  omega

theorem InRange.exists_card (h : s.InRange) (b : Bot) : ∃ c, b.resolve? s = some c :=
  Playbook.exists_resolve?_eq_some b h.lt_faces

end State

end Sparring
