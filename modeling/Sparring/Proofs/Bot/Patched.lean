/-
A patch on top of a combo.

A patch is laid on when the card is there, so it cannot get in the way before: a combo that
fails fails with any patch, and in the same way.  Of the card that comes out only the price
is looked at.  A combo never gives cards by itself, so what is found is what the patch says
(`adjust_apply_eq_iff`), and just the patches that give cards are refused.  All the others
come out as they are written, field by field.
-/
import Sparring.Proofs.Bot.HandCost
import Sparring.Proofs.Card.Patch

namespace Sparring

/-- Where a card gives nothing, a patched card gives what the patch says. -/
theorem Card.adjust_apply_eq_iff {c : Card} {p : Patch} {n : Amount} (hc : c.adjust.toInt ≤ 0)
    (hn : 0 < n.toInt) : (c.apply p).adjust = n ↔ p.adjust = some n := by
  show p.adjust.getD c.adjust = n ↔ p.adjust = some n
  cases p.adjust with
  | none =>
      have hne : c.adjust ≠ n := by
        intro heq
        rw [heq] at hc
        omega
      simpa using hne
  | some m => simp

namespace Combo

variable {r : Registry} {combo : String} {c : Card} {p : Patch}

theorem compilePatched_of_error {halt : Halt Error} (h : compile r combo = .error halt) :
    compilePatched r combo p = .error halt := by
  unfold compilePatched
  rw [h]
  rfl

/-- A card that gives cards is refused with what it gives. -/
theorem compilePatched_of_pos (h : compile r combo = .ok c)
    (hpos : 0 < (c.apply p).adjust.toInt) :
    compilePatched r combo p =
      .error (.refused (.positiveAdjust (c.apply p).adjust combo)) := by
  unfold compilePatched
  rw [h]
  exact if_pos hpos

theorem compilePatched_of_nonpos (h : compile r combo = .ok c)
    (hle : (c.apply p).adjust.toInt ≤ 0) : compilePatched r combo p = .ok (c.apply p) :=
  compilePatched_eq_ok_iff.mpr ⟨c, h, rfl, hle⟩

/-- The patches that are refused are those that give cards. -/
theorem compilePatched_eq_positiveAdjust_iff (h : compile r combo = .ok c)
    (hc : c.adjust.toInt ≤ 0) (n : Amount) :
    compilePatched r combo p = .error (.refused (.positiveAdjust n combo)) ↔
      p.adjust = some n ∧ 0 < n.toInt := by
  refine ⟨?_, ?_⟩
  · intro hrefused
    by_cases hpos : 0 < (c.apply p).adjust.toInt
    · cases (compilePatched_of_pos h hpos).symm.trans hrefused
      exact ⟨(Card.adjust_apply_eq_iff hc hpos).mp rfl, hpos⟩
    · cases (compilePatched_of_nonpos h (Int.not_lt.mp hpos)).symm.trans hrefused
  · intro hgives
    obtain ⟨hset, hpos⟩ := hgives
    have hadjust : (c.apply p).adjust = n := (Card.adjust_apply_eq_iff hc hpos).mpr hset
    rw [← hadjust] at hpos ⊢
    exact compilePatched_of_pos h hpos

/-- And the others are laid on. -/
theorem compilePatched_of_no_gift (h : compile r combo = .ok c) (hc : c.adjust.toInt ≤ 0)
    (hp : ∀ n, p.adjust = some n → n.toInt ≤ 0) :
    compilePatched r combo p = .ok (c.apply p) := by
  refine compilePatched_of_nonpos h (Int.not_lt.mp fun hpos => ?_)
  have hset : p.adjust = some (c.apply p).adjust := (Card.adjust_apply_eq_iff hc hpos).mp rfl
  exact absurd hpos (Int.not_lt.mpr (hp _ hset))

end Combo

/--
**A patch has the last word on the fields that it sets, and no word on the others.**  A combo
that fails fails in the same way with a patch on it.  One that makes a card is refused with
a patch that gives cards, and with no other: there the card has in each of its fields what
the patch says, or what it had if the patch says nothing.  And to lay on two patches is to
lay on the one that says what the second says and, where that is silent, what the first says.
-/
theorem Token.patched_overlays (r : Registry) (hvalid : ∀ m ∈ r.moves, m.Valid) (text : String)
    (p : Patch) :
    (∀ halt, (Token.combo text).compile r = .error halt →
      (Token.patched text p).compile r = .error halt) ∧
    (∀ c, (Token.combo text).compile r = .ok c →
      (∀ n, (Token.patched text p).compile r = .error (.refused (.positiveAdjust n text)) ↔
        p.adjust = some n ∧ 0 < n.toInt) ∧
      ((∀ n, p.adjust = some n → n.toInt ≤ 0) →
        ∃ d, (Token.patched text p).compile r = .ok d ∧
          ∀ f, d.get f = (p.get? f).getD (c.get f))) ∧
    ∀ (c : Card) (p q : Patch), (c.apply p).apply q = c.apply (q.atop p) ∧
      ∀ f, (q.atop p).get? f = (q.get? f).or (p.get? f) := by
  refine ⟨fun _ h => Combo.compilePatched_of_error h, ?_, ?_⟩
  · intro c h
    have hc : c.adjust.toInt ≤ 0 := Combo.adjust_nonpos_of_compile hvalid h
    refine ⟨Combo.compilePatched_eq_positiveAdjust_iff h hc, ?_⟩
    intro hp
    exact ⟨c.apply p, Combo.compilePatched_of_no_gift h hc hp, c.get_apply p⟩
  · intro c p q
    exact ⟨c.apply_apply p q, q.get?_atop p⟩

/-- A throw after a dodge: let it knock nobody down and cost nothing, but not give a card. -/
theorem Token.patched_overlays_throw :
    let r : Registry := .ofList [('d', .ofKind .dodge), ('t', .throw 7 5)]
    let p : Patch := { knockdown := some false, adjust := some 0 }
    (∀ m ∈ r.moves, m.Valid) ∧ ∃ c d, (Token.combo "dt").compile r = .ok c ∧
      (Token.patched "dt" p).compile r = .ok d ∧
      (Token.patched "dt" (.ofAdjust 1)).compile r =
        .error (.refused (.positiveAdjust 1 "dt")) ∧
      c.knockdown = true ∧ c.adjust = -1 ∧ d.knockdown = false ∧ d.adjust = 0 ∧
      d.damage = c.damage := by
  intro r p
  have hvalid : ∀ m ∈ r.moves, m.Valid := by
    have hnone : ∀ m ∈ r.moves, m.firstNegative? = none := by decide
    exact fun m hm => Move.firstNegative?_eq_none_iff.mp (hnone m hm)
  obtain ⟨c, hc, hlook⟩ : ∃ c, (Token.combo "dt").compile r = .ok c ∧
      (c.knockdown, c.adjust) = (true, -1) :=
    Checked.exists_eq_ok_of_map (by decide)
  obtain ⟨hknockdown, hadjust⟩ := Prod.mk.inj hlook
  obtain ⟨-, hlaid, -⟩ := Token.patched_overlays r hvalid "dt" p
  have hfree : ∀ n, p.adjust = some n → n.toInt ≤ 0 := by
    intro n hn
    cases hn
    decide
  obtain ⟨d, hd, hfields⟩ := (hlaid c hc).2 hfree
  obtain ⟨-, hgift, -⟩ := Token.patched_overlays r hvalid "dt" (.ofAdjust 1)
  have hrefused := ((hgift c hc).1 1).mpr ⟨rfl, by decide⟩
  exact ⟨hvalid, c, d, hc, hd, hrefused, hknockdown, hadjust, hfields (.flag .knockdown),
    hfields .adjust, hfields (.stat .damage)⟩

end Sparring
