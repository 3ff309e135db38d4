/-
What a card does to the hand.

Attacking costs cards, and no card should give any.  Combos keep to this because no move
has a negative meter: the cost is a sum of meters and single cards, and the card shows it
negated.  A patch may say what it likes, but a patched card that gives cards is refused.
What a place asks for only lowers a price, or removes it.

A complete card is used as it stands, and nobody looks at its price.  So the rule holds
of a bot if and only if the author of its table kept it for every complete card himself:
`priceIn` is what such a card comes to in its cell, one less in a hitback that is not a
super, and nothing in the dragon's row.
-/
import Sparring.Proofs.Bot.Assembly
import Sparring.Proofs.Combo.Bill
import Sparring.Proofs.Query.Cells

namespace Sparring

/-! ### A combo costs -/

namespace Combo

variable {r : Registry} {combo : String} {c : Card}

theorem adjust_nonpos_of_compile (hvalid : ∀ m ∈ r.moves, m.Valid)
    (h : compile r combo = .ok c) : c.adjust.toInt ≤ 0 := by
  obtain ⟨steps, opener, rest, total, -, hplay, hcard⟩ := compile_eq_ok_iff.mp h
  have hadjust := (billed_of_cardOf hplay hcard).adjust
  have hcost := (bill_nonneg hvalid steps true).cost
  omega

end Combo

/-- Of the three ways to write a card only the complete one can break the rule. -/
theorem Token.adjust_nonpos_or_eq_card {r : Registry} {tok : Token} {c : Card}
    (hvalid : ∀ m ∈ r.moves, m.Valid) (h : tok.compile r = .ok c) :
    c.adjust.toInt ≤ 0 ∨ tok = .card c := by
  cases tok with
  | combo text => exact Or.inl (Combo.adjust_nonpos_of_compile hvalid h)
  | patched text patch =>
      obtain ⟨-, -, -, hle⟩ := Combo.compilePatched_eq_ok_iff.mp h
      exact Or.inl hle
  | card c =>
      cases h
      exact Or.inr rfl

/-! ### What a cell makes of a price -/

namespace Card

/-- The change of the hand that a card comes to in a cell. -/
def priceIn (c : Card) (cell : Cell) : Int :=
  if cell.row = .dragon then 0
  else if cell.place = .hitback then c.answerPrice
  else c.adjust.toInt

theorem answerPrice_le (c : Card) : c.answerPrice ≤ c.adjust.toInt := by
  unfold answerPrice
  split <;> omega

theorem priceIn_nonpos {c : Card} (h : c.adjust.toInt ≤ 0) (cell : Cell) :
    c.priceIn cell ≤ 0 := by
  have := c.answerPrice_le
  unfold priceIn
  split
  · omega
  · split <;> omega

@[simp] theorem adjust_withSpeedFloor (c : Card) : c.withSpeedFloor.adjust = c.adjust := by
  unfold withSpeedFloor
  split <;> rfl

theorem adjust_forPlace {ε : Type} {c c' : Card} {place : Place}
    (h : (c.forPlace place : Checked ε Card) = .ok c') :
    c'.adjust.toInt = if place = .hitback then c.answerPrice else c.adjust.toInt := by
  cases place with
  | slot i =>
      cases h
      rfl
  | hitback => exact (asHitback_eq_ok_iff.mp h).2

theorem adjust_forRow (c : Card) (row : RowName) :
    (c.forRow row).adjust.toInt = if row = .dragon then 0 else c.adjust.toInt := by
  cases row with
  | normal b => rfl
  | knockdown => rfl
  | wakeup => simp [forRow]
  | dragon => rfl
  | desperate => rfl

end Card

namespace Table

variable {t : Table} {cell : Cell} {tok : Token} {c : Card}

/-- The card of a cell costs what the card of its token comes to there. -/
theorem Made.adjust_eq (h : t.Made cell tok c) :
    ∃ c₀, tok.compile t.moves = .ok c₀ ∧ c.adjust.toInt = c₀.priceIn cell := by
  obtain ⟨c₁, ⟨c₀, hcompile, hplace⟩, rfl⟩ := made_iff.mp h
  refine ⟨c₀, hcompile, ?_⟩
  rw [Card.adjust_forRow, Card.adjust_forPlace hplace]
  rfl

/-- In a table that is accepted, a cell gives cards only if a complete card does. -/
theorem Made.adjust_nonpos (hvalid : ∀ m ∈ t.moves.moves, m.Valid) (h : t.Made cell tok c)
    (hcard : ∀ c₀, tok = .card c₀ → c₀.priceIn cell ≤ 0) : c.adjust.toInt ≤ 0 := by
  obtain ⟨c₀, hcompile, hadjust⟩ := h.adjust_eq
  rw [hadjust]
  rcases Token.adjust_nonpos_or_eq_card hvalid hcompile with hle | htok
  · exact Card.priceIn_nonpos hle cell
  · exact hcard c₀ htok

/--
**No card that is served gives the player cards, if and only if no complete card in the
table does in its cell.**  Combos and patched combos never do.
-/
theorem no_served_card_gives_iff (t : Table) (b : Bot) (h : t.assemble = .ok b) :
    (∀ s : State, s.choiceIndex.toNat < faces →
      ∃ c, b.resolve? s = some c ∧ c.adjust.toInt ≤ 0) ↔
      ∀ cell c, t.book.at? cell = some (.card c) → c.priceIn cell ≤ 0 := by
  obtain ⟨hnone, hrel⟩ := assemble_eq_ok_iff.mp h
  obtain ⟨-, hvalid⟩ := badNumber?_eq_none_iff.mp hnone
  rw [Playbook.forall_served_iff]
  refine ⟨?_, ?_⟩
  · intro hbot cell c hc
    obtain ⟨c', hc', hmade⟩ := hrel.exists_at?_eq_some hc
    obtain ⟨c₀, hcompile, hadjust⟩ := hmade.adjust_eq
    cases hcompile
    rw [← hadjust]
    exact hbot cell c' hc'
  · intro htable cell c hc
    obtain ⟨tok, htok, hmade⟩ := hrel.exists_of_at?_eq_some hc
    refine hmade.adjust_nonpos hvalid ?_
    intro c₀ heq
    rw [heq] at htok
    exact htable cell c₀ htok

/-- A table with one token in all its slots, and one in the hitbacks that it must have. -/
def uniform (moves : Registry) (slot hitback : Token) : Table where
  moves
  book := {
    name := "Training Dummy"
    difficulty := 1
    normal := .replicate brackets ⟨.replicate faces slot, hitback⟩
    knockdown := ⟨.replicate faces slot, none⟩ }

theorem at?_uniform {moves : Registry} {slot hitback : Token}
    (h : (uniform moves slot hitback).book.at? cell = some tok) :
    (tok = slot ∧ cell.place ≠ .hitback) ∨ (tok = hitback ∧ cell.place = .hitback) := by
  obtain ⟨row, place⟩ := cell
  cases place with
  | slot i =>
      refine Or.inl ⟨?_, by simp⟩
      cases row <;> simp_all [uniform, Playbook.at?]
  | hitback =>
      refine Or.inr ⟨?_, rfl⟩
      cases row <;> simp_all [uniform, Playbook.at?]

/-- A complete hitback may say that it gives a card, since answering costs one. -/
theorem no_served_card_gives_hitback :
    let t := uniform (.ofList [('A', .strike 3 8)]) (.combo "A")
      (.card { kind := .dodge, adjust := 1 })
    ∃ b, t.assemble = .ok b ∧ ∀ s : State, s.choiceIndex.toNat < faces →
      ∃ c, b.resolve? s = some c ∧ c.adjust.toInt ≤ 0 := by
  intro t
  obtain ⟨b, hb⟩ := Checked.exists_eq_ok (show t.assemble.isOk = true by decide +kernel)
  refine ⟨b, hb, (no_served_card_gives_iff t b hb).mpr ?_⟩
  intro cell c hc
  rcases at?_uniform hc with ⟨htok, -⟩ | ⟨htok, hplace⟩
  · cases htok
  · cases htok
    simp [Card.priceIn, Card.answerPrice, hplace]

/-- A complete dodge that gives two cards is accepted, and it is served as it stands. -/
theorem served_card_gives :
    ¬ ∀ (t : Table) (b : Bot), t.assemble = .ok b → ∀ s : State, s.choiceIndex.toNat < faces →
      ∃ c, b.resolve? s = some c ∧ c.adjust.toInt ≤ 0 := by
  intro hall
  let gift : Card := { kind := .dodge, adjust := 2 }
  let t := uniform (.ofList [('A', .strike 3 8)]) (.card gift) (.combo "A")
  obtain ⟨b, hb⟩ := Checked.exists_eq_ok (show t.assemble.isOk = true by decide +kernel)
  have hcell : t.book.at? ⟨.normal 2, .slot 0⟩ = some (.card gift) := rfl
  obtain ⟨c, hc, hmade⟩ := (assemble_eq_ok_iff.mp hb).2.exists_at?_eq_some hcell
  cases hmade
  obtain ⟨c', hc', hle⟩ := hall t b hb _ (Cell.choiceIndex_visit ⟨.normal 2, .slot 0⟩)
  cases (Playbook.resolve?_visit hc).symm.trans hc'
  exact absurd hle (by decide)

end Table

end Sparring
