/-
A bot is its table, cell by cell.

Two things stand between a table and a bot: the numbers in it are checked, and then
every token is compiled and changed as its place asks.  `Made` writes the second down
cell by cell, in the words of the rules: which of the three changes a place asks for, in
which order, and of which card.  Here it is shown that assembling does this and nothing
else: no cell is made from the token of another one, none is changed twice, none is left
out.

The only thing that can happen on the way and is nobody's fault is a number leaving its
range.  It can happen in a token, and in a hitback that costs one card more than there
are numbers for.
-/
import Sparring.Proofs.Bot.Traversal
import Sparring.Roster.DragonbornCenturion

namespace Sparring

/-! ### A card that answers -/

namespace Card

/-- The card without what only an opener has, at another price. -/
def answering (c : Card) (adjust : Amount) : Card :=
  { c with
    always := false
    isUnsafe := false
    backstep := false
    recur := false
    lockdown := false
    speed := 0
    blockDamage := 0
    firstDamage := 0
    adjust }

/-- The change of the hand that an answer costs. -/
def answerPrice (c : Card) : Int := if c.super then c.adjust.toInt else c.adjust.toInt - 1

theorem asHitback_eq {ε : Type} (c : Card) :
    (c.asHitback : Checked ε Card) = (Amount.fit c.answerPrice).map c.answering := by
  unfold asHitback answerPrice
  split
  · rw [Amount.fit_eq_ok_iff.mpr rfl]
    rfl
  · cases (Amount.fit (c.adjust.toInt - 1) : Checked ε Amount) with
    | error h => rfl
    | ok a => rfl

/-- An answer lacks what only an opener has, and costs a card more unless it is a super. -/
theorem asHitback_eq_ok_iff {ε : Type} {c h : Card} :
    (c.asHitback : Checked ε Card) = .ok h ↔
      h = c.answering h.adjust ∧ h.adjust.toInt = c.answerPrice := by
  rw [asHitback_eq, Checked.map_eq_ok_iff]
  refine ⟨?_, ?_⟩
  · intro h
    obtain ⟨a, ha, rfl⟩ := h
    exact ⟨rfl, Amount.fit_eq_ok_iff.mp ha⟩
  · intro h
    obtain ⟨hcard, hadjust⟩ := h
    exact ⟨h.adjust, Amount.fit_eq_ok_iff.mpr hadjust, hcard.symm⟩

theorem asHitback_eq_error {ε : Type} {c : Card} {h : Halt ε}
    (hc : (c.asHitback : Checked ε Card) = .error h) : h = .overflow := by
  rw [asHitback_eq, Checked.map_eq_error_iff] at hc
  exact Amount.fit_eq_error hc

end Card

namespace Table

variable {t : Table} {cell : Cell} {tok : Token} {c : Card}

/-! ### One cell -/

/-- A token's card as the answer to an attack. -/
def Answers (t : Table) (tok : Token) (c : Card) : Prop :=
  ∃ c₀, tok.compile t.moves = .ok c₀ ∧ (c₀.asHitback : Checked BuildError Card) = .ok c

/-- The card that belongs in a cell, by the rules, if this token stands there. -/
def Made (t : Table) (cell : Cell) (tok : Token) (c : Card) : Prop :=
  match cell.row, cell.place with
  | .normal _, .slot _ | .knockdown, .slot _ | .desperate, .slot _ =>
    tok.compile t.moves = .ok c
  | .normal _, .hitback | .knockdown, .hitback | .desperate, .hitback => t.Answers tok c
  | .wakeup, .slot _ => ∃ c₀, tok.compile t.moves = .ok c₀ ∧ c = c₀.withSpeedFloor
  | .wakeup, .hitback => ∃ c₀, t.Answers tok c₀ ∧ c = c₀.withSpeedFloor
  | .dragon, .slot _ => ∃ c₀, tok.compile t.moves = .ok c₀ ∧ c = c₀.handNeutral
  | .dragon, .hitback => ∃ c₀, t.Answers tok c₀ ∧ c = c₀.handNeutral

/-- A token's card as a place has it, whatever the row. -/
def Placed (t : Table) (place : Place) (tok : Token) (c : Card) : Prop :=
  ∃ c₀, tok.compile t.moves = .ok c₀ ∧ (c₀.forPlace place : Checked BuildError Card) = .ok c

theorem placed_slot {i : Fin faces} :
    t.Placed (.slot i) tok c ↔ tok.compile t.moves = .ok c := by
  refine ⟨?_, ?_⟩
  · intro h
    obtain ⟨c₀, hcompile, hplace⟩ := h
    cases hplace
    exact hcompile
  · intro h
    exact ⟨c, h, rfl⟩

theorem placed_hitback : t.Placed .hitback tok c ↔ t.Answers tok c := Iff.rfl

/-- What the place asks comes first, and what the row asks second. -/
theorem made_iff :
    t.Made cell tok c ↔ ∃ c₁, t.Placed cell.place tok c₁ ∧ c = c₁.forRow cell.row := by
  obtain ⟨row, place⟩ := cell
  cases place with
  | slot i =>
      simp only [placed_slot]
      cases row with
      | wakeup => exact Iff.rfl
      | dragon => exact Iff.rfl
      | normal b => simp [Made, Card.forRow]
      | knockdown => simp [Made, Card.forRow]
      | desperate => simp [Made, Card.forRow]
  | hitback =>
      simp only [placed_hitback]
      cases row with
      | wakeup => exact Iff.rfl
      | dragon => exact Iff.rfl
      | normal b => simp [Made, Card.forRow]
      | knockdown => simp [Made, Card.forRow]
      | desperate => simp [Made, Card.forRow]

theorem compileCell_eq_ok_iff : t.compileCell cell tok = .ok c ↔ t.Made cell tok c := by
  simp only [compileCell, Checked.bind_eq_ok_iff, Checked.mapError_eq_ok_iff]
  rw [made_iff]
  refine ⟨?_, ?_⟩
  · intro h
    obtain ⟨c₀, hcompile, c₁, hplace, hrow⟩ := h
    cases hrow
    exact ⟨c₁, ⟨c₀, hcompile, hplace⟩, rfl⟩
  · intro h
    obtain ⟨c₁, ⟨c₀, hcompile, hplace⟩, rfl⟩ := h
    exact ⟨c₀, hcompile, c₁, hplace, rfl⟩

/-- A cell fails with its token, or because a number left its range. -/
theorem compileCell_eq_error {h : Halt BuildError} (hc : t.compileCell cell tok = .error h) :
    h = .overflow ∨ ∃ e, tok.compile t.moves = .error (.refused e) ∧
      h = .refused (t.error (.cell cell) (.combo e)) := by
  simp only [compileCell, Checked.bind_eq_error_iff, Checked.mapError_eq_error_iff] at hc
  rcases hc with ⟨halt, hcompile, rfl⟩ | ⟨c₀, -, hplace | ⟨_, _, hpure⟩⟩
  · cases halt with
    | overflow => exact Or.inl rfl
    | refused e => exact Or.inr ⟨e, hcompile, rfl⟩
  · obtain ⟨row, place⟩ := cell
    cases place with
    | slot i => cases hplace
    | hitback => exact Or.inl (Card.asHitback_eq_error hplace)
  · cases hpure

/-! ### A whole table -/

theorem badNumber?_eq_none_iff :
    t.badNumber? = none ↔
      DifficultyOk t.book.difficulty ∧ ∀ m ∈ t.moves.moves, m.Valid := by
  unfold badNumber?
  split
  · rename_i hdifficulty
    simp only [List.findSome?_eq_none_iff, Option.map_eq_none_iff,
      Move.firstNegative?_eq_none_iff]
    exact ⟨fun h => ⟨hdifficulty, h⟩, fun h => h.2⟩
  · rename_i hdifficulty
    refine ⟨?_, ?_⟩
    · intro h
      cases h
    · intro h
      exact absurd h.1 hdifficulty

theorem assemble_eq_ok_iff {b : Bot} :
    t.assemble = .ok b ↔ t.badNumber? = none ∧ Playbook.Rel t.Made t.book b := by
  have hrel : t.book.traverse t.compileCell = .ok b ↔ Playbook.Rel t.Made t.book b := by
    rw [Playbook.traverse_eq_ok_iff]
    simp only [compileCell_eq_ok_iff]
  unfold assemble
  split
  · rename_i e he
    simp [he]
  · rename_i hnone
    rw [hrel]
    simp [hnone]

/-- The token of a cell that has been made compiles. -/
theorem Made.exists_compile_eq_ok (h : t.Made cell tok c) :
    ∃ c₀, tok.compile t.moves = .ok c₀ := by
  obtain ⟨c₁, ⟨c₀, hcompile, -⟩, -⟩ := made_iff.mp h
  exact ⟨c₀, hcompile⟩

/-- Unless a number leaves its range, a table whose numbers and tokens are right is a bot. -/
theorem exists_assemble_eq_ok (fits : t.assemble ≠ .error .overflow) (hnone : t.badNumber? = none)
    (htokens : ∀ cell tok, t.book.at? cell = some tok → ∃ c, tok.compile t.moves = .ok c) :
    ∃ b, t.assemble = .ok b := by
  have hassemble : t.assemble = t.book.traverse t.compileCell := by
    unfold assemble
    rw [hnone]
  rw [hassemble] at fits ⊢
  cases hb : t.book.traverse t.compileCell with
  | ok b => exact ⟨b, rfl⟩
  | error h =>
      obtain ⟨cell, tok, htok, herror⟩ := Playbook.exists_of_traverse_eq_error hb
      rcases compileCell_eq_error herror with rfl | ⟨e, hrefused, -⟩
      · exact absurd hb fits
      · obtain ⟨c, hc⟩ := htokens cell tok htok
        cases hrefused.symm.trans hc

/--
**A table becomes a bot if and only if nothing in it is wrong, and it does so cell by
cell.**  Nothing is wrong if the difficulty is in range, no move has a negative number
and every token compiles, wherever it stands; the bot has the name and the difficulty of
the table, and in every cell the card that belongs there.
-/
theorem assemble_cell_by_cell (t : Table) (fits : t.assemble ≠ .error .overflow) :
    ((∃ b, t.assemble = .ok b) ↔
      DifficultyOk t.book.difficulty ∧ (∀ m ∈ t.moves.moves, m.Valid) ∧
        ∀ cell tok, t.book.at? cell = some tok → ∃ c, tok.compile t.moves = .ok c) ∧
    ∀ b, t.assemble = .ok b → Playbook.Rel t.Made t.book b := by
  refine ⟨⟨?_, ?_⟩, fun b hb => (assemble_eq_ok_iff.mp hb).2⟩
  · intro h
    obtain ⟨b, hb⟩ := h
    obtain ⟨hnone, hrel⟩ := assemble_eq_ok_iff.mp hb
    obtain ⟨hdifficulty, hvalid⟩ := badNumber?_eq_none_iff.mp hnone
    refine ⟨hdifficulty, hvalid, ?_⟩
    intro cell tok htok
    obtain ⟨c, -, hmade⟩ := hrel.exists_at?_eq_some htok
    exact hmade.exists_compile_eq_ok
  · intro h
    obtain ⟨hdifficulty, hvalid, htokens⟩ := h
    exact exists_assemble_eq_ok fits (badNumber?_eq_none_iff.mpr ⟨hdifficulty, hvalid⟩) htokens

/-- A bot with a dragon row that has a hitback of its own. -/
theorem assemble_cell_by_cell_centurion :
    Roster.dragonbornCenturion.assemble ≠ .error .overflow ∧
      Roster.dragonbornCenturion.assemble.isOk = true ∧
      ∀ b, Roster.dragonbornCenturion.assemble = .ok b →
        Playbook.Rel Roster.dragonbornCenturion.Made Roster.dragonbornCenturion.book b := by
  have hfits : Roster.dragonbornCenturion.assemble ≠ .error .overflow := by decide +kernel
  exact ⟨hfits, by decide +kernel, (assemble_cell_by_cell _ hfits).2⟩

end Table

end Sparring
