/-
What a place and a row keep their cards from.

Three changes are made to cards on the way into a bot, and each of them makes a promise
to the player.  A hitback answers an attack, so it opens nothing (`OnlyAnswers`).  On
wakeup nothing is faster than the floor (`KeepsFloor`).  A dragon leaves the hand alone
(`KeepsHand`).  The promises are about cells: they hold of the card that was made there,
whatever its author wrote, since the floor and the dragon are laid on after the answer
and undo nothing of it.

What the player sees is not a cell but the card that is served, and that may have been
inherited from the row of the hand.  An answer stays an answer wherever it is taken from.
The dragon's promise does not travel: a hitback that his row leaves out is that of the
hand, and it costs what it costs there.
-/
import Sparring.Proofs.Bot.HandCost
import Sparring.Roster.DragonbornFirebat

namespace Sparring

namespace Card

/-- The card has nothing that only an opener has. -/
structure OnlyAnswers (c : Card) : Prop where
  speed : c.speed = 0
  blockDamage : c.blockDamage = 0
  firstDamage : c.firstDamage = 0
  always : c.always = false
  isUnsafe : c.isUnsafe = false
  backstep : c.backstep = false
  recur : c.recur = false
  lockdown : c.lockdown = false

/-- The card is not faster than wakeup allows. -/
def KeepsFloor (c : Card) : Prop := c.speed = 0 ∨ 10 ≤ c.speed.toInt

/-- The card leaves the size of the hand as it is. -/
structure KeepsHand (c : Card) : Prop where
  adjust : c.adjust = 0
  recur : c.recur = false
  drawOnBlock : c.drawOnBlock = false

theorem onlyAnswers_of_asHitback {ε : Type} {c h : Card}
    (hc : (c.asHitback : Checked ε Card) = .ok h) : h.OnlyAnswers := by
  obtain ⟨hcard, -⟩ := asHitback_eq_ok_iff.mp hc
  rw [hcard]
  exact ⟨rfl, rfl, rfl, rfl, rfl, rfl, rfl, rfl⟩

/-- A card without speed is below the floor, and stays there. -/
theorem withSpeedFloor_of_speed_eq_zero {c : Card} (h : c.speed = 0) : c.withSpeedFloor = c := by
  unfold withSpeedFloor
  rw [if_neg]
  intro hslow
  exact hslow.1 h

/-- No row gives an answer back what it has lost. -/
theorem OnlyAnswers.forRow {c : Card} (h : c.OnlyAnswers) (row : RowName) :
    (c.forRow row).OnlyAnswers := by
  cases row with
  | normal b => exact h
  | knockdown => exact h
  | wakeup =>
      show c.withSpeedFloor.OnlyAnswers
      rw [withSpeedFloor_of_speed_eq_zero h.speed]
      exact h
  | dragon =>
      obtain ⟨hspeed, hblock, hfirst, halways, hunsafe, hbackstep, -, hlockdown⟩ := h
      exact ⟨hspeed, hblock, hfirst, halways, hunsafe, hbackstep, rfl, hlockdown⟩
  | desperate => exact h

theorem keepsFloor_withSpeedFloor (c : Card) : c.withSpeedFloor.KeepsFloor := by
  unfold withSpeedFloor
  split
  · right
    show 10 ≤ wakeupFloor.toInt
    decide
  · rename_i hslow
    by_cases hzero : c.speed = 0
    · exact Or.inl hzero
    · have hle : ¬ c.speed.toInt < wakeupFloor.toInt := fun hlt => hslow ⟨hzero, hlt⟩
      have hfloor : wakeupFloor.toInt = 10 := by decide
      right
      omega

theorem keepsHand_handNeutral (c : Card) : c.handNeutral.KeepsHand := ⟨rfl, rfl, rfl⟩

end Card

namespace Table

variable {t : Table} {b : Bot} {s : State} {cell : Cell} {tok : Token} {c : Card}

/-! ### The promise of a cell -/

theorem Made.onlyAnswers (h : t.Made cell tok c) (hplace : cell.place = .hitback) :
    c.OnlyAnswers := by
  obtain ⟨c₁, ⟨c₀, -, hanswer⟩, rfl⟩ := made_iff.mp h
  rw [hplace] at hanswer
  exact (Card.onlyAnswers_of_asHitback hanswer).forRow cell.row

theorem Made.keepsFloor (h : t.Made cell tok c) (hrow : cell.row = .wakeup) :
    c.KeepsFloor := by
  obtain ⟨c₁, -, rfl⟩ := made_iff.mp h
  rw [hrow]
  exact c₁.keepsFloor_withSpeedFloor

theorem Made.keepsHand (h : t.Made cell tok c) (hrow : cell.row = .dragon) :
    c.KeepsHand := by
  obtain ⟨c₁, -, rfl⟩ := made_iff.mp h
  rw [hrow]
  exact c₁.keepsHand_handNeutral

/-! ### The promise kept -/

/-- What is served was made from a token at the place that was asked for. -/
theorem exists_made_of_resolve? (h : t.assemble = .ok b) (hc : b.resolve? s = some c) :
    ∃ cell tok, s.place? = some cell.place ∧ t.book.at? cell = some tok ∧ t.Made cell tok c := by
  obtain ⟨cell, hplace, hcell⟩ := Playbook.exists_cell_of_resolve?_eq_some hc
  obtain ⟨tok, htok, hmade⟩ := (assemble_eq_ok_iff.mp h).2.exists_of_at?_eq_some hcell
  exact ⟨cell, tok, hplace, htok, hmade⟩

/-- What the upper row of a table has at a place is made there and served. -/
theorem exists_resolve?_of_upper {row : RowName} {p : Place} (h : t.assemble = .ok b)
    (hrow : b.upper? s = some row) (hp : s.place? = some p)
    (htok : t.book.at? ⟨row, p⟩ = some tok) :
    ∃ c, b.resolve? s = some c ∧ t.Made ⟨row, p⟩ tok c := by
  obtain ⟨c, hc, hmade⟩ := (assemble_eq_ok_iff.mp h).2.exists_at?_eq_some htok
  exact ⟨c, Playbook.resolve?_of_upper hrow hp hc, hmade⟩

/-- A slot of the row that a bot has for wakeup is served from it. -/
theorem keepsFloor_of_wakeup (h : t.assemble = .ok b) (hroll : s.choiceIndex.toNat < faces)
    (hs : s.hitback = false) (hmode : s.mode = .wakeup) (hwakeup : b.wakeup.isSome = true)
    (calm : s.desperate = false ∨ b.desperate = none) (hc : b.resolve? s = some c) :
    c.KeepsFloor := by
  obtain ⟨top, htop⟩ := Option.isSome_iff_exists.mp hwakeup
  have hupper : b.upper? s = some .wakeup := by
    rw [Playbook.upper?_of_calm calm, hmode]
    rfl
  have hplace : s.place? = some (.slot ⟨_, hroll⟩) := State.place?_slot hs rfl
  have hcell : b.at? ⟨.wakeup, .slot ⟨_, hroll⟩⟩ = some (top.slots.get ⟨_, hroll⟩) := by
    simp [Playbook.at?, htop]
  cases hc.symm.trans (Playbook.resolve?_of_upper hupper hplace hcell)
  obtain ⟨tok, -, hmade⟩ := (assemble_eq_ok_iff.mp h).2.exists_of_at?_eq_some hcell
  exact hmade.keepsFloor rfl

/--
**An answer opens nothing, whichever row it is taken from, and nothing that a bot does on
wakeup is faster than the floor.**
-/
theorem served_card_is_restrained (t : Table) (b : Bot) (h : t.assemble = .ok b) (s : State)
    (hroll : s.choiceIndex.toNat < faces) :
    ∃ c, b.resolve? s = some c ∧ (s.hitback = true → c.OnlyAnswers) ∧
      (s.hitback = false → s.mode = .wakeup → b.wakeup.isSome = true →
        (s.desperate = false ∨ b.desperate = none) → c.speed = 0 ∨ 10 ≤ c.speed.toInt) := by
  obtain ⟨c, hc⟩ := b.exists_resolve?_eq_some hroll
  refine ⟨c, hc, ?_, ?_⟩
  · intro hs
    obtain ⟨cell, tok, hplace, -, hmade⟩ := exists_made_of_resolve? h hc
    have hhitback : cell.place = .hitback := by
      rw [State.place?_hitback hs] at hplace
      exact (Option.some.inj hplace).symm
    exact hmade.onlyAnswers hhitback
  · intro hs hmode hwakeup calm
    exact keepsFloor_of_wakeup h hroll hs hmode hwakeup calm hc

/-- A row for wakeup without a hitback, over hitbacks that would open anything they can. -/
theorem served_card_is_restrained_on_wakeup :
    let opener : Card :=
      { kind := .strike, speed := 12, blockDamage := 3, isUnsafe := true, recur := true,
        lockdown := true, backstep := true, firstDamage := 5, always := true }
    let u := uniform (.ofList [('A', .strike 3 8)]) (.combo "A") (.card opener)
    let t := { u with book.wakeup := some ⟨.replicate faces (.combo "A"), none⟩ }
    ∃ b, t.assemble = .ok b ∧
      (∃ c, b.resolve? { mode := .wakeup, hitback := true } = some c ∧ c.OnlyAnswers) ∧
      ∃ c, b.resolve? { mode := .wakeup } = some c ∧ (c.speed = 0 ∨ 10 ≤ c.speed.toInt) := by
  intro opener u t
  obtain ⟨b, hb⟩ := Checked.exists_eq_ok (show t.assemble.isOk = true by decide +kernel)
  have hwakeup : b.wakeup.isSome = true := by
    have hrel := (assemble_eq_ok_iff.mp hb).2.wakeup
    generalize b.wakeup = w at hrel
    cases hrel with
    | some _ => rfl
  obtain ⟨c, hc, hanswer, -⟩ :=
    served_card_is_restrained t b hb { mode := .wakeup, hitback := true } (by decide)
  obtain ⟨c', hc', -, hfloor⟩ := served_card_is_restrained t b hb { mode := .wakeup } (by decide)
  exact ⟨b, hb, ⟨c, hc, hanswer rfl⟩, c', hc', hfloor rfl rfl hwakeup (Or.inl rfl)⟩

/-! ### The dragon -/

/--
**A dragon leaves the hand alone.**  His row may leave the hitback out, and then he answers
as the row of the hand does.
-/
theorem dragon_keeps_hand (t : Table) (b : Bot) (h : t.assemble = .ok b)
    (form : Row Token (Option Token)) (hform : t.book.dragon = some form) (s : State)
    (hmode : s.mode = .dragon) (calm : s.desperate = false ∨ b.desperate = none)
    (hroll : s.choiceIndex.toNat < faces) :
    ∃ c, b.resolve? s = some c ∧
      (s.hitback = false ∨ form.hitback.isSome = true → c.KeepsHand) ∧
      (s.hitback = true → form.hitback = none → c = (b.normal.get s.bracket).hitback) := by
  have hupper : b.upper? s = some .dragon := by
    rw [Playbook.upper?_of_calm calm, hmode]
    rfl
  cases hs : s.hitback with
  | false =>
      have htok : t.book.at? ⟨.dragon, .slot ⟨_, hroll⟩⟩ = some (form.slots.get ⟨_, hroll⟩) := by
        simp [Playbook.at?, hform]
      obtain ⟨c, hc, hmade⟩ :=
        exists_resolve?_of_upper h hupper (State.place?_slot hs rfl) htok
      exact ⟨c, hc, fun _ => hmade.keepsHand rfl, fun hfalse => by cases hfalse⟩
  | true =>
      have hplace : s.place? = some .hitback := State.place?_hitback hs
      have hat : t.book.at? ⟨.dragon, .hitback⟩ = form.hitback := by
        simp [Playbook.at?, hform]
      cases hanswer : form.hitback with
      | some tok =>
          obtain ⟨c, hc, hmade⟩ :=
            exists_resolve?_of_upper h hupper hplace (hat.trans hanswer)
          exact ⟨c, hc, fun _ => hmade.keepsHand rfl, fun _ hnone => by cases hnone⟩
      | none =>
          have hnone := (assemble_eq_ok_iff.mp h).2.at?_eq_none (hat.trans hanswer)
          refine ⟨_, Playbook.resolve?_of_upper_none hupper hplace hnone, ?_, fun _ _ => rfl⟩
          intro hnot
          rcases hnot with hnot | hnot
          · cases hnot
          · cases hnot

/-- A dragon with an answer of his own, which would cost a card elsewhere. -/
theorem dragon_keeps_hand_firebat :
    ∃ b, Roster.dragonbornFirebat.assemble = .ok b ∧
      ∃ c, b.resolve? { mode := .dragon, hitback := true } = some c ∧ c.KeepsHand := by
  obtain ⟨b, hb⟩ := Checked.exists_eq_ok
    (show Roster.dragonbornFirebat.assemble.isOk = true by decide +kernel)
  obtain ⟨c, hc, hkeeps, -⟩ := dragon_keeps_hand Roster.dragonbornFirebat b hb _ rfl
    { mode := .dragon, hitback := true } rfl (Or.inl rfl) (by decide)
  exact ⟨b, hb, c, hc, hkeeps (Or.inr rfl)⟩

/-- A dragon whose row has no hitback answers with that of the hand, and it costs a card. -/
theorem dragon_answers_from_hand :
    ¬ ∀ (t : Table) (b : Bot), t.assemble = .ok b → t.book.dragon.isSome = true →
      ∀ s : State, s.mode = .dragon → (s.desperate = false ∨ b.desperate = none) →
        s.choiceIndex.toNat < faces → ∃ c, b.resolve? s = some c ∧ c.KeepsHand := by
  intro hall
  let u := uniform (.ofList [('A', .strike 3 8)]) (.combo "A") (.combo "A")
  let t : Table := { u with book.dragon := some ⟨.replicate faces (.combo "A"), none⟩ }
  let s : State := { mode := .dragon, hitback := true }
  obtain ⟨b, hb⟩ := Checked.exists_eq_ok (show t.assemble.isOk = true by decide +kernel)
  obtain ⟨c, hc, hkeeps⟩ := hall t b hb rfl s rfl (Or.inl rfl) (by decide)
  have hprice : (t.assemble.toOption.bind (·.resolve? s)).map (·.adjust) = some (-1) := by
    decide +kernel
  rw [hb] at hprice
  have hadjust : (b.resolve? s).map (·.adjust) = some (-1) := hprice
  rw [hc, Option.map_some, hkeeps.adjust] at hadjust
  exact absurd hadjust (by decide)

end Table

end Sparring
