/-
The cards of tables that are written in combos alone.

A patch or a complete card may carry any number its author likes, but a combo may not: its
card is computed from moves, and no move has a number below zero.  So there are things that
a player can rely on, and `Sound` lists them: no number on the card is below zero, the
damage of the opener is part of the damage of the whole combo and is shown only if
something follows, and only a super is paid for when it whiffs.

The numbers of a card come from two sides.  Those that add up are on the bill of the combo,
and a bill of valid moves has nothing below zero on it; all others are the opener's own.
The last relation is the only one with an argument in it: what opens the combo is on the
bill, so the whole bill is not smaller (`opener_le_bill`).

The changes on the way into a bot keep all of this.  An answer takes numbers away, the
floor puts a speed up, and a dragon looks at neither.
-/
import Sparring.Proofs.Bot.Restraint
import Sparring.Proofs.Combo.Join

namespace Sparring

namespace Card

/-- What can be relied on in the card of a combo of so many moves. -/
structure Sound (moves : Nat) (c : Card) : Prop where
  stat_nonneg : ∀ s : Stat, 0 ≤ (c.stat s).toInt
  firstDamage_nonneg : 0 ≤ c.firstDamage.toInt
  /-- The opener is part of the combo. -/
  firstDamage_le : c.firstDamage.toInt ≤ c.damage.toInt
  /-- It is told apart only if something follows it. -/
  follows : 0 < c.firstDamage.toInt → 2 ≤ moves
  always : c.always = true → c.super = true

end Card

/-! ### A combo -/

namespace Combo

variable {r : Registry} {combo : String} {steps : List Step} {opener : Move} {rest : List Move}
  {total : Tally} {c : Card}

/-- What a card has from its opener alone. -/
structure OpenedBy (opener : Move) (follows : Bool) (c : Card) : Prop where
  stat : ∀ s ∈ [Stat.blockDamage, .speed, .level], c.stat s = opener.stat s
  firstDamage : c.firstDamage = if follows then opener.damage else 0
  always : c.always = c.super

theorem openedBy_of_cardOf (h : cardOf combo total opener rest = .ok c) :
    OpenedBy opener (!rest.isEmpty) c := by
  simp only [cardOf, Checked.bind_eq_ok_iff] at h
  obtain ⟨_, -, _, -, _, -, hc⟩ := h
  cases hc
  refine ⟨?_, rfl, rfl⟩
  intro s hs
  rcases List.mem_cons.mp hs with rfl | hs
  · rfl
  rcases List.mem_cons.mp hs with rfl | hs
  · rfl
  rw [List.mem_singleton.mp hs]
  rfl

theorem OpenedBy.stat_nonneg {follows : Bool} (h : OpenedBy opener follows c)
    (hopener : opener.Valid) {s : Stat} (hs : s ∈ [Stat.blockDamage, .speed, .level]) :
    0 ≤ (c.stat s).toInt := by
  rw [h.stat s hs]
  exact hopener.stat_nonneg s

/-- What opens a combo is on its bill, and nothing on the bill is below zero. -/
theorem opener_le_bill (hvalid : ∀ m ∈ r.moves, m.Valid)
    (hplay : play r combo true {} steps = .ok (opener :: rest, total)) :
    opener.damage.toInt ≤ (bill r true steps).damage := by
  obtain ⟨x, xs, rfl, hget⟩ := exists_opener_of_play hplay
  have hopener : opener.Valid := hvalid opener (Registry.mem_of_get? hget)
  have htiers : 0 ≤ Amount.total (opener.pumps.take x.pumps) :=
    Amount.total_nonneg fun n hn => hopener.pump_nonneg (List.mem_of_mem_take hn)
  have hrest := (bill_nonneg hvalid xs false).damage
  rw [bill_cons, Step.bill_of_get? hget, Bill.damage_add]
  dsimp only
  omega

theorem sound_of_cardOf (hvalid : ∀ m ∈ r.moves, m.Valid)
    (hplay : play r combo true {} steps = .ok (opener :: rest, total))
    (hcard : cardOf combo total opener rest = .ok c) : c.Sound steps.length := by
  obtain ⟨x, xs, hsteps, hget⟩ := exists_opener_of_play hplay
  have hopener : opener.Valid := hvalid opener (Registry.mem_of_get? hget)
  have hdamage : 0 ≤ opener.damage.toInt := hopener.stat_nonneg .damage
  have hbill := bill_nonneg hvalid steps true
  have hbilled := billed_of_cardOf hplay hcard
  have hlook := openedBy_of_cardOf hcard
  have hlength : (opener :: rest).length = steps.length := length_play hplay
  refine ⟨?_, ?_, ?_, ?_, ?_⟩
  · intro s
    cases s with
    | damage => exact hbilled.damage ▸ hbill.damage
    | blockDamage => exact hlook.stat_nonneg hopener (by simp)
    | selfDamage => exact hbilled.selfDamage ▸ hbill.selfDamage
    | selfHeal => exact hbilled.selfHeal ▸ hbill.selfHeal
    | speed => exact hlook.stat_nonneg hopener (by simp)
    | level => exact hlook.stat_nonneg hopener (by simp)
  · rw [hlook.firstDamage]
    split
    · exact hdamage
    · decide
  · have hle := opener_le_bill hvalid hplay
    rw [hlook.firstDamage, hbilled.damage]
    split
    · exact hle
    · exact hbill.damage
  · intro hpos
    rw [hlook.firstDamage] at hpos
    cases rest with
    | nil => cases hpos
    | cons m ms =>
        rw [← hlength, List.length_cons, List.length_cons]
        omega
  · intro halways
    rw [← hlook.always]
    exact halways

theorem sound_of_compile (hvalid : ∀ m ∈ r.moves, m.Valid) (h : compile r combo = .ok c) :
    ∃ steps, parse combo = .ok steps ∧ c.Sound steps.length := by
  obtain ⟨steps, opener, rest, total, hparse, hplay, hcard⟩ := compile_eq_ok_iff.mp h
  exact ⟨steps, hparse, sound_of_cardOf hvalid hplay hcard⟩

end Combo

/-! ### What a cell makes of it -/

namespace Card

variable {moves : Nat} {c : Card}

theorem Sound.asHitback {ε : Type} {a : Card} (h : c.Sound moves)
    (ha : (c.asHitback : Checked ε Card) = .ok a) : a.Sound moves := by
  obtain ⟨hcard, -⟩ := asHitback_eq_ok_iff.mp ha
  have hanswers := onlyAnswers_of_asHitback ha
  have hdamage : a.damage = c.damage := by rw [hcard]; rfl
  have hdamage_nonneg : 0 ≤ c.damage.toInt := h.stat_nonneg .damage
  refine ⟨?_, ?_, ?_, ?_, ?_⟩
  · intro s
    rw [hcard]
    cases s with
    | damage => exact h.stat_nonneg .damage
    | blockDamage => exact Int.le_refl 0
    | selfDamage => exact h.stat_nonneg .selfDamage
    | selfHeal => exact h.stat_nonneg .selfHeal
    | speed => exact Int.le_refl 0
    | level => exact h.stat_nonneg .level
  · rw [hanswers.firstDamage]
    decide
  · rw [hanswers.firstDamage, hdamage]
    exact hdamage_nonneg
  · intro hpos
    rw [hanswers.firstDamage] at hpos
    exact absurd hpos (by decide)
  · intro halways
    rw [hanswers.always] at halways
    cases halways

theorem Sound.forPlace {ε : Type} {a : Card} {place : Place} (h : c.Sound moves)
    (ha : (c.forPlace place : Checked ε Card) = .ok a) : a.Sound moves := by
  cases place with
  | slot i =>
      cases ha
      exact h
  | hitback => exact h.asHitback ha

theorem Sound.withSpeedFloor (h : c.Sound moves) : c.withSpeedFloor.Sound moves := by
  by_cases hslow : c.speed ≠ 0 ∧ c.speed.toInt < wakeupFloor.toInt
  · rw [Card.withSpeedFloor, if_pos hslow]
    refine ⟨?_, h.firstDamage_nonneg, h.firstDamage_le, h.follows, h.always⟩
    intro s
    cases s with
    | damage => exact h.stat_nonneg .damage
    | blockDamage => exact h.stat_nonneg .blockDamage
    | selfDamage => exact h.stat_nonneg .selfDamage
    | selfHeal => exact h.stat_nonneg .selfHeal
    | speed =>
        show 0 ≤ wakeupFloor.toInt
        decide
    | level => exact h.stat_nonneg .level
  · rw [Card.withSpeedFloor, if_neg hslow]
    exact h

theorem Sound.handNeutral (h : c.Sound moves) : c.handNeutral.Sound moves := by
  refine ⟨?_, h.firstDamage_nonneg, h.firstDamage_le, h.follows, h.always⟩
  intro s
  have hstat := h.stat_nonneg s
  cases s <;> exact hstat

theorem Sound.forRow (h : c.Sound moves) (row : RowName) : (c.forRow row).Sound moves := by
  cases row with
  | normal b => exact h
  | knockdown => exact h
  | wakeup => exact h.withSpeedFloor
  | dragon => exact h.handNeutral
  | desperate => exact h

end Card

namespace Table

variable {t : Table} {cell : Cell} {text : String} {c : Card}

/-- A cell with a combo in it has a sound card. -/
theorem Made.sound (hvalid : ∀ m ∈ t.moves.moves, m.Valid) (h : t.Made cell (.combo text) c) :
    ∃ steps, Combo.parse text = .ok steps ∧ c.Sound steps.length := by
  obtain ⟨c₁, ⟨c₀, hcompile, hplace⟩, rfl⟩ := made_iff.mp h
  obtain ⟨steps, hparse, hsound⟩ := Combo.sound_of_compile hvalid hcompile
  exact ⟨steps, hparse, (hsound.forPlace hplace).forRow cell.row⟩

/-! ### What is served -/

/--
**If a table has only combos in it, whatever its bot serves is a sound card**, and it is
the card of one of these combos.
-/
theorem served_card_is_sound (t : Table) (b : Bot) (h : t.assemble = .ok b)
    (plain : ∀ cell tok, t.book.at? cell = some tok → ∃ text, tok = .combo text) (s : State)
    (hroll : s.choiceIndex.toNat < faces) :
    ∃ c, b.resolve? s = some c ∧
      ∃ cell text steps, s.place? = some cell.place ∧ t.book.at? cell = some (.combo text) ∧
        t.Made cell (.combo text) c ∧ Combo.parse text = .ok steps ∧ c.Sound steps.length := by
  obtain ⟨-, hvalid⟩ := badNumber?_eq_none_iff.mp (assemble_eq_ok_iff.mp h).1
  obtain ⟨c, hc⟩ := b.exists_resolve?_eq_some hroll
  obtain ⟨cell, tok, hplace, htok, hmade⟩ := exists_made_of_resolve? h hc
  obtain ⟨text, rfl⟩ := plain cell tok htok
  obtain ⟨steps, hparse, hsound⟩ := hmade.sound hvalid
  exact ⟨c, hc, cell, text, steps, hplace, htok, hmade, hparse, hsound⟩

/-- A pumped strike with a super behind it, and hitbacks that open with the super. -/
theorem served_card_is_sound_pumped :
    let r : Registry := .ofList [('Y', .pump (.strike 1 9) [4, 4]),
      ('1', .superMeter (.strike 17 12) 3)]
    let t := uniform r (.combo "Y++1") (.combo "1Y+")
    ∃ b, t.assemble = .ok b ∧
      (∀ cell tok, t.book.at? cell = some tok → ∃ text, tok = .combo text) ∧
      (∃ c, b.resolve? {} = some c ∧ c.Sound 2) ∧
      ∃ c, b.resolve? { hitback := true } = some c ∧ c.Sound 2 := by
  intro r t
  obtain ⟨b, hb⟩ := Checked.exists_eq_ok (show t.assemble.isOk = true by decide +kernel)
  have hplain : ∀ cell tok, t.book.at? cell = some tok → ∃ text, tok = .combo text := by
    intro cell tok htok
    rcases at?_uniform htok with ⟨rfl, -⟩ | ⟨rfl, -⟩
    · exact ⟨_, rfl⟩
    · exact ⟨_, rfl⟩
  -- Each of the two combos that can stand in a cell has two moves.
  have htwo : ∀ cell text steps, t.book.at? cell = some (.combo text) →
      Combo.parse text = .ok steps → steps.length = 2 := by
    intro cell text steps htok hparse
    rcases at?_uniform htok with ⟨heq, -⟩ | ⟨heq, -⟩
    · cases heq
      cases hparse
      rfl
    · cases heq
      cases hparse
      rfl
  obtain ⟨c, hc, cell, text, steps, -, htok, -, hparse, hsound⟩ :=
    served_card_is_sound t b hb hplain {} (by decide)
  obtain ⟨c', hc', cell', text', steps', -, htok', -, hparse', hsound'⟩ :=
    served_card_is_sound t b hb hplain { hitback := true } (by decide)
  rw [htwo cell text steps htok hparse] at hsound
  rw [htwo cell' text' steps' htok' hparse'] at hsound'
  exact ⟨b, hb, hplain, ⟨c, hc, hsound⟩, c', hc', hsound'⟩

end Table

end Sparring
