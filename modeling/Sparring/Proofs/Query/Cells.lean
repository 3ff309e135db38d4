/-
Which cells a state can see.

The rules speak of rows; here a single card is followed back to where it stands.  A state
looks at one place (`State.place?`) of at most two rows, that of its hand and one above it
(`upper?`), and takes what it finds in the upper one first (`card_playedRow`).  The other
way round, whatever stands in a cell is seen by some state (`resolve?_visit`).  So the
cards that can be served are the cards in the cells, and what is true of every cell is
true of all that is served.
-/
import Sparring.Proofs.Bot.Traversal
import Sparring.Proofs.Query.Overlay

namespace Sparring

/-! ### Places and rows of a state -/

/-- The card of a place. -/
def Row.card (r : PlayedRow) : Place → Card
  | .slot i => r.slots.get i
  | .hitback => r.hitback

/-- The card of a place in a row that may leave the hitback out. -/
def Row.card? (r : Row Card (Option Card)) : Place → Option Card
  | .slot i => some (r.slots.get i)
  | .hitback => r.hitback

/-- The place that a state looks at; none if the roll is off the die. -/
def State.place? (s : State) : Option Place :=
  if s.hitback then some .hitback
  else if h : s.choiceIndex.toNat < faces then some (.slot ⟨s.choiceIndex.toNat, h⟩)
  else none

theorem State.place?_slot {s : State} {i : Fin faces} (h : s.hitback = false)
    (hi : s.choiceIndex.toNat = i.val) : s.place? = some (.slot i) := by
  have hlt : s.choiceIndex.toNat < faces := by
    rw [hi]
    exact i.isLt
  have heq : (⟨s.choiceIndex.toNat, hlt⟩ : Fin faces) = i := Fin.ext hi
  simp [State.place?, h, hlt, heq]

theorem State.place?_hitback {s : State} (h : s.hitback = true) : s.place? = some .hitback := by
  simp [State.place?, h]

/-- The row that a mode asks for. -/
def Mode.rowName? : Mode → Option RowName
  | .none => Option.none
  | .knockdown => some .knockdown
  | .wakeup => some .wakeup
  | .dragon => some .dragon

namespace Playbook

/-- The row that is looked into before the row of the hand. -/
def upper? (b : Bot) (s : State) : Option RowName :=
  if s.desperate = true ∧ b.desperate.isSome = true then some .desperate else s.mode.rowName?

variable {b : Bot} {s : State} {c : Card} {p : Place}

/-- Without cards for desperation the mode alone asks for a row. -/
theorem upper?_of_calm (calm : s.desperate = false ∨ b.desperate = none) :
    upper? b s = s.mode.rowName? := by
  rcases calm with h | h
  · simp [upper?, h]
  · simp [upper?, h]

theorem resolve?_eq_map_place? : resolve? b s = s.place?.map (playedRow b s).card := by
  unfold resolve? State.place?
  cases h : s.hitback with
  | true => simp [Row.pick?_hitback h, Row.card]
  | false =>
      by_cases hlt : s.choiceIndex.toNat < faces
      · rw [Row.pick?_slot (i := ⟨_, hlt⟩) h rfl]
        simp [hlt, Row.card]
      · rw [Row.pick?_eq_none_iff.mpr ⟨h, Nat.le_of_not_lt hlt⟩]
        simp [hlt]

theorem at?_normal {i : Fin brackets} :
    b.at? ⟨.normal i, p⟩ = some ((b.normal.get i).card p) := by
  cases p with
  | slot i => rfl
  | hitback => rfl

theorem card_overlay {base : PlayedRow} {top : Row (Option Card) (Option Card)}
    (hb : b.desperate = some top) :
    (base.overlay top).card p = (b.at? ⟨.desperate, p⟩).getD (base.card p) := by
  cases p with
  | slot i => simp [Row.card, Row.overlay, at?, hb]
  | hitback => simp [Row.card, Row.overlay, at?, hb]

theorem card_replace {base : PlayedRow} {top : Row Card (Option Card)} :
    (base.replace top).card p = (top.card? p).getD (base.card p) := by
  cases p with
  | slot i => rfl
  | hitback => rfl

/-- The cells of a mode are those of the row that the bot has for it, if it has one. -/
theorem bind_rowName? (b : Bot) (m : Mode) (p : Place) :
    (m.rowName?.bind fun row => b.at? ⟨row, p⟩) = (rowOfMode b m).bind fun r => r.card? p := by
  cases m with
  | none => rfl
  | knockdown =>
      cases p with
      | slot i => rfl
      | hitback => rfl
  | wakeup =>
      cases p with
      | slot i => exact Option.map_eq_bind
      | hitback => rfl
  | dragon =>
      cases p with
      | slot i => exact Option.map_eq_bind
      | hitback => rfl

/-- **Every card that is played stands in the cell of the upper row or, if there is nothing
in it, in the cell of the normal row.** -/
theorem card_playedRow (b : Bot) (s : State) (p : Place) :
    (playedRow b s).card p =
      ((upper? b s).bind fun row => b.at? ⟨row, p⟩).getD ((b.normal.get s.bracket).card p) := by
  rcases overlay_or_calm b s with ⟨hs, top, hb⟩ | calm
  · rw [playedRow_of_overlay hs hb, card_overlay hb]
    simp [upper?, hs, hb]
  · rw [upper?_of_calm calm, bind_rowName?]
    cases hm : rowOfMode b s.mode with
    | none =>
        rw [playedRow_of_none calm hm]
        rfl
    | some top =>
        rw [playedRow_of_mode calm hm, card_replace]
        rfl

/-- What the upper row has at the place that is asked for is served. -/
theorem resolve?_of_upper {row : RowName} (hrow : upper? b s = some row)
    (hp : s.place? = some p) (hc : b.at? ⟨row, p⟩ = some c) : resolve? b s = some c := by
  rw [resolve?_eq_map_place?, hp, Option.map_some, card_playedRow, hrow, Option.bind_some, hc]
  rfl

/-- What the upper row does not have is served from the row of the hand. -/
theorem resolve?_of_upper_none {row : RowName} (hrow : upper? b s = some row)
    (hp : s.place? = some p) (hnone : b.at? ⟨row, p⟩ = none) :
    resolve? b s = some ((b.normal.get s.bracket).card p) := by
  rw [resolve?_eq_map_place?, hp, Option.map_some, card_playedRow, hrow, Option.bind_some, hnone]
  rfl

/-- What is served stands in a cell, at the place that was asked for. -/
theorem exists_cell_of_resolve?_eq_some (h : resolve? b s = some c) :
    ∃ cell, s.place? = some cell.place ∧ b.at? cell = some c := by
  rw [resolve?_eq_map_place?, Option.map_eq_some_iff] at h
  obtain ⟨p, hplace, hp⟩ := h
  rw [card_playedRow] at hp
  cases hup : (upper? b s).bind fun row => b.at? ⟨row, p⟩ with
  | none =>
      rw [hup] at hp
      exact ⟨⟨.normal s.bracket, p⟩, hplace, by rw [at?_normal, ← hp]; rfl⟩
  | some d =>
      rw [hup] at hp
      cases hp
      obtain ⟨row, -, hrow⟩ := Option.bind_eq_some_iff.mp hup
      exact ⟨⟨row, p⟩, hplace, hrow⟩

end Playbook

/-! ### Every cell is looked into -/

/-- A state that looks into the cell. -/
def Cell.visit (cell : Cell) : State where
  handSize :=
    match cell.row with
    | .normal i => UInt8.ofNat (leastHand + 2 * i.val)
    | _ => 5
  choiceIndex :=
    match cell.place with
    | .slot i => UInt64.ofNat i.val
    | .hitback => 0
  mode :=
    match cell.row with
    | .knockdown => .knockdown
    | .wakeup => .wakeup
    | .dragon => .dragon
    | _ => .none
  desperate := cell.row = .desperate
  hitback := cell.place = .hitback

namespace Cell

theorem toNat_ofNat_slot (i : Fin faces) : (UInt64.ofNat i.val).toNat = i.val :=
  UInt64.toNat_ofNat_of_lt' (Nat.lt_of_lt_of_le i.isLt (by decide))

theorem choiceIndex_visit (cell : Cell) : cell.visit.choiceIndex.toNat < faces := by
  obtain ⟨row, place⟩ := cell
  cases place with
  | slot i =>
      show (UInt64.ofNat i.val).toNat < faces
      rw [toNat_ofNat_slot]
      exact i.isLt
  | hitback =>
      show (0 : UInt64).toNat < faces
      decide

theorem place?_visit (cell : Cell) : cell.visit.place? = some cell.place := by
  obtain ⟨row, place⟩ := cell
  cases place with
  | slot i => exact State.place?_slot rfl (toNat_ofNat_slot i)
  | hitback => rfl

theorem bracket_visit (i : Fin brackets) (p : Place) :
    (Cell.visit ⟨.normal i, p⟩).bracket = i := by
  show Bracket.ofHand (UInt8.ofNat (leastHand + 2 * i.val)) = i
  revert i
  decide

end Cell

namespace Playbook

variable {b : Bot} {c : Card}

/-- What stands in a cell is served to the state that looks into it. -/
theorem resolve?_visit {cell : Cell} (h : b.at? cell = some c) :
    resolve? b cell.visit = some c := by
  obtain ⟨row, place⟩ := cell
  rw [resolve?_eq_map_place?, Cell.place?_visit, Option.map_some, card_playedRow]
  cases row with
  | normal i =>
      rw [Cell.bracket_visit, ← h, at?_normal]
      rfl
  | knockdown =>
      have hup : upper? b (Cell.visit ⟨.knockdown, place⟩) = some .knockdown := rfl
      simp [hup, h]
  | wakeup =>
      have hup : upper? b (Cell.visit ⟨.wakeup, place⟩) = some .wakeup := rfl
      simp [hup, h]
  | dragon =>
      have hup : upper? b (Cell.visit ⟨.dragon, place⟩) = some .dragon := rfl
      simp [hup, h]
  | desperate =>
      have hb : b.desperate.isSome = true := by
        cases hb : b.desperate with
        | none => cases place <;> simp [at?, hb] at h
        | some top => rfl
      have hup : upper? b (Cell.visit ⟨.desperate, place⟩) = some .desperate := by
        simp [upper?, Cell.visit, hb]
      simp [hup, h]

/-- There is a card for every face of the die. -/
theorem exists_resolve?_eq_some (b : Bot) {s : State} (h : s.choiceIndex.toNat < faces) :
    ∃ c, resolve? b s = some c := by
  cases hc : resolve? b s with
  | none =>
      obtain ⟨-, hle⟩ := Row.pick?_eq_none_iff.mp hc
      exact absurd h (Nat.not_lt_of_le hle)
  | some c => exact ⟨c, rfl⟩

/-- **What is true of every card that is served is true of the card in every cell, and the
other way round.** -/
theorem forall_served_iff {P : Card → Prop} :
    (∀ s : State, s.choiceIndex.toNat < faces → ∃ c, resolve? b s = some c ∧ P c) ↔
      ∀ cell c, b.at? cell = some c → P c := by
  refine ⟨?_, ?_⟩
  · intro hserved cell c hcell
    obtain ⟨d, hd, hP⟩ := hserved cell.visit cell.choiceIndex_visit
    cases (resolve?_visit hcell).symm.trans hd
    exact hP
  · intro hcells s hs
    obtain ⟨c, hc⟩ := exists_resolve?_eq_some b hs
    obtain ⟨cell, -, hcell⟩ := exists_cell_of_resolve?_eq_some hc
    exact ⟨c, hc, hcells cell c hcell⟩

end Playbook

end Sparring
