/-
Which card a state is served, by the rules.

The rules take a few sentences.  The hand picks a normal row.  A desperate bot lays its
own cards over that row, where it has any, and no mode counts.  Otherwise a mode that the
bot knows replaces the row, and one that it does not know leaves it as it is.  `Plays`
writes these sentences down, one constructor for each, and says nothing about how a row
is put together; `plays_iff` is that exactly one row answers to them, the one that is
played.
-/
import Sparring.Query.Row

namespace Sparring

/-! ### The rules -/

/-- The bracket of a hand: half of what it has over the least hand, rounded down, and held
between the first bracket and the last. -/
def InBracket (hand : UInt8) (i : Fin brackets) : Prop :=
  (i.val : Int) = State.clampInt 0 3 (((hand.toNat : Int) - 5) / 2)

/-- The card on top if there is one, otherwise the card below. -/
inductive Over : Option Card → Card → Card → Prop where
  | top (c below : Card) : Over (some c) below c
  | below (c : Card) : Over none c c

namespace Playbook

/-- The row that a bot has for a mode. -/
inductive ModeRow (b : Bot) : Mode → Row Card (Option Card) → Prop where
  | knockdown : ModeRow b .knockdown b.knockdown
  | wakeup {top : Row Card (Option Card)} (h : b.wakeup = some top) : ModeRow b .wakeup top
  | dragon {top : Row Card (Option Card)} (h : b.dragon = some top) : ModeRow b .dragon top

/-- A row that answers to the rules. -/
inductive Plays (b : Bot) (s : State) (row : PlayedRow) : Prop where
  /-- The bot is desperate and has cards for that: they go over the row of the hand. -/
  | overlaid {i : Fin brackets} {top : Row (Option Card) (Option Card)}
      (hand : InBracket s.handSize i) (desperate : s.desperate = true)
      (found : b.desperate = some top)
      (slots : ∀ j, Over (top.slots.get j) ((b.normal.get i).slots.get j) (row.slots.get j))
      (hitback : Over top.hitback (b.normal.get i).hitback row.hitback)
  /-- The bot has a row for the mode: all its slots, and its hitback if it has one. -/
  | replaced {i : Fin brackets} {top : Row Card (Option Card)}
      (hand : InBracket s.handSize i) (calm : s.desperate = false ∨ b.desperate = none)
      (found : ModeRow b s.mode top)
      (slots : ∀ j, row.slots.get j = top.slots.get j)
      (hitback : Over top.hitback (b.normal.get i).hitback row.hitback)
  /-- The bot has nothing to put in the place of the row of the hand. -/
  | kept {i : Fin brackets}
      (hand : InBracket s.handSize i) (calm : s.desperate = false ∨ b.desperate = none)
      (missing : ∀ top, ¬ ModeRow b s.mode top)
      (same : row = b.normal.get i)

/-- A card that answers to the rules. -/
inductive Serves (b : Bot) (s : State) : Card → Prop where
  | hitback {row : PlayedRow} (hrow : Plays b s row) (h : s.hitback = true) :
      Serves b s row.hitback
  | slot {row : PlayedRow} {i : Fin faces} (hrow : Plays b s row) (h : s.hitback = false)
      (hi : s.choiceIndex.toNat = i.val) : Serves b s (row.slots.get i)

end Playbook

/-! ### The notions of the rules -/

theorem inBracket_iff {hand : UInt8} {i : Fin brackets} :
    InBracket hand i ↔ i = Bracket.ofHand hand := by
  unfold InBracket State.clampInt Bracket.ofHand leastHand
  rw [Fin.ext_iff]
  show (i.val : Int) = _ ↔ i.val = min ((hand.toNat - 5) / 2) 3
  omega

theorem over_iff {x : Option Card} {below c : Card} : Over x below c ↔ c = x.getD below := by
  refine ⟨?_, ?_⟩
  · intro h
    cases h with
    | top => rfl
    | below => rfl
  · intro h
    subst h
    cases x with
    | none => exact .below below
    | some c => exact .top c below

theorem Row.ext_slots {σ τ : Type} {r r' : Row σ τ} (hslots : ∀ j, r.slots.get j = r'.slots.get j)
    (hhitback : r.hitback = r'.hitback) : r = r' := by
  obtain ⟨slots, hitback⟩ := r
  obtain ⟨slots', hitback'⟩ := r'
  cases Tuple.ext hslots
  cases hhitback
  rfl

namespace Playbook

variable {b : Bot} {s : State} {row : PlayedRow}

theorem modeRow_iff {m : Mode} {top : Row Card (Option Card)} :
    ModeRow b m top ↔ rowOfMode b m = some top := by
  refine ⟨?_, ?_⟩
  · intro h
    cases h with
    | knockdown => rfl
    | wakeup h => exact h
    | dragon h => exact h
  · intro h
    cases m with
    | none => cases h
    | knockdown =>
        cases h
        exact .knockdown
    | wakeup => exact .wakeup h
    | dragon => exact .dragon h

/-! ### The row that is played -/

theorem playedRow_of_overlay {top : Row (Option Card) (Option Card)} (hs : s.desperate = true)
    (hb : b.desperate = some top) :
    playedRow b s = (b.normal.get s.bracket).overlay top := by
  simp [playedRow, hs, hb]

theorem playedRow_of_mode {top : Row Card (Option Card)}
    (calm : s.desperate = false ∨ b.desperate = none) (hm : rowOfMode b s.mode = some top) :
    playedRow b s = (b.normal.get s.bracket).replace top := by
  rcases calm with hs | hb
  · simp [playedRow, hs, hm]
  · simp [playedRow, hb, hm]

theorem playedRow_of_none (calm : s.desperate = false ∨ b.desperate = none)
    (hm : rowOfMode b s.mode = none) : playedRow b s = b.normal.get s.bracket := by
  rcases calm with hs | hb
  · simp [playedRow, hs, hm]
  · simp [playedRow, hb, hm]

/-- A desperate bot with cards for it plays those; any other one does not. -/
theorem overlay_or_calm (b : Bot) (s : State) :
    (s.desperate = true ∧ ∃ top, b.desperate = some top) ∨
      (s.desperate = false ∨ b.desperate = none) := by
  cases hs : s.desperate with
  | false => exact Or.inr (Or.inl rfl)
  | true =>
      cases hb : b.desperate with
      | none => exact Or.inr (Or.inr rfl)
      | some top => exact Or.inl ⟨rfl, top, rfl⟩

theorem plays_playedRow (b : Bot) (s : State) : Plays b s (playedRow b s) := by
  have hand : InBracket s.handSize s.bracket := inBracket_iff.mpr rfl
  rcases overlay_or_calm b s with ⟨hs, top, hb⟩ | calm
  · rw [playedRow_of_overlay hs hb]
    refine .overlaid hand hs hb ?_ ?_
    · intro j
      exact over_iff.mpr (Tuple.get_zipWith _ _ _ j)
    · exact over_iff.mpr rfl
  · cases hm : rowOfMode b s.mode with
    | none =>
        refine .kept hand calm ?_ (playedRow_of_none calm hm)
        intro top htop
        cases hm.symm.trans (modeRow_iff.mp htop)
    | some top =>
        rw [playedRow_of_mode calm hm]
        exact .replaced hand calm (modeRow_iff.mpr hm) (fun _ => rfl) (over_iff.mpr rfl)

theorem Plays.eq_playedRow (h : Plays b s row) : row = playedRow b s := by
  cases h with
  | overlaid hand hs hb slots hitback =>
      cases inBracket_iff.mp hand
      rw [playedRow_of_overlay hs hb]
      refine Row.ext_slots ?_ (over_iff.mp hitback)
      intro j
      exact (over_iff.mp (slots j)).trans (Tuple.get_zipWith _ _ _ j).symm
  | replaced hand calm found slots hitback =>
      cases inBracket_iff.mp hand
      rw [playedRow_of_mode calm (modeRow_iff.mp found)]
      exact Row.ext_slots slots (over_iff.mp hitback)
  | kept hand calm missing same =>
      cases inBracket_iff.mp hand
      have hm : rowOfMode b s.mode = none := by
        rw [Option.eq_none_iff_forall_ne_some]
        intro top htop
        exact missing top (modeRow_iff.mpr htop)
      rw [playedRow_of_none calm hm]
      exact same

/-- One row answers to the rules. -/
theorem plays_iff : Plays b s row ↔ playedRow b s = row := by
  refine ⟨?_, ?_⟩
  · intro h
    exact h.eq_playedRow.symm
  · intro h
    subst h
    exact plays_playedRow b s

end Playbook

/-! ### The card that is picked -/

namespace Row

variable {row : PlayedRow} {s : State}

theorem pick?_hitback (h : s.hitback = true) : row.pick? s = some row.hitback := by
  simp [pick?, h]

theorem pick?_slot {i : Fin faces} (h : s.hitback = false) (hi : s.choiceIndex.toNat = i.val) :
    row.pick? s = some (row.slots.get i) := by
  have hlt : i.val < row.slots.toList.length := by
    rw [row.slots.length_toList]
    exact i.isLt
  simp [pick?, h, hi, List.getElem?_eq_getElem hlt, Tuple.get]

theorem pick?_eq_none_iff : row.pick? s = none ↔ s.hitback = false ∧ 8 ≤ s.choiceIndex.toNat := by
  cases h : s.hitback with
  | true => simp [pick?_hitback h]
  | false => simp [pick?, h, row.slots.length_toList, faces]

theorem pick?_eq_some_iff {c : Card} :
    row.pick? s = some c ↔
      (s.hitback = true ∧ c = row.hitback) ∨
        (s.hitback = false ∧
          ∃ i : Fin faces, s.choiceIndex.toNat = i.val ∧ c = row.slots.get i) := by
  refine ⟨?_, ?_⟩
  · intro hc
    cases h : s.hitback with
    | true =>
        rw [pick?_hitback h] at hc
        exact Or.inl ⟨rfl, (Option.some.inj hc).symm⟩
    | false =>
        have hlt : s.choiceIndex.toNat < faces := by
          refine Nat.lt_of_not_le fun hle => ?_
          rw [pick?_eq_none_iff.mpr ⟨h, hle⟩] at hc
          cases hc
        rw [pick?_slot (i := ⟨_, hlt⟩) h rfl] at hc
        exact Or.inr ⟨rfl, ⟨_, hlt⟩, rfl, (Option.some.inj hc).symm⟩
  · intro h
    rcases h with ⟨h, rfl⟩ | ⟨h, i, hi, rfl⟩
    · exact pick?_hitback h
    · exact pick?_slot h hi

end Row

namespace Playbook

variable {b : Bot} {s : State}

theorem serves_iff {c : Card} : Serves b s c ↔ resolve? b s = some c := by
  rw [resolve?, Row.pick?_eq_some_iff]
  refine ⟨?_, ?_⟩
  · intro h
    cases h with
    | hitback hrow h => exact Or.inl ⟨h, by rw [plays_iff.mp hrow]⟩
    | slot hrow h hi => exact Or.inr ⟨h, _, hi, by rw [plays_iff.mp hrow]⟩
  · intro h
    rcases h with ⟨h, rfl⟩ | ⟨h, i, hi, rfl⟩
    · exact .hitback (plays_playedRow b s) h
    · exact .slot (plays_playedRow b s) h hi

/--
**The row and the card of a state are those of the rules**, for any hand and any roll.
There is always a row, and there is a card unless a slot is asked for that the die does
not have.
-/
theorem served_by_the_rules (b : Bot) (s : State) :
    (∀ row, playedRow b s = row ↔ Plays b s row) ∧
      (∀ c, resolve? b s = some c ↔ Serves b s c) ∧
      (resolve? b s = none ↔ s.hitback = false ∧ 8 ≤ s.choiceIndex.toNat) :=
  ⟨fun _ => plays_iff.symm, fun _ => serves_iff.symm, Row.pick?_eq_none_iff⟩

end Playbook

end Sparring
