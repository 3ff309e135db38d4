/-
The commands of the assistant show one table.

A player may look at a position card by card, as a whole row, by way of the die, or as a
record for another program, and each command comes to its card by a way of its own.  They
agree.  The heading is the same line, because it is made of what the commands share: the bot,
the bracket, the mode and the desperation.  The row is the same row, for the same reason
(`playedRow_state`), so the card of a slot is the same whether the slot is named, rolled or
one of all eight.  And the record has its card in it, where a reader of cards finds it
(`read_choice`).
-/
import Sparring.Program.Assist
import Sparring.Proofs.Catalog.Answer
import Sparring.Proofs.Dice
import Sparring.Proofs.Reading.RoundTrip

namespace Sparring

namespace Assist

variable {c : Catalog} {chance : UInt64} {p : Position} {b : Bot} {n : Nat} {hitback : Bool}

/-! ### What the commands share -/

theorem heading_state (b : Bot) (p : Position) (n : Nat) (hitback : Bool) :
    heading b (p.state n hitback) = heading b (p.state 0 false) := rfl

theorem playedRow_state (b : Bot) (p : Position) (n : Nat) (hitback : Bool) :
    b.playedRow (p.state n hitback) = b.playedRow (p.state 0 false) := rfl

theorem choiceIndex_state (hn : n < faces) : (p.state n hitback).choiceIndex.toNat = n := by
  have hword : (UInt64.ofNat n).toNat = n :=
    UInt64.toNat_ofNat_of_lt' (Nat.lt_of_lt_of_le hn (by decide))
  rw [Position.state, State.toNat_choiceIndex_clamped]
  show min (UInt64.ofNat n).toNat 7 = n
  rw [hword]
  rw [faces] at hn
  omega

/-- A slot is served from the row that all commands share. -/
theorem resolve?_slot (b : Bot) (p : Position) (i : Fin faces) :
    b.resolve? (p.state i.val false) = some ((b.playedRow (p.state 0 false)).slots.get i) := by
  rw [Playbook.resolve?, playedRow_state]
  exact Row.pick?_slot rfl (choiceIndex_state i.isLt)

/-- And so is the hitback. -/
theorem resolve?_hitback (b : Bot) (p : Position) (n : Nat) :
    b.resolve? (p.state n true) = some (b.playedRow (p.state 0 false)).hitback := by
  rw [Playbook.resolve?, playedRow_state]
  exact Row.pick?_hitback rfl

theorem resolve?_state (b : Bot) (p : Position) (i : Fin faces) (hitback : Bool) :
    b.resolve? (p.state i.val hitback) = some
      (if hitback then (b.playedRow (p.state 0 false)).hitback
        else (b.playedRow (p.state 0 false)).slots.get i) := by
  cases hitback with
  | false => exact resolve?_slot b p i
  | true => exact resolve?_hitback b p i.val

/-! ### Pages -/

theorem cardPage_of_resolve? {card : Card} {label : String}
    (h : b.resolve? (p.state n hitback) = some card) :
    cardPage b (p.state n hitback) label =
      heading b (p.state 0 false) ++ cardBlock label card := by
  rw [cardPage, h, heading_state]
  simp

/-- The cards of a row stand on its page in the order of their slots. -/
theorem mapIdx_slots (row : PlayedRow) (f : Nat → Card → String) :
    row.slots.toList.mapIdx f = (List.finRange faces).map fun i => f i.val (row.slots.get i) := by
  refine List.ext_getElem ?_ ?_
  · rw [List.length_mapIdx, row.slots.length_toList, List.length_map, List.length_finRange]
  · intro i h _
    simp [Tuple.get]

/-! ### Commands -/

theorem find_of_holds (h : c.Holds p.bot b) : find c p.bot = .ok b := by
  rw [find, Catalog.holds_iff.mp h]

theorem respond_card (h : c.Holds p.bot b) (i : Fin faces) (hitback : Bool) {card : Card}
    (hcard : b.resolve? (p.state i.val hitback) = some card) :
    respond c chance (.card p (i.val + 1) hitback false) =
      .ok (heading b (p.state 0 false) ++
        cardBlock (if hitback then "H" else toString (i.val + 1)) card) := by
  rw [respond, find_of_holds h, Nat.add_sub_cancel, ← cardPage_of_resolve? hcard]
  rfl

theorem respond_slot (h : c.Holds p.bot b) (i : Fin faces) :
    respond c chance (.card p (i.val + 1) false false) =
      .ok (heading b (p.state 0 false) ++
        cardBlock (toString (i.val + 1)) ((b.playedRow (p.state 0 false)).slots.get i)) :=
  respond_card h i false (resolve?_slot b p i)

theorem respond_hitback (h : c.Holds p.bot b) (n : Nat) :
    respond c chance (.card p n true false) =
      .ok (heading b (p.state 0 false) ++
        cardBlock "H" (b.playedRow (p.state 0 false)).hitback) := by
  rw [respond, find_of_holds h, if_pos rfl,
    ← cardPage_of_resolve? (resolve?_hitback b p (n - 1))]
  rfl

theorem respond_table (h : c.Holds p.bot b) :
    respond c chance (.table p) =
      .ok (heading b (p.state 0 false) ++
        String.join ((List.finRange faces).map fun i =>
          cardBlock (toString (i.val + 1)) ((b.playedRow (p.state 0 false)).slots.get i)) ++
        cardBlock "H" (b.playedRow (p.state 0 false)).hitback) := by
  rw [respond, find_of_holds h, ← mapIdx_slots _ fun i card => cardBlock (toString (i + 1)) card]
  rfl

theorem respond_roll (h : c.Holds p.bot b) (seed : UInt64) :
    respond c chance (.roll p (some seed)) =
      respond c chance (.card p ((Dice.firstRoll seed).val + 1) false false) := by
  rw [respond_slot h, respond, find_of_holds h, Option.getD_some]
  -- Any face will do. With this one in sight `rfl` would roll the die.
  generalize Dice.firstRoll seed = i
  rw [← cardPage_of_resolve? (resolve?_slot b p i)]
  rfl

/-- The record of a card is about the card that is shown without it. -/
theorem respond_json (chance : UInt64) (h : c.Holds p.bot b) (i : Fin faces) (hitback : Bool)
    {card : Card} (hcard : b.resolve? (p.state i.val hitback) = some card) :
    ∃ a : Answer, a.card = card ∧
      c.lookup { bot := p.bot, state := p.state i.val hitback } = .ok a ∧
      respond c chance (.card p (i.val + 1) hitback true) =
        .ok (Json.indented a.toDatum ++ "\n") := by
  have hclamped : (p.state i.val hitback).clamped = p.state i.val hitback :=
    State.clamped_of_inRange (State.inRange_clamped _)
  obtain ⟨card', hcard', hlookup⟩ := Catalog.lookup_of_get?
    (q := { bot := p.bot, state := p.state i.val hitback }) (Catalog.holds_iff.mp h)
  rw [hclamped] at hcard'
  cases hcard.symm.trans hcard'
  refine ⟨_, ?_, hlookup, ?_⟩
  · rfl
  · rw [respond, Nat.add_sub_cancel, hlookup]
    rfl

/-- An answer is written with its card in it. -/
theorem read_choice (a : Answer) :
    (a.toDatum.field? "choice").map Card.ofDatum = some (.ok a.card) := by
  have hfield : a.toDatum.field? "choice" = some a.card.toDatum := by
    simp [Answer.toDatum, Datum.record, Datum.field?]
  rw [hfield, Option.map_some, Card.ofDatum_toDatum]

/--
**The views of one position agree.**  They begin with the same heading, and a card is its label
and its line in all of them, with a note below if it is armored.  A row is the heading, the eight
slots in order and the hitback, each as it is shown alone.  A roll shows the slot that was rolled.
And what stands in the record of a card for the card is read as the card that is shown without
the record.
-/
theorem views_agree (c : Catalog) (chance : UInt64) (p : Position) (b : Bot)
    (h : c.Holds p.bot b) :
    let s := p.state 0 false
    let row := b.playedRow s
    let head := b.name ++ " " ++ stars b.difficulty.toNat ++ "  hand " ++
      Bracket.label s.bracket ++ (if p.mode = .none then "" else "  " ++ p.mode.name) ++
      (if p.desperate then "  desperate" else "") ++ "\n"
    let block (label : String) (card : Card) := label ++ ". " ++ card.line ++ "\n" ++
      (if card.armor = .none then "" else "   " ++ Legend.armorNote ++ "\n")
    (∀ i : Fin faces, respond c chance (.card p (i.val + 1) false false) =
      .ok (head ++ block (toString (i.val + 1)) (row.slots.get i))) ∧
    (∀ n, respond c chance (.card p n true false) = .ok (head ++ block "H" row.hitback)) ∧
    respond c chance (.table p) =
      .ok (head ++ String.join ((List.finRange faces).map fun i =>
        block (toString (i.val + 1)) (row.slots.get i)) ++ block "H" row.hitback) ∧
    (∀ seed, respond c chance (.roll p (some seed)) =
      respond c chance (.card p ((Dice.firstRoll seed).val + 1) false false)) ∧
    ∀ (i : Fin faces) (hitback : Bool), ∃ a : Answer,
      c.lookup { bot := p.bot, state := p.state i.val hitback } = .ok a ∧
      a.card = (if hitback then row.hitback else row.slots.get i) ∧
      respond c chance (.card p (i.val + 1) hitback true) =
        .ok (Json.indented a.toDatum ++ "\n") ∧
      (a.toDatum.field? "choice").map Card.ofDatum = some (.ok a.card) ∧
      respond c chance (.card p (i.val + 1) hitback false) =
        .ok (head ++ block (if hitback then "H" else toString (i.val + 1)) a.card) := by
  intro s row head block
  refine ⟨respond_slot h, respond_hitback h, respond_table h, respond_roll h, ?_⟩
  intro i hitback
  have hserved := resolve?_state b p i hitback
  obtain ⟨a, hcard, hlookup, hjson⟩ := respond_json chance h i hitback hserved
  refine ⟨a, hlookup, hcard, hjson, read_choice a, ?_⟩
  rw [← hcard] at hserved
  exact respond_card h i hitback hserved

/-- What the views show of a row that ends with an armored card. -/
theorem views_agree_armored :
    ∃ b, Roster.colossus.assemble = .ok b ∧
      let c : Catalog := ⟨[b], by simp⟩
      let p : Position := { bot := .index 0, hand := 9 }
      let card := (b.playedRow (p.state 0 false)).slots.get 7
      let page := "8. " ++ "Strike 18 (5) spd 7 adj -2 | A → XD | [M]" ++ "\n" ++
        ("   " ++ Legend.armorNote ++ "\n")
      c.Holds p.bot b ∧ card.armor = .medium ∧
        respond c 0 (.card p 8 false false) = .ok ("Colossus ★★★☆☆  hand 9-10\n" ++ page) ∧
        respond c 0 (.roll p (some 28)) = .ok ("Colossus ★★★☆☆  hand 9-10\n" ++ page) ∧
        (∃ before hitback,
          respond c 0 (.table p) =
            .ok ("Colossus ★★★☆☆  hand 9-10\n" ++ (before ++ page) ++ hitback) ∧
          respond c 0 (.card p 1 true false) =
            .ok ("Colossus ★★★☆☆  hand 9-10\n" ++ hitback)) ∧
        ∃ a : Answer, respond c 0 (.card p 8 false true) = .ok (Json.indented a.toDatum ++ "\n") ∧
          (a.toDatum.field? "choice").map Card.ofDatum = some (.ok card) := by
  obtain ⟨b, hb⟩ := Checked.exists_eq_ok
    (show Roster.colossus.assemble.isOk = true by decide +kernel)
  refine ⟨b, hb, ?_⟩
  intro c p card page
  have hheld : c.Holds p.bot b := .index rfl
  obtain ⟨hname, hdifficulty, harmor, hline⟩ : b.name = "Colossus" ∧ b.difficulty = 3 ∧
      card.armor = .medium ∧ card.line = "Strike 18 (5) spd 7 adj -2 | A → XD | [M]" := by
    have hseen : (Roster.colossus.assemble.map fun b =>
        let card := (b.playedRow (p.state 0 false)).slots.get 7
        decide (b.name = "Colossus" ∧ b.difficulty = 3 ∧ card.armor = .medium ∧
          card.line = "Strike 18 (5) spd 7 adj -2 | A → XD | [M]")) = .ok true := by
      decide +kernel
    rw [hb] at hseen
    exact of_decide_eq_true (Except.ok.inj hseen)
  obtain ⟨hslot, hhitback, htable, hrolled, hrecord⟩ := views_agree c 0 p b hheld
  have hhead : "Colossus" ++ " " ++ stars (3 : UInt8).toNat ++ "  hand " ++
      Bracket.label (p.state 0 false).bracket ++
      (if p.mode = .none then "" else "  " ++ p.mode.name) ++
      (if p.desperate then "  desperate" else "") ++ "\n" = "Colossus ★★★☆☆  hand 9-10\n" := by
    decide +kernel
  simp only [hname, hdifficulty, hhead] at hslot hhitback htable
  have hnumber : toString ((7 : Fin faces).val + 1) ++ ". " = "8. " := by decide
  have hnote : ¬ card.armor = .none := by
    rw [harmor]
    decide
  have hlast := hslot 7
  rw [hnumber, if_neg hnote, hline] at hlast
  have hslots : List.finRange faces = [0, 1, 2, 3, 4, 5, 6] ++ [7] := by decide
  rw [hslots, List.map_append, String.join_append, List.map_singleton, hnumber,
    if_neg hnote, hline, String.join_cons, String.join_nil, String.append_empty] at htable
  refine ⟨hheld, harmor, hlast, ?_, ⟨_, _, htable, hhitback 1⟩, ?_⟩
  · have hseed := hrolled 28
    rw [Dice.firstRoll_twentyEight] at hseed
    exact hseed.trans hlast
  · obtain ⟨a, -, hcard, hjson, hread, -⟩ := hrecord 7 false
    rw [hcard] at hread
    exact ⟨a, hjson, hread⟩

end Assist

end Sparring
