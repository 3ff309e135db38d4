/-
What a catalog answers, and to whom.

A question is answered if and only if the catalog has the bot (`Catalog.Holds`), whatever its
hand and its roll are: they are clamped before anything is looked up, and a clamped roll is on
the die.  So the only reason for having no answer is the bot, and a roll off the die is never
one.

`Answer.Answers` collects what an answer has to tell.  The bracket and the card come about
separately, one from the hand and one from the row, and they belong together: the bracket that
is shown is that of the normal row which lies under the card's row.  The state of an answer is
clamped already, so asking again with it gives the same answer.
-/
import Sparring.Catalog.Lookup
import Sparring.Proofs.Catalog.Build
import Sparring.Proofs.Catalog.Lookup
import Sparring.Proofs.Query.Range
import Sparring.Roster.GlassMonk

namespace Sparring

/-- A bot that a catalog has under an id. -/
inductive Catalog.Holds (c : Catalog) : BotId → Bot → Prop where
  | index {n : Nat} {b : Bot} (hb : c.bots[n]? = some b) : Holds c (.index n) b
  | code {text : String} {b : Bot} (hb : b ∈ c.bots) (hcode : b.code = Code.ofName text) :
      Holds c (.code text) b

/-- The row of a state lies over a normal row: a card is the one that the row above has in its
place, or else that of the normal row. -/
def Playbook.LiesOver (b : Bot) (s : State) (i : Fin brackets) : Prop :=
  ∀ p, (b.playedRow s).card p =
    ((b.upper? s).bind fun row => b.at? ⟨row, p⟩).getD ((b.normal.get i).card p)

/-- What an answer tells about a bot that was asked for. -/
structure Answer.Answers (a : Answer) (q : Question) (b : Bot) : Prop where
  bot : a.bot = b.name
  difficulty : a.difficulty = b.difficulty
  inRange : a.state.InRange
  handSize : (a.state.handSize.toNat : Int) = State.clampInt 5 12 q.state.handSize.toNat
  choiceIndex : a.state.choiceIndex.toNat = min q.state.choiceIndex.toNat 7
  mode : a.state.mode = q.state.mode
  desperate : a.state.desperate = q.state.desperate
  hitback : a.state.hitback = q.state.hitback
  bracket : ∃ i : Fin brackets, InBracket a.state.handSize i ∧ b.LiesOver a.state i ∧
    a.bracket = toString (5 + 2 * i.val) ++ "-" ++ toString (6 + 2 * i.val)
  covers : Bracket.Covers a.bracket a.state.handSize.toNat
  card : b.resolve? a.state = some a.card
  labels : a.labels = a.card.labels

namespace Catalog

variable {c : Catalog} {q : Question} {b : Bot} {id : BotId}

theorem holds_iff : c.Holds id b ↔ c.get? id = some b := by
  refine ⟨?_, ?_⟩
  · intro h
    cases h with
    | index hb => rw [get?_index, hb]
    | code hb hcode =>
        obtain ⟨i, hi⟩ := List.getElem?_of_mem hb
        rw [get?_of_position? (position?_of_code_eq hi hcode.symm), hi]
  · intro h
    obtain ⟨i, hposition, hi⟩ := Option.bind_eq_some_iff.mp h
    cases id with
    | index n =>
        rw [get?_index] at h
        exact .index h
    | code text =>
        have hcode := position?_code_eq_some_iff.mp hposition
        rw [code?_of_bots hi] at hcode
        exact .code (List.mem_of_getElem? hi) (Option.some.inj hcode)

theorem lookup_of_get?_eq_none (h : c.get? q.bot = none) :
    c.lookup q = .error (.notFound q.bot) := by
  rw [lookup, h]

/-- A bot that is there is answered for. -/
theorem lookup_of_get? (h : c.get? q.bot = some b) :
    ∃ card, b.resolve? q.state.clamped = some card ∧
      c.lookup q = .ok {
        bot := b.name
        difficulty := b.difficulty
        bracket := Bracket.label q.state.clamped.bracket
        state := q.state.clamped
        card
        labels := card.labels } := by
  obtain ⟨card, hcard⟩ := (State.inRange_clamped q.state).exists_card b
  refine ⟨card, hcard, ?_⟩
  simp only [lookup, h, hcard]

/--
**A question has an answer if and only if the catalog has the bot**, with a hand and a roll of
any size.  The answer is about the bot and the nearest state on the table, it names the two hand
sizes of the bracket whose row lies under the card that is shown, and its state leads to the same
answer again.
-/
theorem answered_iff_held (c : Catalog) (q : Question) :
    (∀ e, c.lookup q = .error e → e = .notFound q.bot) ∧
    ((∃ e, c.lookup q = .error e) ↔ ∀ b, ¬ c.Holds q.bot b) ∧
    ∀ b, c.Holds q.bot b → ∃ a, c.lookup q = .ok a ∧ a.Answers q b ∧
      ∀ botsPath, c.lookup { bot := q.bot, state := a.state, botsPath } = .ok a := by
  have hheld : ∀ b, c.Holds q.bot b → ∃ a, c.lookup q = .ok a ∧ a.Answers q b ∧
      ∀ botsPath, c.lookup { bot := q.bot, state := a.state, botsPath } = .ok a := by
    intro b hb
    have hget := holds_iff.mp hb
    obtain ⟨card, hcard, hlookup⟩ := lookup_of_get? hget
    refine ⟨_, hlookup, ?_, ?_⟩
    · exact {
        bot := rfl
        difficulty := rfl
        inRange := State.inRange_clamped q.state
        handSize := State.toNat_handSize_clamped q.state
        choiceIndex := State.toNat_choiceIndex_clamped q.state
        mode := rfl
        desperate := rfl
        hitback := rfl
        bracket := ⟨_, inBracket_iff.mpr rfl, Playbook.card_playedRow b _, Bracket.label_eq _⟩
        covers := (State.inRange_clamped q.state).covers
        card := hcard
        labels := rfl }
    · intro botsPath
      have hclamped := State.clamped_of_inRange (State.inRange_clamped q.state)
      simp only [lookup, hget, hclamped, hcard]
  have hmissing : (∀ b, ¬ c.Holds q.bot b) → c.lookup q = .error (.notFound q.bot) := by
    intro hnone
    refine lookup_of_get?_eq_none (Option.eq_none_iff_forall_ne_some.mpr ?_)
    intro b hb
    exact hnone b (holds_iff.mpr hb)
  have hfails : ∀ e, c.lookup q = .error e → ∀ b, ¬ c.Holds q.bot b := by
    intro e he b hb
    obtain ⟨a, ha, -⟩ := hheld b hb
    cases he.symm.trans ha
  refine ⟨?_, ⟨?_, ?_⟩, hheld⟩
  · intro e he
    cases he.symm.trans (hmissing (hfails e he))
    rfl
  · rintro ⟨e, he⟩
    exact hfails e he
  · intro hnone
    exact ⟨_, hmissing hnone⟩

/-- A hand and a roll that are both too large. -/
theorem answered_iff_held_clamped :
    ∃ b, Roster.glassMonk.assemble = .ok b ∧
      let c : Catalog := ⟨[b], by simp⟩
      let q : Question :=
        { bot := .code "GLASS MONK", state := { handSize := 200, choiceIndex := 99 } }
      c.Holds q.bot b ∧ ∃ a, c.lookup q = .ok a ∧ a.state.handSize.toNat = 12 ∧
        a.state.choiceIndex.toNat = 7 ∧ a.bracket = "11-12" ∧
        c.lookup { q with state := a.state } = .ok a := by
  obtain ⟨b, hb⟩ := Checked.exists_eq_ok
    (show Roster.glassMonk.assemble.isOk = true by decide +kernel)
  refine ⟨b, hb, ?_⟩
  intro c q
  have hcode : b.code = Code.ofName "GLASS MONK" := by
    rw [Table.code_of_assemble hb]
    decide +kernel
  have hheld : c.Holds q.bot b := .code List.mem_cons_self hcode
  obtain ⟨-, -, hanswered⟩ := answered_iff_held c q
  obtain ⟨a, ha, hanswers, hagain⟩ := hanswered b hheld
  have hhand : (a.state.handSize.toNat : Int) = 12 := hanswers.handSize
  refine ⟨hheld, a, ha, by omega, hanswers.choiceIndex, ?_, hagain none⟩
  obtain ⟨i, hi, -, hlabel⟩ := hanswers.bracket
  rw [InBracket, hhand] at hi
  have hlast : i = 3 := Fin.ext (Int.ofNat.inj hi)
  rw [hlabel, hlast]
  decide

end Catalog

end Sparring
