/-
Keeping score of a combo, one symbol at a time.

`compile` takes a combo apart first and adds it up afterwards: `parse` counts the pumps
of every move, and `play` cuts that many tiers off the move's list.  A player at the
table does neither.  He reads from left to right with a finger on the move he read last,
and on every symbol he knows at once what it deals, what it costs, or that it is wrong.
`Score` is that player.  He counts in exact integers, so he never runs out of numbers.

What is proved is that the two agree wherever `compile` does not run out of numbers
itself: on the damage, on the cost, and on what is wrong and with which move.  The
argument follows the steps.  `read_pumps_ok` reads a run of pumps, `read_render_ok` reads
a step with its pumps, and `read_of_play_eq_ok` and `read_of_play_eq_refused` carry the
score along a whole combo: as long as the tally has come out right so far, the player's
score is the tally.
-/
import Sparring.Proofs.Combo.Play

namespace Sparring.Combo

/-- What is wrong with a combo, and with which of its moves. -/
inductive Blame where
  | empty
  | pumpWithoutMove
  | unknownMove (name : Char)
  | pumpOverflow (name : Char)
deriving DecidableEq, Repr

/-- What an error blames, if it is the combo and not the patch on it. -/
def Error.blame? : Error → Option Blame
  | empty => some .empty
  | pumpWithoutMove _ => some .pumpWithoutMove
  | unknownMove name _ => some (.unknownMove name)
  | pumpOverflow name _ _ _ => some (.pumpOverflow name)
  | positiveAdjust _ _ => none

/-- Where the player is between two symbols. -/
structure Score where
  /-- The move read last, and how many of its pumps have been used. -/
  current : Option (Move × Nat) := none
  damage : Int := 0
  cost : Int := 0
deriving DecidableEq, Repr

namespace Score

/-- A super costs its meter; of the other moves the first is free. -/
def price (first : Bool) (m : Move) : Int :=
  if m.super then m.meter.toInt else if first then 0 else 1

/-- The score after one more symbol. -/
def next (r : Registry) (s : Score) (c : Char) : Except Blame Score :=
  if c = pumpSymbol then
    match s.current with
    | none => .error .pumpWithoutMove
    | some (m, used) =>
      match m.pumps[used]? with
      | none => .error (.pumpOverflow m.name)
      | some tier =>
        .ok { s with current := some (m, used + 1), damage := s.damage + tier.toInt }
  else
    match r.get? c with
    | none => .error (.unknownMove c)
    | some m =>
      .ok {
        current := some (m, 0)
        damage := s.damage + m.damage.toInt
        cost := s.cost + price s.current.isNone m }

/-- The score after some more symbols. -/
def read (r : Registry) (s : Score) (cs : List Char) : Except Blame Score :=
  cs.foldlM (next r) s

/-- The score of a whole combo, which must have a move in it. -/
def ofCombo (r : Registry) (combo : String) : Except Blame Score := do
  let s ← read r {} combo.toList
  if s.current.isNone then .error .empty else pure s

variable {r : Registry} {s s' : Score} {m : Move}

@[simp] theorem read_nil : read r s [] = .ok s := rfl

theorem read_cons (c : Char) (cs : List Char) :
    read r s (c :: cs) = next r s c >>= fun s' => read r s' cs :=
  List.foldlM_cons

theorem read_append (cs ds : List Char) :
    read r s (cs ++ ds) = read r s cs >>= fun s' => read r s' ds :=
  List.foldlM_append

/-! ### One step with its pumps -/

theorem next_pump_ok {k : Nat} (hs : s.current = some (m, k)) (h : k < m.pumps.length) :
    next r s pumpSymbol =
      .ok { s with current := some (m, k + 1), damage := s.damage + m.pumps[k].toInt } := by
  simp [next, hs, List.getElem?_eq_getElem h]

theorem next_pump_error {k : Nat} (hs : s.current = some (m, k))
    (h : m.pumps.length ≤ k) : next r s pumpSymbol = .error (.pumpOverflow m.name) := by
  simp [next, hs, List.getElem?_eq_none h]

/-- A run of pumps uses up the next tiers of the move. -/
theorem read_pumps_ok (n : Nat) :
    ∀ {s : Score} {k : Nat}, s.current = some (m, k) → k + n ≤ m.pumps.length →
      read r s (List.replicate n pumpSymbol) =
        .ok { s with
          current := some (m, k + n)
          damage := s.damage + Amount.total ((m.pumps.drop k).take n) } := by
  induction n with
  | zero =>
      intro s k hs _
      simp [← hs]
  | succ n ih =>
      intro s k hs hle
      have hlt : k < m.pumps.length := by omega
      rw [List.replicate_succ, read_cons, next_pump_ok hs hlt]
      rw [List.drop_eq_getElem_cons hlt, List.take_succ_cons, Amount.total_cons]
      refine (ih (k := k + 1) rfl (by omega)).trans ?_
      simp only [Except.ok.injEq, Score.mk.injEq, Option.some.injEq, Prod.mk.injEq, true_and,
        and_true]
      omega

/-- A run of pumps that is too long is noticed, wherever in the run that is. -/
theorem read_pumps_error (n : Nat) :
    ∀ {s : Score} {k : Nat}, s.current = some (m, k) → k ≤ m.pumps.length →
      m.pumps.length < k + n →
      read r s (List.replicate n pumpSymbol) = .error (.pumpOverflow m.name) := by
  induction n with
  | zero =>
      intro s k _ hle hlt
      omega
  | succ n ih =>
      intro s k hs hle hlt
      rw [List.replicate_succ, read_cons]
      rcases Nat.lt_or_ge k m.pumps.length with hin | hout
      · rw [next_pump_ok hs hin]
        exact ih (k := k + 1) rfl (by omega) (by omega)
      · rw [next_pump_error hs hout]
        rfl

theorem next_move {c : Char} (hc : c ≠ pumpSymbol) (hm : r.get? c = some m) :
    next r s c = .ok {
      current := some (m, 0)
      damage := s.damage + m.damage.toInt
      cost := s.cost + price s.current.isNone m } := by
  simp [next, hc, hm]

/-- The move of the step is there and has enough tiers. -/
theorem read_render_ok {st : Step} (hname : st.name ≠ pumpSymbol) (hm : r.get? st.name = some m)
    (hle : st.pumps ≤ m.pumps.length) :
    read r s st.render = .ok {
      current := some (m, st.pumps)
      damage := s.damage + m.damage.toInt + Amount.total (m.pumps.take st.pumps)
      cost := s.cost + price s.current.isNone m } := by
  rw [Step.render, read_cons, next_move hname hm]
  refine (read_pumps_ok st.pumps (k := 0) rfl (by omega)).trans ?_
  simp

theorem read_render_unknown {st : Step} (hname : st.name ≠ pumpSymbol)
    (hm : r.get? st.name = none) : read r s st.render = .error (.unknownMove st.name) := by
  rw [Step.render, read_cons]
  simp [next, hname, hm, bind, Except.bind]

theorem read_render_overflow {st : Step} (hname : st.name ≠ pumpSymbol)
    (hm : r.get? st.name = some m) (hlt : m.pumps.length < st.pumps) :
    read r s st.render = .error (.pumpOverflow m.name) := by
  rw [Step.render, read_cons, next_move hname hm]
  exact read_pumps_error st.pumps (k := 0) rfl (by omega) (by omega)

theorem price_eq_moveCost (first : Bool) (m : Move) :
    price first m = (moveCost first m).toInt := by
  unfold price moveCost
  split
  · rfl
  · split <;> rfl

/-! ### A whole combo -/

/-- The player's score is the tally, and the opener is still to come for both or for neither. -/
structure Keeps (s : Score) (opens : Bool) (t : Tally) : Prop where
  damage : s.damage = t.damage.toInt
  cost : s.cost = t.cost.toInt
  opens : s.current.isNone = opens

variable {combo : String} {opens : Bool} {t total : Tally}

/-- A step that is played is read, and the score stays the tally. -/
theorem read_render_keeps {st : Step} {tiers : List Amount} {t' : Tally}
    (hname : st.name ≠ pumpSymbol) (hkeeps : s.Keeps opens t)
    (hres : st.resolve r combo = .ok (m, tiers)) (hadd : t.add opens m tiers = .ok t') :
    ∃ s', read r s st.render = .ok s' ∧ s'.Keeps false t' := by
  obtain ⟨hm, hle, rfl⟩ := Step.resolve_eq_ok_iff.mp hres
  obtain ⟨hdamage, hcost⟩ := Tally.add_eq_ok hadd
  refine ⟨_, read_render_ok hname hm hle, ?_, ?_, rfl⟩
  · show s.damage + m.damage.toInt + Amount.total (m.pumps.take st.pumps) = t'.damage.toInt
    rw [hkeeps.damage, hdamage]
  · show s.cost + price s.current.isNone m = t'.cost.toInt
    rw [hkeeps.cost, hkeeps.opens, hcost, price_eq_moveCost]

/-- A step that is refused is noticed while it is read. -/
theorem read_render_refused {st : Step} {e : Error} (hname : st.name ≠ pumpSymbol)
    (hres : st.resolve r combo = .error e) :
    ∃ b, read r s st.render = .error b ∧ e.blame? = some b := by
  rcases Step.resolve_eq_error_iff.mp hres with ⟨hm, rfl⟩ | ⟨m, hm, hlt, rfl⟩
  · exact ⟨_, read_render_unknown hname hm, rfl⟩
  · exact ⟨_, read_render_overflow hname hm hlt, rfl⟩

/-- Steps that are played through are read through, with the tally as the score. -/
theorem read_of_play_eq_ok (steps : List Step) :
    ∀ {s : Score} {opens : Bool} {t total : Tally} {ms : List Move},
      (∀ st ∈ steps, st.name ≠ pumpSymbol) → s.Keeps opens t →
      play r combo opens t steps = .ok (ms, total) →
      ∃ s', read r s (steps.flatMap Step.render) = .ok s' ∧
        s'.Keeps (opens && steps.isEmpty) total := by
  induction steps with
  | nil =>
      intro s opens t total ms _ hkeeps h
      cases h
      exact ⟨s, rfl, by simpa using hkeeps⟩
  | cons st rest ih =>
      intro s opens t total ms hnames hkeeps h
      obtain ⟨m, tiers, t', ms', hres, hadd, hplay, -⟩ := play_cons_eq_ok_iff.mp h
      obtain ⟨s₁, hread, hkeeps₁⟩ :=
        read_render_keeps (hnames st (by simp)) hkeeps hres hadd
      obtain ⟨s', hread', hkeeps'⟩ := ih (fun x hx => hnames x (by simp [hx])) hkeeps₁ hplay
      refine ⟨s', ?_, by simpa using hkeeps'⟩
      rw [List.flatMap_cons, read_append, hread]
      exact hread'

/-- Steps of which one is refused are read up to that one, and it gets the blame. -/
theorem read_of_play_eq_refused (steps : List Step) :
    ∀ {s : Score} {opens : Bool} {t : Tally} {e : Error},
      (∀ st ∈ steps, st.name ≠ pumpSymbol) → s.Keeps opens t →
      play r combo opens t steps = .error (.refused e) →
      ∃ b, read r s (steps.flatMap Step.render) = .error b ∧ e.blame? = some b := by
  induction steps with
  | nil =>
      intro s opens t e _ _ h
      cases h
  | cons st rest ih =>
      intro s opens t e hnames hkeeps h
      rw [List.flatMap_cons, read_append]
      rcases play_cons_eq_refused_iff.mp h with hres | ⟨m, tiers, t', hres, hadd, hplay⟩
      · obtain ⟨b, hread, hb⟩ := read_render_refused (s := s) (hnames st (by simp)) hres
        exact ⟨b, by rw [hread]; rfl, hb⟩
      · obtain ⟨s₁, hread, hkeeps₁⟩ :=
          read_render_keeps (hnames st (by simp)) hkeeps hres hadd
        obtain ⟨b, hread', hb⟩ := ih (fun x hx => hnames x (by simp [hx])) hkeeps₁ hplay
        exact ⟨b, by rw [hread]; exact hread', hb⟩

theorem keeps_start : ({} : Score).Keeps true {} := ⟨rfl, rfl, rfl⟩

/-- What the player knows when the compiler has made a card. -/
theorem ofCombo_of_compile_eq_ok {c : Card} (h : compile r combo = .ok c) :
    ∃ s, ofCombo r combo = .ok s ∧ s.damage = c.damage.toInt ∧ s.cost = -c.adjust.toInt := by
  obtain ⟨steps, opener, rest, total, hparse, hplay, hcard⟩ := compile_eq_ok_iff.mp h
  obtain ⟨hne, hnames, hwritten⟩ := parse_eq_ok hparse
  obtain ⟨s, hread, hkeeps⟩ := read_of_play_eq_ok steps hnames keeps_start hplay
  obtain ⟨hdamage, hadjust⟩ := cardOf_eq_ok hcard
  have hsome : s.current.isNone = false := by
    rw [hkeeps.opens]
    simpa using hne
  rw [hwritten] at hread
  refine ⟨s, ?_, ?_, ?_⟩
  · rw [ofCombo, hread]
    simp [bind, Except.bind, hsome, pure, Except.pure]
  · rw [hkeeps.damage, hdamage]
  · rw [hkeeps.cost, hadjust]
    omega

/-- What the player knows when the compiler has refused. -/
theorem ofCombo_of_compile_eq_refused {e : Error} (h : compile r combo = .error (.refused e)) :
    ∃ b, ofCombo r combo = .error b ∧ e.blame? = some b := by
  rcases compile_eq_refused_iff.mp h with hparse | ⟨steps, hparse, hplay⟩
  · rcases parse_eq_error hparse with ⟨rfl, hempty⟩ | ⟨rfl, cs, hcs⟩
    · exact ⟨.empty, by rw [ofCombo, hempty]; rfl, rfl⟩
    · exact ⟨.pumpWithoutMove, by rw [ofCombo, hcs]; rfl, rfl⟩
  · obtain ⟨-, hnames, hwritten⟩ := parse_eq_ok hparse
    obtain ⟨b, hread, hb⟩ := read_of_play_eq_refused steps hnames keeps_start hplay
    rw [hwritten] at hread
    exact ⟨b, by rw [ofCombo, hread]; rfl, hb⟩

end Score

/--
**Compiling a combo is keeping score of it.**  Unless a number leaves its range, the two
make a card of the same combos, with the player's damage and cost on it, and refuse the
others for the same reason and the same move.
-/
theorem compile_agrees_score (r : Registry) (combo : String)
    (fits : compile r combo ≠ .error .overflow) :
    (∃ c s, compile r combo = .ok c ∧ Score.ofCombo r combo = .ok s ∧
      c.damage.toInt = s.damage ∧ c.adjust.toInt = -s.cost) ∨
    (∃ e b, compile r combo = .error (.refused e) ∧ Score.ofCombo r combo = .error b ∧
      e.blame? = some b) := by
  cases h : compile r combo with
  | ok c =>
      obtain ⟨s, hs, hdamage, hcost⟩ := Score.ofCombo_of_compile_eq_ok h
      exact Or.inl ⟨c, s, rfl, hs, hdamage.symm, by omega⟩
  | error halt =>
      cases halt with
      | overflow => exact absurd h fits
      | refused e =>
          obtain ⟨b, hb, hblame⟩ := Score.ofCombo_of_compile_eq_refused h
          exact Or.inr ⟨e, b, rfl, hb, hblame⟩

/-- Two tiers, three pumps, and behind them a move that nobody knows: the pumps get the blame. -/
theorem compile_agrees_score_overpumped :
    let r : Registry := .ofList [('D', .strike 6 4), ('Y', .pump (.strike 1 9) [4, 4])]
    compile r "DY+++Q" ≠ .error .overflow ∧
      Score.ofCombo r "DY+++Q" = .error (.pumpOverflow 'Y') ∧
      ∃ e, compile r "DY+++Q" = .error (.refused e) ∧ e.blame? = some (.pumpOverflow 'Y') := by
  intro r
  have hfits : compile r "DY+++Q" ≠ .error .overflow := by decide
  have hscore : Score.ofCombo r "DY+++Q" = .error (.pumpOverflow 'Y') := by rfl
  refine ⟨hfits, hscore, ?_⟩
  rcases compile_agrees_score r "DY+++Q" hfits with ⟨c, s, -, hs, -⟩ | ⟨e, b, he, hb, hblame⟩
  · cases hscore.symm.trans hs
  · cases hscore.symm.trans hb
    exact ⟨e, he, hblame⟩

end Sparring.Combo
