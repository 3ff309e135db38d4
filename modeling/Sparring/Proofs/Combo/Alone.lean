/-
One move on its own.

The compiler starts from a blank record and fills it from the first move, from the last
one, from all of them added up or from any of them.  A combo of a single move is where the
four rules have to agree: the first move is the last one, and the sum over it is itself.
So whatever a move says is on its card (`cardOf_alone`), and only the damage can differ,
by the tiers of the pumps behind the symbol.

There may be no number for that.  `Move.FitsAlone` names the sums that are formed, and the
combo overflows if and only if one of them leaves the range.
-/
import Sparring.Proofs.Combo.Score

namespace Sparring

/-- There are numbers for the sums that a move forms with its first `k` tiers: for every sum
of tiers, for the damage, and for the price below zero. -/
structure Move.FitsAlone (m : Move) (k : Nat) : Prop where
  tiers : ∀ n, n ≤ k → Amount.InRange (Amount.total (m.pumps.take n))
  damage : Amount.InRange (m.damage.toInt + Amount.total (m.pumps.take k))
  price : Amount.InRange (if m.super then -m.meter.toInt else 0)

/-- The card that shows a move as it is, with this damage and this change of the hand. -/
def Move.alone (m : Move) (damage adjust : Amount) : Card where
  toAttributes := { m.toAttributes with damage }
  description := if m.kind = .blockLow ∨ m.kind = .blockHigh then "" else m.name.toString
  firstDamage := 0
  adjust
  always := m.super

namespace Combo

variable {r : Registry} {combo : String} {m : Move} {k : Nat} {t : Tally}

/-- A symbol and its pumps are one step. -/
theorem parse_alone (hname : m.name ≠ pumpSymbol) (k : Nat) :
    parse (String.ofList (m.name :: List.replicate k pumpSymbol)) = .ok [⟨m.name, k⟩] := by
  have hwritten : render [⟨m.name, k⟩] =
      String.ofList (m.name :: List.replicate k pumpSymbol) := by
    simp [render, Step.render]
  rw [← hwritten]
  exact parse_render (by simp) (by simpa using hname)

/-- An opener is free unless it is a super. -/
theorem neg_moveCost_opener (m : Move) :
    -(moveCost true m).toInt = if m.super then -m.meter.toInt else 0 := by
  rw [← Score.price_eq_moveCost, Score.price]
  split <;> simp

/-- The tally of one move can be formed if its damage can. -/
theorem exists_add_alone_iff :
    (∃ t, Tally.add {} true m (m.pumps.take k) = .ok t) ↔
      (∀ n, n ≤ k → Amount.InRange (Amount.total (m.pumps.take n))) ∧
        Amount.InRange (m.damage.toInt + Amount.total (m.pumps.take k)) := by
  rw [Tally.exists_add_eq_ok_iff]
  refine ⟨?_, ?_⟩
  · intro h
    obtain ⟨htiers, hdamage, -, -⟩ := h
    refine ⟨?_, hdamage⟩
    intro n hn
    have htake := htiers n
    rw [List.take_take, Nat.min_eq_left hn] at htake
    exact htake
  · intro h
    obtain ⟨htiers, hdamage⟩ := h
    refine ⟨?_, hdamage, ?_, ?_⟩
    · intro n
      rw [List.take_take]
      exact htiers _ (Nat.min_le_right n k)
    · simpa using hdamage
    · simpa using Amount.inRange_toInt (moveCost true m)

/-- All that the move says is on its card, but the damage is that of the tally. -/
theorem cardOf_alone :
    cardOf combo t m [] = (Amount.fit (-t.cost.toInt)).map (m.alone t.damage) := by
  unfold cardOf
  simp only [List.map_cons, List.map_nil, Amount.sum_singleton]
  cases (Amount.fit (-t.cost.toInt) : Checked Error Amount) with
  | error halt => rfl
  | ok adjust => simp [bind, Except.bind, Except.map, pure, Except.pure, describe, Move.alone]

/-- The card of one move is made of its tally, and there is none without it. -/
theorem compile_alone_eq (hm : m ∈ r.moves) (hname : m.name ≠ pumpSymbol)
    (hk : k ≤ m.pumps.length) :
    compile r (String.ofList (m.name :: List.replicate k pumpSymbol)) =
      Tally.add {} true m (m.pumps.take k) >>= fun total =>
        (Amount.fit (if m.super then -m.meter.toInt else 0)).map (m.alone total.damage) := by
  have hparse := parse_alone hname k
  have hres : ∀ combo, Step.resolve r combo ⟨m.name, k⟩ = .ok (m, m.pumps.take k) :=
    fun combo => Step.resolve_eq_ok_iff.mpr ⟨Registry.get?_of_mem hm, hk, rfl⟩
  cases hadd : Tally.add {} true m (m.pumps.take k) with
  | error halt =>
      cases Tally.add_eq_error hadd
      exact compile_of_play_error hparse
        (play_cons_eq_overflow_iff.mpr ⟨m, _, hres _, Or.inl hadd⟩)
  | ok total =>
      have hcost : -total.cost.toInt = if m.super then -m.meter.toInt else 0 := by
        rw [← neg_moveCost_opener, (Tally.add_eq_ok hadd).2]
        simp
      refine (compile_of_play_ok hparse (play_cons_eq_ok_iff.mpr
        ⟨m, _, total, [], hres _, hadd, rfl, rfl⟩)).trans ?_
      rw [cardOf_alone, hcost]
      rfl

/-- A move that there are numbers for is shown as it is. -/
theorem compile_of_fitsAlone (hm : m ∈ r.moves) (hname : m.name ≠ pumpSymbol)
    (hk : k ≤ m.pumps.length) (fits : m.FitsAlone k) :
    ∃ damage adjust : Amount,
      damage.toInt = m.damage.toInt + Amount.total (m.pumps.take k) ∧
      adjust.toInt = (if m.super then -m.meter.toInt else 0) ∧
      compile r (String.ofList (m.name :: List.replicate k pumpSymbol)) =
        .ok (m.alone damage adjust) := by
  obtain ⟨total, hadd⟩ := exists_add_alone_iff.mpr ⟨fits.tiers, fits.damage⟩
  have hprice : ∃ adjust, (Amount.fit _ : Checked Error Amount) = .ok adjust :=
    Amount.exists_fit_eq_ok_iff.mpr fits.price
  obtain ⟨adjust, hadjust⟩ := hprice
  have hdamage := (Tally.add_eq_ok hadd).1
  refine ⟨total.damage, adjust, by simpa using hdamage, Amount.fit_eq_ok_iff.mp hadjust, ?_⟩
  rw [compile_alone_eq hm hname hk, hadd, hadjust]
  rfl

/-- And one that there are no numbers for overflows. -/
theorem compile_of_not_fitsAlone (hm : m ∈ r.moves) (hname : m.name ≠ pumpSymbol)
    (hk : k ≤ m.pumps.length) (short : ¬ m.FitsAlone k) :
    compile r (String.ofList (m.name :: List.replicate k pumpSymbol)) = .error .overflow := by
  rw [compile_alone_eq hm hname hk]
  cases hadd : Tally.add {} true m (m.pumps.take k) with
  | error halt =>
      cases Tally.add_eq_error hadd
      rfl
  | ok total =>
      obtain ⟨htiers, hdamage⟩ := exists_add_alone_iff.mp ⟨total, hadd⟩
      cases hfit : (Amount.fit (if m.super then -m.meter.toInt else 0) : Checked Error Amount) with
      | error halt =>
          cases Amount.fit_eq_error hfit
          rfl
      | ok adjust =>
          have hprice := Amount.exists_fit_eq_ok_iff.mp ⟨adjust, hfit⟩
          exact absurd ⟨htiers, hdamage, hprice⟩ short

/--
**Nothing of a move is lost on its way to a card.**  Take any move, other than one that is
named like a pump, and pump it up to as often as it has tiers.  If there are numbers for it,
the card has every attribute of the move, with the tiers that were used on top of its
damage.  No combo follows, so there is no first damage and the text is the symbol, or
nothing for a low or high block; only a super costs something, and costs it always.
If there are no numbers, the combo overflows.
-/
theorem compile_alone (r : Registry) (m : Move) (k : Nat) (hm : m ∈ r.moves)
    (hname : m.name ≠ pumpSymbol) (hk : k ≤ m.pumps.length) :
    let combo := String.ofList (m.name :: List.replicate k pumpSymbol)
    (compile r combo = .error .overflow ↔ ¬ m.FitsAlone k) ∧
    (m.FitsAlone k → ∃ damage adjust : Amount,
      damage.toInt = m.damage.toInt + Amount.total (m.pumps.take k) ∧
      adjust.toInt = (if m.super then -m.meter.toInt else 0) ∧
      compile r combo = .ok {
        toAttributes := { m.toAttributes with damage }
        description := if m.kind = .blockLow ∨ m.kind = .blockHigh then "" else m.name.toString
        firstDamage := 0
        adjust
        always := m.super }) := by
  intro combo
  refine ⟨⟨?_, compile_of_not_fitsAlone hm hname hk⟩, compile_of_fitsAlone hm hname hk⟩
  intro hoverflow fits
  obtain ⟨damage, adjust, -, -, hcard⟩ := compile_of_fitsAlone hm hname hk fits
  cases hoverflow.symm.trans hcard

/-- A super, pumped once where it could be twice. -/
theorem compile_alone_super :
    let spec : Spec := .pump (.superMeter (.strike 17 12) 3) [4, 5]
    let y : Move := .ofSpec 'Y' spec
    let r : Registry := .ofList [('A', .strike 3 8), ('Y', spec)]
    y ∈ r.moves ∧ ∃ c, compile r "Y+" = .ok c ∧
      c.toAttributes = { y.toAttributes with damage := 21 } ∧ c.firstDamage = 0 ∧
      c.adjust = -3 ∧ c.always = true ∧ c.description = "Y" := by
  intro spec y r
  have hy : y ∈ r.moves := by decide
  have hfits : y.FitsAlone 1 := by
    refine ⟨?_, by decide, by decide⟩
    intro n hn
    obtain rfl | rfl : n = 0 ∨ n = 1 := by omega
    · decide
    · decide
  obtain ⟨-, hcard⟩ := compile_alone r y 1 hy (by decide) (by decide)
  obtain ⟨damage, adjust, hdamage, hadjust, hcompile⟩ := hcard hfits
  have hd : damage = 21 := Int32.toInt_inj.mp (hdamage.trans (by decide))
  have ha : adjust = -3 := Int32.toInt_inj.mp (hadjust.trans (by decide))
  rw [hd, ha] at hcompile
  exact ⟨hy, _, hcompile, rfl, rfl, rfl, rfl, rfl⟩

end Combo

end Sparring
