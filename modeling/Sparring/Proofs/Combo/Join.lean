/-
Two combos played as one.

Write one combo behind another, and its card can be told from the cards of the two, with
no look at a move but the very first.  Numbers add up, except that the second opener, free
while it opened, now costs a card.  The last move decides whether the player is knocked
down or thrown to the edge.  Freezing and oblivion come from either part, and all else is
that of the first card.

Two things have to be shown for that.  The text falls into the steps of the one and the
steps of the other (`parse_append`).  And the second combo, which was played from nothing,
can be played again on top of the first (`replay`): its own small sums are the same, and
the large ones are in range if the exact bill is, all the way along.
-/
import Sparring.Proofs.Combo.Bill

namespace Sparring.Combo

variable {r : Registry} {combo : String} {opens : Bool}

/-- There are numbers for all that is on the bill. -/
structure Bill.InRange (b : Bill) : Prop where
  damage : Amount.InRange b.damage
  cost : Amount.InRange b.cost
  selfDamage : Amount.InRange b.selfDamage
  selfHeal : Amount.InRange b.selfHeal

/-- There are numbers for the bill of every beginning of the steps, and for what the card
says about the cost of all of them. -/
structure Fits (r : Registry) (steps : List Step) : Prop where
  sums : ∀ part, part <+: steps → (bill r true part).InRange
  adjust : Amount.InRange (-(bill r true steps).cost)

/-! ### Playing again -/

/-- Steps that were played can be played again from anywhere, if there are numbers for it. -/
theorem replay {combo' : String} (steps : List Step) :
    ∀ {opens opens' : Bool} {b : Bill} {t t' total : Tally} {ms : List Move},
      play r combo opens t steps = .ok (ms, total) → Tally.Grown {} b t' →
      (∀ part, part <+: steps → (b.add (bill r opens' part)).InRange) →
      ∃ total', play r combo' opens' t' steps = .ok (ms, total') := by
  induction steps with
  | nil =>
      intro opens opens' b t t' total ms h _ _
      cases h
      exact ⟨t', rfl⟩
  | cons s rest ih =>
      intro opens opens' b t t' total ms h hgrown hfits
      obtain ⟨m, tiers, t₁, ms', hres, hadd, hplay, rfl⟩ := play_cons_eq_ok_iff.mp h
      obtain ⟨hget, hle, rfl⟩ := Step.resolve_eq_ok_iff.mp hres
      obtain ⟨htiers, hdealt, -, -⟩ := Tally.exists_add_eq_ok_iff.mp ⟨t₁, hadd⟩
      obtain ⟨hbd, hbc⟩ := Tally.grown_start_iff.mp hgrown
      have hone : (b.add (s.bill r opens')).InRange := by
        rw [← Bill.add_zero (s.bill r opens')]
        exact hfits [s] ⟨rest, rfl⟩
      have hdamage := hone.damage
      have hcost := hone.cost
      rw [Step.bill_of_get? hget, Bill.damage_add, ← hbd, ← Int.add_assoc] at hdamage
      rw [Step.bill_of_get? hget, Bill.cost_add, ← hbc] at hcost
      dsimp only at hcost
      rw [Score.price_eq_moveCost] at hcost
      obtain ⟨t₁', hadd'⟩ := Tally.exists_add_eq_ok_iff.mpr ⟨htiers, hdealt, hdamage, hcost⟩
      have hgrown' := hgrown.trans (Tally.grown_of_add hget hadd')
      have hfits' : ∀ part, part <+: rest →
          ((b.add (s.bill r opens')).add (bill r false part)).InRange := by
        intro part hpart
        rw [Bill.add_assoc, ← bill_cons]
        exact hfits (s :: part) ((List.prefix_cons_inj s).mpr hpart)
      obtain ⟨total', hplay'⟩ := ih hplay hgrown' hfits'
      exact ⟨total', play_cons_eq_ok_iff.mpr
        ⟨m, _, t₁', ms', Step.resolve_eq_ok_iff.mpr ⟨hget, hle, rfl⟩, hadd', hplay', rfl⟩⟩

/-- Steps one behind the other are played one after the other. -/
theorem play_append {ys : List Step} {ms₂ : List Move} {total : Tally} (xs : List Step) :
    ∀ {opens : Bool} {t t₁ : Tally} {ms₁ : List Move},
      play r combo opens t xs = .ok (ms₁, t₁) →
      play r combo (opens && xs.isEmpty) t₁ ys = .ok (ms₂, total) →
      play r combo opens t (xs ++ ys) = .ok (ms₁ ++ ms₂, total) := by
  induction xs with
  | nil =>
      intro opens t t₁ ms₁ hxs hys
      cases hxs
      rw [List.isEmpty_nil, Bool.and_true] at hys
      exact hys
  | cons s rest ih =>
      intro opens t t₁ ms₁ hxs hys
      obtain ⟨m, tiers, t', ms', hres, hadd, hplay, rfl⟩ := play_cons_eq_ok_iff.mp hxs
      rw [List.isEmpty_cons, Bool.and_false] at hys
      have hrest := ih hplay (by rw [Bool.false_and]; exact hys)
      exact play_cons_eq_ok_iff.mpr ⟨m, tiers, t', ms' ++ ms₂, hres, hadd, hrest, rfl⟩

/-- Two combos that can be played can be played as one, if there are numbers for it. -/
theorem play_joined {s t combo : String} {xs ys : List Step} {ms₁ ms₂ : List Move}
    {t₁ t₂ : Tally} (hxs : play r s true {} xs = .ok (ms₁, t₁))
    (hys : play r t true {} ys = .ok (ms₂, t₂)) (hne : xs ≠ [])
    (fits : Fits r (xs ++ ys)) :
    ∃ total, play r combo true {} (xs ++ ys) = .ok (ms₁ ++ ms₂, total) := by
  have hempty : (true && xs.isEmpty) = false := by simpa using hne
  have hfits₁ : ∀ part, part <+: xs → (Bill.add {} (bill r true part)).InRange := by
    intro part hpart
    rw [Bill.zero_add]
    exact fits.sums part (hpart.trans (List.prefix_append xs ys))
  have hstart : Tally.Grown {} {} {} := ⟨rfl, rfl⟩
  obtain ⟨t₁', hplay₁⟩ : ∃ t₁', play r combo true {} xs = .ok (ms₁, t₁') :=
    replay xs hxs hstart hfits₁
  have hgrown := grown_of_play xs hplay₁
  have hfits₂ : ∀ part, part <+: ys →
      ((bill r true xs).add (bill r false part)).InRange := by
    intro part hpart
    rw [← hempty, ← bill_append]
    exact fits.sums (xs ++ part) ((List.prefix_append_right_inj xs).mpr hpart)
  obtain ⟨total, hplay₂⟩ : ∃ total, play r combo false t₁' ys = .ok (ms₂, total) :=
    replay ys hys hgrown hfits₂
  exact ⟨total, play_append xs hplay₁ (by rw [hempty]; exact hplay₂)⟩

/-- The second opener is free only while it opens. -/
theorem bill_of_follows {s : Step} {m : Move} {rest : List Step} (hget : r.get? s.name = some m) :
    bill r false (s :: rest) =
      (bill r true (s :: rest)).add { cost := if m.super then 0 else 1 } := by
  rw [bill_cons, bill_cons, Step.bill_of_get? hget, Step.bill_of_get? hget]
  simp only [Bill.add, Bill.mk.injEq, Score.price]
  refine ⟨by omega, ?_, by omega, by omega⟩
  cases m.super with
  | false =>
      simp only [Bool.false_eq_true, if_false, if_true]
      omega
  | true =>
      simp only [if_true]
      omega

/-! ### The card of both -/

/-- There is a card for steps that have been played, if there are numbers for it. -/
theorem exists_cardOf_of_fits {steps : List Step} {opener : Move} {rest : List Move}
    {total : Tally} (hplay : play r combo true {} steps = .ok (opener :: rest, total))
    (fits : Fits r steps) : ∃ c, cardOf combo total opener rest = .ok c := by
  have hself : ∀ n,
      Amount.total (((opener :: rest).map (·.selfDamage)).take n) =
          (bill r true (steps.take n)).selfDamage ∧
        Amount.total (((opener :: rest).map (·.selfHeal)).take n) =
          (bill r true (steps.take n)).selfHeal := by
    intro n
    rw [← List.map_take, ← List.map_take]
    refine self_of_moves (steps.take n) true ?_
    rw [List.map_take, List.map_take, moves_of_play steps hplay]
  obtain ⟨-, hcost⟩ := Tally.grown_start_iff.mp (grown_of_play steps hplay)
  refine exists_cardOf_eq_ok_iff.mpr ⟨?_, ?_, ?_⟩
  · intro n
    rw [(hself n).1]
    exact (fits.sums _ (List.take_prefix n steps)).selfDamage
  · intro n
    rw [(hself n).2]
    exact (fits.sums _ (List.take_prefix n steps)).selfHeal
  · rw [hcost]
    exact fits.adjust

/-- The first move is that of the first step. -/
theorem exists_opener_of_play {steps : List Step} {t total : Tally} {opener : Move}
    {rest : List Move} (hplay : play r combo opens t steps = .ok (opener :: rest, total)) :
    ∃ x xs, steps = x :: xs ∧ r.get? x.name = some opener := by
  have hmoves := moves_of_play steps hplay
  cases steps with
  | nil => cases hmoves
  | cons x xs => exact ⟨x, xs, rfl, (List.cons.inj hmoves).1⟩

/-- The card of two combos played as one, beside the cards that they make alone. -/
structure Joined (r : Registry) (s t : String) (c d e : Card) : Prop where
  /-- It looks like the first, freezes and forgets as either, and ends like the second. -/
  look : e = { c with
    freeze := c.freeze || d.freeze, oblivion := c.oblivion || d.oblivion
    knockdown := d.knockdown, edge := d.edge
    damage := e.damage, selfDamage := e.selfDamage, selfHeal := e.selfHeal
    adjust := e.adjust, firstDamage := e.firstDamage, description := e.description }
  damage : e.damage.toInt = c.damage.toInt + d.damage.toInt
  selfDamage : e.selfDamage.toInt = c.selfDamage.toInt + d.selfDamage.toInt
  selfHeal : e.selfHeal.toInt = c.selfHeal.toInt + d.selfHeal.toInt
  /-- The second opener costs a card, unless it is a super. -/
  adjust : e.adjust.toInt = c.adjust.toInt + d.adjust.toInt - (if d.super then 0 else 1)
  /-- The first move of all without its pumps. -/
  firstDamage : ∃ m, s.toList.head?.bind r.get? = some m ∧ e.firstDamage = m.damage
  description : ∃ symbol rest, (s ++ t).toList = symbol :: rest ∧
    e.description =
      if c.kind = .blockLow ∨ c.kind = .blockHigh then ""
      else symbol.toString ++ " → " ++ String.ofList rest

/-- What is not a sum is taken from the first card, the second or either. -/
theorem look_of_cardOf {s t combo : String} {t₁ t₂ total : Tally} {o₁ o₂ : Move}
    {rest₁ rest₂ : List Move} {c d e : Card} (hc : cardOf s t₁ o₁ rest₁ = .ok c)
    (hd : cardOf t t₂ o₂ rest₂ = .ok d)
    (he : cardOf combo total o₁ (rest₁ ++ o₂ :: rest₂) = .ok e) :
    e = { c with
      freeze := c.freeze || d.freeze, oblivion := c.oblivion || d.oblivion
      knockdown := d.knockdown, edge := d.edge
      damage := e.damage, selfDamage := e.selfDamage, selfHeal := e.selfHeal
      adjust := e.adjust, firstDamage := o₁.damage, description := describe combo o₁ true } ∧
      c.kind = o₁.kind ∧ d.super = o₂.super := by
  simp only [cardOf, Checked.bind_eq_ok_iff] at hc hd he
  obtain ⟨_, -, _, -, _, -, hc⟩ := hc
  obtain ⟨_, -, _, -, _, -, hd⟩ := hd
  obtain ⟨_, -, _, -, _, -, he⟩ := he
  cases hc
  cases hd
  cases he
  have hlast : (o₁ :: (rest₁ ++ o₂ :: rest₂)).getLast (by simp) =
      (o₂ :: rest₂).getLast (by simp) := by
    simp [List.getLast_cons]
  have hfollows : (!(rest₁ ++ o₂ :: rest₂).isEmpty) = true := by simp
  refine ⟨?_, rfl, rfl⟩
  simp [hlast, hfollows, Bool.or_assoc]

/-- The text of a combo of several moves. -/
theorem describe_follows {opener : Move} {symbol : Char} {rest : List Char}
    (h : combo.toList = symbol :: rest) :
    describe combo opener true =
      if opener.kind = .blockLow ∨ opener.kind = .blockHigh then ""
      else symbol.toString ++ " → " ++ String.ofList rest := by
  unfold describe
  rw [h]
  rfl

/--
**The card of two combos played as one can be told from their two cards**, if there are
numbers for it.  A combo that makes a card has a move in it and does not begin with a pump,
so nothing else is asked of the two.
-/
theorem compile_append_joins (r : Registry) (s t : String) (c d : Card)
    (hs : compile r s = .ok c) (ht : compile r t = .ok d)
    (fits : ∀ steps, parse (s ++ t) = .ok steps → Fits r steps) :
    ∃ e, compile r (s ++ t) = .ok e ∧ Joined r s t c d e := by
  obtain ⟨xs, o₁, rest₁, t₁, hxs, hplay₁, hcard₁⟩ := compile_eq_ok_iff.mp hs
  obtain ⟨ys, o₂, rest₂, t₂, hys, hplay₂, hcard₂⟩ := compile_eq_ok_iff.mp ht
  have hparse := parse_append hxs hys
  have hfits := fits _ hparse
  obtain ⟨total, hplay⟩ : ∃ total, play r (s ++ t) true {} (xs ++ ys) =
      .ok (o₁ :: (rest₁ ++ o₂ :: rest₂), total) :=
    play_joined hplay₁ hplay₂ (parse_eq_ok hxs).1 hfits
  obtain ⟨e, hcard⟩ := exists_cardOf_of_fits hplay hfits
  obtain ⟨hlook, hkind, hsuper⟩ := look_of_cardOf hcard₁ hcard₂ hcard
  obtain ⟨x, xs', rfl, hopener⟩ := exists_opener_of_play hplay₁
  obtain ⟨y, ys', rfl, hsecond⟩ := exists_opener_of_play hplay₂
  have hsymbol := head?_of_parse hxs
  have hc := billed_of_cardOf hplay₁ hcard₁
  have hd := billed_of_cardOf hplay₂ hcard₂
  have he := billed_of_cardOf hplay hcard
  rw [bill_append, List.isEmpty_cons, Bool.and_false, bill_of_follows hsecond] at he
  have hfirst : e.firstDamage = o₁.damage := congrArg (·.firstDamage) hlook
  have htext : e.description = describe (s ++ t) o₁ true := congrArg (·.description) hlook
  refine ⟨e, (compile_of_play_ok hparse hplay).trans hcard, ?_, ?_, ?_, ?_, ?_, ?_, ?_⟩
  · rw [hfirst, htext]
    exact hlook
  · rw [he.damage, hc.damage, hd.damage]
    simp
  · rw [he.selfDamage, hc.selfDamage, hd.selfDamage]
    simp
  · rw [he.selfHeal, hc.selfHeal, hd.selfHeal]
    simp
  · rw [he.adjust, hc.adjust, hd.adjust, hsuper, Bill.cost_add, Bill.cost_add]
    dsimp only
    omega
  · refine ⟨o₁, ?_, hfirst⟩
    rw [hsymbol, Option.bind_some, hopener]
  · obtain ⟨symbol, rest, hsr⟩ : ∃ symbol rest, (s ++ t).toList = symbol :: rest := by
      obtain ⟨-, -, hwritten⟩ := parse_eq_ok hparse
      exact ⟨x.name, _, hwritten.symm⟩
    refine ⟨symbol, rest, hsr, ?_⟩
    rw [htext, describe_follows hsr, hkind]

/-- A pumped strike and behind it a super, which costs its meter and no card in either place. -/
theorem compile_append_joins_super :
    let r : Registry := .ofList [('Y', .pump (.strike 1 9) [4, 4]),
      ('1', .superMeter (.strike 17 12) 3), ('t', .throw 7 5)]
    ∃ c d e, compile r "Y+" = .ok c ∧ compile r "1t" = .ok d ∧
      compile r ("Y+" ++ "1t") = .ok e ∧ Joined r "Y+" "1t" c d e := by
  intro r
  obtain ⟨c, hc⟩ := Checked.exists_eq_ok (show (compile r "Y+").isOk = true by decide)
  obtain ⟨d, hd⟩ := Checked.exists_eq_ok (show (compile r "1t").isOk = true by decide)
  have hfits : ∀ steps, parse ("Y+" ++ "1t") = .ok steps → Fits r steps := by
    intro steps hsteps
    cases hsteps
    refine ⟨?_, by decide⟩
    intro part hpart
    simp only [List.prefix_cons_iff, List.prefix_nil] at hpart
    rcases hpart with rfl | ⟨_, rfl, rfl | ⟨_, rfl, rfl | ⟨_, rfl, rfl⟩⟩⟩
    · exact ⟨by decide, by decide, by decide, by decide⟩
    · exact ⟨by decide, by decide, by decide, by decide⟩
    · exact ⟨by decide, by decide, by decide, by decide⟩
    · exact ⟨by decide, by decide, by decide, by decide⟩
  obtain ⟨e, he, hjoined⟩ := compile_append_joins r "Y+" "1t" c d hc hd hfits
  exact ⟨c, d, e, hc, hd, he, hjoined⟩

end Sparring.Combo
