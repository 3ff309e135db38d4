/-
What one step of a combo can do.

Everything that follows about combos is an induction over steps, and an induction over
steps needs one thing: all the ways in which a single step can end.  A step is refused
because its move is unknown or its pumps are too many; it overflows; or it adds its move
to the tally, exactly.  These ways are listed here, once, together with what the card
made in the end takes from the tally.  `play`, `Step.resolve` and `Tally.add` are not
opened again.
-/
import Sparring.Combo.Compile
import Sparring.Proofs.Checked
import Sparring.Proofs.Combo.Notation
import Sparring.Proofs.Move.Registry

namespace Sparring

namespace Combo

variable {r : Registry} {combo : String} {s : Step} {opens : Bool} {t : Tally}

/-! ### Finding the move and its tiers -/

theorem Step.resolve_eq_ok_iff {m : Move} {tiers : List Amount} :
    s.resolve r combo = .ok (m, tiers) ↔
      r.get? s.name = some m ∧ s.pumps ≤ m.pumps.length ∧ tiers = m.pumps.take s.pumps := by
  unfold Step.resolve
  rw [Checked.bind_eq_ok_iff]
  refine ⟨?_, ?_⟩
  · intro h
    obtain ⟨m', hm', h⟩ := h
    split at h
    · rename_i hle
      cases h
      exact ⟨Registry.lookup_eq_ok_iff.mp hm', hle, rfl⟩
    · cases h
  · intro h
    obtain ⟨hm, hle, rfl⟩ := h
    refine ⟨m, Registry.lookup_eq_ok_iff.mpr hm, ?_⟩
    rw [if_pos hle]
    rfl

theorem Step.resolve_eq_error_iff {e : Error} :
    s.resolve r combo = .error e ↔
      (r.get? s.name = none ∧ e = .unknownMove s.name combo) ∨
        ∃ m, r.get? s.name = some m ∧ m.pumps.length < s.pumps ∧
          e = .pumpOverflow m.name s.pumps m.pumps.length combo := by
  unfold Step.resolve
  rw [Checked.bind_eq_error_iff, Registry.lookup_eq_error_iff]
  refine or_congr_right ⟨?_, ?_⟩
  · intro h
    obtain ⟨m, hm, h⟩ := h
    split at h
    · cases h
    · rename_i hlt
      cases h
      exact ⟨m, Registry.lookup_eq_ok_iff.mp hm, Nat.lt_of_not_le hlt, rfl⟩
  · intro h
    obtain ⟨m, hm, hlt, rfl⟩ := h
    refine ⟨m, Registry.lookup_eq_ok_iff.mpr hm, ?_⟩
    rw [if_neg (Nat.not_le_of_lt hlt)]
    rfl

/-! ### Adding it to the tally -/

/-- A tally that can be formed is the exact one. -/
theorem Tally.add_eq_ok {m : Move} {tiers : List Amount} {t' : Tally}
    (h : t.add opens m tiers = .ok t') :
    t'.damage.toInt = t.damage.toInt + m.damage.toInt + Amount.total tiers ∧
      t'.cost.toInt = t.cost.toInt + (moveCost opens m).toInt := by
  simp only [Tally.add, Checked.bind_eq_ok_iff] at h
  obtain ⟨pumped, hpumped, dealt, hdealt, damage, hdamage, cost, hcost, ht'⟩ := h
  cases ht'
  have h1 := Amount.sum_eq_ok hpumped
  have h2 := Amount.fit_eq_ok_iff.mp hdealt
  have h3 := Amount.fit_eq_ok_iff.mp hdamage
  refine ⟨?_, Amount.fit_eq_ok_iff.mp hcost⟩
  show damage.toInt = _
  omega

theorem Tally.add_eq_error {m : Move} {tiers : List Amount} {h : Halt Error}
    (hadd : t.add opens m tiers = .error h) : h = .overflow := by
  simp only [Tally.add, Checked.bind_eq_error_iff] at hadd
  rcases hadd with hsum | ⟨_, _, hdealt | ⟨_, _, hdamage | ⟨_, _, hcost | ⟨_, _, hpure⟩⟩⟩⟩
  · exact Amount.sum_eq_error hsum
  · exact Amount.fit_eq_error hdealt
  · exact Amount.fit_eq_error hdamage
  · exact Amount.fit_eq_error hcost
  · cases hpure

/-- A tally can be formed if and only if every sum on the way to it is in range. -/
theorem Tally.exists_add_eq_ok_iff {m : Move} {tiers : List Amount} :
    (∃ t', t.add opens m tiers = .ok t') ↔
      (∀ n, Amount.InRange (Amount.total (tiers.take n))) ∧
        Amount.InRange (m.damage.toInt + Amount.total tiers) ∧
        Amount.InRange (t.damage.toInt + m.damage.toInt + Amount.total tiers) ∧
        Amount.InRange (t.cost.toInt + (moveCost opens m).toInt) := by
  simp only [Tally.add, Checked.bind_eq_ok_iff]
  refine ⟨?_, ?_⟩
  · intro h
    obtain ⟨t', pumped, hpumped, dealt, hdealt, damage, hdamage, cost, hcost, -⟩ := h
    have hdealt' := Amount.fit_eq_ok_iff.mp hdealt
    have hdamage' := Amount.fit_eq_ok_iff.mp hdamage
    rw [Amount.sum_eq_ok hpumped] at hdealt'
    refine ⟨Amount.exists_sum_eq_ok_iff.mp ⟨pumped, hpumped⟩, ?_, ?_, ?_⟩
    · rw [← hdealt']
      exact Amount.inRange_toInt dealt
    · rw [Int.add_assoc, ← hdealt', ← hdamage']
      exact Amount.inRange_toInt damage
    · exact Amount.exists_fit_eq_ok_iff.mp ⟨cost, hcost⟩
  · intro h
    obtain ⟨htiers, hdealt, hdamage, hcost⟩ := h
    obtain ⟨pumped, hpumped⟩ := Amount.exists_sum_eq_ok_iff.mpr htiers
    rw [← Amount.sum_eq_ok hpumped] at hdealt hdamage
    obtain ⟨dealt, hdealt⟩ := Amount.exists_fit_eq_ok_iff.mpr hdealt
    rw [Int.add_assoc, ← Amount.fit_eq_ok_iff.mp hdealt] at hdamage
    obtain ⟨damage, hdamage⟩ := Amount.exists_fit_eq_ok_iff.mpr hdamage
    obtain ⟨cost, hcost⟩ := Amount.exists_fit_eq_ok_iff.mpr hcost
    exact ⟨_, pumped, hpumped, dealt, hdealt, damage, hdamage, cost, hcost, rfl⟩

/-! ### One step of play -/

theorem play_cons_eq_ok_iff {rest : List Step} {ms : List Move} {total : Tally} :
    play r combo opens t (s :: rest) = .ok (ms, total) ↔
      ∃ m tiers t' ms', s.resolve r combo = .ok (m, tiers) ∧ t.add opens m tiers = .ok t' ∧
        play r combo false t' rest = .ok (ms', total) ∧ ms = m :: ms' := by
  simp only [play, Checked.bind_eq_ok_iff, Checked.mapError_eq_ok_iff]
  refine ⟨?_, ?_⟩
  · intro h
    obtain ⟨⟨m, tiers⟩, hres, t', hadd, ⟨ms', total'⟩, hplay, hpure⟩ := h
    cases hpure
    exact ⟨m, tiers, t', ms', hres, hadd, hplay, rfl⟩
  · intro h
    obtain ⟨m, tiers, t', ms', hres, hadd, hplay, rfl⟩ := h
    exact ⟨(m, tiers), hres, t', hadd, (ms', total), hplay, rfl⟩

/-- A refusal comes from this step or from one further on, with the tally right so far. -/
theorem play_cons_eq_refused_iff {rest : List Step} {e : Error} :
    play r combo opens t (s :: rest) = .error (.refused e) ↔
      s.resolve r combo = .error e ∨
        ∃ m tiers t', s.resolve r combo = .ok (m, tiers) ∧ t.add opens m tiers = .ok t' ∧
          play r combo false t' rest = .error (.refused e) := by
  simp only [play, Checked.bind_eq_error_iff, Checked.mapError_eq_ok_iff,
    Checked.mapError_eq_error_iff]
  refine ⟨?_, ?_⟩
  · intro h
    rcases h with ⟨e', hres, he⟩ | ⟨⟨m, tiers⟩, hres, hadd | ⟨t', hadd, hplay | ⟨_, _, hpure⟩⟩⟩
    · cases he
      exact Or.inl hres
    · cases Tally.add_eq_error hadd
    · exact Or.inr ⟨m, tiers, t', hres, hadd, hplay⟩
    · cases hpure
  · intro h
    rcases h with hres | ⟨m, tiers, t', hres, hadd, hplay⟩
    · exact Or.inl ⟨e, hres, rfl⟩
    · exact Or.inr ⟨(m, tiers), hres, Or.inr ⟨t', hadd, Or.inl hplay⟩⟩

theorem play_cons_eq_overflow_iff {rest : List Step} :
    play r combo opens t (s :: rest) = .error .overflow ↔
      ∃ m tiers, s.resolve r combo = .ok (m, tiers) ∧
        (t.add opens m tiers = .error .overflow ∨
          ∃ t', t.add opens m tiers = .ok t' ∧ play r combo false t' rest = .error .overflow) := by
  simp only [play, Checked.bind_eq_error_iff, Checked.mapError_eq_ok_iff,
    Checked.mapError_eq_error_iff]
  refine ⟨?_, ?_⟩
  · intro h
    rcases h with ⟨e', -, he⟩ | ⟨⟨m, tiers⟩, hres, hadd | ⟨t', hadd, hplay | ⟨_, _, hpure⟩⟩⟩
    · cases he
    · exact ⟨m, tiers, hres, Or.inl hadd⟩
    · exact ⟨m, tiers, hres, Or.inr ⟨t', hadd, hplay⟩⟩
    · cases hpure
  · intro h
    obtain ⟨m, tiers, hres, hadd | ⟨t', hadd, hplay⟩⟩ := h
    · exact Or.inr ⟨(m, tiers), hres, Or.inl hadd⟩
    · exact Or.inr ⟨(m, tiers), hres, Or.inr ⟨t', hadd, Or.inl hplay⟩⟩

/-- The moves that are played are those of the steps. -/
theorem moves_of_play (steps : List Step) :
    ∀ {opens : Bool} {t total : Tally} {ms : List Move},
      play r combo opens t steps = .ok (ms, total) →
      steps.map (fun s => r.get? s.name) = ms.map some := by
  induction steps with
  | nil =>
      intro opens t total ms h
      cases h
      rfl
  | cons s rest ih =>
      intro opens t total ms h
      obtain ⟨m, tiers, t', ms', hres, -, hplay, rfl⟩ := play_cons_eq_ok_iff.mp h
      obtain ⟨hget, -, -⟩ := Step.resolve_eq_ok_iff.mp hres
      rw [List.map_cons, List.map_cons, hget, ih hplay]

/-- One move for every step. -/
theorem length_play {steps : List Step} {total : Tally} {ms : List Move}
    (h : play r combo opens t steps = .ok (ms, total)) : ms.length = steps.length := by
  have hlen := congrArg List.length (moves_of_play steps h)
  rw [List.length_map, List.length_map] at hlen
  exact hlen.symm

/-! ### Where a registry is looked into

A registry is asked for the symbols of the steps and for nothing else, so one that answers
in the same way is as good.
-/

theorem Step.resolve_congr {r' : Registry} (h : r.get? s.name = r'.get? s.name) :
    s.resolve r combo = s.resolve r' combo := by
  unfold resolve Registry.lookup
  rw [h]

theorem play_congr {r' : Registry} {steps : List Step}
    (h : ∀ s ∈ steps, r.get? s.name = r'.get? s.name) :
    ∀ (opens : Bool) (t : Tally), play r combo opens t steps = play r' combo opens t steps := by
  induction steps with
  | nil => intro opens t; rfl
  | cons s rest ih =>
      intro opens t
      have hstep : s.resolve r combo = s.resolve r' combo := Step.resolve_congr (h s (by simp))
      have hrest := ih fun s' hs' => h s' (by simp [hs'])
      simp only [play, hstep, hrest]

/-! ### The card in the end -/

theorem cardOf_eq_ok {opener : Move} {rest : List Move} {c : Card}
    (h : cardOf combo t opener rest = .ok c) :
    c.damage = t.damage ∧ c.adjust.toInt = -t.cost.toInt := by
  simp only [cardOf, Checked.bind_eq_ok_iff] at h
  obtain ⟨_, -, _, -, adjust, hadjust, hc⟩ := h
  cases hc
  exact ⟨rfl, Amount.fit_eq_ok_iff.mp hadjust⟩

/-- What the player does to himself is added up over all the moves. -/
theorem self_of_cardOf {opener : Move} {rest : List Move} {c : Card}
    (h : cardOf combo t opener rest = .ok c) :
    c.selfDamage.toInt = Amount.total ((opener :: rest).map (·.selfDamage)) ∧
      c.selfHeal.toInt = Amount.total ((opener :: rest).map (·.selfHeal)) := by
  simp only [cardOf, Checked.bind_eq_ok_iff] at h
  obtain ⟨selfDamage, hdamage, selfHeal, hheal, adjust, -, hc⟩ := h
  cases hc
  exact ⟨Amount.sum_eq_ok hdamage, Amount.sum_eq_ok hheal⟩

/-- There is a card if and only if the last sums are in range, too. -/
theorem exists_cardOf_eq_ok_iff {opener : Move} {rest : List Move} :
    (∃ c, cardOf combo t opener rest = .ok c) ↔
      (∀ n, Amount.InRange (Amount.total (((opener :: rest).map (·.selfDamage)).take n))) ∧
        (∀ n, Amount.InRange (Amount.total (((opener :: rest).map (·.selfHeal)).take n))) ∧
        Amount.InRange (-t.cost.toInt) := by
  simp only [cardOf, Checked.bind_eq_ok_iff]
  refine ⟨?_, ?_⟩
  · intro h
    obtain ⟨c, selfDamage, hdamage, selfHeal, hheal, adjust, hadjust, -⟩ := h
    exact ⟨Amount.exists_sum_eq_ok_iff.mp ⟨selfDamage, hdamage⟩,
      Amount.exists_sum_eq_ok_iff.mp ⟨selfHeal, hheal⟩,
      Amount.exists_fit_eq_ok_iff.mp ⟨adjust, hadjust⟩⟩
  · intro h
    obtain ⟨hdamage, hheal, hadjust⟩ := h
    obtain ⟨selfDamage, hdamage⟩ := Amount.exists_sum_eq_ok_iff.mpr hdamage
    obtain ⟨selfHeal, hheal⟩ := Amount.exists_sum_eq_ok_iff.mpr hheal
    obtain ⟨adjust, hadjust⟩ := Amount.exists_fit_eq_ok_iff.mpr hadjust
    exact ⟨_, selfDamage, hdamage, selfHeal, hheal, adjust, hadjust, rfl⟩

theorem cardOf_eq_error {opener : Move} {rest : List Move} {h : Halt Error}
    (hcard : cardOf combo t opener rest = .error h) : h = .overflow := by
  simp only [cardOf, Checked.bind_eq_error_iff] at hcard
  rcases hcard with hdamage | ⟨_, _, hheal | ⟨_, _, hadjust | ⟨_, _, hpure⟩⟩⟩
  · exact Amount.sum_eq_error hdamage
  · exact Amount.sum_eq_error hheal
  · exact Amount.fit_eq_error hadjust
  · cases hpure

/-- Steps that cannot be played to the end make no card. -/
theorem compile_of_play_error {steps : List Step} {h : Halt Error}
    (hparse : parse combo = .ok steps) (hplay : play r combo true {} steps = .error h) :
    compile r combo = .error h := by
  unfold compile
  rw [hparse]
  show (play r combo true {} steps >>= _) = _
  rw [hplay]
  rfl

/-- The card of steps that can is that of their moves. -/
theorem compile_of_play_ok {steps : List Step} {opener : Move} {rest : List Move} {total : Tally}
    (hparse : parse combo = .ok steps)
    (hplay : play r combo true {} steps = .ok (opener :: rest, total)) :
    compile r combo = cardOf combo total opener rest := by
  unfold compile
  rw [hparse]
  show (play r combo true {} steps >>= _) = _
  rw [hplay]
  rfl

/-- A card is made of the steps of the combo, played from the start. -/
theorem compile_eq_ok_iff {c : Card} :
    compile r combo = .ok c ↔
      ∃ steps opener rest total, parse combo = .ok steps ∧
        play r combo true {} steps = .ok (opener :: rest, total) ∧
        cardOf combo total opener rest = .ok c := by
  simp only [compile, Checked.bind_eq_ok_iff, Checked.mapError_eq_ok_iff]
  refine ⟨?_, ?_⟩
  · intro h
    obtain ⟨steps, hparse, ⟨ms, total⟩, hplay, hcard⟩ := h
    cases ms with
    | nil => cases hcard
    | cons opener rest => exact ⟨steps, opener, rest, total, hparse, hplay, hcard⟩
  · intro h
    obtain ⟨steps, opener, rest, total, hparse, hplay, hcard⟩ := h
    exact ⟨steps, hparse, (opener :: rest, total), hplay, hcard⟩

/-- A combo is refused for the way it is written or for one of its steps. -/
theorem compile_eq_refused_iff {e : Error} :
    compile r combo = .error (.refused e) ↔
      parse combo = .error e ∨
        ∃ steps, parse combo = .ok steps ∧ play r combo true {} steps = .error (.refused e) := by
  simp only [compile, Checked.bind_eq_error_iff, Checked.mapError_eq_ok_iff,
    Checked.mapError_eq_error_iff]
  refine ⟨?_, ?_⟩
  · intro h
    rcases h with ⟨e', hparse, he⟩ | ⟨steps, hparse, hplay | ⟨⟨ms, total⟩, hplay, hcard⟩⟩
    · cases he
      exact Or.inl hparse
    · exact Or.inr ⟨steps, hparse, hplay⟩
    · cases ms with
      | nil =>
          -- There is a step, so there is a move.
          have hlen := length_play hplay
          exact absurd (List.length_eq_zero_iff.mp hlen.symm) (parse_eq_ok hparse).1
      | cons opener rest => cases cardOf_eq_error hcard
  · intro h
    rcases h with hparse | ⟨steps, hparse, hplay⟩
    · exact Or.inl ⟨e, hparse, rfl⟩
    · exact Or.inr ⟨steps, hparse, Or.inl hplay⟩

/-- A patched card is one that does not give cards. -/
theorem compilePatched_eq_ok_iff {p : Patch} {c : Card} :
    compilePatched r combo p = .ok c ↔
      ∃ c₀, compile r combo = .ok c₀ ∧ c = c₀.apply p ∧ c.adjust.toInt ≤ 0 := by
  unfold compilePatched
  rw [Checked.bind_eq_ok_iff]
  refine ⟨?_, ?_⟩
  · intro h
    obtain ⟨c₀, hc₀, h⟩ := h
    dsimp only at h
    split at h
    · cases h
    · rename_i hle
      cases h
      exact ⟨c₀, hc₀, rfl, Int.not_lt.mp hle⟩
  · intro h
    obtain ⟨c₀, hc₀, rfl, hle⟩ := h
    refine ⟨c₀, hc₀, ?_⟩
    dsimp only
    rw [if_neg (Int.not_lt.mpr hle)]
    rfl

end Combo

end Sparring
