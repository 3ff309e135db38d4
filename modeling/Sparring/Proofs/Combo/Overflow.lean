/-
When a combo runs out of numbers.

For combos of moves without negative numbers the answer needs no look at the order in
which the compiler adds.  The damage and the cost of the steps before the first fault
decide, exact and taken together; and if there is no fault, what the player does to himself
decides as well.  Where nothing overflows, the fault is the answer, or the card has the
exact numbers on it.

Such a card can always answer an attack.  The cost is at most the greatest amount, so the
card shows at least its negative, and one below that is still an amount: the range has one
more number below zero than above it.
-/
import Sparring.Proofs.Bot.Assembly
import Sparring.Proofs.Combo.Bill

namespace Sparring.Combo

variable {r : Registry} {combo : String} {steps : List Step} {t total : Tally} {c : Card}

theorem tally_nonneg_start : Tally.Nonneg {} := by
  constructor <;> decide

theorem hasRoom_start {b : Bill} :
    Tally.HasRoom {} b ↔ b.damage ≤ Amount.greatest ∧ b.cost ≤ Amount.greatest := by
  simp [Tally.HasRoom]

/-- The moves of steps are moves of the registry. -/
theorem valid_of_moves {ms : List Move} (hvalid : ∀ m ∈ r.moves, m.Valid)
    (hmoves : steps.map (fun s => r.get? s.name) = ms.map some) : ∀ m ∈ ms, m.Valid := by
  intro m hm
  have hsome : some m ∈ steps.map (fun s => r.get? s.name) := by
    rw [hmoves]
    exact List.mem_map_of_mem hm
  obtain ⟨s, -, hget⟩ := List.mem_map.mp hsome
  exact hvalid m (Registry.mem_of_get? hget)

/-! ### The last sums -/

theorem stats_nonneg {ms : List Move} (hms : ∀ m ∈ ms, m.Valid) (s : Stat) :
    ∀ n ∈ ms.map (·.stat s), 0 ≤ n.toInt := by
  intro n hn
  obtain ⟨m, hm, rfl⟩ := List.mem_map.mp hn
  exact (hms m hm).stat_nonneg s

/-- Of moves without negative numbers only the whole sums can miss. -/
theorem exists_cardOf_eq_ok_iff_of_valid {opener : Move} {rest : List Move}
    (hms : ∀ m ∈ opener :: rest, m.Valid) (hcost : 0 ≤ total.cost.toInt) :
    (∃ c, cardOf combo total opener rest = .ok c) ↔
      Amount.total ((opener :: rest).map (·.selfDamage)) ≤ Amount.greatest ∧
        Amount.total ((opener :: rest).map (·.selfHeal)) ≤ Amount.greatest := by
  have hdamage : ∀ n ∈ (opener :: rest).map (·.selfDamage), 0 ≤ n.toInt :=
    stats_nonneg hms .selfDamage
  have hheal : ∀ n ∈ (opener :: rest).map (·.selfHeal), 0 ≤ n.toInt :=
    stats_nonneg hms .selfHeal
  have hadjust : Amount.InRange (-total.cost.toInt) := by
    have hle := total.cost.le_greatest
    unfold Amount.InRange Amount.least
    unfold Amount.greatest at hle ⊢
    omega
  rw [exists_cardOf_eq_ok_iff]
  refine ⟨?_, ?_⟩
  · intro h
    obtain ⟨hd, hh, -⟩ := h
    have hd' := (hd ((opener :: rest).map (·.selfDamage)).length).2
    have hh' := (hh ((opener :: rest).map (·.selfHeal)).length).2
    rw [List.take_length] at hd' hh'
    exact ⟨hd', hh'⟩
  · intro h
    obtain ⟨hd, hh⟩ := h
    exact ⟨Amount.inRange_total_take hdamage hd, Amount.inRange_total_take hheal hh, hadjust⟩

/-! ### The card -/

/-- A card that shows the negative of an amount can answer. -/
theorem exists_asHitback_eq_ok (h : -Amount.greatest ≤ c.adjust.toInt) :
    ∃ a, (c.asHitback : Checked Error Card) = .ok a := by
  have hle := c.adjust.le_greatest
  have hrange : Amount.InRange c.answerPrice := by
    unfold Card.answerPrice Amount.InRange Amount.least
    unfold Amount.greatest at h hle ⊢
    split <;> omega
  obtain ⟨a, ha⟩ := Amount.exists_fit_eq_ok_iff.mpr hrange
  rw [Card.asHitback_eq]
  exact ⟨_, Checked.map_eq_ok_iff.mpr ⟨a, ha, rfl⟩⟩

/-- What becomes of a combo whose steps can all be played. -/
theorem compile_of_played (hvalid : ∀ m ∈ r.moves, m.Valid) (hparse : parse combo = .ok steps)
    {ms : List Move} (hplay : play r combo true {} steps = .ok (ms, total)) :
    (compile r combo = .error .overflow ↔
      Amount.greatest < (bill r true steps).selfDamage ∨
        Amount.greatest < (bill r true steps).selfHeal) ∧
    (compile r combo ≠ .error .overflow →
      ∃ c, compile r combo = .ok c ∧ Billed (bill r true steps) c) := by
  obtain ⟨opener, rest, rfl⟩ : ∃ opener rest, ms = opener :: rest := by
    have hlen := length_play hplay
    cases ms with
    | nil => exact absurd (List.length_eq_zero_iff.mp hlen.symm) (parse_eq_ok hparse).1
    | cons opener rest => exact ⟨opener, rest, rfl⟩
  have hmoves := moves_of_play steps hplay
  have hgrown := grown_of_play steps hplay
  have hcost := (hgrown.nonneg tally_nonneg_start (bill_nonneg hvalid steps true)).2
  obtain ⟨hselfDamage, hselfHeal⟩ := self_of_moves steps true hmoves
  have hsums : (∃ c, cardOf combo total opener rest = .ok c) ↔
      (bill r true steps).selfDamage ≤ Amount.greatest ∧
        (bill r true steps).selfHeal ≤ Amount.greatest := by
    rw [← hselfDamage, ← hselfHeal]
    exact exists_cardOf_eq_ok_iff_of_valid (valid_of_moves hvalid hmoves) hcost
  rw [compile_of_play_ok hparse hplay]
  cases hcard : cardOf combo total opener rest with
  | ok c =>
      obtain ⟨hd, hh⟩ := hsums.mp ⟨c, hcard⟩
      refine ⟨?_, fun _ => ⟨c, rfl, billed_of_cardOf hplay hcard⟩⟩
      refine ⟨?_, ?_⟩
      · intro h
        cases h
      · intro h
        omega
  | error halt =>
      cases cardOf_eq_error hcard
      refine ⟨⟨fun _ => ?_, fun _ => rfl⟩, fun hne => absurd rfl hne⟩
      by_cases hfit : (bill r true steps).selfDamage ≤ Amount.greatest ∧
          (bill r true steps).selfHeal ≤ Amount.greatest
      · obtain ⟨c, hc⟩ := hsums.mpr hfit
        cases hcard.symm.trans hc
      · omega

/--
**Only exact totals matter.**  Let `k` be the position of the first step at fault, and
`due` the exact bill of the steps before it.  The combo overflows if and only if there is
no number for the damage or the cost that is due, or `k` is the end and there is none for
what the player does to himself.  Otherwise the answer is the fault of step `k` or, if `k`
is the end, a card with the exact numbers on it, which can be made an answer to an attack.
-/
theorem only_exact_totals_overflow (r : Registry) (hvalid : ∀ m ∈ r.moves, m.Valid)
    (combo : String) (steps : List Step) (hparse : parse combo = .ok steps) :
    let k := faultAt r combo steps
    let due := bill r true (steps.take k)
    (compile r combo = .error .overflow ↔
      Amount.greatest < due.damage ∨ Amount.greatest < due.cost ∨
        (k = steps.length ∧
          (Amount.greatest < due.selfDamage ∨ Amount.greatest < due.selfHeal))) ∧
    (compile r combo ≠ .error .overflow →
      (∀ h : k < steps.length, ∃ e, steps[k].fault? r combo = some e ∧
        compile r combo = .error (.refused e)) ∧
      (k = steps.length → ∃ c, compile r combo = .ok c ∧ Billed due c ∧
        ∃ a, (c.asHitback : Checked Error Card) = .ok a)) := by
  intro k due
  have hends : Ends r combo true {} steps (play r combo true {} steps) :=
    play_ends hvalid steps tally_nonneg_start
  have hroom : Tally.HasRoom {} due ↔ due.damage ≤ Amount.greatest ∧ due.cost ≤ Amount.greatest :=
    hasRoom_start
  have hdue : due.Nonneg := bill_nonneg hvalid _ true
  generalize hplay : play r combo true {} steps = outcome at hends
  cases hends with
  | overflow short =>
      have hcompile := compile_of_play_error hparse hplay
      have hshort : ¬ (due.damage ≤ Amount.greatest ∧ due.cost ≤ Amount.greatest) :=
        fun h => short (hroom.mpr h)
      refine ⟨⟨fun _ => by omega, fun _ => hcompile⟩, fun hne => absurd hcompile hne⟩
  | @refused x e room found fault =>
      have hcompile := compile_of_play_error hparse hplay
      obtain ⟨hdamage, hcost⟩ := hroom.mp room
      obtain ⟨hlt, hx⟩ := List.getElem?_eq_some_iff.mp found
      have hk : k < steps.length := hlt
      refine ⟨⟨?_, ?_⟩, fun _ => ⟨fun _ => ?_, fun hend => by omega⟩⟩
      · intro h
        cases hcompile.symm.trans h
      · intro h
        omega
      · exact ⟨e, by rw [← fault, ← hx], hcompile⟩
  | @played ms total room all =>
      obtain ⟨hdamage, hcost⟩ := hroom.mp room
      have hbill : due = bill r true steps := congrArg (bill r true) (sound_eq_self all)
      have hk : k = steps.length := all
      obtain ⟨hoverflow, hcard⟩ := compile_of_played hvalid hparse hplay
      rw [← hbill] at hoverflow hcard
      refine ⟨?_, fun hne => ⟨fun hlt => by omega, fun _ => ?_⟩⟩
      · rw [hoverflow]
        omega
      · obtain ⟨c, hc, hbilled⟩ := hcard hne
        have hadjust := hbilled.adjust
        exact ⟨c, hc, hbilled, exists_asHitback_eq_ok (by omega)⟩

/-- The greatest damage there is, a little more, and a move that nobody knows: whichever of
the last two stands first is the answer. -/
theorem only_exact_totals_overflow_race :
    let r : Registry := .ofList [('M', .strike 2147483647 1), ('A', .strike 3 8)]
    (∀ m ∈ r.moves, m.Valid) ∧ compile r "MAQ" = .error .overflow ∧
      compile r "MQA" = .error (.refused (.unknownMove 'Q' "MQA")) := by
  intro r
  have hvalid : ∀ m ∈ r.moves, m.Valid := by
    have hnone : ∀ m ∈ r.moves, m.firstNegative? = none := by decide
    exact fun m hm => Move.firstNegative?_eq_none_iff.mp (hnone m hm)
  obtain ⟨hoverflow, -⟩ := only_exact_totals_overflow r hvalid "MAQ" [⟨'M', 0⟩, ⟨'A', 0⟩, ⟨'Q', 0⟩]
    (by rfl)
  obtain ⟨-, hfits⟩ := only_exact_totals_overflow r hvalid "MQA" [⟨'M', 0⟩, ⟨'Q', 0⟩, ⟨'A', 0⟩]
    (by rfl)
  obtain ⟨e, he, hrefused⟩ := (hfits (by decide)).1 (by decide)
  have hfault : e = .unknownMove 'Q' "MQA" := Option.some.inj (he.symm.trans (by rfl))
  rw [hfault] at hrefused
  exact ⟨hvalid, hoverflow.mpr (Or.inl (by decide)), hrefused⟩

end Sparring.Combo
