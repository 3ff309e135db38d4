/-
What a combo comes to, and whether there are numbers for it.

The compiler adds up in numbers of a fixed width, and it does so in many small sums: the
tiers of a step, the step, the damage so far, the cost so far, and in the end what the
player does to himself.  Each of them may leave the range, and each step may be at fault,
and whichever comes first is the answer.

`Bill` is the same in exact integers, and there only the last line counts.  If no move has
a negative number, the sums on the way only grow, so that none of them leaves the range
unless the last one does.  `play_ends` says what follows for the race: look at the bill of
the steps before the first one at fault.  If there are numbers for it, the combo gets as
far as the fault or to its end, and otherwise it overflows.
-/
import Sparring.Proofs.Combo.Score

namespace Sparring.Combo

/-! ### The exact bill -/

/-- What steps come to, in exact integers. -/
structure Bill where
  damage : Int := 0
  cost : Int := 0
  selfDamage : Int := 0
  selfHeal : Int := 0
deriving DecidableEq, Repr

namespace Bill

/-- Two bills in one. -/
def add (b c : Bill) : Bill where
  damage := b.damage + c.damage
  cost := b.cost + c.cost
  selfDamage := b.selfDamage + c.selfDamage
  selfHeal := b.selfHeal + c.selfHeal

@[simp] theorem damage_add (b c : Bill) : (b.add c).damage = b.damage + c.damage := rfl

@[simp] theorem cost_add (b c : Bill) : (b.add c).cost = b.cost + c.cost := rfl

@[simp] theorem selfDamage_add (b c : Bill) :
    (b.add c).selfDamage = b.selfDamage + c.selfDamage := rfl

@[simp] theorem selfHeal_add (b c : Bill) : (b.add c).selfHeal = b.selfHeal + c.selfHeal := rfl

theorem zero_add (b : Bill) : add {} b = b := by
  simp [add]

theorem add_zero (b : Bill) : b.add {} = b := by
  simp [add]

theorem add_assoc (b c d : Bill) : (b.add c).add d = b.add (c.add d) := by
  simp [add, Int.add_assoc]

/-- Nothing on the bill is below zero. -/
structure Nonneg (b : Bill) : Prop where
  damage : 0 ≤ b.damage
  cost : 0 ≤ b.cost
  selfDamage : 0 ≤ b.selfDamage
  selfHeal : 0 ≤ b.selfHeal

theorem nonneg_zero : Nonneg {} := by
  constructor <;> decide

theorem Nonneg.add {b c : Bill} (hb : b.Nonneg) (hc : c.Nonneg) : (b.add c).Nonneg where
  damage := Int.add_nonneg hb.damage hc.damage
  cost := Int.add_nonneg hb.cost hc.cost
  selfDamage := Int.add_nonneg hb.selfDamage hc.selfDamage
  selfHeal := Int.add_nonneg hb.selfHeal hc.selfHeal

end Bill

/-- What a step comes to with its pumps; a step of no known move comes to nothing. -/
def Step.bill (r : Registry) (opens : Bool) (s : Step) : Bill :=
  match r.get? s.name with
  | none => {}
  | some m => {
      damage := m.damage.toInt + Amount.total (m.pumps.take s.pumps)
      cost := Score.price opens m
      selfDamage := m.selfDamage.toInt
      selfHeal := m.selfHeal.toInt }

/-- What steps come to, the first of which opens the combo or does not. -/
def bill (r : Registry) (opens : Bool) : List Step → Bill
  | [] => {}
  | s :: rest => (s.bill r opens).add (bill r false rest)

variable {r : Registry} {combo : String} {s : Step} {m : Move} {opens : Bool} {t total : Tally}
  {steps : List Step} {c : Card}

@[simp] theorem bill_nil : bill r opens [] = {} := rfl

@[simp] theorem bill_cons (rest : List Step) :
    bill r opens (s :: rest) = (s.bill r opens).add (bill r false rest) := rfl

/-- A bill of steps one behind the other: only one of the two parts has the opener in it. -/
theorem bill_append (xs ys : List Step) :
    ∀ opens, bill r opens (xs ++ ys) = (bill r opens xs).add (bill r (opens && xs.isEmpty) ys) := by
  induction xs with
  | nil =>
      intro opens
      rw [List.nil_append, bill_nil, Bill.zero_add, List.isEmpty_nil, Bool.and_true]
  | cons s rest ih =>
      intro opens
      rw [List.cons_append, bill_cons, ih false, bill_cons, Bill.add_assoc, List.isEmpty_cons,
        Bool.and_false, Bool.false_and]

theorem Step.bill_of_get? (h : r.get? s.name = some m) :
    s.bill r opens = {
      damage := m.damage.toInt + Amount.total (m.pumps.take s.pumps)
      cost := Score.price opens m
      selfDamage := m.selfDamage.toInt
      selfHeal := m.selfHeal.toInt } := by
  unfold Step.bill
  rw [h]

theorem Score.price_nonneg (h : m.Valid) (first : Bool) : 0 ≤ price first m := by
  unfold price
  split
  · exact h.meter_nonneg
  · split <;> decide

theorem Step.bill_nonneg (hvalid : ∀ m ∈ r.moves, m.Valid) (opens : Bool) (s : Step) :
    (s.bill r opens).Nonneg := by
  cases h : r.get? s.name with
  | none =>
      have hzero : s.bill r opens = {} := by
        unfold Step.bill
        rw [h]
      rw [hzero]
      exact Bill.nonneg_zero
  | some m =>
      have hm : m.Valid := hvalid m (Registry.mem_of_get? h)
      have htiers : 0 ≤ Amount.total (m.pumps.take s.pumps) :=
        Amount.total_nonneg fun n hn => hm.pump_nonneg (List.mem_of_mem_take hn)
      rw [Step.bill_of_get? h]
      exact {
        damage := Int.add_nonneg (hm.stat_nonneg .damage) htiers
        cost := Score.price_nonneg hm opens
        selfDamage := hm.stat_nonneg .selfDamage
        selfHeal := hm.stat_nonneg .selfHeal }

theorem bill_nonneg (hvalid : ∀ m ∈ r.moves, m.Valid) (steps : List Step) :
    ∀ opens, (bill r opens steps).Nonneg := by
  induction steps with
  | nil => exact fun _ => Bill.nonneg_zero
  | cons s rest ih => exact fun opens => (s.bill_nonneg hvalid opens).add (ih false)

/-! ### A tally that exists is the bill -/

/-- The tally has grown by exactly what is on the bill. -/
structure Tally.Grown (t : Tally) (b : Bill) (t' : Tally) : Prop where
  damage : t'.damage.toInt = t.damage.toInt + b.damage
  cost : t'.cost.toInt = t.cost.toInt + b.cost

/-- A tally that has grown from nothing is the bill. -/
theorem Tally.grown_start_iff {b : Bill} :
    Tally.Grown {} b total ↔ total.damage.toInt = b.damage ∧ total.cost.toInt = b.cost := by
  refine ⟨?_, ?_⟩
  · intro h
    obtain ⟨hdamage, hcost⟩ := h
    exact ⟨by simpa using hdamage, by simpa using hcost⟩
  · intro h
    obtain ⟨hdamage, hcost⟩ := h
    exact ⟨by simpa using hdamage, by simpa using hcost⟩

theorem Tally.grown_of_add {t' : Tally} (hget : r.get? s.name = some m)
    (hadd : t.add opens m (m.pumps.take s.pumps) = .ok t') : t.Grown (s.bill r opens) t' := by
  obtain ⟨hdamage, hcost⟩ := Tally.add_eq_ok hadd
  rw [Step.bill_of_get? hget]
  refine ⟨?_, ?_⟩
  · show _ = _ + (_ + _)
    omega
  · show _ = _ + Score.price opens m
    rw [Score.price_eq_moveCost]
    exact hcost

theorem Tally.Grown.trans {t₁ t₂ : Tally} {b c : Bill} (h : t.Grown b t₁) (h' : t₁.Grown c t₂) :
    t.Grown (b.add c) t₂ := by
  obtain ⟨hdamage, hcost⟩ := h
  obtain ⟨hdamage', hcost'⟩ := h'
  refine ⟨?_, ?_⟩
  · rw [Bill.damage_add]
    omega
  · rw [Bill.cost_add]
    omega

theorem grown_of_play (steps : List Step) :
    ∀ {opens : Bool} {t total : Tally} {ms : List Move},
      play r combo opens t steps = .ok (ms, total) → t.Grown (bill r opens steps) total := by
  induction steps with
  | nil =>
      intro opens t total ms h
      cases h
      exact ⟨(Int.add_zero _).symm, (Int.add_zero _).symm⟩
  | cons s rest ih =>
      intro opens t total ms h
      obtain ⟨m, tiers, t', ms', hres, hadd, hplay, -⟩ := play_cons_eq_ok_iff.mp h
      obtain ⟨hget, -, rfl⟩ := Step.resolve_eq_ok_iff.mp hres
      exact (Tally.grown_of_add hget hadd).trans (ih hplay)

/-- What the moves of steps do to the player is on the bill of the steps. -/
theorem self_of_moves (steps : List Step) :
    ∀ (opens : Bool) {ms : List Move}, steps.map (fun s => r.get? s.name) = ms.map some →
      Amount.total (ms.map (·.selfDamage)) = (bill r opens steps).selfDamage ∧
        Amount.total (ms.map (·.selfHeal)) = (bill r opens steps).selfHeal := by
  induction steps with
  | nil =>
      intro opens ms h
      have hms : ms = [] := by simpa using h.symm
      subst hms
      exact ⟨rfl, rfl⟩
  | cons s rest ih =>
      intro opens ms h
      cases ms with
      | nil => cases h
      | cons m ms =>
          rw [List.map_cons, List.map_cons] at h
          obtain ⟨hget, hrest⟩ := List.cons.inj h
          obtain ⟨hdamage, hheal⟩ := ih false hrest
          rw [bill_cons, Step.bill_of_get? hget]
          refine ⟨?_, ?_⟩
          · rw [List.map_cons, Amount.total_cons, hdamage]
            rfl
          · rw [List.map_cons, Amount.total_cons, hheal]
            rfl

/-- The numbers on the card are those on the bill. -/
structure Billed (b : Bill) (c : Card) : Prop where
  damage : c.damage.toInt = b.damage
  adjust : c.adjust.toInt = -b.cost
  selfDamage : c.selfDamage.toInt = b.selfDamage
  selfHeal : c.selfHeal.toInt = b.selfHeal

/-- Whatever a card comes from, it has the exact bill of its combo on it. -/
theorem billed_of_cardOf {opener : Move} {rest : List Move}
    (hplay : play r combo true {} steps = .ok (opener :: rest, total))
    (hcard : cardOf combo total opener rest = .ok c) : Billed (bill r true steps) c := by
  obtain ⟨hdamage, hcost⟩ := Tally.grown_start_iff.mp (grown_of_play steps hplay)
  obtain ⟨hselfDamage, hselfHeal⟩ := self_of_moves steps true (moves_of_play steps hplay)
  obtain ⟨hc, hadjust⟩ := cardOf_eq_ok hcard
  obtain ⟨hc', hc''⟩ := self_of_cardOf hcard
  exact ⟨by rw [hc, hdamage], by rw [hadjust, hcost], hc'.trans hselfDamage,
    hc''.trans hselfHeal⟩

/-! ### The first fault -/

/-- What is wrong with a step, whatever stands before it. -/
def Step.fault? (r : Registry) (combo : String) (s : Step) : Option Error :=
  match r.get? s.name with
  | none => some (.unknownMove s.name combo)
  | some m =>
    if s.pumps ≤ m.pumps.length then none
    else some (.pumpOverflow m.name s.pumps m.pumps.length combo)

/-- The position of the first step at fault; the number of steps if there is none. -/
def faultAt (r : Registry) (combo : String) (steps : List Step) : Nat :=
  steps.findIdx fun s => (s.fault? r combo).isSome

/-- The steps before the first one at fault. -/
def sound (r : Registry) (combo : String) (steps : List Step) : List Step :=
  steps.take (faultAt r combo steps)

theorem Step.resolve_of_fault? {e : Error} (h : s.fault? r combo = some e) :
    s.resolve r combo = .error e := by
  rw [Step.resolve_eq_error_iff]
  unfold Step.fault? at h
  split at h
  · rename_i hget
    exact Or.inl ⟨hget, (Option.some.inj h).symm⟩
  · rename_i m hget
    split at h
    · cases h
    · rename_i hlt
      exact Or.inr ⟨m, hget, Nat.lt_of_not_le hlt, (Option.some.inj h).symm⟩

theorem Step.fault?_eq_none_iff :
    s.fault? r combo = none ↔ ∃ m, r.get? s.name = some m ∧ s.pumps ≤ m.pumps.length := by
  unfold Step.fault?
  cases r.get? s.name with
  | none => simp
  | some m => simp

theorem faultAt_cons_of_some {rest : List Step} {e : Error} (h : s.fault? r combo = some e) :
    faultAt r combo (s :: rest) = 0 := by
  unfold faultAt
  rw [List.findIdx_cons, h]
  rfl

theorem faultAt_cons_of_none {rest : List Step} (h : s.fault? r combo = none) :
    faultAt r combo (s :: rest) = faultAt r combo rest + 1 := by
  unfold faultAt
  rw [List.findIdx_cons, h]
  rfl

theorem sound_cons_of_none {rest : List Step} (h : s.fault? r combo = none) :
    sound r combo (s :: rest) = s :: sound r combo rest := by
  unfold sound
  rw [faultAt_cons_of_none h, List.take_succ_cons]

theorem sound_eq_self {steps : List Step} (h : faultAt r combo steps = steps.length) :
    sound r combo steps = steps := by
  unfold sound
  rw [h, List.take_length]

/-! ### The race -/

/-- There are numbers for what is on the bill, on top of the tally. -/
def Tally.HasRoom (t : Tally) (b : Bill) : Prop :=
  t.damage.toInt + b.damage ≤ Amount.greatest ∧ t.cost.toInt + b.cost ≤ Amount.greatest

/-- A tally that has not sunk below zero. -/
def Tally.Nonneg (t : Tally) : Prop := 0 ≤ t.damage.toInt ∧ 0 ≤ t.cost.toInt

theorem Tally.hasRoom_zero (t : Tally) : t.HasRoom {} := by
  refine ⟨?_, ?_⟩
  · rw [Int.add_zero]
    exact t.damage.le_greatest
  · rw [Int.add_zero]
    exact t.cost.le_greatest

theorem Tally.Grown.nonneg {t' : Tally} {b : Bill} (h : t.Grown b t') (ht : t.Nonneg)
    (hb : b.Nonneg) : t'.Nonneg := by
  obtain ⟨hdamage, hcost⟩ := h
  obtain ⟨htd, htc⟩ := ht
  have hbd := hb.damage
  have hbc := hb.cost
  refine ⟨?_, ?_⟩
  · omega
  · omega

/-- What there is room for does not depend on how much of it has been added already. -/
theorem Tally.Grown.hasRoom_iff {t' : Tally} {b : Bill} (h : t.Grown b t') (c : Bill) :
    t'.HasRoom c ↔ t.HasRoom (b.add c) := by
  obtain ⟨hdamage, hcost⟩ := h
  unfold Tally.HasRoom
  rw [Bill.damage_add, Bill.cost_add]
  omega

/-- A longer bill needs more room. -/
theorem Tally.HasRoom.of_add {b c : Bill} (h : t.HasRoom (b.add c)) (hc : c.Nonneg) :
    t.HasRoom b := by
  obtain ⟨hdamage, hcost⟩ := h
  have hcd := hc.damage
  have hcc := hc.cost
  rw [Bill.damage_add] at hdamage
  rw [Bill.cost_add] at hcost
  refine ⟨?_, ?_⟩
  · omega
  · omega

/-- If nothing is below zero, a step can be added as soon as there is room for all of it. -/
theorem Tally.exists_add_eq_ok_of_hasRoom (ht : t.Nonneg) (hm : m.Valid)
    (hget : r.get? s.name = some m) (hroom : t.HasRoom (s.bill r opens)) :
    ∃ t', t.add opens m (m.pumps.take s.pumps) = .ok t' := by
  have htiers : ∀ n ∈ m.pumps.take s.pumps, 0 ≤ n.toInt :=
    fun n hn => hm.pump_nonneg (List.mem_of_mem_take hn)
  have htotal := Amount.total_nonneg htiers
  have hdamage : 0 ≤ m.damage.toInt := hm.stat_nonneg .damage
  have hprice := Score.price_nonneg hm opens
  have hcost := Score.price_eq_moveCost opens m
  obtain ⟨htd, htc⟩ := ht
  obtain ⟨hroomd, hroomc⟩ := hroom
  rw [Step.bill_of_get? hget] at hroomd hroomc
  dsimp only at hroomd hroomc
  refine Tally.exists_add_eq_ok_iff.mpr ⟨?_, ?_, ?_, ?_⟩
  · exact Amount.inRange_total_take htiers (by omega)
  · exact Amount.inRange_of_nonneg (by omega) (by omega)
  · exact Amount.inRange_of_nonneg (by omega) (by omega)
  · exact Amount.inRange_of_nonneg (by omega) (by omega)

/-- How steps that are played on top of a tally end. -/
inductive Ends (r : Registry) (combo : String) (opens : Bool) (t : Tally) (steps : List Step) :
    Checked Error (List Move × Tally) → Prop where
  /-- The steps before the first fault come to more than there are numbers for. -/
  | overflow (short : ¬ t.HasRoom (bill r opens (sound r combo steps))) :
      Ends r combo opens t steps (.error .overflow)
  /-- They do not, and then comes the fault. -/
  | refused {x : Step} {e : Error} (room : t.HasRoom (bill r opens (sound r combo steps)))
      (found : steps[faultAt r combo steps]? = some x) (fault : x.fault? r combo = some e) :
      Ends r combo opens t steps (.error (.refused e))
  /-- They do not, and they are all there are. -/
  | played {ms : List Move} {total : Tally}
      (room : t.HasRoom (bill r opens (sound r combo steps)))
      (all : faultAt r combo steps = steps.length) :
      Ends r combo opens t steps (.ok (ms, total))

/-- A step at fault ends the combo. -/
theorem ends_cons_of_fault {rest : List Step} {e : Error} (h : s.fault? r combo = some e) :
    Ends r combo opens t (s :: rest) (play r combo opens t (s :: rest)) := by
  have hplay : play r combo opens t (s :: rest) = .error (.refused e) :=
    play_cons_eq_refused_iff.mpr (Or.inl (Step.resolve_of_fault? h))
  rw [hplay]
  have hzero : faultAt r combo (s :: rest) = 0 := faultAt_cons_of_some h
  refine .refused ?_ (x := s) ?_ h
  · unfold sound
    rw [hzero]
    exact t.hasRoom_zero
  · rw [hzero]
    rfl

/-- Of steps without negative numbers the exact bill before the first fault decides. -/
theorem play_ends (hvalid : ∀ m ∈ r.moves, m.Valid) (steps : List Step) :
    ∀ {opens : Bool} {t : Tally}, t.Nonneg →
      Ends r combo opens t steps (play r combo opens t steps) := by
  induction steps with
  | nil => exact fun {opens t} _ => .played t.hasRoom_zero rfl
  | cons s rest ih =>
      intro opens t ht
      cases hfault : s.fault? r combo with
      | some e => exact ends_cons_of_fault hfault
      | none =>
          obtain ⟨m, hget, hle⟩ := Step.fault?_eq_none_iff.mp hfault
          have hres : s.resolve r combo = .ok (m, m.pumps.take s.pumps) :=
            Step.resolve_eq_ok_iff.mpr ⟨hget, hle, rfl⟩
          have hm : m.Valid := hvalid m (Registry.mem_of_get? hget)
          have hsound : bill r opens (sound r combo (s :: rest)) =
              (s.bill r opens).add (bill r false (sound r combo rest)) := by
            rw [sound_cons_of_none hfault, bill_cons]
          cases hadd : t.add opens m (m.pumps.take s.pumps) with
          | error halt =>
              cases Tally.add_eq_error hadd
              rw [play_cons_eq_overflow_iff.mpr ⟨m, _, hres, Or.inl hadd⟩]
              refine .overflow ?_
              intro hroom
              rw [hsound] at hroom
              obtain ⟨t', ht'⟩ := Tally.exists_add_eq_ok_of_hasRoom ht hm hget
                (hroom.of_add (bill_nonneg hvalid _ false))
              cases hadd.symm.trans ht'
          | ok t' =>
              have hgrown := Tally.grown_of_add hget hadd
              have hrest : Ends r combo false t' rest (play r combo false t' rest) :=
                ih (hgrown.nonneg ht (s.bill_nonneg hvalid opens))
              have hroom := hgrown.hasRoom_iff (bill r false (sound r combo rest))
              rw [← hsound] at hroom
              generalize hplay : play r combo false t' rest = outcome at hrest
              cases hrest with
              | overflow short =>
                  rw [play_cons_eq_overflow_iff.mpr ⟨m, _, hres, Or.inr ⟨t', hadd, hplay⟩⟩]
                  exact .overflow fun h => short (hroom.mpr h)
              | refused room found fault =>
                  rw [play_cons_eq_refused_iff.mpr (Or.inr ⟨m, _, t', hres, hadd, hplay⟩)]
                  refine .refused (hroom.mp room) ?_ fault
                  rw [faultAt_cons_of_none hfault]
                  exact found
              | played room all =>
                  rw [play_cons_eq_ok_iff.mpr ⟨m, _, t', _, hres, hadd, hplay, rfl⟩]
                  refine .played (hroom.mp room) ?_
                  rw [faultAt_cons_of_none hfault, all, List.length_cons]

end Sparring.Combo
