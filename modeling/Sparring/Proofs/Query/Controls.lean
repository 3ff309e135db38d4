/-
Where the controls lead.

A run of the controls starts with a new state, and every state on its way lies on the table:
no step of the hand is so large that its sum overflows, and after a step hand and roll are
back within their bounds.

The controls do not get in each other's way.  Each changes a part of the state that no other
one reads, so what a run makes of a part can be told from the moves of one control alone:
the hand from the steps of the hand, the roll from those of the roll, the mode from the modes
selected, a switch from how often it was flipped.  `Leads` says that, and as it says something
of every part of the state, it says where the run ends.  So two runs that move every control
in the same way, and only differ in whose turn it is, end in the same state.
-/
import Sparring.Proofs.Query.Range
import Sparring.Query.Control

namespace Sparring

/-! ### The moves of one control -/

/-- What a player can put a hand to. -/
inductive Knob where
  | clamp
  | hand
  | roll
  | mode
  | desperate
  | hitback
deriving DecidableEq, Repr

namespace Control

/-- The knob that is turned. -/
def knob : Control → Knob
  | clamp => .clamp
  | stepHand _ => .hand
  | stepChoice _ => .roll
  | toggle _ => .mode
  | flipDesperate => .desperate
  | flipHitback => .hitback

/-- The cards by which the hand is stepped. -/
def handStep? : Control → Option Int
  | stepHand delta => some delta.toInt
  | _ => none

/-- The faces by which the roll is stepped. -/
def rollStep? : Control → Option Int
  | stepChoice delta => some delta.toInt
  | _ => none

/-- The mode that is selected. -/
def selected? : Control → Option Mode
  | toggle m => some m
  | _ => none

/-- The moves of one knob, in order. -/
def movesOf (k : Knob) (controls : List Control) : List Control := controls.filter (·.knob = k)

variable {k : Knob} {controls : List Control}

theorem movesOf_append (k : Knob) (cs ds : List Control) :
    movesOf k (cs ++ ds) = movesOf k cs ++ movesOf k ds := List.filter_append cs ds

/-- What only one knob has can be told from its moves. -/
theorem filterMap_movesOf {α : Type} {f : Control → Option α} (hf : ∀ c, c.knob ≠ k → f c = none) :
    (movesOf k controls).filterMap f = controls.filterMap f := by
  rw [movesOf, List.filterMap_filter]
  congr 1
  funext c
  by_cases hc : c.knob = k
  · simp [hc]
  · simp [hc, hf c hc]

/-- A move that cannot overflow from the table. Only the hand can be stepped too far. -/
def Bounded : Control → Prop
  | stepHand delta => delta.toInt ≤ Amount.greatest - 12
  | _ => True

theorem mem_movesOf {c : Control} : c ∈ movesOf c.knob controls ↔ c ∈ controls := by
  simp [movesOf]

theorem handStep?_eq_none (c : Control) (h : c.knob ≠ .hand) : handStep? c = none := by
  cases c <;> simp_all [knob, handStep?]

theorem rollStep?_eq_none (c : Control) (h : c.knob ≠ .roll) : rollStep? c = none := by
  cases c <;> simp_all [knob, rollStep?]

theorem selected?_eq_none (c : Control) (h : c.knob ≠ .mode) : selected? c = none := by
  cases c <;> simp_all [knob, selected?]

end Control

namespace State

/-! ### Steps, one after another -/

/-- A number after steps, held between two bounds at each of them. -/
def stepped (lo hi start : Int) (deltas : List Int) : Int :=
  deltas.foldl (fun n delta => clampInt lo hi (n + delta)) start

/-- A switch after so many flips. -/
def flipped (on : Bool) (flips : List Control) : Bool := flips.foldl (fun on _ => !on) on

/-- What a run of the controls makes of each part of a state. -/
structure Leads (s : State) (controls : List Control) (t : State) : Prop where
  hand : (t.handSize.toNat : Int) =
    stepped 5 12 s.handSize.toNat (controls.filterMap Control.handStep?)
  roll : (t.choiceIndex.toNat : Int) =
    stepped 0 7 s.choiceIndex.toNat (controls.filterMap Control.rollStep?)
  mode : t.mode = (controls.filterMap Control.selected?).foldl Mode.toggle s.mode
  desperate : t.desperate = flipped s.desperate (Control.movesOf .desperate controls)
  hitback : t.hitback = flipped s.hitback (Control.movesOf .hitback controls)

namespace Leads

variable {s t u : State} {cs ds : List Control}

theorem nil (s : State) : Leads s [] s := ⟨rfl, rfl, rfl, rfl, rfl⟩

theorem append (h : Leads s cs t) (h' : Leads t ds u) : Leads s (cs ++ ds) u where
  hand := by
    rw [h'.hand, h.hand, List.filterMap_append]
    exact List.foldl_append.symm
  roll := by
    rw [h'.roll, h.roll, List.filterMap_append]
    exact List.foldl_append.symm
  mode := by rw [h'.mode, h.mode, List.filterMap_append, List.foldl_append]
  desperate := by
    rw [h'.desperate, h.desperate, Control.movesOf_append]
    exact List.foldl_append.symm
  hitback := by
    rw [h'.hitback, h.hitback, Control.movesOf_append]
    exact List.foldl_append.symm

/-- A run leads to one state. -/
theorem unique (h : Leads s cs t) (h' : Leads s cs u) : t = u := by
  refine ext_toNat ?_ ?_ ?_ ?_ ?_
  · have hhand := h.hand.trans h'.hand.symm
    omega
  · have hroll := h.roll.trans h'.roll.symm
    omega
  · exact h.mode.trans h'.mode.symm
  · exact h.desperate.trans h'.desperate.symm
  · exact h.hitback.trans h'.hitback.symm

/-- Where a run leads hangs on the moves of each knob and not on how they are mixed. -/
theorem of_movesOf_eq (h : Leads s cs t)
    (hmoves : ∀ k, Control.movesOf k ds = Control.movesOf k cs) : Leads s ds t where
  hand := by
    rw [h.hand, ← Control.filterMap_movesOf Control.handStep?_eq_none, ← hmoves,
      Control.filterMap_movesOf Control.handStep?_eq_none]
  roll := by
    rw [h.roll, ← Control.filterMap_movesOf Control.rollStep?_eq_none, ← hmoves,
      Control.filterMap_movesOf Control.rollStep?_eq_none]
  mode := by
    rw [h.mode, ← Control.filterMap_movesOf Control.selected?_eq_none, ← hmoves,
      Control.filterMap_movesOf Control.selected?_eq_none]
  desperate := by rw [h.desperate, hmoves]
  hitback := by rw [h.hitback, hmoves]

end Leads

/-! ### One move -/

variable {s : State} {delta : Int32}

/-- A step of the hand, if its sum does not overflow. -/
theorem stepHand?_of_le (h : s.handSize.toNat + delta.toInt ≤ Amount.greatest) :
    ∃ hand, s.stepHand? delta = some { s with handSize := hand } ∧
      (hand.toNat : Int) = clampInt 5 12 (s.handSize.toNat + delta.toInt) := by
  have hleast := Amount.least_le delta
  obtain ⟨n, hn⟩ : ∃ n, Amount.fit? (s.handSize.toNat + delta.toInt) = some n := by
    cases hn : Amount.fit? (s.handSize.toNat + delta.toInt) with
    | some n => exact ⟨n, rfl⟩
    | none =>
        have := Amount.fit?_eq_none_iff.mp hn
        omega
  refine ⟨UInt8.ofNat (clampInt 5 12 n.toInt).toNat, ?_, ?_⟩
  · rw [stepHand?, hn]
    rfl
  · have hbounds := clampInt_bounds (show (5 : Int) ≤ 12 by decide) n.toInt
    rw [← Amount.fit?_eq_some_iff.mp hn, UInt8.toNat_ofNat_of_lt' (by rw [UInt8.size]; omega)]
    omega

/-- A step of the roll, if its sum does not overflow. -/
theorem stepChoice?_of_fits (h : Width.Fits64 (s.choiceIndex.toInt64.toInt + delta.toInt)) :
    ∃ roll, s.stepChoice? delta = some { s with choiceIndex := roll } ∧
      (roll.toNat : Int) = clampInt 0 7 (s.choiceIndex.toInt64.toInt + delta.toInt) := by
  refine ⟨_, if_pos h, ?_⟩
  have hbounds := clampInt_bounds (show (0 : Int) ≤ 7 by decide)
    (s.choiceIndex.toInt64.toInt + delta.toInt)
  show ((UInt64.ofNat (clampInt 0 7 _).toNat).toNat : Int) = _
  rw [UInt64.toNat_ofNat_of_lt' (by rw [UInt64.size]; omega)]
  omega

/-- On the table a roll is read as the number that it is. -/
theorem InRange.toInt_choiceIndex (h : s.InRange) :
    s.choiceIndex.toInt64.toInt = s.choiceIndex.toNat := by
  have hlt := h.lt_faces
  show s.choiceIndex.toBitVec.toInt = _
  refine BitVec.toInt_eq_toNat_of_lt ?_
  show 2 * s.choiceIndex.toNat < 2 ^ 64
  omega

/-- From the table every move leads to the table, if the hand is not stepped too far. -/
theorem InRange.after? (h : s.InRange) {c : Control} (hc : c.Bounded) :
    ∃ t, s.after? c = some t ∧ t.InRange ∧ Leads s [c] t := by
  cases c with
  | clamp =>
      refine ⟨s, ?_, h, ⟨rfl, rfl, rfl, rfl, rfl⟩⟩
      rw [State.after?, clamped_of_inRange h]
  | stepHand delta =>
      have hle : s.handSize.toNat + delta.toInt ≤ Amount.greatest := by
        have hdelta : delta.toInt ≤ Amount.greatest - 12 := hc
        have hhand := h.le_twelve
        omega
      obtain ⟨hand, hstep, hhand⟩ := stepHand?_of_le hle
      have hbounds := clampInt_bounds (show (5 : Int) ≤ 12 by decide)
        (s.handSize.toNat + delta.toInt)
      refine ⟨_, hstep, ⟨?_, ?_, h.lt_faces⟩, ⟨hhand, rfl, rfl, rfl, rfl⟩⟩
      · show 5 ≤ hand.toNat
        omega
      · show hand.toNat ≤ 12
        omega
  | stepChoice delta =>
      have hread := h.toInt_choiceIndex
      have hfits : Width.Fits64 (s.choiceIndex.toInt64.toInt + delta.toInt) := by
        have hlt := h.lt_faces
        have hleast := Amount.least_le delta
        have hgreatest := Amount.le_greatest delta
        rw [Amount.least] at hleast
        rw [Amount.greatest] at hgreatest
        rw [hread, Width.Fits64, Width.half64]
        omega
      obtain ⟨roll, hstep, hroll⟩ := stepChoice?_of_fits hfits
      rw [hread] at hroll
      have hbounds := clampInt_bounds (show (0 : Int) ≤ 7 by decide)
        (s.choiceIndex.toNat + delta.toInt)
      refine ⟨_, hstep, ⟨h.five_le, h.le_twelve, ?_⟩, ⟨rfl, hroll, rfl, rfl, rfl⟩⟩
      show roll.toNat < 8
      omega
  | toggle m => exact ⟨_, rfl, ⟨h.five_le, h.le_twelve, h.lt_faces⟩, ⟨rfl, rfl, rfl, rfl, rfl⟩⟩
  | flipDesperate =>
      exact ⟨_, rfl, ⟨h.five_le, h.le_twelve, h.lt_faces⟩, ⟨rfl, rfl, rfl, rfl, rfl⟩⟩
  | flipHitback =>
      exact ⟨_, rfl, ⟨h.five_le, h.le_twelve, h.lt_faces⟩, ⟨rfl, rfl, rfl, rfl, rfl⟩⟩

/-! ### Runs -/

/-- From the table a run leads to the table. -/
theorem InRange.run? (h : s.InRange) {controls : List Control}
    (hbounded : ∀ c ∈ controls, c.Bounded) :
    ∃ t, s.run? controls = some t ∧ t.InRange ∧ Leads s controls t := by
  induction controls generalizing s with
  | nil => exact ⟨s, rfl, h, .nil s⟩
  | cons c controls ih =>
      obtain ⟨t, hstep, ht, hlead⟩ := h.after? (hbounded c (by simp))
      obtain ⟨u, hrun, hu, hleads⟩ := ih ht fun d hd => hbounded d (List.mem_cons_of_mem c hd)
      refine ⟨u, ?_, hu, hlead.append hleads⟩
      rw [State.run?, List.foldlM_cons, hstep]
      exact hrun

/--
**A run of the controls never leaves the table, and every control goes its own way.**  After
any number of moves there is a state, with a hand and a roll within their bounds, a label that
is true of the hand and a card of every bot.  At the end the hand is what its own steps make of
nine cards and the roll is what its own steps make of the first face, each held within its
bounds on the way; and every other run with the same moves of each control ends in the same
state.
-/
theorem controls_keep_to_the_table (controls : List Control)
    (hbounded : ∀ delta, .stepHand delta ∈ controls → delta.toInt ≤ Amount.greatest - 12) :
    (∀ n, ∃ s, run? {} (controls.take n) = some s ∧
      (5 ≤ s.handSize.toNat ∧ s.handSize.toNat ≤ 12 ∧ s.choiceIndex.toNat ≤ 7) ∧
      Bracket.Covers (Bracket.label s.bracket) s.handSize.toNat ∧
      ∀ b : Bot, ∃ c, b.resolve? s = some c) ∧
    ∃ s, run? {} controls = some s ∧
      (s.handSize.toNat : Int) =
        (controls.filterMap Control.handStep?).foldl (fun h d => clampInt 5 12 (h + d)) 9 ∧
      (s.choiceIndex.toNat : Int) =
        (controls.filterMap Control.rollStep?).foldl (fun i d => clampInt 0 7 (i + d)) 0 ∧
      ∀ others, (∀ k, Control.movesOf k others = Control.movesOf k controls) →
        run? {} others = some s := by
  have hall : ∀ c ∈ controls, c.Bounded := by
    intro c hc
    cases c with
    | stepHand delta => exact hbounded delta hc
    | _ => trivial
  refine ⟨?_, ?_⟩
  · intro n
    obtain ⟨s, hrun, hs, -⟩ :=
      inRange_default.run? fun c hc => hall c (List.mem_of_mem_take hc)
    exact ⟨s, hrun, ⟨hs.five_le, hs.le_twelve, Nat.le_of_lt_succ hs.lt_faces⟩, hs.covers,
      hs.exists_card⟩
  · obtain ⟨s, hrun, -, hleads⟩ := inRange_default.run? hall
    refine ⟨s, hrun, hleads.hand, hleads.roll, ?_⟩
    intro others hmoves
    have hothers : ∀ c ∈ others, c.Bounded := by
      intro c hc
      rw [← Control.mem_movesOf, hmoves, Control.mem_movesOf] at hc
      exact hall c hc
    obtain ⟨t, hrun', -, hleads'⟩ := inRange_default.run? hothers
    rw [hrun', hleads'.unique (hleads.of_movesOf_eq hmoves)]

/-- The longest step of the hand and one back, with other moves before, between or behind. -/
theorem controls_keep_to_the_table_farthest :
    let far : Control := .stepHand 2147483635
    ∃ s, run? {} [far, .toggle .dragon, .stepChoice 3, .stepHand (-1), .stepChoice (-5)] = some s ∧
      s.handSize.toNat = 11 ∧ s.choiceIndex.toNat = 0 ∧
      run? {} [.stepChoice 3, .stepChoice (-5), far, .stepHand (-1), .toggle .dragon] = some s := by
  intro far
  obtain ⟨-, s, hrun, hhand, hroll, hothers⟩ := controls_keep_to_the_table
    [far, .toggle .dragon, .stepChoice 3, .stepHand (-1), .stepChoice (-5)] (by
      intro delta hdelta
      simp only [far, List.mem_cons, Control.stepHand.injEq, reduceCtorEq, List.not_mem_nil,
        or_false, false_or] at hdelta
      rcases hdelta with rfl | rfl
      · decide
      · decide)
  refine ⟨s, hrun, Int.ofNat_inj.mp hhand, Int.ofNat_inj.mp hroll, hothers _ ?_⟩
  intro k
  cases k <;> rfl

end State

end Sparring
