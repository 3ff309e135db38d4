/-
Reading a combo loses nothing.

`gather` walks a combo from its end, so that a symbol meets the number of its pumps
when it comes up.  Written out again, the pumps at the front and the steps behind them
are the combo itself, and no step is named after the pump.  With these two facts
`parse` can be opened once and for all: a combo that it accepts *is* its steps, one
after the other.

The other way round, steps that are written out are read back (`gather_render`): a symbol
meets just the pumps behind it.  So combos and lists of steps are two notations for one
thing.

Two combos one behind the other are read as each of them is read alone (`parse_append`):
the second begins with a move, so none of its pumps belongs to the first.
-/
import Sparring.Combo.Step

namespace Sparring.Combo

/-- Written out, what was gathered is the combo again. -/
theorem replicate_append_flatMap_gather (cs : List Char) :
    List.replicate (gather cs).1 pumpSymbol ++ (gather cs).2.flatMap Step.render = cs := by
  induction cs with
  | nil => rfl
  | cons c cs ih =>
      by_cases hc : c = pumpSymbol
      · simp only [gather, if_pos hc]
        rw [List.replicate_succ, List.cons_append, ih, hc]
      · simp only [gather, if_neg hc]
        rw [List.replicate_zero, List.nil_append, List.flatMap_cons, Step.render,
          List.cons_append, ih]

/-- Behind a combo that begins with a move, what was gathered before stays as it was. -/
theorem gather_append {ds : List Char} {steps : List Step} (hds : gather ds = (0, steps)) :
    ∀ cs, gather (cs ++ ds) = ((gather cs).1, (gather cs).2 ++ steps) := by
  intro cs
  induction cs with
  | nil => exact hds
  | cons c cs ih =>
      by_cases hc : c = pumpSymbol
      · simp only [List.cons_append, gather, if_pos hc, ih]
      · simp only [List.cons_append, gather, if_neg hc, ih]

/-- No step is named after the pump. -/
theorem name_ne_pumpSymbol_of_mem_gather (cs : List Char) :
    ∀ s ∈ (gather cs).2, s.name ≠ pumpSymbol := by
  induction cs with
  | nil => intro s hs; simp [gather] at hs
  | cons c cs ih =>
      intro s hs
      by_cases hc : c = pumpSymbol
      · simp only [gather, if_pos hc] at hs
        exact ih s hs
      · simp only [gather, if_neg hc] at hs
        rcases List.mem_cons.mp hs with rfl | hs'
        · exact hc
        · exact ih s hs'

theorem parse_eq_ok_iff {combo : String} {steps : List Step} :
    parse combo = .ok steps ↔ gather combo.toList = (0, steps) ∧ steps ≠ [] := by
  unfold parse
  split
  · rename_i heq
    rw [heq]
    simp
  · rename_i gathered hne heq
    rw [heq]
    refine ⟨?_, ?_⟩
    · intro h
      cases h
      exact ⟨rfl, hne⟩
    · intro h
      obtain ⟨hsteps, -⟩ := h
      cases hsteps
      rfl
  · rename_i heq
    rw [heq]
    simp

/-- A combo that is accepted is its steps, and there is at least one. -/
theorem parse_eq_ok {combo : String} {steps : List Step} (h : parse combo = .ok steps) :
    steps ≠ [] ∧ (∀ s ∈ steps, s.name ≠ pumpSymbol) ∧
      steps.flatMap Step.render = combo.toList := by
  obtain ⟨hgather, hne⟩ := parse_eq_ok_iff.mp h
  have hwritten := replicate_append_flatMap_gather combo.toList
  have hnames := name_ne_pumpSymbol_of_mem_gather combo.toList
  rw [hgather] at hwritten hnames
  exact ⟨hne, hnames, hwritten⟩

/-- The first step is named by the first symbol. -/
theorem head?_of_parse {combo : String} {s : Step} {rest : List Step}
    (h : parse combo = .ok (s :: rest)) : combo.toList.head? = some s.name := by
  obtain ⟨-, -, hwritten⟩ := parse_eq_ok h
  rw [← hwritten]
  rfl

/-- Only the empty combo and one that begins with a pump are turned away. -/
theorem parse_eq_error {combo : String} {e : Error} (h : parse combo = .error e) :
    (e = .empty ∧ combo.toList = []) ∨
      (e = .pumpWithoutMove combo ∧ ∃ cs, combo.toList = pumpSymbol :: cs) := by
  unfold parse at h
  have hwritten := replicate_append_flatMap_gather combo.toList
  split at h
  · rename_i heq
    cases h
    rw [heq] at hwritten
    exact Or.inl ⟨rfl, hwritten.symm⟩
  · cases h
  · rename_i n steps heq
    cases h
    rw [heq] at hwritten
    exact Or.inr ⟨rfl, _, hwritten.symm⟩

/-- Combos one behind the other have the steps of the first and then those of the second. -/
theorem parse_append {s t : String} {xs ys : List Step} (hs : parse s = .ok xs)
    (ht : parse t = .ok ys) : parse (s ++ t) = .ok (xs ++ ys) := by
  obtain ⟨hxs, hne⟩ := parse_eq_ok_iff.mp hs
  obtain ⟨hys, -⟩ := parse_eq_ok_iff.mp ht
  refine parse_eq_ok_iff.mpr ⟨?_, by simp [hne]⟩
  rw [String.toList_append, gather_append hys, hxs]

/-! ### Writing and reading back -/

theorem gather_cons_pump (cs : List Char) :
    gather (pumpSymbol :: cs) = ((gather cs).1 + 1, (gather cs).2) := by
  simp [gather]

theorem gather_cons_move {c : Char} (hc : c ≠ pumpSymbol) (cs : List Char) :
    gather (c :: cs) = (0, ⟨c, (gather cs).1⟩ :: (gather cs).2) := by
  simp [gather, hc]

/-- Pumps at the front are counted, and nothing behind them changes. -/
theorem gather_replicate (n : Nat) (cs : List Char) :
    gather (List.replicate n pumpSymbol ++ cs) = ((gather cs).1 + n, (gather cs).2) := by
  induction n with
  | zero => rfl
  | succ n ih =>
      rw [List.replicate_succ, List.cons_append, gather_cons_pump, ih, Nat.add_assoc]

/-- Steps that are written out are gathered again. -/
theorem gather_render {steps : List Step} (h : ∀ s ∈ steps, s.name ≠ pumpSymbol) :
    gather (steps.flatMap Step.render) = (0, steps) := by
  induction steps with
  | nil => rfl
  | cons s rest ih =>
      have hname : s.name ≠ pumpSymbol := h s (by simp)
      have hrest : gather (rest.flatMap Step.render) = (0, rest) :=
        ih fun s' hs' => h s' (by simp [hs'])
      rw [List.flatMap_cons, Step.render, List.cons_append, gather_cons_move hname,
        gather_replicate, hrest]
      simp

theorem parse_render {steps : List Step} (hne : steps ≠ [])
    (h : ∀ s ∈ steps, s.name ≠ pumpSymbol) : parse (render steps) = .ok steps := by
  refine parse_eq_ok_iff.mpr ⟨?_, hne⟩
  rw [render, String.toList_ofList, gather_render h]

theorem render_of_parse {combo : String} {steps : List Step} (h : parse combo = .ok steps) :
    render steps = combo := by
  obtain ⟨-, -, hwritten⟩ := parse_eq_ok h
  rw [render, hwritten, String.ofList_toList]

/-! ### What is turned away -/

/-- A combo that begins with a pump is not accepted, since no step does. -/
theorem head?_ne_pumpSymbol_of_parse {combo : String} {steps : List Step}
    (h : parse combo = .ok steps) : combo.toList.head? ≠ some pumpSymbol := by
  intro hhead
  obtain ⟨hne, hnames, -⟩ := parse_eq_ok h
  cases steps with
  | nil => exact hne rfl
  | cons s rest =>
      have hname : some s.name = some pumpSymbol := by rw [← head?_of_parse h, hhead]
      exact hnames s (by simp) (Option.some.inj hname)

/-- The three ways for a combo to be read. -/
theorem parse_ends (combo : String) :
    (parse combo = .error .empty ∧ combo = "") ∨
      (parse combo = .error (.pumpWithoutMove combo) ∧ combo.toList.head? = some pumpSymbol) ∨
      ∃ steps, parse combo = .ok steps ∧ combo ≠ "" ∧
        combo.toList.head? ≠ some pumpSymbol := by
  cases h : parse combo with
  | error e =>
      rcases parse_eq_error h with ⟨rfl, hnil⟩ | ⟨rfl, cs, hcs⟩
      · exact Or.inl ⟨rfl, String.toList_eq_nil_iff.mp hnil⟩
      · exact Or.inr (Or.inl ⟨rfl, by rw [hcs, List.head?_cons]⟩)
  | ok steps =>
      have hne : combo ≠ "" := by
        intro hempty
        rw [hempty] at h
        cases h
      exact Or.inr (Or.inr ⟨steps, rfl, hne, head?_ne_pumpSymbol_of_parse h⟩)

theorem parse_eq_empty_iff {combo : String} : parse combo = .error .empty ↔ combo = "" := by
  refine ⟨?_, ?_⟩
  · intro h
    rcases parse_ends combo with ⟨-, hempty⟩ | ⟨h', -⟩ | ⟨_, h', -⟩
    · exact hempty
    · cases h.symm.trans h'
    · cases h.symm.trans h'
  · intro hempty
    rw [hempty]
    rfl

theorem parse_eq_pumpWithoutMove_iff {combo : String} :
    parse combo = .error (.pumpWithoutMove combo) ↔ combo.toList.head? = some pumpSymbol := by
  refine ⟨?_, ?_⟩
  · intro h
    rcases parse_ends combo with ⟨h', -⟩ | ⟨-, hhead⟩ | ⟨_, h', -⟩
    · cases h.symm.trans h'
    · exact hhead
    · cases h.symm.trans h'
  · intro hhead
    rcases parse_ends combo with ⟨-, hempty⟩ | ⟨h, -⟩ | ⟨_, -, -, hne⟩
    · rw [hempty] at hhead
      cases hhead
    · exact h
    · exact absurd hhead hne

/--
**A combo is a list of steps, and a list of steps is a combo.**  The empty combo is turned
away as empty, one that begins with a pump for this pump, and every other one is accepted.
Its steps are those that are written as the combo is, and no others: there is at least one,
and none is named after the pump.
-/
theorem combos_are_their_steps (combo : String) :
    (parse combo = .error .empty ↔ combo = "") ∧
    (parse combo = .error (.pumpWithoutMove combo) ↔ combo.toList.head? = some pumpSymbol) ∧
    ((∃ steps, parse combo = .ok steps) ↔
      combo ≠ "" ∧ combo.toList.head? ≠ some pumpSymbol) ∧
    ∀ steps, parse combo = .ok steps ↔
      (steps ≠ [] ∧ ∀ s ∈ steps, s.name ≠ pumpSymbol) ∧ render steps = combo := by
  refine ⟨parse_eq_empty_iff, parse_eq_pumpWithoutMove_iff, ⟨?_, ?_⟩, fun steps => ⟨?_, ?_⟩⟩
  · intro h
    obtain ⟨steps, h⟩ := h
    refine ⟨?_, head?_ne_pumpSymbol_of_parse h⟩
    intro hempty
    cases h.symm.trans (parse_eq_empty_iff.mpr hempty)
  · intro h
    obtain ⟨hne, hhead⟩ := h
    rcases parse_ends combo with ⟨-, hempty⟩ | ⟨-, hpump⟩ | ⟨steps, hsteps, -⟩
    · exact absurd hempty hne
    · exact absurd hpump hhead
    · exact ⟨steps, hsteps⟩
  · intro h
    obtain ⟨hne, hnames, -⟩ := parse_eq_ok h
    exact ⟨⟨hne, hnames⟩, render_of_parse h⟩
  · intro h
    obtain ⟨⟨hne, hnames⟩, hwritten⟩ := h
    rw [← hwritten]
    exact parse_render hne hnames

example : parse "Y++DE+" = .ok [⟨'Y', 2⟩, ⟨'D', 0⟩, ⟨'E', 1⟩] := rfl

end Sparring.Combo
