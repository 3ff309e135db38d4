/-
Which of several faults the author of a table is told about.

Assembling stops at the first fault, so the error is about the fault that comes first and
about no other.  `checks` writes down what is looked at and in which order, in the words of
the rules: the difficulty, the moves as they were written, and then cell after cell, each
under the label that errors name it by.  `Passes` and `Fails` say when a check passes and
with which cause it fails, without reference to how it is carried out.

`RefusedFor` puts them together: there is a check in the list that fails, all checks before it
pass, and the error has its label and its cause.
-/
import Sparring.Proofs.Bot.Assembly
import Sparring.Proofs.Bot.Order
import Sparring.Roster.DragonbornFirebat

namespace Sparring

open Checked

/-! ### What is looked at -/

/-- Something that may be at fault. -/
inductive Subject where
  | difficulty (n : UInt8)
  | move (m : Move)
  | token (tok : Token)

/-- A part of a table, under the label that errors name it by. -/
structure Check where
  label : String
  subject : Subject

/-- The numbers of a move under their keys: the stats, the meter, then the pump tiers. -/
def Move.keyedNumbers (m : Move) : List (String × Amount) :=
  [("damage", m.damage), ("block_damage", m.blockDamage), ("self_damage", m.selfDamage),
    ("self_heal", m.selfHeal), ("speed", m.speed), ("level", m.level), ("meter", m.meter)] ++
    m.pumps.map fun n => ("pump_damage", n)

/-- The rows under their labels. -/
def RowName.labelled : List (String × RowName) := [
  ("normal[0]", .normal 0), ("normal[1]", .normal 1), ("normal[2]", .normal 2),
  ("normal[3]", .normal 3), ("knockdown", .knockdown), ("wakeup", .wakeup), ("dragon", .dragon),
  ("desperate", .desperate)]

namespace Table

variable {t : Table} {e : BuildError}

/-- The tokens of a row: its slots, counted from one, then its hitback. Cells that hold
nothing are left out. -/
def rowChecks (t : Table) (label : String) (row : RowName) : List Check :=
  ((List.finRange faces).filterMap fun i =>
    (t.book.at? ⟨row, .slot i⟩).map fun tok =>
      ⟨label ++ " slot " ++ toString (i.val + 1), .token tok⟩) ++
  ((t.book.at? ⟨row, .hitback⟩).map fun tok => ⟨label ++ " hitback", .token tok⟩).toList

/-- All that is looked at, in order. -/
def checks (t : Table) : List Check :=
  ⟨"difficulty", .difficulty t.book.difficulty⟩ ::
    (t.moves.moves.map (fun m => ⟨"moves", .move m⟩) ++
      RowName.labelled.flatMap fun (label, row) => t.rowChecks label row)

end Table

/-! ### How a check ends -/

namespace Subject

/-- Nothing is wrong. -/
inductive Passes (r : Registry) : Subject → Prop where
  | difficulty {n : UInt8} (low : 1 ≤ n.toNat) (high : n.toNat ≤ 5) : Passes r (.difficulty n)
  | move {m : Move} (h : ∀ x ∈ m.keyedNumbers, 0 ≤ x.2.toInt) : Passes r (.move m)
  | token {tok : Token} {c : Card} (h : tok.compile r = .ok c) : Passes r (.token tok)

/-- Something is wrong, and this is the cause. -/
inductive Fails (r : Registry) : Subject → AuthoringError → Prop where
  | difficulty {n : UInt8} (h : n.toNat < 1 ∨ 5 < n.toNat) : Fails r (.difficulty n) (.difficulty n)
  /-- The move's first number below zero is to blame. -/
  | move {m : Move} {q : Quantity} {n : Amount} {before after : List (String × Amount)}
      (numbers : m.keyedNumbers = before ++ (q.key, n) :: after)
      (first : ∀ x ∈ before, 0 ≤ x.2.toInt) (negative : n.toInt < 0) :
      Fails r (.move m) (.negative m.name q n)
  | token {tok : Token} {cause : Combo.Error} (h : tok.compile r = .error (.refused cause)) :
      Fails r (.token tok) (.combo cause)

end Subject

/-! ### Moves -/

namespace Move

variable {m : Move}

theorem keyedNumbers_eq (m : Move) :
    m.keyedNumbers = m.quantities.map fun q => (q.1.key, q.2) := by
  simp [keyedNumbers, quantities, Stat.all, Attributes.stat, Quantity.key, Stat.key,
    Function.comp_def]

theorem passes_of_firstNegative?_eq_none {r : Registry} (h : m.firstNegative? = none) :
    Subject.Passes r (.move m) := by
  refine .move ?_
  rw [keyedNumbers_eq]
  intro x hx
  obtain ⟨q, hq, rfl⟩ := List.mem_map.mp hx
  exact firstNegative?_eq_none_iff.mp h q hq

theorem fails_of_firstNegative?_eq_some {r : Registry} {q : Quantity × Amount}
    (h : m.firstNegative? = some q) : Subject.Fails r (.move m) (.negative m.name q.1 q.2) := by
  obtain ⟨hneg, before, after, hsplit, hbefore⟩ := List.find?_eq_some_iff_append.mp h
  have hkeyed : m.keyedNumbers = (before.map fun q => (q.1.key, q.2)) ++
      (q.1.key, q.2) :: after.map fun q => (q.1.key, q.2) := by
    rw [keyedNumbers_eq, hsplit, List.map_append, List.map_cons]
  refine .move hkeyed ?_ (by simpa using hneg)
  intro x hx
  obtain ⟨q', hq', rfl⟩ := List.mem_map.mp hx
  simpa using hbefore q' hq'

end Move

namespace Table

variable {t : Table} {cell : Cell} {e : BuildError}

/-- The error is about the first check that fails: it names the bot of the table, and it has
the label and the cause of that check. -/
inductive RefusedFor (t : Table) (e : BuildError) : Prop where
  | first {before after : List Check} {check : Check}
      (order : t.checks = before ++ check :: after)
      (passed : ∀ c ∈ before, c.subject.Passes t.moves)
      (failed : check.subject.Fails t.moves e.cause)
      (label : e.spot.label = check.label) (bot : e.bot = t.book.name)

/-! ### The order of the checks -/

theorem labelled_eq : RowName.labelled = RowName.inOrder.map fun row => (row.label, row) := by
  decide +kernel

/-- The check of a cell, if the cell holds a token. -/
def cellCheck? (t : Table) (cell : Cell) : Option Check :=
  (t.book.at? cell).map fun tok => ⟨cell.label, .token tok⟩

theorem rowChecks_eq (row : RowName) :
    t.rowChecks row.label row =
      (Place.inOrder.map fun place => (⟨row, place⟩ : Cell)).filterMap t.cellCheck? := by
  simp only [Place.inOrder, List.map_append, List.map_map, List.filterMap_append,
    List.filterMap_map, List.map_cons, List.map_nil]
  rfl

/-- Cells are checked in the order in which they are visited. -/
theorem checks_eq (t : Table) :
    t.checks = ⟨"difficulty", .difficulty t.book.difficulty⟩ ::
      (t.moves.moves.map (fun m => ⟨"moves", .move m⟩) ++
        Cell.inOrder.filterMap t.cellCheck?) := by
  rw [checks, labelled_eq, List.flatMap_map, Cell.inOrder, List.filterMap_flatMap]
  simp only [rowChecks_eq]

/-! ### Numbers -/

theorem passes_difficulty (h : DifficultyOk t.book.difficulty) :
    Subject.Passes t.moves (.difficulty t.book.difficulty) := .difficulty h.1 h.2

theorem refusedFor_difficulty (h : ¬ DifficultyOk t.book.difficulty) :
    t.RefusedFor (t.error .difficulty (.difficulty t.book.difficulty)) := by
  have hout : t.book.difficulty.toNat < 1 ∨ 5 < t.book.difficulty.toNat := by
    unfold DifficultyOk at h
    omega
  have hnone : ∀ c ∈ ([] : List Check), c.subject.Passes t.moves := by simp
  exact .first (checks_eq t) hnone (.difficulty hout) rfl rfl

theorem refusedFor_move (hdifficulty : DifficultyOk t.book.difficulty)
    (h : (t.moves.moves.findSome? fun m =>
      m.firstNegative?.map fun q => t.error .moves (.negative m.name q.1 q.2)) = some e) :
    t.RefusedFor e := by
  obtain ⟨before, m, after, hmoves, hm, hbefore⟩ := List.findSome?_eq_some_iff.mp h
  obtain ⟨q, hq, rfl⟩ := Option.map_eq_some_iff.mp hm
  have horder : t.checks =
      (⟨"difficulty", .difficulty t.book.difficulty⟩ ::
        before.map (fun m => ⟨"moves", .move m⟩)) ++
      ⟨"moves", .move m⟩ ::
        (after.map (fun m => ⟨"moves", .move m⟩) ++ Cell.inOrder.filterMap t.cellCheck?) := by
    rw [checks_eq, hmoves, List.map_append, List.map_cons, List.append_assoc, List.cons_append,
      List.cons_append]
  refine .first horder ?_ (Move.fails_of_firstNegative?_eq_some hq) rfl rfl
  intro c hc
  rcases List.mem_cons.mp hc with rfl | hc
  · exact passes_difficulty hdifficulty
  · obtain ⟨m', hm', rfl⟩ := List.mem_map.mp hc
    exact Move.passes_of_firstNegative?_eq_none (Option.map_eq_none_iff.mp (hbefore m' hm'))

theorem refusedFor_of_badNumber? (h : t.badNumber? = some e) : t.RefusedFor e := by
  unfold badNumber? at h
  split at h
  · rename_i hdifficulty
    exact refusedFor_move hdifficulty h
  · rename_i hdifficulty
    cases h
    exact refusedFor_difficulty hdifficulty

/-! ### Cells -/

/-- What stops a table at a cell, if the cell holds a token and the token fails. -/
def cellFailure? (t : Table) (cell : Cell) : Option (Halt BuildError) :=
  (t.book.at? cell).bind fun tok => failure? (t.compileCell cell tok)

theorem passes_of_cellFailure?_eq_none {check : Check} (h : t.cellFailure? cell = none)
    (hcheck : t.cellCheck? cell = some check) : check.subject.Passes t.moves := by
  obtain ⟨tok, htok, rfl⟩ := Option.map_eq_some_iff.mp hcheck
  rw [cellFailure?, htok] at h
  obtain ⟨c, hc⟩ := failure?_eq_none_iff.mp h
  obtain ⟨c₀, hc₀⟩ := (compileCell_eq_ok_iff.mp hc).exists_compile_eq_ok
  exact .token hc₀

theorem exists_check_of_cellFailure? (h : t.cellFailure? cell = some (.refused e)) :
    ∃ check, t.cellCheck? cell = some check ∧ e.bot = t.book.name ∧
      e.spot.label = check.label ∧ check.subject.Fails t.moves e.cause := by
  obtain ⟨tok, htok, hfailure⟩ := Option.bind_eq_some_iff.mp h
  rcases compileCell_eq_error (failure?_eq_some_iff.mp hfailure) with hover | ⟨cause, hcause, he⟩
  · cases hover
  · cases he
    exact ⟨⟨cell.label, .token tok⟩, by rw [cellCheck?, htok]; rfl, rfl, rfl, .token hcause⟩

theorem refusedFor_of_cell (hnumbers : t.badNumber? = none)
    (h : Cell.inOrder.findSome? t.cellFailure? = some (.refused e)) : t.RefusedFor e := by
  obtain ⟨hdifficulty, hmoves⟩ := badNumber?_eq_none_iff.mp hnumbers
  obtain ⟨before, cell, after, hsplit, hcell, hbefore⟩ := List.findSome?_eq_some_iff.mp h
  obtain ⟨check, hcheck, hbot, hlabel, hfails⟩ := exists_check_of_cellFailure? hcell
  have horder : t.checks =
      (⟨"difficulty", .difficulty t.book.difficulty⟩ ::
        (t.moves.moves.map (fun m => ⟨"moves", .move m⟩) ++ before.filterMap t.cellCheck?)) ++
      check :: after.filterMap t.cellCheck? := by
    rw [checks_eq, hsplit, List.filterMap_append, List.filterMap_cons_some hcheck,
      List.cons_append, List.append_assoc]
  refine .first horder ?_ hfails hlabel hbot
  intro c hc
  rcases List.mem_cons.mp hc with rfl | hc
  · exact passes_difficulty hdifficulty
  rcases List.mem_append.mp hc with hc | hc
  · obtain ⟨m, hm, rfl⟩ := List.mem_map.mp hc
    exact Move.passes_of_firstNegative?_eq_none
      (Move.firstNegative?_eq_none_iff.mpr (hmoves m hm))
  · obtain ⟨cell', hcell', hcheck'⟩ := List.mem_filterMap.mp hc
    exact passes_of_cellFailure?_eq_none (hbefore cell' hcell') hcheck'

/-! ### The whole table -/

theorem refusedFor_of_assemble (h : t.assemble = .error (.refused e)) : t.RefusedFor e := by
  unfold assemble at h
  split at h
  · rename_i e' he'
    cases h
    exact refusedFor_of_badNumber? he'
  · rename_i hnumbers
    have hfailure := failure?_eq_some_iff.mpr h
    rw [Playbook.failure?_traverse] at hfailure
    exact refusedFor_of_cell hnumbers hfailure

/--
**A table that makes no bot is refused for its first fault.**  The error names the bot, it
has the label and the cause of a check that fails, and every check before that one passes.
-/
theorem refused_for_first_fault (t : Table) (hbot : ∀ b, t.assemble ≠ .ok b)
    (fits : t.assemble ≠ .error .overflow) :
    ∃ e, t.assemble = .error (.refused e) ∧ t.RefusedFor e := by
  cases h : t.assemble with
  | ok b => exact absurd h (hbot b)
  | error halt =>
      cases halt with
      | overflow => exact absurd h fits
      | refused e => exact ⟨e, rfl, refusedFor_of_assemble h⟩

/-- Firebat's table with three slips: a move that nobody knows in the knockdown row, a pump
too many in the hitback behind it, and a second one in the dragon's row. -/
def slipped : Table :=
  { Roster.dragonbornFirebat with
    book := { Roster.dragonbornFirebat.book with
      knockdown := ⟨Roster.eight "l" "h" "l" "h" "tCD" "Zq" "Z" "2", some "X+"⟩
      dragon := some ⟨Roster.eight "l" "h" "b" "dz" "x+" "y" "z" "z", some "z"⟩ } }

/-- The slip in the sixth slot of the knockdown row hides the two behind it. -/
theorem refused_for_first_fault_slipped :
    (∀ b, slipped.assemble ≠ .ok b) ∧ slipped.assemble ≠ .error .overflow ∧
      slipped.RefusedFor {
        bot := "Dragonborn Firebat"
        spot := .cell ⟨.knockdown, .slot 5⟩
        cause := .combo (.unknownMove 'q' "Zq") } := by
  have hrefused : slipped.assemble = .error (.refused {
      bot := "Dragonborn Firebat"
      spot := .cell ⟨.knockdown, .slot 5⟩
      cause := .combo (.unknownMove 'q' "Zq") }) :=
    failure?_eq_some_iff.mp (by decide +kernel)
  have hbot : ∀ b, slipped.assemble ≠ .ok b := by simp [hrefused]
  have hfits : slipped.assemble ≠ .error .overflow := by simp [hrefused]
  obtain ⟨e, he, hfor⟩ := refused_for_first_fault slipped hbot hfits
  cases hrefused.symm.trans he
  exact ⟨hbot, hfits, hfor⟩

end Table

end Sparring
