/-
A bot has nothing of a move that its table does not name.

Two registries may differ in size, in order and in most of their moves.  A combo looks at what
they have under its own symbols; where that is the same it comes to the same end, be it a card,
an error or an overflow (`Token.compile_congr`).  A table is one combo after another, and
`Playbook.traverse_congr` carries the agreement from the cells to the whole: visits that do the
same in every cell that is filled do the same altogether, down to the failure they end with.

Only the check of the numbers goes over all moves, named or not.  So two tables are compared
after it, when all moves of both have passed.
-/
import Sparring.Proofs.Bot.HandCost
import Sparring.Proofs.Bot.Order

namespace Sparring

variable {n : Nat} {α β σ τ σ' τ' ε : Type}

/-! ### Visits that do the same -/

/-- Two computations end alike if they end well alike and fail alike. -/
theorem Checked.ext_of {x y : Except ε α} (hok : ∀ a, x = .ok a → y = .ok a)
    (hfailure : failure? x = failure? y) : x = y := by
  cases x with
  | ok a => exact (hok a rfl).symm
  | error e => exact (failure?_eq_some_iff.mp hfailure.symm).symm

theorem Tuple.traverse_congr {f g : Fin n → α → Except ε β} {t : Tuple n α}
    (h : ∀ i, f i (t.get i) = g i (t.get i)) : t.traverse f = t.traverse g := by
  refine Checked.ext_of (fun u hu => ?_) ?_
  · rw [traverse_eq_ok_iff] at hu ⊢
    intro i
    rw [← h i, hu i]
  · simp only [failure?_traverse, h]

theorem traverseOption_congr {f g : α → Except ε β} {x : Option α}
    (h : ∀ a, x = some a → f a = g a) : traverseOption f x = traverseOption g x := by
  cases x with
  | none => rfl
  | some a => rw [traverseOption, traverseOption, h a rfl]

theorem Row.traverse_congr {slot slot' : Fin faces → σ → Except ε σ'}
    {hitback hitback' : τ → Except ε τ'} {r : Row σ τ}
    (hslot : ∀ i, slot i (r.slots.get i) = slot' i (r.slots.get i))
    (hhitback : hitback r.hitback = hitback' r.hitback) :
    r.traverse slot hitback = r.traverse slot' hitback' := by
  unfold traverse
  rw [Tuple.traverse_congr hslot, hhitback]

/-- Only what is done in cells that are filled matters. -/
theorem Playbook.traverse_congr {f g : Cell → α → Except ε β} {p : Playbook α}
    (h : ∀ cell x, p.at? cell = some x → f cell x = g cell x) : p.traverse f = p.traverse g := by
  unfold traverse
  refine Checked.bind_congr (Tuple.traverse_congr fun b => ?normal) fun _ =>
    Checked.bind_congr ?knockdown fun _ =>
    Checked.bind_congr (traverseOption_congr fun r hr => ?wakeup) fun _ =>
    Checked.bind_congr (traverseOption_congr fun r hr => ?dragon) fun _ =>
    Checked.bind_congr (traverseOption_congr fun r hr => ?desperate) fun _ => rfl
  case normal =>
    exact Row.traverse_congr (fun i => h ⟨.normal b, .slot i⟩ _ rfl)
      (h ⟨.normal b, .hitback⟩ _ rfl)
  case knockdown =>
    exact Row.traverse_congr (fun i => h ⟨.knockdown, .slot i⟩ _ rfl)
      (traverseOption_congr fun x hx => h ⟨.knockdown, .hitback⟩ x hx)
  case wakeup =>
    exact Row.traverse_congr (fun i => h ⟨.wakeup, .slot i⟩ _ (by simp [at?, hr]))
      (traverseOption_congr fun x hx => h ⟨.wakeup, .hitback⟩ x (by simp [at?, hr, hx]))
  case dragon =>
    exact Row.traverse_congr (fun i => h ⟨.dragon, .slot i⟩ _ (by simp [at?, hr]))
      (traverseOption_congr fun x hx => h ⟨.dragon, .hitback⟩ x (by simp [at?, hr, hx]))
  case desperate =>
    exact Row.traverse_congr
      (fun i => traverseOption_congr fun x hx =>
        h ⟨.desperate, .slot i⟩ x (by simp [at?, hr, hx]))
      (traverseOption_congr fun x hx => h ⟨.desperate, .hitback⟩ x (by simp [at?, hr, hx]))

/-! ### Registries that agree -/

namespace Registry

variable {r r' : Registry} {named : Char → Prop}

/-- Two registries have the same under each of these symbols. -/
def AgreeOn (named : Char → Prop) (r r' : Registry) : Prop :=
  ∀ c, named c → r.get? c = r'.get? c

/-- They do if they have the same moves of these names, wherever the moves stand. -/
theorem agreeOn_iff :
    AgreeOn named r r' ↔ ∀ m, named m.name → (m ∈ r.moves ↔ m ∈ r'.moves) := by
  constructor
  · intro h m hm
    have hfound := h m.name hm
    have hmem : ∀ r : Registry, m ∈ r.moves ↔ r.get? m.name = some m := fun r =>
      ⟨get?_of_mem, mem_of_get?⟩
    rw [hmem, hmem, hfound]
  · intro h c hc
    refine Option.ext fun m => ?_
    rw [get?_eq_some_iff, get?_eq_some_iff]
    refine and_congr_left fun hname => ?_
    rw [← hname] at hc
    exact h m hc

end Registry

/-! ### Tokens -/

namespace Combo

variable {r r' : Registry} {combo : String}

/-- The symbols of the moves of a combo. -/
def symbols (combo : String) : List Char := combo.toList.filter (· ≠ pumpSymbol)

theorem name_mem_symbols {steps : List Step} (h : parse combo = .ok steps) :
    ∀ s ∈ steps, s.name ∈ symbols combo := by
  obtain ⟨-, hnames, hwritten⟩ := parse_eq_ok h
  intro s hs
  have hmem : s.name ∈ combo.toList := by
    rw [← hwritten]
    exact List.mem_flatMap.mpr ⟨s, hs, by simp [Step.render]⟩
  exact List.mem_filter.mpr ⟨hmem, by simpa using hnames s hs⟩

theorem compile_congr (h : r.AgreeOn (· ∈ symbols combo) r') :
    compile r combo = compile r' combo := by
  unfold compile
  cases hparse : parse combo with
  | error e => rfl
  | ok steps =>
      have hsteps : ∀ s ∈ steps, r.get? s.name = r'.get? s.name := fun s hs =>
        h s.name (name_mem_symbols hparse s hs)
      show (play r combo true {} steps >>= _) = (play r' combo true {} steps >>= _)
      rw [play_congr hsteps]

end Combo

/-- The symbols of the moves of a token; a complete card has no moves. -/
def Token.symbols : Token → List Char
  | combo text | patched text _ => Combo.symbols text
  | card _ => []

/-- **A token looks at its own symbols and at no others.** -/
theorem Token.compile_congr {r r' : Registry} {tok : Token} (h : r.AgreeOn (· ∈ tok.symbols) r') :
    tok.compile r = tok.compile r' := by
  cases tok with
  | combo text => exact Combo.compile_congr h
  | patched text patch => exact Checked.bind_congr (Combo.compile_congr h) fun _ => rfl
  | card c => rfl

/-! ### Tables -/

namespace Table

variable {t t' : Table}

/-- The symbol stands in one of the table's tokens. -/
def Names (t : Table) (c : Char) : Prop :=
  ∃ cell tok, t.book.at? cell = some tok ∧ c ∈ tok.symbols

theorem compileCell_congr (hbook : t.book = t'.book) {tok : Token}
    (h : tok.compile t.moves = tok.compile t'.moves) (cell : Cell) :
    t.compileCell cell tok = t'.compileCell cell tok := by
  unfold compileCell error
  rw [h, hbook]

/-- If nothing is wrong with the moves, what is wrong with the numbers is the difficulty. -/
theorem badNumber?_of_valid (hvalid : ∀ m ∈ t.moves.moves, m.Valid) :
    t.badNumber? = if DifficultyOk t.book.difficulty then none
      else some (t.error .difficulty (.difficulty t.book.difficulty)) := by
  by_cases h : DifficultyOk t.book.difficulty
  · rw [if_pos h, badNumber?_eq_none_iff]
    exact ⟨h, hvalid⟩
  · rw [if_neg h, badNumber?, if_neg h]

theorem assemble_congr (hbook : t.book = t'.book) (hvalid : ∀ m ∈ t.moves.moves, m.Valid)
    (hvalid' : ∀ m ∈ t'.moves.moves, m.Valid) (h : t.moves.AgreeOn t.Names t'.moves) :
    t.assemble = t'.assemble := by
  have hnumbers : t.badNumber? = t'.badNumber? := by
    rw [badNumber?_of_valid hvalid, badNumber?_of_valid hvalid', error, error, hbook]
  have hcells : t.book.traverse t.compileCell = t'.book.traverse t'.compileCell := by
    rw [← hbook]
    refine Playbook.traverse_congr fun cell tok htok => ?_
    refine compileCell_congr hbook (Token.compile_congr fun c hc => ?_) cell
    exact h c ⟨cell, tok, htok, hc⟩
  unfold assemble
  rw [hnumbers, hcells]

/--
**Only the moves that are named matter.**  A token comes to the same end with any two registries
that have the same under its symbols.  So do two tables that differ in nothing but their moves,
if no move of either has a number below zero and both registries have the same under the symbols
that the table names.  Have the same means: as far as their names are among these symbols, the
same moves; in which order they stand, and what other moves there are, is left open.
-/
theorem only_named_moves_matter :
    (∀ (tok : Token) (r r' : Registry), (∀ c ∈ tok.symbols, r.get? c = r'.get? c) →
      tok.compile r = tok.compile r') ∧
    ∀ t t' : Table, t.book = t'.book →
      (∀ m ∈ t.moves.moves, m.Valid) → (∀ m ∈ t'.moves.moves, m.Valid) →
      ((∀ c, t.Names c → t.moves.get? c = t'.moves.get? c) ↔
        ∀ m, t.Names m.name → (m ∈ t.moves.moves ↔ m ∈ t'.moves.moves)) ∧
      ((∀ c, t.Names c → t.moves.get? c = t'.moves.get? c) → t.assemble = t'.assemble) := by
  refine ⟨fun tok r r' => Token.compile_congr, ?_⟩
  intro t t' hbook hvalid hvalid'
  exact ⟨Registry.agreeOn_iff, assemble_congr hbook hvalid hvalid'⟩

/-- Two registries have the strikes that the tokens name, one in the order in which they are
played, the other one turned round and among two moves that no token names.  A combo with a
symbol that neither of them has is refused with both. -/
theorem only_named_moves_matter_reordered :
    let a : Spec := .pump (.strike 3 8) [2]
    let r : Registry := .ofList [('A', a), ('B', .strike 4 7)]
    let r' : Registry := .ofList [('t', .throw 7 5), ('B', .strike 4 7), ('d', .ofKind .dodge),
      ('A', a)]
    let t := uniform r (.combo "A+B") (.combo "B")
    let t' := uniform r' (.combo "A+B") (.combo "B")
    t.book = t'.book ∧ (∀ m ∈ t.moves.moves, m.Valid) ∧ (∀ m ∈ t'.moves.moves, m.Valid) ∧
      (∀ c, t.Names c → t.moves.get? c = t'.moves.get? c) ∧
      t.assemble = t'.assemble ∧ t.assemble.isOk = true ∧
      (∀ c ∈ (Token.combo "AQ").symbols, r.get? c = r'.get? c) ∧
      (Token.combo "AQ").compile r = (Token.combo "AQ").compile r' ∧
      (Token.combo "AQ").compile r = .error (.refused (.unknownMove 'Q' "AQ")) := by
  intro a r r' t t'
  have hvalid : ∀ r : Registry, (∀ m ∈ r.moves, m.firstNegative? = none) →
      ∀ m ∈ r.moves, m.Valid := fun r hnone m hm =>
    Move.firstNegative?_eq_none_iff.mp (hnone m hm)
  have ht : ∀ m ∈ t.moves.moves, m.Valid := hvalid r (by decide)
  have ht' : ∀ m ∈ t'.moves.moves, m.Valid := hvalid r' (by decide)
  have hsame : ∀ tok : Token, (tok.symbols.all fun c => r.get? c = r'.get? c) = true →
      ∀ c ∈ tok.symbols, r.get? c = r'.get? c := fun tok hall c hc => by
    simpa using List.all_eq_true.mp hall c hc
  have hagree : ∀ c, t.Names c → t.moves.get? c = t'.moves.get? c := by
    rintro c ⟨cell, tok, htok, hc⟩
    rcases at?_uniform htok with ⟨rfl, -⟩ | ⟨rfl, -⟩
    · exact hsame (.combo "A+B") (by decide) c hc
    · exact hsame (.combo "B") (by decide) c hc
  have hmissing : ∀ c ∈ (Token.combo "AQ").symbols, r.get? c = r'.get? c :=
    hsame (.combo "AQ") (by decide)
  obtain ⟨htoken, htable⟩ := only_named_moves_matter
  exact ⟨rfl, ht, ht', hagree, (htable t t' rfl ht ht').2 hagree, by decide +kernel, hmissing,
    htoken _ r r' hmissing, by decide⟩

end Table

end Sparring
