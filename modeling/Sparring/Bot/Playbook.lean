/-
The rows of a bot, whatever stands in their cells.

A row has eight slots, one for each face of the die, and a hitback for when the
player's blocked attack is punished.  The four normal rows are for the four brackets
of the player's hand.  Knockdown, wakeup and dragon replace the whole row and may
leave the hitback out; desperate replaces single slots.

A table has tokens in its cells and a bot has cards.  The shape is the same, so it
is defined once, and assembling a bot is a `traverse` of its table: cells are visited
in reading order and the first failure is the answer.
-/
import Sparring.Tuple

namespace Sparring

/-- How many faces the die has. -/
abbrev faces : Nat := 8

/-- How many brackets the hand sizes fall into. -/
abbrev brackets : Nat := 4

/-- Eight slots and a hitback. -/
structure Row (σ τ : Type) where
  slots : Tuple faces σ
  hitback : τ
deriving DecidableEq, Repr

/-- A name, a difficulty, and rows of `α`. -/
structure Playbook (α : Type) where
  name : String
  difficulty : UInt8
  normal : Tuple brackets (Row α α)
  knockdown : Row α (Option α)
  wakeup : Option (Row α (Option α)) := none
  dragon : Option (Row α (Option α)) := none
  /-- Empty slots fall back on the row below. -/
  desperate : Option (Row (Option α) (Option α)) := none
deriving DecidableEq, Repr

/-! ### Cells -/

/-- The rows of a playbook. -/
inductive RowName where
  | normal (bracket : Fin brackets)
  | knockdown
  | wakeup
  | dragon
  | desperate
deriving DecidableEq, Repr

/-- The cells of a row. -/
inductive Place where
  | slot (i : Fin faces)
  | hitback
deriving DecidableEq, Repr

/-- The address of a cell. -/
structure Cell where
  row : RowName
  place : Place
deriving DecidableEq, Repr

/-- The row as errors name it. -/
def RowName.label : RowName → String
  | normal b => "normal[" ++ toString b.val ++ "]"
  | knockdown => "knockdown"
  | wakeup => "wakeup"
  | dragon => "dragon"
  | desperate => "desperate"

/-- The cell as errors name it; slots are counted from one. -/
def Cell.label (c : Cell) : String :=
  match c.place with
  | .slot i => c.row.label ++ " slot " ++ toString (i.val + 1)
  | .hitback => c.row.label ++ " hitback"

/-! ### Visiting every cell -/

variable {α β σ τ σ' τ' ε : Type}

/-- Runs `f` on a value that may be missing. -/
def traverseOption (f : α → Except ε β) : Option α → Except ε (Option β)
  | none => .ok none
  | some x => (f x).map some

/-- The slots first to last, then the hitback. -/
def Row.traverse (slot : Fin faces → σ → Except ε σ') (hitback : τ → Except ε τ')
    (r : Row σ τ) : Except ε (Row σ' τ') := do
  let slots ← r.slots.traverse slot
  let hitback ← hitback r.hitback
  pure { slots, hitback }

namespace Playbook

/-- Runs `f` on every cell that holds something: the normal rows, then knockdown, wakeup,
dragon and desperate. -/
def traverse (f : Cell → α → Except ε β) (p : Playbook α) : Except ε (Playbook β) := do
  let full (row : RowName) : Row α α → Except ε (Row β β) :=
    Row.traverse (fun i => f ⟨row, .slot i⟩) (f ⟨row, .hitback⟩)
  let loose (row : RowName) : Row α (Option α) → Except ε (Row β (Option β)) :=
    Row.traverse (fun i => f ⟨row, .slot i⟩) (traverseOption (f ⟨row, .hitback⟩))
  let sparse (row : RowName) : Row (Option α) (Option α) → Except ε (Row (Option β) (Option β)) :=
    Row.traverse (fun i => traverseOption (f ⟨row, .slot i⟩))
      (traverseOption (f ⟨row, .hitback⟩))
  let normal ← p.normal.traverse fun b => full (.normal b)
  let knockdown ← loose .knockdown p.knockdown
  let wakeup ← traverseOption (loose .wakeup) p.wakeup
  let dragon ← traverseOption (loose .dragon) p.dragon
  let desperate ← traverseOption (sparse .desperate) p.desperate
  pure { name := p.name, difficulty := p.difficulty, normal, knockdown, wakeup, dragon, desperate }

end Playbook

end Sparring
