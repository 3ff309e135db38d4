/-
Writing tokens, rows and bots.
-/
import Sparring.Bot.Assemble
import Sparring.Writing.Move

namespace Sparring

/-- The token in the shape in which it is read. -/
def Token.toDatum : Token → Datum
  | combo text => .text text
  | patched text patch => .list [.text text, patch.toDatum]
  | card c => c.toDatum

/-- The row as a record. -/
def Row.toDatum {σ τ : Type} (slot : σ → Datum) (hitback : τ → Datum) (r : Row σ τ) : Datum :=
  .record [("choices", .list (r.slots.toList.map slot)), ("hitback", hitback r.hitback)]

namespace Playbook

variable {α : Type}

/-- The rows of a playbook. -/
def rowEntries (cell : α → Datum) (p : Playbook α) : List (String × Datum) :=
  let loose : Row α (Option α) → Datum := Row.toDatum cell (.ofOption cell)
  [("normal", .list (p.normal.toList.map (Row.toDatum cell cell))),
    ("knockdown", loose p.knockdown),
    ("wakeup", .ofOption loose p.wakeup),
    ("dragon", .ofOption loose p.dragon),
    ("desperate", .ofOption (Row.toDatum (.ofOption cell) (.ofOption cell)) p.desperate)]

/-- Name and difficulty. -/
def headEntries (p : Playbook α) : List (String × Datum) :=
  [("name", .text p.name), ("difficulty", .int p.difficulty.toNat)]

/-- The bot as a record. -/
def toDatum (b : Bot) : Datum := .record (b.headEntries ++ b.rowEntries Card.toDatum)

end Playbook

/-- The table as a record, its moves complete. -/
def Table.toDatum (t : Table) : Datum :=
  .record (t.book.headEntries ++ ("moves", .list (t.moves.moves.map Move.toDatum)) ::
    t.book.rowEntries Token.toDatum)

end Sparring
