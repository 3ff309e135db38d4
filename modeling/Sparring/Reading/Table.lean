/-
Reading the table of a bot.

The places of a fault are those of the document: `normal[0].choices`, `moves.A.kind`.
Wakeup, dragon and desperate may be absent or null, and so may every hitback but those of
the normal rows.
-/
import Sparring.Bot.Assemble
import Sparring.Reading.Spec
import Sparring.Reading.Token

namespace Sparring

variable {α : Type} [Source α]

/-! ### Rows -/

namespace Row

/-- A row that is being read. -/
structure Draft (σ τ : Type) where
  slots : Option (Tuple faces σ) := none
  hitback : Option τ := none

variable {σ τ : Type}

/-- The fields of a row. -/
def Draft.fields (slot : PathStep → α → Reading σ) (hitback : PathStep → α → Reading τ) :
    List (Field α (Draft σ τ)) := [
  .of "choices" (Reading.tuple faces slot) fun r v => { r with slots := some v },
  { key := "hitback"
    read := fun r v => do
      let h ← hitback (.key "hitback") v
      pure { r with hitback := some h } }]

/-- A row whose hitback is `absent` when it is not written; nothing if it must be. -/
def read (wanted : String) (slot : PathStep → α → Reading σ) (hitback : PathStep → α → Reading τ)
    (absent : Option τ) (v : α) : Reading (Row σ τ) := do
  let r ← Record.strict wanted (Draft.fields slot hitback) {} v
  let slots ← Record.need "choices" r.slots
  let hitback ← Record.need "hitback" (r.hitback <|> absent)
  pure { slots, hitback }

/-- A row in which every cell is filled. -/
def readFull : α → Reading (Row Token Token) :=
  read Wanted.fullRow Token.read Token.read none

/-- A row that may do without a hitback. -/
def readLoose : α → Reading (Row Token (Option Token)) :=
  read Wanted.looseRow Token.read Token.readOptional (some none)

/-- A row in which every cell may be empty. -/
def readSparse : α → Reading (Row (Option Token) (Option Token)) :=
  read Wanted.sparseRow Token.readOptional Token.readOptional (some none)

end Row

/-! ### Moves -/

/-- The symbol of a move. -/
def readSymbol (v : α) : Except Cause Char := do
  let s ← Source.key "a character" v
  match s.toList with
  | [c] => pure c
  | _ => throw (.wrongValue (.text s) "a character")

namespace Registry

/-- Symbols with their specs, in order. -/
def readSpecs : List (α × α) → Reading (List (Char × Spec))
  | [] => .ok []
  | (k, v) :: es => do
    let name ← Reading.here (readSymbol k)
    let spec ← Reading.within (.key name.toString) (Spec.read v)
    let specs ← readSpecs es
    pure ((name, spec) :: specs)

/-- The moves of a table. -/
def read (v : α) : Reading Registry := do
  let entries ← Reading.here (Source.entries "a map" v)
  let specs ← readSpecs entries
  pure (ofList specs)

end Registry

/-! ### Tables -/

namespace Table

/-- A table that is being read. -/
structure Draft where
  name : Option String := none
  difficulty : Option UInt8 := none
  moves : Option Registry := none
  normal : Option (Tuple brackets (Row Token Token)) := none
  knockdown : Option (Row Token (Option Token)) := none
  wakeup : Option (Row Token (Option Token)) := none
  dragon : Option (Row Token (Option Token)) := none
  desperate : Option (Row (Option Token) (Option Token)) := none

/-- The fields of a table. -/
def Draft.fields : List (Field α Draft) := [
  .of "name" Reading.text fun t v => { t with name := some v },
  .of "difficulty" (fun v => Reading.here (Source.byte v)) fun t v =>
    { t with difficulty := some v },
  .of "moves" Registry.read fun t v => { t with moves := some v },
  .of "normal" (Reading.tuple brackets fun step v => Reading.within step (Row.readFull v))
    fun t v => { t with normal := some v },
  .of "knockdown" Row.readLoose fun t v => { t with knockdown := some v },
  .of "wakeup" (Reading.optional Row.readLoose) fun t v => { t with wakeup := v },
  .of "dragon" (Reading.optional Row.readLoose) fun t v => { t with dragon := v },
  .of "desperate" (Reading.optional Row.readSparse) fun t v => { t with desperate := v }]

/-- The table of a bot. -/
def read (v : α) : Reading Table := do
  let t ← Record.strict Wanted.table Draft.fields {} v
  let name ← Record.need "name" t.name
  let difficulty ← Record.need "difficulty" t.difficulty
  let moves ← Record.need "moves" t.moves
  let normal ← Record.need "normal" t.normal
  let knockdown ← Record.need "knockdown" t.knockdown
  pure {
    moves
    book := {
      name, difficulty, normal, knockdown
      wakeup := t.wakeup
      dragon := t.dragon
      desperate := t.desperate } }

end Table

end Sparring
