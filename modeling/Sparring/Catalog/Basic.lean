/-
All bots of a game, each reachable by its position and by its code.

A catalog is built from tables, all or nothing: the first table that cannot be
assembled, or whose code is taken, rejects them all.  No two bots of a catalog have
the same code.
-/
import Sparring.Bot.Assemble
import Sparring.Catalog.Code

namespace Sparring

/-- The code of a bot. -/
def Playbook.code {α : Type} (b : Playbook α) : String := Code.ofName b.name

/-- How a bot is asked for. -/
inductive BotId where
  /-- By position, from zero. -/
  | index (n : Nat)
  /-- By code, or by anything with the same code. -/
  | code (text : String)
deriving DecidableEq, Repr

/-- The id as messages show it. -/
def BotId.shown : BotId → String
  | index n => "#" ++ toString n
  | code text => text

/-- What a list of bots tells about one of them. -/
structure Summary where
  index : Nat
  code : String
  name : String
  difficulty : UInt8
deriving DecidableEq, Repr

/-- Bots in order, no two with the same code. -/
structure Catalog where
  bots : List Bot
  nodup : (bots.map (·.code)).Nodup
deriving Repr

namespace Catalog

/-- No bots. -/
def empty : Catalog := ⟨[], by simp⟩

/-- The catalog with one more bot, whose code must be new. -/
def add (c : Catalog) (b : Bot) : Except BuildError Catalog :=
  if h : b.code ∈ c.bots.map (·.code) then
    .error { bot := b.name, spot := .name, cause := .codeTaken b.code }
  else
    .ok {
      bots := c.bots ++ [b]
      nodup := by
        rw [List.map_append, List.nodup_append]
        refine ⟨c.nodup, by simp, ?_⟩
        rintro x hx y hy rfl
        simp only [List.map_cons, List.map_nil, List.mem_cons, List.not_mem_nil, or_false] at hy
        exact h (hy ▸ hx) }

/-- The catalog with the bots of more tables. -/
def addTables (c : Catalog) (tables : List Table) : Checked BuildError Catalog :=
  tables.foldlM (fun c t => do (c.add (← t.assemble)).mapError .refused) c

/-- The catalog of a list of tables. -/
def ofTables (tables : List Table) : Checked BuildError Catalog := empty.addTables tables

/-- How many bots there are. -/
def size (c : Catalog) : Nat := c.bots.length

/-- The position of a bot. -/
def position? (c : Catalog) : BotId → Option Nat
  | .index n => if n < c.size then some n else none
  | .code text => c.bots.findIdx? (fun b => b.code = Code.ofName text)

/-- The bot of an id. -/
def get? (c : Catalog) (id : BotId) : Option Bot :=
  (c.position? id).bind fun i => c.bots[i]?

/-- The code of the bot at a position. -/
def code? (c : Catalog) (i : Nat) : Option String := c.bots[i]?.map (·.code)

/-- The names of all bots. -/
def names (c : Catalog) : List String := c.bots.map (·.name)

/-- One summary for each bot. -/
def summaries (c : Catalog) : List Summary :=
  c.bots.mapIdx fun index b =>
    { index, code := b.code, name := b.name, difficulty := b.difficulty }

end Catalog

end Sparring
