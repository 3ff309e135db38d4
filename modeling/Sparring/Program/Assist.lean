/-
The player's assistant: lists bots, shows cards and rows, rolls the die.

A command line becomes a `Command`, and a command becomes text by way of a catalog.  A card
is shown the same way wherever it is shown: its label, its line, and below an armored
card what armor does.
-/
import Sparring.Card.Line
import Sparring.Catalog.Id
import Sparring.Dice
import Sparring.Json.Printer
import Sparring.Program.Arguments
import Sparring.Program.Files
import Sparring.Writing.Bot
import Sparring.Writing.Query

namespace Sparring.Assist

/-! ### Commands -/

/-- A bot and a position that a row is chosen for. -/
structure Position where
  bot : BotId
  hand : UInt8 := 9
  mode : Mode := .none
  desperate : Bool := false
deriving DecidableEq, Repr

/-- What the assistant is asked to do. -/
inductive Command where
  | list (json : Bool)
  /-- One card, its slot counted from one. -/
  | card (p : Position) (choice : Nat) (hitback json : Bool)
  | table (p : Position)
  | roll (p : Position) (seed : Option UInt64)
  | dump (bot : BotId)
  | legend
deriving DecidableEq, Repr

/-- A command, and the tables to use in place of the built-in ones. -/
structure Request where
  bots : Option String := none
  command : Command
deriving DecidableEq, Repr

/-! ### Command lines -/

/-- A number between bounds. -/
def between? (least greatest : Int) (s : String) : Option Nat :=
  ((Text.word? s.toList).filter fun n => least ≤ n && n ≤ greatest).map Int.toNat

/-- The options of a position. -/
def positionSettings : List String := ["bots", "bot", "hand", "mode"]

/-- The position that options give. -/
def position? (given : Given) : Option Position := do
  let bot ← given.get "bot" (fun s => some (BotId.ofText s)) none
  let hand ← given.get "hand" (fun s => (between? 5 12 s).map UInt8.ofNat) (some 9)
  let mode ← given.get "mode" Mode.ofName? (some .none)
  pure { bot, hand, mode, desperate := given.has "desperate" }

/-- The options that a command knows. -/
def grammar? : String → Option Grammar
  | "list" => some { switches := ["json"], settings := ["bots"] }
  | "show" => some {
      switches := ["desperate", "hitback", "json"], settings := "choice" :: positionSettings }
  | "table" => some { switches := ["desperate"], settings := positionSettings }
  | "roll" => some { switches := ["desperate"], settings := "seed" :: positionSettings }
  | "dump" => some { switches := ["pretty"], settings := ["bots", "bot"] }
  | "legend" => some { settings := ["bots"] }
  | _ => none

/-- The command of a name and its options. -/
def command? (name : String) (given : Given) : Option Command :=
  match name with
  | "list" => some (.list (given.has "json"))
  | "show" => do
    let p ← position? given
    let choice ← given.get "choice" (between? 1 8) (some 1)
    pure (.card p choice (given.has "hitback") (given.has "json"))
  | "table" => (position? given).map .table
  | "roll" => do
    let p ← position? given
    let seed ← given.get "seed"
      (fun s => (Text.natBelow? Width.size64 s.toList).map fun n => some (UInt64.ofNat n)) (some none)
    pure (.roll p seed)
  | "dump" => (given.get "bot" (fun s => some (BotId.ofText s)) none).map .dump
  | "legend" => some .legend
  | _ => none

/-- What a command line asks for, if it is one. The tables may be named before the command or
behind it, and the later mention counts. -/
def request? (words : List String) : Option Request := do
  let (before, rest) ← Arguments.options { settings := ["bots"] } words
  match rest with
  | [] => none
  | name :: rest => do
    let (given, rest) ← Arguments.options (← grammar? name) rest
    let command ← command? name given
    if rest.isEmpty && Arguments.noneTwice before && Arguments.noneTwice given then
      pure { bots := given.lookup "bots" <|> before.lookup "bots", command }
    else none

/-! ### Text -/

/-- A text with blanks in front, up to a width. -/
def padLeft (width : Nat) (s : String) : String :=
  String.ofList (List.replicate (width - s.length) ' ') ++ s

/-- A text with blanks behind, up to a width. -/
def padRight (width : Nat) (s : String) : String :=
  s ++ String.ofList (List.replicate (width - s.length) ' ')

/-- The bot and the position, on one line. -/
def heading (b : Bot) (s : State) : String :=
  b.name ++ " " ++ stars b.difficulty.toNat ++ "  hand " ++ Bracket.label s.bracket ++
    (if s.mode = .none then "" else "  " ++ s.mode.name) ++
    (if s.desperate then "  desperate" else "") ++ "\n"

/-- A card behind its label, with a note if it is armored. -/
def cardBlock (label : String) (c : Card) : String :=
  label ++ ". " ++ c.line ++ "\n" ++
    (if c.armor = .none then "" else "   " ++ Legend.armorNote ++ "\n")

/-- The heading, and the card of a state. -/
def cardPage (b : Bot) (s : State) (label : String) : String :=
  heading b s ++ String.join ((b.resolve? s).toList.map (cardBlock label))

/-- The heading, the eight cards of a row and its hitback. -/
def rowPage (b : Bot) (s : State) : String :=
  let row := b.playedRow s
  heading b s ++
    String.join (row.slots.toList.mapIdx fun i c => cardBlock (toString (i + 1)) c) ++
    cardBlock "H" row.hitback

/-- A bot of the list. -/
def listLine (s : Summary) : String :=
  padLeft 2 (toString s.index) ++ "  " ++ padRight 24 s.code ++ " " ++ stars s.difficulty.toNat ++
    "  " ++ s.name ++ "\n"

/-- The marks on cards and what they mean. -/
def legendPage : String :=
  String.join ((Legend.marks ++ Legend.specials).map fun e =>
    padRight 14 e.icon ++ " " ++ e.meaning ++ "\n") ++ "\n" ++
    "R after speed: reversal (faster than 10)\n" ++
    "! after adj: adjust hand size even if the move whiffs\n" ++
    "[L]/[M]/[H]: " ++ Legend.armorNote ++ "\n"

/-! ### Answers -/

/-- The state of a position, in range. -/
def Position.state (p : Position) (choiceIndex : Nat) (hitback : Bool) : State :=
  State.clamped {
    handSize := p.hand
    choiceIndex := UInt64.ofNat choiceIndex
    mode := p.mode
    desperate := p.desperate
    hitback }

/-- The bot of a catalog, or the reason why there is none. -/
def find (c : Catalog) (id : BotId) : Except LookupError Bot :=
  match c.get? id with
  | some b => .ok b
  | none => .error (.notFound id)

/-- The text that answers a command. A die without a seed is rolled from `chance`. -/
def respond (c : Catalog) (chance : UInt64) : Command → Except LookupError String
  | .list true => .ok (Json.indented (.list (c.summaries.map (·.toDatum))) ++ "\n")
  | .list false => .ok (String.join (c.summaries.map listLine))
  | .card p choice hitback true => do
    let a ← c.lookup { bot := p.bot, state := p.state (choice - 1) hitback }
    pure (Json.indented a.toDatum ++ "\n")
  | .card p choice hitback false => do
    let b ← find c p.bot
    pure (cardPage b (p.state (choice - 1) hitback) (if hitback then "H" else toString choice))
  | .table p => do
    let b ← find c p.bot
    pure (rowPage b (p.state 0 false))
  | .roll p seed => do
    let b ← find c p.bot
    let index := Dice.firstRoll (seed.getD chance)
    pure (cardPage b (p.state index.val false) (toString (index.val + 1)))
  | .dump id => do
    let b ← find c id
    pure (Json.indented b.toDatum ++ "\n")
  | .legend => .ok legendPage

/-- The outcome of a request. Nothing if a number of the tables left its range. -/
def run [Yaml.Reader] (files : Files) (chance : UInt64) (r : Request) : Option Outcome :=
  match Catalog.load files r.bots with
  | .error .overflow => none
  | .error (.refused f) => some (f.outcome "" "")
  | .ok c =>
    match respond c chance r.command with
    | .ok output => some { output }
    | .error e => some (Failure.outcome { text := e.message } "" "")

end Sparring.Assist
