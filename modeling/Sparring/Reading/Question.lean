/-
Reading states and questions.

Both may be a map, in which unknown entries are left alone, or a list of their fields in
order, of which the later ones may be absent.
-/
import Sparring.Catalog.Lookup
import Sparring.Reading.Card

namespace Sparring

namespace Mode

/-- The mode of a name that is known to be one. -/
def ofKnown (name : String) : Reading Mode :=
  match ofName? name with
  | some m => .ok m
  | .none => Reading.fail (.noSuchName name (all.map (·.name)))

/-- A mode: its name, or a map with the name as its only key over nothing. A number is refused
without being looked at. -/
def ofDatum : Datum → Reading Mode
  | .text s => ofKnown s
  | .map ((k, v) :: more) => do
    let m ← ofKnown (← Reading.here (Source.key Wanted.name k))
    match v, more with
    | .null, [] => pure m
    | .null, _ :: _ => Reading.fail .expectedValue
    | v, _ => Reading.fail (v.wrong Wanted.nothing)
  | .flawed .outOfRange => Reading.fail .expectedValue
  | .flawed f => Reading.fail (.flawed f)
  | _ => Reading.fail .expectedValue

end Mode

namespace State

/-- The fields of a state. -/
def fields : List (Field Datum State) := [
  .of "hand_size" (fun d => Reading.here (Source.byte d)) fun s v => { s with handSize := v },
  .of "choice_index" (fun d => Reading.here (d.nat Width.size64 Wanted.index)) fun s v =>
    { s with choiceIndex := UInt64.ofNat v },
  .of "mode" Mode.ofDatum fun s v => { s with mode := v },
  .of "desperate" Reading.flag fun s v => { s with desperate := v },
  .of "hitback" Reading.flag fun s v => { s with hitback := v }]

/-- A state. What is absent has its default. -/
def ofDatum : Datum → Reading State
  | .list vs => do
    match ← Record.inOrder fields {} vs with
    | (s, []) => pure s
    | (_, _ :: _) => Reading.fail .trailing
  | d => do Record.lenient fields {} (← Reading.here (Source.entries "a state" d))

end State

/-- A bot id: a position or a code. Whatever stands there is read to its end before it is
refused, so a flaw inside it comes first. -/
def BotId.ofDatum (d : Datum) : Reading BotId :=
  match d, d.flaw? with
  | _, some f => Reading.fail (.flawed f)
  | .int n, none => if 0 ≤ n then .ok (.index n.toNat) else Reading.fail (.noShape Wanted.botId)
  | .text s, none => .ok (.code s)
  | _, none => Reading.fail (.noShape Wanted.botId)

namespace Question

/-- A question that is being read. -/
structure Draft where
  bot : Option BotId := none
  state : State := {}
  botsPath : Option String := none

/-- The fields of a question. -/
def Draft.fields : List (Field Datum Draft) :=
  .of "bot" BotId.ofDatum (fun q v => { q with bot := some v }) ::
    State.fields.map (.lift (·.state) fun q s => { q with state := s }) ++
    [.of "bots_path" (Reading.optional Reading.text) fun q v => { q with botsPath := v }]

/-- The question, if its bot is known. -/
def Draft.question (q : Draft) (absent : Cause) : Reading Question :=
  match q.bot with
  | some bot => .ok { bot, state := q.state, botsPath := q.botsPath }
  | none => Reading.fail absent

/-- A question. -/
def ofDatum : Datum → Reading Question
  | .list vs => do
    let (q, more) ← Record.inOrder Draft.fields {} vs
    let q ← q.question (.wrongLength vs.length (Wanted.question ++ " with 7 elements"))
    match more with
    | [] => pure q
    | _ :: _ => Reading.fail .trailing
  | d => do
    let entries ← Reading.here (Source.entries Wanted.question d)
    (← Record.lenient Draft.fields {} entries).question (.missing "bot")

end Question

end Sparring
