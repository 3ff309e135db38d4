/-
The assistant as other programs call it: questions in JSON, and plain values back.
-/
import Sparring.Dice
import Sparring.Json.Reader
import Sparring.Program.Files
import Sparring.Reading.Question
import Sparring.Writing.Query

namespace Sparring.Bridge

variable [Yaml.Reader]

/-- The version that callers see. -/
def version : String := "y2-ffi 0.1.0"

/-- What there is to know about the bots of a catalog. -/
def bots (files : Files) (path : Option String) : Checked Failure (List Summary) :=
  (Catalog.load files path).map (·.summaries)

/-- The first roll of a seed. -/
def roll (seed : UInt64) : Nat := (Dice.firstRoll seed).val

/-- A reason to answer nothing. -/
inductive Refusal where
  /-- The question is no JSON. -/
  | malformed
  /-- What the caller is told. -/
  | because (text : String)
  /-- A number of the tables left its range. -/
  | overflow

/-- The answer to a question, which comes with its tables if it names any. -/
def ask (files : Files) (q : Question) : Except Refusal Answer := do
  let c ← (Catalog.load files q.botsPath).mapError fun
    | .overflow => .overflow
    | .refused f => .because f.brief
  (c.lookup q).mapError fun e => .because e.message

/-- The answer to a question in JSON. -/
def askText (files : Files) (json : String) : Except Refusal Answer :=
  match Json.read? json with
  | none => .error .malformed
  | some d =>
    match Question.ofDatum d with
    | .error f => .error (.because ("invalid_config: " ++ f.cause.message .json))
    | .ok q => ask files q

end Sparring.Bridge
