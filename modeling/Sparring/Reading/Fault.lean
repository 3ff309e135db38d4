/-
What is wrong with a document, and where.

A fault is a cause and the path from the top of the document to the value that it is
about.  Causes are the same in every format; only the names of null and of fractions
differ, and those are a `Wording`.

A flaw is the fault of the text and not of what its author means, and it is reported
without a place.
-/
import Sparring.Datum.Basic
import Sparring.Text.Quoted
import Sparring.Width

namespace Sparring

/-! ### Wording -/

/-- How a format names the values that formats name differently. -/
structure Wording where
  null : String
  fraction : Binary64 → String

/-- JSON says null, and writes fractions briefly. -/
def Wording.json : Wording := ⟨"null", Binary64.brief⟩

/-- YAML has no single word for null, and writes fractions in full. -/
def Wording.yaml : Wording := ⟨"unit value", Binary64.text⟩

/-- The width of a whole number, if 64 bits do not hold it. -/
def wideSuffix (n : Int) : String :=
  if n < -(Width.half64 : Int) then " as i128" else if Width.size64 ≤ n then " as u128" else ""

/-- A value as messages show it; of lists and maps only what they are. -/
def Datum.shown (w : Wording) : Datum → String
  | .null => w.null
  | .bool b => "boolean `" ++ toString b ++ "`"
  | .int n => "integer `" ++ toString n ++ "`" ++ wideSuffix n
  | .fraction (.finite x) => "floating point `" ++ w.fraction x ++ "`"
  | .fraction x => "floating point `" ++ x.text ++ "`"
  | .text s => "string " ++ Text.quoted s
  | .list _ => "sequence"
  | .map _ => "map"
  | .flawed f => f.message

/-! ### What was wanted

Messages have names of their own for the types that the table format speaks of.  Authors and
callers know them, so they are fixed, and they stand here and nowhere else. -/

namespace Wanted

/-- A number on a card. -/
def amount : String := "i32"

/-- A number below 256. -/
def byte : String := "u8"

/-- A position. -/
def index : String := "usize"

/-- The key of a field. -/
def key : String := "field identifier"

/-- The key of a name that stands for itself. -/
def name : String := "variant identifier"

/-- Nothing, behind a name that stands for itself. -/
def nothing : String := "unit"

/-- The content of a cell. -/
def token : String := "ChoiceInit"

/-- A position or a code. -/
def botId : String := "BotId"

/-- A move as its author writes it. -/
def spec : String := "struct MoveSpec"

/-- A row with every cell filled. -/
def fullRow : String := "struct BracketShorthand"

/-- A row whose hitback may be absent. -/
def looseRow : String := "struct RowShorthand"

/-- A row whose cells may all be empty. -/
def sparseRow : String := "struct OverrideShorthand"

/-- The table of a bot. -/
def table : String := "struct BotShorthand"

/-- A question to a catalog. -/
def question : String := "struct LookupConfig"

end Wanted

/-! ### Causes -/

/-- What is wrong with a value. -/
inductive Cause where
  | missing (field : String)
  | duplicate (field : String)
  | unknown (field : String) (expected : List String)
  /-- An entry that no part of a record claims. -/
  | unclaimed (field : String)
  | noSuchName (name : String) (expected : List String)
  | wrongType (found : Datum) (wanted : String)
  | wrongValue (found : Datum) (wanted : String)
  | wrongLength (found : Nat) (wanted : String)
  /-- None of the shapes that `type` may have. -/
  | noShape (type : String)
  | severalDocuments
  | expectedValue
  | trailing
  /-- There is no value to read. -/
  | flawed (f : Flaw)
deriving Repr

/-- Why a value is not what was wanted: it has a flaw, or else the wrong type. -/
def Datum.wrong (wanted : String) : Datum → Cause
  | .flawed f => .flawed f
  | d => .wrongType d wanted

/-- The names that were expected. -/
def expectation : List String → String
  | [] => "there are no fields"
  | [a] => "expected `" ++ a ++ "`"
  | [a, b] => "expected `" ++ a ++ "` or `" ++ b ++ "`"
  | names => "expected one of " ++ ", ".intercalate (names.map fun a => "`" ++ a ++ "`")

/-- The cause in words. -/
def Cause.message (w : Wording) : Cause → String
  | missing field => "missing field `" ++ field ++ "`"
  | duplicate field => "duplicate field `" ++ field ++ "`"
  | unknown field expected => "unknown field `" ++ field ++ "`, " ++ expectation expected
  | unclaimed field => "unknown field `" ++ field ++ "`"
  | noSuchName name expected => "unknown variant `" ++ name ++ "`, " ++ expectation expected
  | wrongType found wanted => "invalid type: " ++ found.shown w ++ ", expected " ++ wanted
  | wrongValue found wanted => "invalid value: " ++ found.shown w ++ ", expected " ++ wanted
  | wrongLength found wanted => "invalid length " ++ toString found ++ ", expected " ++ wanted
  | noShape type => "data did not match any variant of untagged enum " ++ type
  | severalDocuments => "deserializing from YAML containing more than one document is not supported"
  | expectedValue => "expected value"
  | trailing => "trailing characters"
  | flawed f => f.message

/-! ### Places -/

/-- One step from a value to a value inside it. -/
inductive PathStep where
  | key (name : String)
  | item (i : Nat)
  /-- Under a key that is not a text. -/
  | unnamed
deriving DecidableEq, Repr

/-- The path after one more step. -/
def PathStep.extend (path : String) : PathStep → String
  | key name => (if path = "" then "" else path ++ ".") ++ name
  | item i => (if path = "" then "." else path) ++ "[" ++ toString i ++ "]"
  | unnamed => (if path = "" then "" else path ++ ".") ++ "?"

/-- A cause and its place. -/
structure Fault where
  path : List PathStep := []
  cause : Cause
deriving Repr

namespace Fault

/-- The fault as seen from one step further out. -/
def within (s : PathStep) (f : Fault) : Fault := { f with path := s :: f.path }

/-- The fault in words; a fault at the top has no place, nor has a flaw. -/
def message (w : Wording) (f : Fault) : String :=
  match f.path, f.cause with
  | [], cause => cause.message w
  | _, .flawed x => x.message
  | path, cause => path.foldl PathStep.extend "" ++ ": " ++ cause.message w

end Fault

/-- A reader's result. -/
abbrev Reading (α : Type) := Except Fault α

namespace Reading

variable {α : Type}

/-- A result about a value itself. -/
def here (r : Except Cause α) : Reading α := r.mapError fun cause => { cause }

/-- A failure of a value itself. -/
def fail (cause : Cause) : Reading α := .error { cause }

/-- A result about a value one step further in. -/
def within (s : PathStep) (r : Reading α) : Reading α := r.mapError (·.within s)

end Reading

end Sparring
