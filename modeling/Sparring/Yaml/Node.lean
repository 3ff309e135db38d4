/-
A YAML document as a tree.

Scalars are kept as they are written, because only the reader knows whether `5` is a
number or a name; all that is known of them is whether they stand without quotes.

Where the text breaks off, or lists and maps lie too deep inside each other, the tree has
a flaw.  It is read like any other part of it, in its turn.
-/
import Sparring.Reading.Fault
import Sparring.Yaml.Scalar

namespace Sparring.Yaml

/-- A value of a document. -/
inductive Node where
  | scalar (isPlain : Bool) (text : String)
  | list (items : List Node)
  | map (entries : List (Node × Node))
  | flawed (f : Flaw)
deriving Repr

namespace Node

/-- Nothing at all, which is written with no character. -/
def blank : Node := scalar true ""

/-- The value as messages show it. -/
def glimpse : Node → Datum
  | scalar true s => resolve s
  | scalar false s => .text s
  | list _ => .list []
  | map _ => .map []
  | flawed f => .flawed f

/-- Is it a plain scalar that means null? -/
def isNull : Node → Bool
  | scalar true s => Yaml.isNull s
  | _ => false

/-- The step to the value of a key. -/
def step : Node → PathStep
  | scalar _ s => .key s
  | _ => .unnamed

/-- A scalar where nothing says what it should be; too wide a number is refused. -/
def scalarDatum (n : Node) : Reading Datum :=
  match n.glimpse with
  | .int k =>
    if wideSuffix k = "" then .ok (.int k) else Reading.fail (.wrongType (.int k) "any value")
  | d => .ok d

mutual

/-- The value where nothing says what it should be. -/
def datum : Node → Reading Datum
  | scalar isPlain s => scalarDatum (scalar isPlain s)
  | list items => (datums 0 items).map .list
  | map entries => (datumEntries entries).map .map
  | flawed f => Reading.fail (.flawed f)

/-- Items from position `i` on. -/
def datums (i : Nat) : List Node → Reading (List Datum)
  | [] => .ok []
  | x :: xs => do
    let d ← Reading.within (.item i) (datum x)
    let ds ← datums (i + 1) xs
    pure (d :: ds)

/-- Entries in order. -/
def datumEntries : List (Node × Node) → Reading (List (Datum × Datum))
  | [] => .ok []
  | (k, v) :: es => do
    let key ← datum k
    let d ← Reading.within k.step (datum v)
    let ds ← datumEntries es
    pure ((key, d) :: ds)

end

/-! ### Depth -/

mutual

/-- The tree in which only `depth` lists and maps lie inside each other. -/
def limited (depth : Nat) : Node → Node
  | list items => if depth = 0 then flawed .tooDeep else list (limitedItems (depth - 1) items)
  | map entries => if depth = 0 then flawed .tooDeep else map (limitedEntries (depth - 1) entries)
  | n => n

/-- Items in which only `depth` lists and maps lie inside each other. -/
def limitedItems (depth : Nat) : List Node → List Node
  | [] => []
  | x :: xs => limited depth x :: limitedItems depth xs

/-- Entries in which only `depth` lists and maps lie inside each other. -/
def limitedEntries (depth : Nat) : List (Node × Node) → List (Node × Node)
  | [] => []
  | (k, v) :: es => (limited depth k, limited depth v) :: limitedEntries depth es

end

end Node

end Sparring.Yaml
