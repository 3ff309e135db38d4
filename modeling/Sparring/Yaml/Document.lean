/-
From tokens to documents.

Every place for a node may be empty, and then holds a blank.  A list may stand under a key
without more indentation than the key, and a pair between square brackets is a map of one
entry.  The first document may come without its mark.  A text without any document holds
one blank.

A text that is not well formed has documents too, up to the place where it breaks off.
There stands a flaw, and one more at the end of every list and map that is still open; so
who reads a document in order comes to a flaw, unless something else is wrong before it.
After a break there is no token but `broken`.

No step leaves the tokens as they are more than twice in a row, so four times their number
bounds the number of steps.
-/
import Sparring.Yaml.Reader
import Sparring.Yaml.Token

namespace Sparring.Yaml

namespace Node

/-- Where the text breaks off. -/
def broken : Node := flawed .malformed

/-- The break, and nothing behind it. -/
def brokenHere : Node × List Token := (broken, [.broken])

/-- The last item of a list in which the text breaks off. -/
def brokenItems : List Node × List Token := ([broken], [.broken])

/-- The last entry of a map in which the text breaks off. -/
def brokenEntries : List (Node × Node) × List Token := ([(broken, broken)], [.broken])

/-- A blank where nothing is written; but that takes a look at the next token. -/
def blankBefore : List Token → Node × List Token
  | .broken :: _ => brokenHere
  | ts => (blank, ts)

/-- Is the next token one of these? -/
def stopsAt (stops : List Token) : List Token → Bool
  | [] => false
  | t :: _ => stops.contains t

mutual

/-- A node. `inBlock` says that indentation may make it, `compact` that a list may begin with
its first dash. -/
def read (inBlock compact : Bool) : Nat → List Token → Node × List Token
  | 0, _ => brokenHere
  | n + 1, ts =>
    match ts with
    | .scalar isPlain text :: ts => (.scalar isPlain text, ts)
    | .flowListStart :: ts =>
      let (xs, ts) := flowItems true n ts
      (.list xs, ts)
    | .flowMapStart :: ts =>
      let (es, ts) := flowEntries true n ts
      (.map es, ts)
    | .item :: _ =>
      if compact then
        let (xs, ts) := compactItems n ts
        (.list xs, ts)
      else brokenHere
    | .listStart :: ts =>
      if inBlock then
        let (xs, ts) := items n ts
        (.list xs, ts)
      else brokenHere
    | .mapStart :: ts =>
      if inBlock then
        let (es, ts) := entries n ts
        (.map es, ts)
      else brokenHere
    | _ => brokenHere

/-- A node, or a blank before one of these tokens. -/
def readOr (inBlock compact : Bool) (stops : List Token) : Nat → List Token → Node × List Token
  | 0, _ => brokenHere
  | n + 1, ts => if stopsAt stops ts then (blank, ts) else read inBlock compact n ts

/-- The items of a list that indentation makes, and its end. -/
def items : Nat → List Token → List Node × List Token
  | 0, _ => brokenItems
  | n + 1, ts =>
    match ts with
    | .item :: ts =>
      let (x, ts) := readOr true false [.item, .blockEnd] n ts
      let (xs, ts) := items n ts
      (x :: xs, ts)
    | .blockEnd :: ts => ([], ts)
    | _ => brokenItems

/-- The items of a list that has no indentation of its own. -/
def compactItems : Nat → List Token → List Node × List Token
  | 0, _ => brokenItems
  | n + 1, ts =>
    match ts with
    | .item :: ts =>
      let (x, ts) := readOr true false [.item, .key, .value, .blockEnd] n ts
      let (xs, ts) := compactItems n ts
      (x :: xs, ts)
    | .broken :: _ => brokenItems
    | ts => ([], ts)

/-- The entries of a map that indentation makes, and its end. -/
def entries : Nat → List Token → List (Node × Node) × List Token
  | 0, _ => brokenEntries
  | n + 1, ts =>
    match ts with
    | .key :: ts =>
      let (k, ts) := readOr true true [.key, .value, .blockEnd] n ts
      let (v, ts) := blockValue n ts
      let (es, ts) := entries n ts
      ((k, v) :: es, ts)
    | .blockEnd :: ts => ([], ts)
    | _ => brokenEntries

/-- The value after a key of a map that indentation makes. -/
def blockValue : Nat → List Token → Node × List Token
  | 0, _ => brokenHere
  | n + 1, ts =>
    match ts with
    | .value :: ts => readOr true true [.key, .value, .blockEnd] n ts
    | ts => blankBefore ts

/-- The items between square brackets, and the closing bracket. -/
def flowItems (first : Bool) : Nat → List Token → List Node × List Token
  | 0, _ => brokenItems
  | n + 1, ts =>
    match first, ts with
    | _, .flowListEnd :: ts => ([], ts)
    | false, .comma :: .flowListEnd :: ts => ([], ts)
    | false, .comma :: ts => flowItem n ts
    | true, ts => flowItem n ts
    | _, _ => brokenItems

/-- An item between square brackets, and what follows it. -/
def flowItem : Nat → List Token → List Node × List Token
  | 0, _ => brokenItems
  | n + 1, ts =>
    let (x, ts) := match ts with
      | .key :: ts =>
        let (es, ts) := flowPair n ts
        (Node.map es, ts)
      | ts => read false false n ts
    let (xs, ts) := flowItems false n ts
    (x :: xs, ts)

/-- The one entry of a map that stands between square brackets. -/
def flowPair : Nat → List Token → List (Node × Node) × List Token
  | 0, _ => brokenEntries
  | n + 1, ts =>
    let (k, ts) := match ts with
      | .value :: ts => (blank, ts)
      | .comma :: ts => (blank, ts)
      | .flowListEnd :: ts => (blank, ts)
      | ts => read false false n ts
    let (v, ts) := flowValue [.comma, .flowListEnd] n ts
    match ts with
    | .broken :: _ => ([(k, v), (broken, broken)], ts)
    | ts => ([(k, v)], ts)

/-- The value after a key between brackets. -/
def flowValue (stops : List Token) : Nat → List Token → Node × List Token
  | 0, _ => brokenHere
  | n + 1, ts =>
    match ts with
    | .value :: ts => readOr false false stops n ts
    | ts => blankBefore ts

/-- The entries between curly brackets, and the closing bracket. -/
def flowEntries (first : Bool) : Nat → List Token → List (Node × Node) × List Token
  | 0, _ => brokenEntries
  | n + 1, ts =>
    match first, ts with
    | _, .flowMapEnd :: ts => ([], ts)
    | false, .comma :: .flowMapEnd :: ts => ([], ts)
    | false, .comma :: ts => flowEntry n ts
    | true, ts => flowEntry n ts
    | _, _ => brokenEntries

/-- An entry between curly brackets, and what follows it. -/
def flowEntry : Nat → List Token → List (Node × Node) × List Token
  | 0, _ => brokenEntries
  | n + 1, ts =>
    let ((k, v), ts) := match ts with
      | .key :: ts =>
        let (k, ts) := readOr false false [.value, .comma, .flowMapEnd] n ts
        let (v, ts) := flowValue [.comma, .flowMapEnd] n ts
        ((k, v), ts)
      | ts =>
        let (k, ts) := read false false n ts
        let (v, ts) := blankBefore ts
        ((k, v), ts)
    let (es, ts) := flowEntries false n ts
    ((k, v) :: es, ts)

end

end Node

/-! ### Documents -/

namespace Document

/-- A document of which nothing can be read. -/
def broken : Document := { root := .broken, isSound := false }

/-- How deep lists and maps may lie inside each other. -/
def greatestDepth : Nat := 128

/-- The document of a tree, with the tokens behind it. -/
def ofRoot (root : Node) (behind : List Token) : Document :=
  { root := root.limited greatestDepth, isSound := behind.head? != some .broken }

end Document

/-- Past the version before a document. At most one may be given, and only 1.1 or 1.2. -/
def skipVersion : List Token → List Token
  | .version major minor :: ts =>
    if major = 1 ∧ (minor = 1 ∨ minor = 2) then
      match ts with
      | .version _ _ :: _ => [.broken]
      | ts => ts
    else [.broken]
  | ts => ts

/-- The content behind the mark of a document. -/
def content (fuel : Nat) (ts : List Token) : Node × List Token :=
  match ts with
  | [] => (.blank, [])
  | .version _ _ :: _ => (.blank, ts)
  | _ => Node.readOr true false [.documentStart, .documentEnd] fuel ts

/-- Does a mark or a version begin a document here? -/
def isMarked : List Token → Bool
  | .version _ _ :: _ => true
  | .documentStart :: _ => true
  | _ => false

/-- The tree of the next document. Only the first document may come without its mark. -/
def nextRoot (fuel : Nat) (isFirst : Bool) (ts : List Token) : Node × List Token :=
  if isFirst && !isMarked ts then Node.read true false fuel ts
  else
    match skipVersion ts with
    | .documentStart :: ts => content fuel ts
    | _ => Node.brokenHere

/-- Past the mark that ends a document. -/
def skipEnd : List Token → List Token
  | .documentEnd :: ts => ts
  | ts => ts

/-- The documents from here on. Nothing comes after one in which the text breaks off. -/
def documentsFrom (fuel : Nat) (isFirst : Bool) : Nat → List Token → List Document
  | 0, _ => [.broken]
  | n + 1, ts =>
    match if isFirst then ts else ts.dropWhile (· == .documentEnd) with
    | [] => []
    | ts =>
      let (root, ts) := nextRoot fuel isFirst ts
      let d := Document.ofRoot root ts
      if d.isSound then d :: documentsFrom fuel false n (skipEnd ts) else [d]

/-- The documents of a text, one at least. -/
def documents (text : String) : List Document :=
  let ts := tokens text
  match documentsFrom (4 * ts.length + 8) true (ts.length + 1) ts with
  | [] => [{ root := .blank }]
  | ds => ds

/-- The reader that the programs are run with. -/
instance : Reader := ⟨documents⟩

theorem reader_documents (text : String) : Reader.documents text = documents text := rfl

/-- Is the whole text well formed? -/
def isWellFormed (text : String) : Bool := (documents text).all (·.isSound)

end Sparring.Yaml
