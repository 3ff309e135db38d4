/-
A YAML text cut into tokens.

Most tokens stand where they are written.  Three kinds do not: a block begins and ends where
its indentation does, and that a scalar or a list was a key is seen only at the colon
behind it.  So the places where a key may have begun are remembered, one for every level of
brackets, and the colon puts a `key` back there.  A key must end on its line and within
1024 bytes; a key that its indentation demands must come to its colon.

A byte order mark may begin a line.  It takes a column like any other character, so the
line is indented by it.

Where a text cannot be cut any further, the token `broken` ends it.  Of the tokens before it
only those count that are settled: behind a place where a key may have begun everything
could still change.

This is the part of YAML that tables are written in.  Anchors and aliases, tags and the two
block styles of scalars are left out, and a text with one of them is taken for a broken one.
-/
import Sparring.Yaml.Word

namespace Sparring.Yaml

/-- A token. -/
inductive Token where
  /-- The line that gives the version. -/
  | version (major minor : Nat)
  | documentStart
  | documentEnd
  | listStart
  | mapStart
  /-- The end of a list or map that indentation makes. -/
  | blockEnd
  | flowListStart
  | flowListEnd
  | flowMapStart
  | flowMapEnd
  /-- The dash before an item. -/
  | item
  /-- The comma between brackets. -/
  | comma
  | key
  | value
  | scalar (isPlain : Bool) (text : String)
  /-- From here on the text is malformed. -/
  | broken
deriving DecidableEq, Repr

/-- A place where a key may have begun. -/
structure Candidate where
  /-- The indentation demands a key here. -/
  required : Bool
  /-- How many tokens stand before it. -/
  position : Nat
  index : Nat
  line : Nat
  column : Nat

/-- A text that is being cut. -/
structure Scan where
  cursor : Cursor
  /-- The tokens so far, latest first. -/
  tokens : List Token := []
  /-- How many tokens there are. -/
  count : Nat := 0
  /-- How many brackets are open. -/
  depth : Nat := 0
  /-- The column of the innermost block, -1 outside of all. -/
  indent : Int := -1
  /-- The columns of the blocks around it. -/
  outer : List Int := []
  /-- A key may begin here. -/
  keyAllowed : Bool := true
  /-- Where a key may have begun, for every level of brackets, innermost first. -/
  candidates : List (Option Candidate) := [none]

namespace Scan

/-- With one more token. -/
def push (s : Scan) (t : Token) : Scan := { s with tokens := t :: s.tokens, count := s.count + 1 }

/-- With a token put behind the first `position` tokens. -/
def insertAt (s : Scan) (position : Nat) (t : Token) : Scan :=
  let later := s.count - position
  { s with tokens := s.tokens.take later ++ t :: s.tokens.drop later, count := s.count + 1 }

/-! ### Blocks -/

/-- Closes the blocks to the right of a column. -/
def unrollAlong (column : Int) : List Int → Scan → Scan
  | [], s => s
  | i :: is, s =>
    if column < s.indent then
      unrollAlong column is { s.push .blockEnd with indent := i, outer := is }
    else s

/-- Closes the blocks to the right of a column, which brackets forbid. -/
def unroll (s : Scan) (column : Int) : Scan :=
  if s.depth = 0 then unrollAlong column s.outer s else s

/-- Opens a block at a column if it is to the right of the innermost one. -/
def roll (s : Scan) (column : Nat) (position : Nat) (t : Token) : Scan :=
  if s.depth = 0 ∧ s.indent < column then
    { s.insertAt position t with indent := column, outer := s.indent :: s.outer }
  else s

/-! ### Keys -/

/-- Does the candidate end on this line and within its length? -/
def isFresh (c : Cursor) (k : Candidate) : Bool :=
  !(k.line < c.line || k.index + 1024 < c.index)

/-- A candidate that has had its chance; a required one makes the text malformed. -/
def expire (c : Cursor) : Option Candidate → Option (Option Candidate)
  | none => some none
  | some k => if isFresh c k then some (some k) else if k.required then none else some none

/-- Without the candidates that have had their chance. -/
def dropStale (s : Scan) : Option Scan := do
  let candidates ← s.candidates.mapM (expire s.cursor)
  pure { s with candidates }

/-- Without the candidate of the innermost brackets. -/
def dropCandidate (s : Scan) : Option Scan :=
  match s.candidates with
  | some k :: ks => if k.required then none else some { s with candidates := none :: ks }
  | _ => some s

/-- With a candidate here, if a key may begin here. -/
def saveCandidate (s : Scan) : Option Scan :=
  if s.keyAllowed then do
    let s ← s.dropCandidate
    let c := s.cursor
    let k : Candidate := {
      required := s.depth = 0 ∧ s.indent = c.column
      position := s.count
      index := c.index
      line := c.line
      column := c.column }
    pure { s with candidates := some k :: s.candidates.drop 1 }
  else
    some s

/-! ### Single tokens -/

/-- Past `n` characters. -/
def skip (s : Scan) (n : Nat) : Scan := { s with cursor := s.cursor.skip n }

/-- The start or the end of a document. -/
def documentMark (s : Scan) (t : Token) : Option Scan := do
  let s ← (s.unroll (-1)).dropCandidate
  pure ({ s with keyAllowed := false }.skip 3 |>.push t)

/-- An opening bracket. -/
def openBracket (s : Scan) (t : Token) : Option Scan := do
  let s ← s.saveCandidate
  let candidates := none :: s.candidates
  pure ({ s with keyAllowed := true, depth := s.depth + 1, candidates }.skip 1 |>.push t)

/-- A closing bracket. -/
def closeBracket (s : Scan) (t : Token) : Option Scan := do
  let s ← s.dropCandidate
  let s := if s.depth = 0 then s
    else { s with depth := s.depth - 1, candidates := s.candidates.drop 1 }
  pure ({ s with keyAllowed := false }.skip 1 |>.push t)

/-- The comma between brackets. -/
def comma (s : Scan) : Option Scan := do
  let s ← s.dropCandidate
  pure ({ s with keyAllowed := true }.skip 1 |>.push .comma)

/-- The dash before an item. -/
def item (s : Scan) : Option Scan :=
  if s.depth = 0 ∧ !s.keyAllowed then none
  else do
    let s ← (s.roll s.cursor.column s.count .listStart).dropCandidate
    pure ({ s with keyAllowed := true }.skip 1 |>.push .item)

/-- The question mark before a key that may be anything. -/
def explicitKey (s : Scan) : Option Scan :=
  if s.depth = 0 ∧ !s.keyAllowed then none
  else do
    let s ← (s.roll s.cursor.column s.count .mapStart).dropCandidate
    pure ({ s with keyAllowed := s.depth = 0 }.skip 1 |>.push .key)

/-- The colon between a key and its value. -/
def value (s : Scan) : Option Scan :=
  match s.candidates with
  | some k :: ks =>
    let s := (s.insertAt k.position .key).roll k.column k.position .mapStart
    some ({ s with candidates := none :: ks, keyAllowed := false }.skip 1 |>.push .value)
  | _ =>
    if s.depth = 0 ∧ !s.keyAllowed then none
    else
      let s := s.roll s.cursor.column s.count .mapStart
      some ({ s with keyAllowed := s.depth = 0 }.skip 1 |>.push .value)

/-- A quoted scalar. -/
def quotedScalar (s : Scan) (bound : Nat) (q : Quote) : Option Scan := do
  let s ← s.saveCandidate
  let (text, cursor) ← q.read bound s.cursor
  pure ({ s with keyAllowed := false, cursor }.push (.scalar false text))

/-- A plain scalar. A key may begin behind it if a line has ended there. -/
def plainScalar (s : Scan) (bound : Nat) : Option Scan := do
  let s ← s.saveCandidate
  let (text, broken, cursor) ← Plain.read (0 < s.depth) (s.indent + 1) bound s.cursor
  pure ({ s with keyAllowed := broken, cursor }.push (.scalar true text))

/-! ### Directives -/

/-- The digits at the front as a number of at most nine of them, and what follows. -/
def versionPart (cs : List Char) : Option (Nat × List Char) := do
  let digits := cs.takeWhile Char.isDigit
  if 9 < digits.length then none
  else
    let n ← Text.digits? 10 digits
    pure (n, cs.dropWhile Char.isDigit)

/-- The version that a line gives. -/
def versionOf (line : List Char) : Option Token :=
  match line with
  | '%' :: 'Y' :: 'A' :: 'M' :: 'L' :: cs =>
    if !atGap cs then none
    else do
      let (major, cs) ← versionPart (cs.dropWhile isBlank)
      match cs with
      | '.' :: cs => do
        let (minor, cs) ← versionPart cs
        let rest := cs.dropWhile isBlank
        if rest.isEmpty || rest.head? == some '#' then pure (.version major minor) else none
      | _ => none
  | _ => none

/-- The line that gives the version. -/
def directive (s : Scan) : Option Scan := do
  let s ← (s.unroll (-1)).dropCandidate
  let line := s.cursor.rest.takeWhile fun x => !isBreak x
  let t ← versionOf line
  let cursor := (s.cursor.skip line.length).newline.2
  pure ({ s with keyAllowed := false, cursor }.push t)

/-! ### From token to token -/

/-- Past blanks, comments, line breaks and byte order marks. Outside of brackets a key may begin
on a new line, and no tab may stand where one may begin. -/
def skipGaps : Nat → Scan → Scan
  | 0, s => s
  | n + 1, s =>
    let c := s.cursor
    match c.rest with
    | [] => s
    | x :: _ =>
      let tabs := 0 < s.depth || !s.keyAllowed
      if x == '\uFEFF' && c.column == 0 then skipGaps n (s.skip 1)
      else if x == ' ' || (tabs && x == '\t') then skipGaps n (s.skip 1)
      else if x == '#' then
        let comment := c.rest.takeWhile fun x => !isBreak x
        skipGaps n (s.skip comment.length)
      else if isBreak x then
        skipGaps n { s with cursor := c.newline.2, keyAllowed := s.keyAllowed || s.depth = 0 }
      else s

/-- Does a character, with what follows it, begin a plain scalar? -/
def beginsPlain (inFlow : Bool) (x : Char) (rest : List Char) : Bool :=
  let marks := "\t-?:,[]\x7b\x7d#&*!|>'\"%@`".toList
  !marks.contains x || (x == '-' && !(rest.take 1).any isBlank) ||
    (!inFlow && (x == '?' || x == ':') && !atGap rest)

/-- The token that begins with a character, with what follows it. -/
def tokenAt (s : Scan) (bound : Nat) (x : Char) (rest : List Char) : Option Scan :=
  let inFlow := 0 < s.depth
  if s.cursor.column == 0 && x == '%' then s.directive
  else if s.cursor.atMark '-' then s.documentMark .documentStart
  else if s.cursor.atMark '.' then s.documentMark .documentEnd
  else if x == '[' then s.openBracket .flowListStart
  else if x == '\x7b' then s.openBracket .flowMapStart
  else if x == ']' then s.closeBracket .flowListEnd
  else if x == '\x7d' then s.closeBracket .flowMapEnd
  else if x == ',' then s.comma
  else if x == '-' && atGap rest then s.item
  else if x == '?' && (inFlow || atGap rest) then s.explicitKey
  else if x == ':' && (inFlow || atGap rest) then s.value
  else if x == '\x27' then s.quotedScalar bound .single
  else if x == '"' then s.quotedScalar bound .double
  else if beginsPlain inFlow x rest then s.plainScalar bound
  else none

/-- The end of the text: all blocks end, and no key may be missing. -/
def finish (s : Scan) : Option (List Token) := do
  let c := s.cursor
  let c := if c.column = 0 then c else { c with column := 0, line := c.line + 1 }
  let s ← ({ s with cursor := c }.unroll (-1)).dropCandidate
  let s ← s.dropStale
  pure s.tokens.reverse

/-- How many tokens stand before the first place where a key may still begin. -/
def settled (s : Scan) : Nat :=
  s.candidates.foldl (fun n k => k.elim n fun k => min n k.position) s.count

/-- The tokens of a text that cannot be cut any further. -/
def breakOff (s : Scan) : List Token := s.tokens.reverse.take s.settled ++ [.broken]

/-- Past one more token, or all tokens if there is none. -/
def step (bound : Nat) (s : Scan) : Option (List Token ⊕ Scan) := do
  let s := s.skipGaps bound
  let s ← s.dropStale
  let s := s.unroll s.cursor.column
  match s.cursor.rest with
  | [] => (s.finish).map .inl
  | x :: rest => do
    let s ← s.tokenAt bound x rest
    let s ← s.dropStale
    pure (.inr s)

/-- The tokens from here on. Every token takes a character, so the number that bounds the steps
stays greater than the number of characters that are left. -/
def run : Nat → Scan → List Token
  | 0, s => s.breakOff
  | n + 1, s =>
    match s.step (n + 1) with
    | none => s.breakOff
    | some (.inl ts) => ts
    | some (.inr s) => run n s

end Scan

/-! ### Texts -/

/-- The characters that a text may hold. -/
def isAllowed (c : Char) : Bool :=
  let n := c.toNat
  n == 0x09 || n == 0x0A || n == 0x0D || (0x20 ≤ n && n ≤ 0x7E) || n == 0x85 ||
    (0xA0 ≤ n && n ≤ 0xD7FF) || (0xE000 ≤ n && n ≤ 0xFFFD) || 0x10000 ≤ n

/-- The tokens of a text. One with a character that it may not hold has none. -/
def tokens (text : String) : List Token :=
  let cs := text.toList
  if cs.all isAllowed then Scan.run (cs.length + 2) { cursor := { rest := cs } } else [.broken]

end Sparring.Yaml
