/-
The text of a scalar: words, and the gaps between them.

A gap on one line is kept as it is.  A gap over a line break becomes one blank, or one line
break for every line that is empty, so that a scalar may run over several lines.  After a
backslash at the end of a line nothing takes the place of the break.

Texts are gathered with their latest character first.  The number that bounds the steps is
handed from the scalar to its words and gaps; it is greater than the number of characters
that are left.
-/
import Sparring.Yaml.Cursor

namespace Sparring.Yaml

/-! ### Gaps -/

/-- Blanks and line breaks between two words. -/
structure Gap where
  /-- The blanks before the first line break, latest first. -/
  blanks : List Char := []
  /-- A line has ended. -/
  broken : Bool := false
  /-- The first line break, unless a backslash took it away. -/
  first : Option Char := none
  /-- The line breaks after the first, latest first. -/
  more : List Char := []

namespace Gap

/-- What stands for the gap in a text that is latest first. -/
def fold (g : Gap) : List Char :=
  if g.broken then
    match g.first with
    | some '\n' => if g.more.isEmpty then [' '] else g.more
    | some c => g.more ++ [c]
    | none => g.more
  else
    g.blanks

/-- The gap from here on. Where `floor` is given, no tab may stand to the left of it on a new
line. -/
def read (floor : Option Int) : Nat → Cursor → Gap → Option (Cursor × Gap)
  | 0, _, _ => none
  | n + 1, c, g =>
    match c.rest with
    | [] => some (c, g)
    | x :: _ =>
      if isBlank x then
        if g.broken && x == '\t' && floor.any (fun f => (c.column : Int) < f) then none
        else read floor n c.next (if g.broken then g else { g with blanks := x :: g.blanks })
      else if isBreak x then
        let (b, c) := c.newline
        read floor n c (if g.broken then { g with more := b :: g.more }
          else { broken := true, first := some b })
      else
        some (c, g)

end Gap

/-! ### Quoted scalars -/

/-- The character that a letter after a backslash stands for. -/
def escape? : Char → Option Char
  | '0' => some '\x00'
  | 'a' => some '\x07'
  | 'b' => some '\x08'
  | 't' => some '\t'
  | '\t' => some '\t'
  | 'n' => some '\n'
  | 'v' => some '\x0b'
  | 'f' => some '\x0c'
  | 'r' => some '\r'
  | 'e' => some '\x1b'
  | ' ' => some ' '
  | '"' => some '"'
  | '/' => some '/'
  | '\\' => some '\\'
  | 'N' => some '\u0085'
  | '_' => some '\u00a0'
  | 'L' => some '\u2028'
  | 'P' => some '\u2029'
  | _ => none

/-- How many digits follow a letter that introduces the number of a character. -/
def escapeDigits? : Char → Option Nat
  | 'x' => some 2
  | 'u' => some 4
  | 'U' => some 8
  | _ => none

/-- The character that `count` digits of base sixteen give. -/
def numbered? (count : Nat) (cs : List Char) : Option Char := do
  let digits := cs.take count
  if digits.length ≠ count then none
  else
    let n ← Text.digits? 16 digits
    if h : n.isValidChar then some (Char.ofNatAux n h) else none

/-- What a backslash and the character after it stand for. -/
def readEscape (c : Cursor) : Option (Char × Cursor) :=
  match c.rest with
  | '\\' :: x :: rest =>
    match escapeDigits? x with
    | some count => (numbered? count rest).map fun y => (y, c.skip (2 + count))
    | none => (escape? x).map fun y => (y, c.skip 2)
  | _ => none

/-- Between which quotes a scalar stands. -/
inductive Quote where
  | single
  | double
deriving DecidableEq, Repr

/-- The quote itself. -/
def Quote.char : Quote → Char
  | single => '\x27'
  | double => '"'

namespace Quote

/-- A word up to a gap or a quote, and whether a backslash joins it to the next line. -/
def word (q : Quote) : Nat → Cursor → List Char → Option (Cursor × List Char × Bool)
  | 0, _, _ => none
  | n + 1, c, done =>
    if atGap c.rest then some (c, done, false)
    else
      match q, c.rest with
      | single, '\x27' :: '\x27' :: _ => word q n (c.skip 2) ('\x27' :: done)
      | single, '\x27' :: _ => some (c, done, false)
      | double, '"' :: _ => some (c, done, false)
      | double, '\\' :: rest =>
        if !rest.isEmpty && (rest.take 1).all isBreak then some (c.next.newline.2, done, true)
        else
          match readEscape c with
          | some (x, c) => word q n c (x :: done)
          | none => none
      | _, x :: _ => word q n c.next (x :: done)
      | _, [] => none

/-- Words and gaps up to the closing quote, and past it. -/
def words (q : Quote) : Nat → Cursor → List Char → Option (List Char × Cursor)
  | 0, _, _ => none
  | n + 1, c, done =>
    if c.atDocumentMark then none
    else if c.rest.isEmpty then none
    else do
      let (c, done, joined) ← word q (n + 1) c done
      if c.rest.head? == some q.char then some (done, c.next)
      else
        let (c, gap) ← Gap.read none (n + 1) c { broken := joined }
        words q n c (gap.fold ++ done)

/-- The scalar that begins with a quote here. -/
def read (q : Quote) (bound : Nat) (c : Cursor) : Option (String × Cursor) :=
  (words q bound c.next []).map fun (done, c) => (String.ofList done.reverse, c)

end Quote

/-! ### Plain scalars -/

namespace Plain

/-- Brackets and commas, which end a plain scalar between brackets. -/
def isFlowMark (c : Char) : Bool :=
  c == ',' || c == '[' || c == ']' || c == '\x7b' || c == '\x7d'

/-- A word up to a gap or to what ends the scalar. -/
def word (inFlow : Bool) : Nat → Cursor → List Char → Option (Cursor × List Char)
  | 0, _, _ => none
  | n + 1, c, done =>
    if atGap c.rest then some (c, done)
    else
      match c.rest with
      | ':' :: rest =>
        if inFlow && (rest.take 1).any (fun x => isFlowMark x || x == '?') then none
        else if atGap rest then some (c, done)
        else word inFlow n c.next (':' :: done)
      | x :: _ =>
        if inFlow && isFlowMark x then some (c, done) else word inFlow n c.next (x :: done)
      | [] => none

/-- Words and gaps to the end of the scalar, and whether a line ended behind the last word. A
scalar that is not between brackets ends before a line that begins to the left of `floor`. -/
def words (inFlow : Bool) (floor : Int) : Nat → Cursor → Gap → List Char →
    Option (List Char × Bool × Cursor)
  | 0, _, _, _ => none
  | n + 1, c, gap, done =>
    if c.atDocumentMark || c.rest.head? == some '#' then some (done, gap.broken, c)
    else do
      let (after, word) ← word inFlow (n + 1) c []
      let (gap, done) :=
        if word.isEmpty then (gap, done) else (({} : Gap), word ++ gap.fold ++ done)
      if after.rest.isEmpty || !atGap after.rest then some (done, gap.broken, after)
      else
        let (c, gap) ← Gap.read (some floor) (n + 1) after gap
        if !inFlow && (c.column : Int) < floor then some (done, gap.broken, c)
        else words inFlow floor n c gap done

/-- The plain scalar that begins here, and whether a line ended behind its last word. -/
def read (inFlow : Bool) (floor : Int) (bound : Nat) (c : Cursor) :
    Option (String × Bool × Cursor) :=
  (words inFlow floor bound c {} []).map fun (done, broken, c) =>
    (String.ofList done.reverse, broken, c)

end Plain

end Sparring.Yaml
