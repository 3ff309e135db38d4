/-
Walking along a text, line by line.

A cursor is what is left of the text and where that begins.  Lengths are counted in bytes
of UTF-8, columns in characters.  Five characters end a line; a carriage return and the line
feed after it end it together.  The first three count as a line feed, the two separators of
Unicode stay what they are.
-/
import Sparring.Text.Digits

namespace Sparring.Yaml

/-- Does the character end a line? -/
def isBreak (c : Char) : Bool :=
  c == '\n' || c == '\r' || c == '\u0085' || c == '\u2028' || c == '\u2029'

/-- A space or a tab. -/
def isBlank (c : Char) : Bool := c == ' ' || c == '\t'

/-- Is the text at its end, or at a blank or the end of a line? -/
def atGap : List Char → Bool
  | [] => true
  | c :: _ => isBlank c || isBreak c

/-- How many bytes some characters take. -/
def byteLength (cs : List Char) : Nat := cs.foldl (fun n c => n + c.utf8Size) 0

/-- The rest of a text and its place. -/
structure Cursor where
  rest : List Char
  /-- How many bytes stand before it. -/
  index : Nat := 0
  line : Nat := 0
  column : Nat := 0
deriving Repr

namespace Cursor

/-- Past one character of a line. -/
def next (c : Cursor) : Cursor :=
  { c with
    rest := c.rest.drop 1
    index := c.index + byteLength (c.rest.take 1)
    column := c.column + 1 }

/-- Past some characters of a line. -/
def skip (c : Cursor) (n : Nat) : Cursor :=
  { c with
    rest := c.rest.drop n
    index := c.index + byteLength (c.rest.take n)
    column := c.column + n }

/-- Past the end of a line, with the character that it counts as. -/
def newline (c : Cursor) : Char × Cursor :=
  match c.rest with
  | '\r' :: '\n' :: rest => ('\n', { rest, index := c.index + 2, line := c.line + 1, column := 0 })
  | b :: rest =>
    (if b = '\u2028' ∨ b = '\u2029' then b else '\n',
      { rest, index := c.index + b.utf8Size, line := c.line + 1, column := 0 })
  | [] => ('\n', c)

/-- Do three such characters stand alone at the start of this line? -/
def atMark (c : Cursor) (mark : Char) : Bool :=
  c.column == 0 &&
    match c.rest with
    | x :: y :: z :: rest => x == mark && y == mark && z == mark && atGap rest
    | _ => false

/-- Is it at the start or the end of a document? -/
def atDocumentMark (c : Cursor) : Bool := c.atMark '-' || c.atMark '.'

end Cursor

end Sparring.Yaml
