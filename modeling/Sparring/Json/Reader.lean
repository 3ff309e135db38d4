/-
Reading JSON texts.

A text is read only if it is one value and nothing else, by the grammar alone.  What the
grammar allows and a value cannot be becomes a flaw at its place: a number too large for a
fraction, a string with half of a surrogate pair, a list or map with more than 127 others
around it.  Whole numbers of 64 bits stay whole, other numbers are fractions.

Every step reads a character, so the number of characters bounds the number of steps.
-/
import Sparring.Datum.Basic
import Sparring.Decimal.Stepwise
import Sparring.Text.Digits
import Sparring.Text.Utf16

namespace Sparring.Json

/-- The text after its blanks. -/
def skipBlanks (cs : List Char) : List Char :=
  cs.dropWhile fun c => c == ' ' || c == '\n' || c == '\t' || c == '\r'

/-! ### Strings -/

/-- One part of a string. -/
inductive Piece where
  | char (c : Char)
  /-- A number between quotes, which may be half of a character. -/
  | unit (n : Nat)

/-- The number that four digits of base sixteen spell. -/
def unit? (a b c d : Char) : Option Nat := Text.digits? 16 [a, b, c, d]

/-- The character that a letter after a backslash stands for. -/
def escape? : Char → Option Char
  | '"' => some '"'
  | '\\' => some '\\'
  | '/' => some '/'
  | 'b' => some '\x08'
  | 'f' => some '\x0c'
  | 'n' => some '\n'
  | 'r' => some '\r'
  | 't' => some '\t'
  | _ => none

/-- The pieces up to the closing quote, and what follows it. The pieces so far are latest first. -/
def pieces (done : List Piece) : List Char → Option (List Piece × List Char)
  | '"' :: cs => some (done.reverse, cs)
  | '\\' :: 'u' :: a :: b :: c :: d :: cs =>
    match unit? a b c d with
    | some n => pieces (.unit n :: done) cs
    | none => none
  | '\\' :: c :: cs =>
    match escape? c with
    | some x => pieces (.char x :: done) cs
    | none => none
  | c :: cs => if c.toNat < 0x20 then none else pieces (.char c :: done) cs
  | [] => none

/-- The text that pieces make, or what is wrong with the first bad one. The characters so far are
latest first. -/
def textOf (done : List Char) : List Piece → Datum
  | [] => .text (String.ofList done.reverse)
  | .char c :: ps => textOf (c :: done) ps
  | .unit high :: .unit low :: ps =>
    if Text.Utf16.isLow high then .flawed .loneSurrogate
    else if Text.Utf16.isHigh high then
      if Text.Utf16.isLow low then textOf (Text.Utf16.pairChar high low :: done) ps
      else .flawed .loneSurrogate
    else textOf (Char.ofNat high :: done) (.unit low :: ps)
  | .unit n :: ps =>
    if Text.Utf16.isLow n then .flawed .loneSurrogate
    else if Text.Utf16.isHigh n then .flawed .endOfEscape
    else textOf (Char.ofNat n :: done) ps

/-- A string after its opening quote. -/
def string (cs : List Char) : Option (Datum × List Char) :=
  (pieces [] cs).map fun (ps, cs) => (textOf [] ps, cs)

/-! ### Numbers -/

/-- The digits at the front, at least one. -/
def digits (cs : List Char) : Option (List Char × List Char) :=
  match cs.takeWhile Char.isDigit with
  | [] => none
  | ds => some (ds, cs.dropWhile Char.isDigit)

/-- The digits after a point, if there is one. -/
def places (cs : List Char) : Option (Option (List Char) × List Char) :=
  match cs with
  | '.' :: cs => (digits cs).map fun (ds, cs) => (some ds, cs)
  | _ => some (none, cs)

/-- The exponent, if there is one. -/
def exponent (cs : List Char) : Option (Option Int × List Char) :=
  let signed (cs : List Char) : Option (Option Int × List Char) :=
    let (negative, cs) := match cs with
      | '-' :: cs => (true, cs)
      | '+' :: cs => (false, cs)
      | _ => (false, cs)
    (digits cs).map fun (ds, cs) =>
      let n : Int := ((Text.digits? 10 ds).getD 0 : Nat)
      (some (if negative then -n else n), cs)
  match cs with
  | 'e' :: cs => signed cs
  | 'E' :: cs => signed cs
  | _ => some (none, cs)

/-- The values of digits of base ten. -/
def values (ds : List Char) : List Nat := ds.filterMap (Text.digitValue? 10)

/-- The fraction that the parts of a number make. -/
def fractionOf (negative : Bool) (whole after : List Char) (power : Int) : Datum :=
  match (Gathered.ofDigits (values whole) (values after)).value? negative power with
  | some x => .fraction (.finite x)
  | none => .flawed .outOfRange

/-- A number, after its sign. -/
def unsigned (negative : Bool) (cs : List Char) : Option (Datum × List Char) := do
  let (whole, cs) ← digits cs
  if whole.head? = some '0' ∧ whole.length ≠ 1 then none
  else
    let (fractional, cs) ← places cs
    let (power, cs) ← exponent cs
    let value := (Text.digits? 10 whole).getD 0
    let isWhole := fractional = none ∧ power = none ∧
      (if negative then 0 < value ∧ value ≤ Width.half64 else value < Width.size64)
    if isWhole then
      some (.int (if negative then -(value : Int) else value), cs)
    else
      some (fractionOf negative whole (fractional.getD []) (power.getD 0), cs)

/-- A number. -/
def number : List Char → Option (Datum × List Char)
  | '-' :: cs => unsigned true cs
  | cs => unsigned false cs

/-! ### Values -/

/-- The text after a word that it must begin with. -/
def word (w : String) (d : Datum) (cs : List Char) : Option (Datum × List Char) :=
  if w.toList.isPrefixOf cs then some (d, cs.drop w.length) else none

/-- A list or map, where `depth` of them may still lie inside each other. -/
def nested (depth : Nat) (d : Datum) : Datum := if depth = 0 then .flawed .tooDeep else d

mutual

/-- A value in which `depth` lists and maps may lie inside each other. -/
def value : Nat → Nat → List Char → Option (Datum × List Char)
  | 0, _, _ => none
  | n + 1, depth, cs =>
    match skipBlanks cs with
    | '[' :: cs =>
      match skipBlanks cs with
      | ']' :: cs => some (nested depth (.list []), cs)
      | cs => (items n (depth - 1) cs).map fun (xs, cs) => (nested depth (.list xs), cs)
    | '\x7b' :: cs =>
      match skipBlanks cs with
      | '\x7d' :: cs => some (nested depth (.map []), cs)
      | cs => (fields n (depth - 1) cs).map fun (es, cs) => (nested depth (.map es), cs)
    | '"' :: cs => string cs
    | 't' :: cs => word "rue" (.bool true) cs
    | 'f' :: cs => word "alse" (.bool false) cs
    | 'n' :: cs => word "ull" .null cs
    | cs => number cs

/-- The items of a list, and its closing bracket. -/
def items : Nat → Nat → List Char → Option (List Datum × List Char)
  | 0, _, _ => none
  | n + 1, depth, cs => do
    let (x, cs) ← value n depth cs
    match skipBlanks cs with
    | ',' :: cs => (items n depth cs).map fun (xs, cs) => (x :: xs, cs)
    | ']' :: cs => some ([x], cs)
    | _ => none

/-- The entries of a map, and its closing bracket. -/
def fields : Nat → Nat → List Char → Option (List (Datum × Datum) × List Char)
  | 0, _, _ => none
  | n + 1, depth, cs => do
    match skipBlanks cs with
    | '"' :: cs => do
      let (key, cs) ← string cs
      match skipBlanks cs with
      | ':' :: cs => do
        let (v, cs) ← value n depth cs
        match skipBlanks cs with
        | ',' :: cs => (fields n depth cs).map fun (es, cs) => ((key, v) :: es, cs)
        | '\x7d' :: cs => some ([(key, v)], cs)
        | _ => none
      | _ => none
    | _ => none

end

/-- How deep lists and maps may lie inside each other. -/
def greatestDepth : Nat := 127

/-- The value of a text, if the text is well formed. -/
def read? (text : String) : Option Datum :=
  let cs := text.toList
  match value (cs.length + 1) greatestDepth cs with
  | some (d, rest) => if (skipBlanks rest).isEmpty then some d else none
  | none => none

end Sparring.Json
