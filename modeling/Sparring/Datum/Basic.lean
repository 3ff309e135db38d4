/-
Values as documents hold them, before anyone has asked what they should be.

Entries of a map keep their order and may repeat a key, because whoever reads them
wants to complain about the first repetition.  Keys are values too; most are texts.

A text may be cut into values although one of them cannot be had: a number that is too
large, half of a character, the place where the text breaks off.  Such a flaw stands where
the value would stand, and harms only a reader who comes to it.
-/
import Sparring.Decimal.Shortest

namespace Sparring

/-- A number that is not whole. -/
inductive Fraction where
  | finite (x : Binary64)
  | infinite (negative : Bool)
  | undefined
deriving DecidableEq, Repr

/-- The number as messages show it. -/
def Fraction.text : Fraction → String
  | finite x => x.text
  | infinite false => "inf"
  | infinite true => "-inf"
  | undefined => "NaN"

/-- Why there is no value at a place of a text. -/
inductive Flaw where
  /-- The text is not well formed from here on. -/
  | malformed
  /-- Too many lists and maps lie around the place. -/
  | tooDeep
  /-- A number that no fraction can hold. -/
  | outOfRange
  /-- The first half of a character, and no escape behind it. -/
  | endOfEscape
  /-- Half of a character without its other half. -/
  | loneSurrogate
deriving DecidableEq, Repr

/-- The flaw in words. -/
def Flaw.message : Flaw → String
  | malformed => "not a well-formed text"
  | tooDeep => "recursion limit exceeded"
  | outOfRange => "number out of range"
  | endOfEscape => "unexpected end of hex escape"
  | loneSurrogate => "lone leading surrogate in hex escape"

/-- A value of no particular type. -/
inductive Datum where
  | null
  | bool (b : Bool)
  | int (n : Int)
  | fraction (x : Fraction)
  | text (s : String)
  | list (items : List Datum)
  | map (entries : List (Datum × Datum))
  | flawed (f : Flaw)
deriving Repr

namespace Datum

/-- A map with texts for keys. -/
def record (fields : List (String × Datum)) : Datum :=
  .map (fields.map fun f => (.text f.1, f.2))

/-- A value that may be missing. -/
def ofOption {α : Type} (f : α → Datum) : Option α → Datum
  | none => .null
  | some x => f x

/-- The value of the last entry under a key. -/
def field? (key : String) : Datum → Option Datum
  | .map entries => entries.reverse.findSome? fun
    | (.text k, v) => if k = key then some v else none
    | _ => none
  | _ => none

/-- The value under a key, null if there is none. -/
def get (d : Datum) (key : String) : Datum := (d.field? key).getD .null

mutual

/-- The first flaw in a value, in the order of the text. -/
def flaw? : Datum → Option Flaw
  | flawed f => some f
  | list items => flawAmong? items
  | map entries => flawInEntries? entries
  | _ => none

/-- The first flaw in some values. -/
def flawAmong? : List Datum → Option Flaw
  | [] => none
  | d :: ds => flaw? d <|> flawAmong? ds

/-- The first flaw in some entries. -/
def flawInEntries? : List (Datum × Datum) → Option Flaw
  | [] => none
  | (k, v) :: es => flaw? k <|> flaw? v <|> flawInEntries? es

end

end Datum

end Sparring
