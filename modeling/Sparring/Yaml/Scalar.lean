/-
What a plain scalar means where nothing says what it should be.

Null, a boolean, a whole number, a fraction, or else just its text.  Whole numbers may
carry a sign and a base; a decimal with a zero in front is text, because some read it in
base eight.  A whole number of more than 128 bits is a fraction.
-/
import Sparring.Datum.Basic
import Sparring.Text.Digits

namespace Sparring.Yaml

/-- The spellings of null; the empty scalar is one of them. -/
def isNull (s : String) : Bool := ["", "~", "null", "Null", "NULL"].contains s

/-- The spellings of the booleans. -/
def bool? (s : String) : Option Bool :=
  if ["true", "True", "TRUE"].contains s then some true
  else if ["false", "False", "FALSE"].contains s then some false
  else none

/-! ### Whole numbers -/

/-- Digits of base sixteen, eight or two behind the mark of their base. -/
def based? : List Char → Option Nat
  | '0' :: 'x' :: ds => Text.digits? 16 ds
  | '0' :: 'o' :: ds => Text.digits? 8 ds
  | '0' :: 'b' :: ds => Text.digits? 2 ds
  | _ => none

/-- Digits of base ten with no needless zero in front. -/
def decimal? : List Char → Option Nat
  | '0' :: _ :: _ => none
  | ds => Text.digits? 10 ds

/-- A whole number without its sign. -/
def magnitude? (cs : List Char) : Option Nat := based? cs <|> decimal? cs

/-- The whole number that a scalar spells. -/
def int? (s : String) : Option Int :=
  match s.toList with
  | '-' :: cs => (magnitude? cs).map fun n => -(n : Int)
  | cs => (magnitude? (Text.withoutPlus cs)).map Int.ofNat

/-! ### Fractions -/

/-- Is it zeros and further digits, which are text? -/
def isZeroLed (s : String) : Bool :=
  let cs := match s.toList with
    | '-' :: cs => cs
    | '+' :: cs => cs
    | cs => cs
  match cs with
  | '0' :: c :: cs => (c :: cs).all Char.isDigit
  | _ => false

/-- The exponent after its letter. -/
def exponent? (cs : List Char) : Option Int :=
  match cs with
  | '-' :: ds => (Text.digits? 10 ds).map fun n => -(n : Int)
  | '+' :: ds => (Text.digits? 10 ds).map Int.ofNat
  | ds => (Text.digits? 10 ds).map Int.ofNat

/-- A finite fraction without its sign: digits, a point and digits, an exponent; a digit must
stand on one side of the point at least. -/
def unsignedFraction? (negative : Bool) (cs : List Char) : Option Binary64 := do
  let whole := cs.takeWhile Char.isDigit
  let (after, rest) := match cs.dropWhile Char.isDigit with
    | '.' :: cs => (cs.takeWhile Char.isDigit, cs.dropWhile Char.isDigit)
    | cs => ([], cs)
  let digits ← Text.digits? 10 (whole ++ after)
  let power ← match rest with
    | [] => some 0
    | 'e' :: cs => exponent? cs
    | 'E' :: cs => exponent? cs
    | _ => none
  Binary64.ofDecimal? negative digits (power - (after.length : Int))

/-- The fraction that a scalar spells. -/
def fraction? (s : String) : Option Fraction :=
  if [".inf", ".Inf", ".INF", "+.inf", "+.Inf", "+.INF"].contains s then some (.infinite false)
  else if ["-.inf", "-.Inf", "-.INF"].contains s then some (.infinite true)
  else if [".nan", ".NaN", ".NAN"].contains s then some .undefined
  else
    match s.toList with
    | '-' :: cs => (unsignedFraction? true cs).map .finite
    | cs => (unsignedFraction? false (Text.withoutPlus cs)).map .finite

/-! ### Scalars -/

/-- Does a whole number have at most 128 bits? -/
def isWhole (n : Int) : Bool := -(Width.half128 : Int) ≤ n && n < Width.size128

/-- What a plain scalar means. -/
def resolve (s : String) : Datum :=
  if isNull s then .null
  else
    match bool? s with
    | some b => .bool b
    | none =>
      match (int? s).filter isWhole with
      | some n => .int n
      | none =>
        if isZeroLed s then .text s
        else
          match fraction? s with
          | some x => .fraction x
          | none => .text s

end Sparring.Yaml
