/-
Text in units of 16 bits, two bytes each in either order.

A character beyond the first 65536 takes two units, a high and a low surrogate.  Half of
such a pair, or half of a unit at the end, is no character; decoding puts a replacement
character for it, and one only if a high surrogate is followed by half a unit.
-/

namespace Sparring.Text.Utf16

/-! ### Surrogates -/

/-- Does a unit begin a pair? -/
def isHigh (n : Nat) : Bool := 0xD800 ≤ n && n ≤ 0xDBFF

/-- Does a unit end a pair? -/
def isLow (n : Nat) : Bool := 0xDC00 ≤ n && n ≤ 0xDFFF

/-- The character of a pair. -/
def pairChar (high low : Nat) : Char :=
  Char.ofNat (0x10000 + (high - 0xD800) * 0x400 + (low - 0xDC00))

/-! ### Units -/

/-- Which byte of a unit comes first. -/
inductive Order where
  /-- The low one. -/
  | little
  /-- The high one. -/
  | big
deriving DecidableEq, Repr

/-- The unit of two bytes. -/
def Order.unit : Order → UInt8 → UInt8 → Nat
  | little, a, b => a.toNat + 0x100 * b.toNat
  | big, a, b => 0x100 * a.toNat + b.toNat

/-- The two bytes of a unit. -/
def Order.bytes (o : Order) (unit : Nat) : List UInt8 :=
  let low := UInt8.ofNat (unit % 0x100)
  let high := UInt8.ofNat (unit / 0x100)
  match o with
  | little => [low, high]
  | big => [high, low]

/-- The units of bytes; none for half a unit at the end. -/
def units (o : Order) : List UInt8 → List (Option Nat)
  | [] => []
  | [_] => [none]
  | a :: b :: bs => some (o.unit a b) :: units o bs

/-! ### Text -/

/-- What stands for units that are no character. -/
def replacement : Char := '\uFFFD'

/-- The text of units. -/
def chars : List (Option Nat) → List Char
  | [] => []
  | none :: us => replacement :: chars us
  | [some u] => [if isHigh u || isLow u then replacement else Char.ofNat u]
  | some u :: none :: us =>
    if isHigh u then replacement :: chars us
    else (if isLow u then replacement else Char.ofNat u) :: chars (none :: us)
  | some u :: some v :: us =>
    if isHigh u && isLow v then pairChar u v :: chars us
    else (if isHigh u || isLow u then replacement else Char.ofNat u) :: chars (some v :: us)

/-- The text of any bytes. -/
def decodeAnyway (o : Order) (bs : List UInt8) : List Char := chars (units o bs)

/-- The units of a character. -/
def encodeChar (c : Char) : List Nat :=
  let n := c.toNat
  if n < 0x10000 then [n]
  else [0xD800 + (n - 0x10000) / 0x400, 0xDC00 + (n - 0x10000) % 0x400]

/-- The bytes of a text. -/
def encode (o : Order) (cs : List Char) : List UInt8 := (cs.flatMap encodeChar).flatMap o.bytes

end Sparring.Text.Utf16
