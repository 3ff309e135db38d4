/-
Values that tables are read from.

The parts of a table are asked for by what they should be: a text, an amount, a name of a
list, items, entries.  In a tree with types every value answers for itself; in YAML the
answer depends on the question, since the scalar `5` is an amount where an amount is
wanted and a text where a text is.
-/
import Sparring.Amount
import Sparring.Yaml.Node

namespace Sparring

/-- A type of values that answer what they are. -/
class Source (α : Type) where
  /-- The entries of a map. -/
  entries (wanted : String) : α → Except Cause (List (α × α))
  /-- The items of a list. -/
  items (wanted : String) : α → Except Cause (List α)
  /-- The text of a key. -/
  key (wanted : String) : α → Except Cause String
  text (wanted : String) : α → Except Cause String
  amount : α → Except Cause Amount
  byte : α → Except Cause UInt8
  /-- One of the given names. -/
  name (names : List String) : α → Except Cause String
  isNull : α → Bool
  /-- Passes over the value, which only a text that breaks off in it can prevent. -/
  skip : α → Except Cause Unit
  /-- The value on its own terms. -/
  datum : α → Reading Datum

namespace Datum

/-- A whole number as an amount. -/
def amountOf (n : Int) : Except Cause Amount :=
  match Amount.fit? n with
  | some a => .ok a
  | none => .error (.wrongValue (.int n) Wanted.amount)

/-- A whole number below a bound. -/
def natOf (bound : Nat) (wanted : String) (n : Int) : Except Cause Nat :=
  if 0 ≤ n ∧ n < bound then .ok n.toNat else .error (.wrongValue (.int n) wanted)

/-- A name, which must be one of `names`. -/
def nameAmong (names : List String) (s : String) : Except Cause String :=
  if names.contains s then .ok s else .error (.noSuchName s names)

/-- An amount. -/
def amount : Datum → Except Cause Amount
  | int n => amountOf n
  | d => .error (d.wrong Wanted.amount)

/-- A number below a bound. -/
def nat (bound : Nat) (wanted : String) : Datum → Except Cause Nat
  | int n => natOf bound wanted n
  | d => .error (d.wrong wanted)

/-- A yes or no. -/
def flag : Datum → Except Cause Bool
  | bool b => .ok b
  | d => .error (d.wrong "a boolean")

/-- A text. -/
def textOf (wanted : String) : Datum → Except Cause String
  | text s => .ok s
  | d => .error (d.wrong wanted)

/-- The text of a key; a number may be a key too. -/
def keyText (wanted : String) : Datum → Except Cause String
  | text s => .ok s
  | int n => if 0 ≤ n then .ok (toString n) else .error (.wrongType (int n) wanted)
  | d => .error (d.wrong wanted)

/-- The name that a key of a map gives, in full or by its position. -/
def keyName (names : List String) : Datum → Except Cause String
  | text s => nameAmong names s
  | int n =>
    match names[n.toNat]? with
    | some name => if 0 ≤ n then .ok name else .error (.wrongType (int n) Wanted.name)
    | none =>
      .error (.wrongValue (int n) ("variant index 0 <= i < " ++ toString names.length))
  | d => .error (d.wrong Wanted.name)

/-- Is it nothing? A value that was put aside may be nothing as an empty map too. -/
def isNothing (aside : Bool) : Datum → Bool
  | null => true
  | map [] => aside
  | _ => false

/-- A name, or a map with a name as its only key over nothing. -/
def name (aside : Bool) (names : List String) : Datum → Except Cause String
  | text s => nameAmong names s
  | map [(k, v)] => do
    let s ← keyName names k
    if v.isNothing aside then pure s else throw (v.wrong Wanted.nothing)
  | map es => .error (.wrongValue (map es) "map with a single key")
  | d => .error (d.wrong "string or map")

/-- Is it null? -/
def isNull : Datum → Bool
  | null => true
  | _ => false

end Datum

instance : Source Datum where
  entries wanted
    | .map es => .ok es
    | d => .error (d.wrong wanted)
  items wanted
    | .list xs => .ok xs
    | d => .error (d.wrong wanted)
  key := Datum.keyText
  text := Datum.textOf
  amount := Datum.amount
  byte d := (d.nat 256 Wanted.byte).map UInt8.ofNat
  name := Datum.name false
  isNull := Datum.isNull
  skip _ := .ok ()
  datum d := .ok d

namespace Yaml.Node

/-- A value of the wrong type. -/
def wrong {α : Type} (n : Node) (wanted : String) : Except Cause α :=
  .error (n.glimpse.wrong wanted)

/-- Passes over the value, unless the text breaks off here. -/
def skip : Node → Except Cause Unit
  | flawed .malformed => .error (.flawed .malformed)
  | _ => .ok ()

/-- The text of a scalar, whatever it would mean elsewhere. -/
def text (wanted : String) : Node → Except Cause String
  | scalar _ s => .ok s
  | n => n.wrong wanted

/-- The whole number that a plain scalar spells, with a sign or without. -/
def int? : Node → Option Int
  | scalar true s => Yaml.int? s
  | _ => none

/-- The whole number that a plain scalar spells without a minus. -/
def nat? : Node → Option Nat
  | scalar true s => Yaml.magnitude? (Text.withoutPlus s.toList)
  | _ => none

/-- An amount, which must fit a word of 64 bits before its own range is looked at. -/
def amount (n : Node) : Except Cause Amount :=
  match n.int? with
  | some k => if Width.Fits64 k then Datum.amountOf k else n.wrong Wanted.amount
  | none => n.wrong Wanted.amount

/-- A number below 256, spelled without a minus. -/
def byte (n : Node) : Except Cause UInt8 :=
  match n.nat? with
  | some k =>
    if k < Width.size64 then (Datum.natOf 256 Wanted.byte k).map UInt8.ofNat
    else n.wrong Wanted.byte
  | none => n.wrong Wanted.byte

end Yaml.Node

instance : Source Yaml.Node where
  entries wanted
    | .map es => .ok es
    | .scalar true "" => .ok []
    | n => n.wrong wanted
  items wanted
    | .list xs => .ok xs
    | .scalar true "" => .ok []
    | n => n.wrong wanted
  key := Yaml.Node.text
  text := Yaml.Node.text
  amount := Yaml.Node.amount
  byte := Yaml.Node.byte
  name names
    | .scalar _ s => Datum.nameAmong names s
    | n => n.wrong "a YAML tag starting with '!'"
  isNull := Yaml.Node.isNull
  skip := Yaml.Node.skip
  datum := Yaml.Node.datum

end Sparring
