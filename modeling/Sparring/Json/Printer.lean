/-
Writing values as JSON: on one line, or indented by two blanks with one entry a line.

Only quotes, backslashes and control characters are escaped in strings.  A key that is
not a text is written as the text of its value, and what has no value, such as a number
that is not finite, as null.
-/
import Sparring.Datum.Basic

namespace Sparring.Json

/-- A digit of base sixteen. -/
def hexDigit (n : Nat) : Char := Nat.digitChar (n % 16)

/-- One character of a string. -/
def escaped (c : Char) : List Char :=
  match c with
  | '"' => ['\\', '"']
  | '\\' => ['\\', '\\']
  | '\x08' => ['\\', 'b']
  | '\x0c' => ['\\', 'f']
  | '\n' => ['\\', 'n']
  | '\r' => ['\\', 'r']
  | '\t' => ['\\', 't']
  | c =>
    if c.toNat < 0x20 then ['\\', 'u', '0', '0', hexDigit (c.toNat / 16), hexDigit c.toNat]
    else [c]

/-- A string. -/
def quote (s : String) : String := String.ofList ('"' :: s.toList.flatMap escaped ++ ['"'])

/-- A value that holds no others; lists and maps are left to the caller. -/
def scalar : Datum → String
  | .null => "null"
  | .bool true => "true"
  | .bool false => "false"
  | .int n => toString n
  | .fraction (.finite x) => x.brief
  | .fraction _ => "null"
  | .text s => quote s
  | .list _ => "[]"
  | .map _ => "\x7b\x7d"
  | .flawed _ => "null"

/-- The key of an entry. -/
def key : Datum → String
  | .text s => quote s
  | d => quote (scalar d)

mutual

/-- A value on one line. -/
def compact : Datum → String
  | .list (x :: xs) => "[" ++ ",".intercalate (compactItems (x :: xs)) ++ "]"
  | .map (e :: es) => "\x7b" ++ ",".intercalate (compactEntries (e :: es)) ++ "\x7d"
  | d => scalar d

/-- Items on one line each. -/
def compactItems : List Datum → List String
  | [] => []
  | x :: xs => compact x :: compactItems xs

/-- Entries on one line each. -/
def compactEntries : List (Datum × Datum) → List String
  | [] => []
  | (k, v) :: es => (key k ++ ":" ++ compact v) :: compactEntries es

end

/-- A line break and the blanks of a depth. -/
def newline (depth : Nat) : String := String.ofList ('\n' :: List.replicate (2 * depth) ' ')

/-- Pieces between brackets, one a line. -/
def block (depth : Nat) (opening closing : String) (pieces : List String) : String :=
  opening ++ newline (depth + 1) ++ ("," ++ newline (depth + 1)).intercalate pieces ++
    newline depth ++ closing

mutual

/-- A value that stands at a depth, indented. -/
def pretty (depth : Nat) : Datum → String
  | .list (x :: xs) => block depth "[" "]" (prettyItems (depth + 1) (x :: xs))
  | .map (e :: es) => block depth "\x7b" "\x7d" (prettyEntries (depth + 1) (e :: es))
  | d => scalar d

/-- Items, indented. -/
def prettyItems (depth : Nat) : List Datum → List String
  | [] => []
  | x :: xs => pretty depth x :: prettyItems depth xs

/-- Entries, indented. -/
def prettyEntries (depth : Nat) : List (Datum × Datum) → List String
  | [] => []
  | (k, v) :: es => (key k ++ ": " ++ pretty depth v) :: prettyEntries depth es

end

/-- A value over several lines. -/
def indented (d : Datum) : String := pretty 0 d

end Sparring.Json
