/-
Bytes as text of one to four bytes a character.

Bytes are cut into pieces: characters, and runs of bytes that begin no character.  Such a run
is as long as some character could still have begun that way, so it ends at the first byte
that rules every character out.  Decoding strictly fails at the first such run and says where
it is; decoding anyway puts a replacement character for each.
-/

namespace Sparring.Text.Utf8

/-- A piece of a text. -/
inductive Piece where
  | char (c : Char)
  /-- Bytes that begin no character, because of the byte behind them or their own. -/
  | bad (size : Nat)
  /-- Bytes that begin a character which the end of the text cuts off. -/
  | cut (size : Nat)
deriving DecidableEq, Repr

/-- What a first byte tells. -/
structure Lead where
  /-- Its own bits of the character. -/
  bits : Nat
  /-- How many bytes follow. -/
  more : Nat
  /-- The least and the greatest second byte. -/
  low : UInt8 := 0x80
  high : UInt8 := 0xBF

/-- What a byte tells that may come first. -/
def lead? (b : UInt8) : Option Lead :=
  if b < 0x80 then some { bits := b.toNat, more := 0 }
  else if b < 0xC2 then none
  else if b < 0xE0 then some { bits := b.toNat - 0xC0, more := 1 }
  else if b = 0xE0 then some { bits := 0, more := 2, low := 0xA0 }
  else if b = 0xED then some { bits := 0xD, more := 2, high := 0x9F }
  else if b < 0xF0 then some { bits := b.toNat - 0xE0, more := 2 }
  else if b = 0xF0 then some { bits := 0, more := 3, low := 0x90 }
  else if b < 0xF4 then some { bits := b.toNat - 0xF0, more := 3 }
  else if b = 0xF4 then some { bits := 4, more := 3, high := 0x8F }
  else none

/-- The piece that begins with `size` bytes of these bits and wants `more`. -/
def gather : Nat → UInt8 → UInt8 → Nat → Nat → List UInt8 → Piece × List UInt8
  | 0, _, _, bits, _, bs => (.char (Char.ofNat bits), bs)
  | _ + 1, _, _, _, size, [] => (.cut size, [])
  | more + 1, low, high, bits, size, b :: bs =>
    if low ≤ b ∧ b ≤ high then
      gather more 0x80 0xBF (bits * 0x40 + (b.toNat - 0x80)) (size + 1) bs
    else
      (.bad size, b :: bs)

/-- The piece that begins with a byte, and the bytes behind it. -/
def piece (b : UInt8) (bs : List UInt8) : Piece × List UInt8 :=
  match lead? b with
  | some l => gather l.more l.low l.high l.bits 1 bs
  | none => (.bad 1, bs)

/-- At most `n` pieces. -/
def piecesWithin : Nat → List UInt8 → List Piece
  | 0, _ => []
  | _ + 1, [] => []
  | n + 1, b :: bs =>
    let (p, bs) := piece b bs
    p :: piecesWithin n bs

/-- The pieces of a text. -/
def pieces (bs : List UInt8) : List Piece := piecesWithin bs.length bs

/-- Where bytes are no text, and how many. -/
inductive Fault where
  | bad (size index : Nat)
  | cut (index : Nat)
deriving DecidableEq, Repr

/-- The fault in words. -/
def Fault.message : Fault → String
  | bad size index =>
    "invalid utf-8 sequence of " ++ toString size ++ " bytes from index " ++ toString index
  | cut index => "incomplete utf-8 byte sequence from index " ++ toString index

/-- The characters of pieces that begin at an index, if all of them are characters. -/
def strictFrom (index : Nat) : List Piece → Except Fault (List Char)
  | [] => .ok []
  | .char c :: ps => (strictFrom (index + c.utf8Size) ps).map (c :: ·)
  | .bad size :: _ => .error (.bad size index)
  | .cut _ :: _ => .error (.cut index)

/-- The text of bytes that must be text. -/
def decode (bs : List UInt8) : Except Fault (List Char) := strictFrom 0 (pieces bs)

/-- What stands for bytes that are no character. -/
def replacement : Char := '\uFFFD'

/-- A piece as one character. -/
def Piece.toChar : Piece → Char
  | char c => c
  | _ => replacement

/-- The text of any bytes. -/
def decodeAnyway (bs : List UInt8) : List Char := (pieces bs).map Piece.toChar

/-- The byte of a number below 256. -/
def byte (n : Nat) : UInt8 := UInt8.ofNat n

/-- The bytes of a character. -/
def encodeChar (c : Char) : List UInt8 :=
  let n := c.toNat
  if n < 0x80 then [byte n]
  else if n < 0x800 then [byte (0xC0 + n / 0x40), byte (0x80 + n % 0x40)]
  else if n < 0x10000 then
    [byte (0xE0 + n / 0x1000), byte (0x80 + n / 0x40 % 0x40), byte (0x80 + n % 0x40)]
  else
    [byte (0xF0 + n / 0x40000), byte (0x80 + n / 0x1000 % 0x40), byte (0x80 + n / 0x40 % 0x40),
      byte (0x80 + n % 0x40)]

/-- The bytes of a text. -/
def encode (cs : List Char) : List UInt8 := cs.flatMap encodeChar

end Sparring.Text.Utf8
