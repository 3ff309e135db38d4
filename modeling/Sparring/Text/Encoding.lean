/-
Which encoding a file is in, told by the mark at its start.

Without a mark a file must be UTF-8, and bytes that are not are an error.  Behind a mark
nothing is an error.  The mark is looked for once more behind the first one, so a second
mark is dropped too, and it may even change the encoding.
-/
import Sparring.Text.Utf16
import Sparring.Text.Utf8

namespace Sparring.Text

/-- How characters are written as bytes. -/
inductive Encoding where
  | utf8
  | utf16 (o : Utf16.Order)
deriving DecidableEq, Repr

namespace Encoding

/-- The mark of an encoding. -/
def mark : Encoding → List UInt8
  | utf8 => [0xEF, 0xBB, 0xBF]
  | utf16 .little => [0xFF, 0xFE]
  | utf16 .big => [0xFE, 0xFF]

/-- The encoding whose mark comes first, and the bytes behind the mark. -/
def sniff? : List UInt8 → Option (Encoding × List UInt8)
  | 0xEF :: 0xBB :: 0xBF :: bs => some (utf8, bs)
  | 0xFF :: 0xFE :: bs => some (utf16 .little, bs)
  | 0xFE :: 0xFF :: bs => some (utf16 .big, bs)
  | _ => none

/-- The text of any bytes. -/
def decodeAnyway : Encoding → List UInt8 → List Char
  | utf8, bs => Utf8.decodeAnyway bs
  | utf16 o, bs => Utf16.decodeAnyway o bs

/-- The bytes of a text. -/
def encode : Encoding → List Char → List UInt8
  | utf8, cs => Utf8.encode cs
  | utf16 o, cs => Utf16.encode o cs

end Encoding

/-- The text behind the mark of an encoding. -/
def decodeMarked (e : Encoding) (bs : List UInt8) : List Char :=
  match Encoding.sniff? bs with
  | some (e, bs) => e.decodeAnyway bs
  | none => e.decodeAnyway bs

/-- The text of a file. -/
def decodeFile (bs : List UInt8) : Except Utf8.Fault (List Char) :=
  match Encoding.sniff? bs with
  | some (e, bs) => .ok (decodeMarked e bs)
  | none => Utf8.decode bs

end Sparring.Text
