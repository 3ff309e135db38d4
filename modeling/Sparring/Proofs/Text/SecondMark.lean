/-
The four files that can hold a text, and what is read in them.

A text is held in UTF-8 alone or behind the mark of its encoding.  Behind the mark a reader
looks for one once more, and it may find one: in units of 16 bits some texts begin with the
bytes of a mark although they begin with no mark (`Utf16.LikeMark`).  The text is read as it
was written unless that happens (`Form.decodeFile_bytes_iff`), and if it happens it never is.

UTF-8 is safe.  Its bytes begin like a mark only if the text begins with the character that is
the mark.
-/
import Sparring.Proofs.Text.Misreading
import Sparring.Proofs.Text.Utf8

namespace Sparring.Text

variable {cs : List Char} {e : Encoding} {o : Utf16.Order}

/-! ### Texts that begin like a mark -/

/-- A text that begins like a mark in units of 16 bits, though its first character is no mark. -/
inductive Utf16.LikeMark (o : Order) : List Char → Prop where
  /-- Like the mark of the other order. -/
  | swapped (rest : List Char) : LikeMark o ('\uFFFE' :: rest)
  /-- Like the mark of UTF-8, whose last byte is the first of the second character. -/
  | utf8 {rest : List Char} (h : (encode o rest).head? = some 0xBF) :
    LikeMark o (Char.ofNat (o.unit 0xEF 0xBB) :: rest)

example : Char.ofNat (Utf16.Order.little.unit 0xEF 0xBB) = '\uBBEF' := rfl

example : Char.ofNat (Utf16.Order.big.unit 0xEF 0xBB) = '\uEFBB' := rfl

theorem Utf16.isSurrogate_likeMark (o : Order) :
    (isHigh (o.unit 0xEF 0xBB) || isLow (o.unit 0xEF 0xBB)) = false := by
  cases o with
  | little => rfl
  | big => rfl

theorem Utf8.sniff?_encode (hstart : cs.head? ≠ some '\uFEFF') :
    Encoding.sniff? (encode cs) = none := by
  cases hsniff : Encoding.sniff? (encode cs) with
  | none => rfl
  | some found =>
      obtain ⟨e, rest⟩ := found
      have hdecode := decode_encode cs
      rw [Encoding.sniff?_eq_some_iff.mp hsniff, decode_mark_append_eq_ok_iff] at hdecode
      obtain ⟨-, text, -, rfl⟩ := hdecode
      exact absurd rfl hstart

theorem Utf16.likeMark_of_encode_eq (hstart : cs.head? ≠ some '\uFEFF') {rest : List UInt8}
    (h : encode o cs = e.mark ++ rest) : LikeMark o cs := by
  cases e with
  | utf8 =>
      obtain ⟨text, rfl, htext⟩ := (encode_eq_cons_iff (isSurrogate_likeMark o)).mp h
      exact .utf8 (by rw [htext]; rfl)
  | utf16 o' =>
      -- The mark of the same order is the character that the text does not begin with.
      cases o with
      | little =>
          cases o' with
          | little =>
              obtain ⟨text, rfl, -⟩ := (encode_eq_cons_iff (a := 0xFF) (b := 0xFE) rfl).mp h
              exact absurd rfl hstart
          | big =>
              obtain ⟨text, rfl, -⟩ := (encode_eq_cons_iff (a := 0xFE) (b := 0xFF) rfl).mp h
              exact .swapped text
      | big =>
          cases o' with
          | little =>
              obtain ⟨text, rfl, -⟩ := (encode_eq_cons_iff (a := 0xFF) (b := 0xFE) rfl).mp h
              exact .swapped text
          | big =>
              obtain ⟨text, rfl, -⟩ := (encode_eq_cons_iff (a := 0xFE) (b := 0xFF) rfl).mp h
              exact absurd rfl hstart

theorem Utf16.LikeMark.exists_encode_eq (h : LikeMark o cs) :
    ∃ e rest, encode o cs = Encoding.mark e ++ rest := by
  cases h with
  | swapped rest =>
      cases o with
      | little =>
          exact ⟨.utf16 .big, _, encode_unit_cons (o := .little) (a := 0xFE) (b := 0xFF) rfl rest⟩
      | big =>
          exact ⟨.utf16 .little, _, encode_unit_cons (o := .big) (a := 0xFF) (b := 0xFE) rfl rest⟩
  | @utf8 rest hrest =>
      obtain ⟨bs, hbs⟩ := List.head?_eq_some_iff.mp hrest
      refine ⟨.utf8, bs, ?_⟩
      rw [encode_unit_cons (isSurrogate_likeMark o), hbs]
      rfl

theorem Utf16.sniff?_encode_iff (hstart : cs.head? ≠ some '\uFEFF') :
    Encoding.sniff? (encode o cs) = none ↔ ¬ LikeMark o cs := by
  refine ⟨?_, ?_⟩
  · intro hnone hlike
    obtain ⟨e, rest, hbytes⟩ := hlike.exists_encode_eq
    rw [Encoding.sniff?_eq_some_iff.mpr hbytes] at hnone
    cases hnone
  · intro hlike
    cases hsniff : Encoding.sniff? (encode o cs) with
    | none => rfl
    | some found =>
        exact absurd (likeMark_of_encode_eq hstart (Encoding.sniff?_eq_some_iff.mp hsniff)) hlike

/-! ### Four files of one text -/

/-- How a file holds a text: in UTF-8 alone, or behind the mark of an encoding. -/
inductive Form where
  | plain
  | marked (e : Encoding)
deriving DecidableEq, Repr

namespace Form

/-- The bytes of the file. -/
def bytes : Form → List Char → List UInt8
  | plain, cs => Utf8.encode cs
  | marked e, cs => e.mark ++ e.encode cs

/-- The file seems to have a second mark, and the text has none. -/
def Misleads : Form → List Char → Prop
  | marked (.utf16 o), cs => Utf16.LikeMark o cs
  | _, _ => False

end Form

theorem Encoding.decodeAnyway_encode (e : Encoding) (cs : List Char) :
    e.decodeAnyway (e.encode cs) = cs := by
  cases e with
  | utf8 => exact Utf8.decodeAnyway_of_decode (Utf8.decode_encode cs)
  | utf16 o => exact Utf16.decodeAnyway_encode o cs

theorem decodeMarked_utf16_iff :
    decodeMarked (.utf16 o) (Utf16.encode o cs) = cs ↔
      Encoding.sniff? (Utf16.encode o cs) = none := by
  refine ⟨?_, ?_⟩
  · intro hcs
    cases hsniff : Encoding.sniff? (Utf16.encode o cs) with
    | none => rfl
    | some found =>
        obtain ⟨e, rest⟩ := found
        rw [decodeMarked, hsniff] at hcs
        exact absurd hcs (decodeAnyway_ne (Encoding.sniff?_eq_some_iff.mp hsniff))
  · intro hunmarked
    rw [decodeMarked_of_unmarked hunmarked]
    exact Encoding.decodeAnyway_encode (.utf16 o) cs

/-- A text is read as it was written unless it seems to have a second mark. -/
theorem Form.decodeFile_bytes_iff (hstart : cs.head? ≠ some '\uFEFF') (f : Form) :
    decodeFile (f.bytes cs) = .ok cs ↔ ¬ f.Misleads cs := by
  cases f with
  | plain =>
      have hunmarked := Utf8.sniff?_encode hstart
      simp only [bytes, decodeFile_of_unmarked hunmarked, Utf8.decode_encode, Misleads,
        not_false_eq_true]
  | marked e =>
      rw [bytes, decodeFile_mark_append, Except.ok.injEq]
      cases e with
      | utf8 =>
          have hread := decodeMarked_of_decode (Utf8.sniff?_encode hstart) (Utf8.decode_encode cs)
          simp only [Encoding.encode, hread, Misleads, not_false_eq_true]
      | utf16 o => exact decodeMarked_utf16_iff.trans (Utf16.sniff?_encode_iff hstart)

end Sparring.Text
