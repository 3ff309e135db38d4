/-
What a mark at the start of a file is to a reader that does not look for one.

Bytes are a text exactly if all their pieces are characters (`decode_eq_ok_iff`), and then
both ways of decoding agree on it.  So nothing depends on where a text begins, and what stands
behind the first characters can be read on its own (`pieces_cons`).  That settles the marks
one by one.  The mark of UTF-8 is a character like any other and stays in the text; the other
two begin no character, so behind them there is no text at all
(`decode_mark_append_eq_ok_iff`).

A reader that looks for marks drops them, and behind a mark it has a text for any bytes.
-/
import Sparring.Text.Encoding
import Sparring.Proofs.Checked

namespace Sparring.Text

namespace Utf8

variable {bs : List UInt8} {cs : List Char} {ps : List Piece}

/-! ### Pieces -/

theorem gather_suffix (more : Nat) (low high : UInt8) (bits size : Nat) (bs : List UInt8) :
    (gather more low high bits size bs).2 <:+ bs := by
  fun_induction gather more low high bits size bs with
  | case1 => exact List.suffix_refl _
  | case2 => exact List.suffix_refl _
  | case3 low high bits size b bs more hfollows ih => exact ih.trans (List.suffix_cons _ _)
  | case4 => exact List.suffix_refl _

/-- Nothing behind a piece is changed. -/
theorem piece_suffix (b : UInt8) (bs : List UInt8) : (piece b bs).2 <:+ bs := by
  unfold piece
  split
  · exact gather_suffix ..
  · exact List.suffix_refl _

theorem piece_length_le (b : UInt8) (bs : List UInt8) :
    (piece b bs).2.length ≤ bs.length :=
  (piece_suffix b bs).length_le

theorem piecesWithin_nil (n : Nat) : piecesWithin n [] = [] := by
  cases n with
  | zero => rfl
  | succ n => rfl

theorem piecesWithin_cons (n : Nat) (b : UInt8) (bs : List UInt8) :
    piecesWithin (n + 1) (b :: bs) = (piece b bs).1 :: piecesWithin n (piece b bs).2 :=
  rfl

/-- A piece takes a byte at least, so as many pieces as bytes are enough. -/
theorem piecesWithin_eq {n m : Nat} (hn : bs.length ≤ n) (hm : bs.length ≤ m) :
    piecesWithin n bs = piecesWithin m bs := by
  induction n generalizing m bs with
  | zero =>
      obtain rfl : bs = [] := List.length_eq_zero_iff.mp (Nat.le_zero.mp hn)
      rw [piecesWithin_nil, piecesWithin_nil]
  | succ n ih =>
      cases bs with
      | nil => rw [piecesWithin_nil, piecesWithin_nil]
      | cons b bs =>
          obtain ⟨m, rfl⟩ := Nat.exists_eq_add_one_of_ne_zero (Nat.ne_zero_of_lt hm)
          have hle := piece_length_le b bs
          rw [piecesWithin_cons, piecesWithin_cons,
            ih (Nat.le_trans hle (Nat.le_of_succ_le_succ hn))
              (Nat.le_trans hle (Nat.le_of_succ_le_succ hm))]

theorem pieces_cons (b : UInt8) (bs : List UInt8) :
    pieces (b :: bs) = (piece b bs).1 :: pieces (piece b bs).2 := by
  rw [pieces, List.length_cons, piecesWithin_cons, pieces,
    piecesWithin_eq (piece_length_le b bs) (Nat.le_refl _)]

/-! ### Texts -/

theorem strictFrom_eq_ok_iff {index : Nat} :
    strictFrom index ps = .ok cs ↔ ps = cs.map Piece.char := by
  induction ps generalizing index cs with
  | nil => simp [strictFrom, eq_comm]
  | cons p ps ih =>
      cases p with
      | char c =>
          rw [strictFrom, Checked.map_eq_ok_iff]
          cases cs with
          | nil => simp
          | cons c' cs =>
              simp only [ih, List.map_cons, List.cons.injEq, Piece.char.injEq,
                exists_eq_right_right]
              exact and_comm
      | bad size => cases cs <;> simp [strictFrom]
      | cut size => cases cs <;> simp [strictFrom]

/-- Bytes are a text if all their pieces are characters. -/
theorem decode_eq_ok_iff : decode bs = .ok cs ↔ pieces bs = cs.map Piece.char :=
  strictFrom_eq_ok_iff

theorem decodeAnyway_of_decode (h : decode bs = .ok cs) : decodeAnyway bs = cs := by
  rw [decodeAnyway, decode_eq_ok_iff.mp h, List.map_map]
  exact List.map_id cs

end Utf8

/-! ### Marks -/

variable {bs rest : List UInt8} {cs : List Char} {e : Encoding}

theorem Encoding.sniff?_eq_some_iff : sniff? bs = some (e, rest) ↔ bs = e.mark ++ rest := by
  refine ⟨?_, ?_⟩
  · intro h
    unfold sniff? at h
    split at h
    · cases h
      rfl
    · cases h
      rfl
    · cases h
      rfl
    · cases h
  · rintro rfl
    cases e with
    | utf8 => rfl
    | utf16 o =>
        cases o with
        | little => rfl
        | big => rfl

/-- Of all texts behind a mark, a strict reader takes those of UTF-8, and the mark with them. -/
theorem Utf8.decode_mark_append_eq_ok_iff :
    decode (e.mark ++ bs) = .ok cs ↔
      e = .utf8 ∧ ∃ text, decode bs = .ok text ∧ cs = '\uFEFF' :: text := by
  simp only [decode_eq_ok_iff]
  cases e with
  | utf8 =>
      have hmark : pieces (Encoding.utf8.mark ++ bs) = .char '\uFEFF' :: pieces bs :=
        pieces_cons 0xEF (0xBB :: 0xBF :: bs)
      rw [hmark]
      cases cs with
      | nil => simp
      | cons c cs =>
          simp only [List.map_cons, List.cons.injEq, Piece.char.injEq, true_and]
          refine ⟨?_, ?_⟩
          · intro h
            obtain ⟨rfl, hpieces⟩ := h
            exact ⟨cs, hpieces, rfl, rfl⟩
          · intro h
            obtain ⟨text, hpieces, rfl, rfl⟩ := h
            exact ⟨rfl, hpieces⟩
  | utf16 o =>
      have hbad : ∃ ps, pieces ((Encoding.utf16 o).mark ++ bs) = .bad 1 :: ps := by
        cases o with
        | little => exact ⟨_, pieces_cons 0xFF (0xFE :: bs)⟩
        | big => exact ⟨_, pieces_cons 0xFE (0xFF :: bs)⟩
      obtain ⟨ps, hps⟩ := hbad
      rw [hps]
      cases cs <;> simp

theorem decodeFile_of_unmarked (h : Encoding.sniff? bs = none) :
    decodeFile bs = Utf8.decode bs := by
  rw [decodeFile, h]

theorem decodeFile_mark_append (e : Encoding) (bs : List UInt8) :
    decodeFile (e.mark ++ bs) = .ok (decodeMarked e bs) := by
  rw [decodeFile, Encoding.sniff?_eq_some_iff.mpr rfl]

theorem decodeMarked_of_unmarked (hunmarked : Encoding.sniff? bs = none) :
    decodeMarked e bs = e.decodeAnyway bs := by
  rw [decodeMarked, hunmarked]

/-- Behind one mark of UTF-8 the text is what a strict reader finds there. -/
theorem decodeMarked_of_decode (hunmarked : Encoding.sniff? bs = none)
    (h : Utf8.decode bs = .ok cs) : decodeMarked .utf8 bs = cs := by
  rw [decodeMarked_of_unmarked hunmarked]
  exact Utf8.decodeAnyway_of_decode h

end Sparring.Text
