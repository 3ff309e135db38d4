/-
Bytes of one to four a character, written and read back.

A first byte tells how many follow and which of them may come next; those limits shut out
spellings that are longer than they need be, the surrogates, and numbers that are too great.
No character is shut out by them: for each length the first byte of a character admits its
second (`lead?_three`, `lead?_four`), and every byte behind it brings six bits more
(`gather_follow`).  So a reader finds the character and stops right behind it
(`pieces_encodeChar`), whatever the bytes there are.
-/
import Sparring.Proofs.Text.Marks

namespace Sparring.Text.Utf8

variable {c : Char} {bs : List UInt8} {k l m n u : Nat}

/-! ### Bytes -/

theorem toNat_byte (h : n < 0x100) : (byte n).toNat = n :=
  UInt8.toNat_ofNat_of_lt h

theorem byte_between (hlow : l ≤ n) (hhigh : n ≤ u) (hu : u < 0x100) :
    byte l ≤ byte n ∧ byte n ≤ byte u := by
  rw [UInt8.le_iff_toNat_le, UInt8.le_iff_toNat_le, toNat_byte (by omega), toNat_byte (by omega),
    toNat_byte hu]
  exact ⟨hlow, hhigh⟩

/-- What a byte tells that may come first, by its number. -/
theorem lead?_byte (h : n < 0x100) :
    lead? (byte n) =
      if n < 0x80 then some { bits := n, more := 0 }
      else if n < 0xC2 then none
      else if n < 0xE0 then some { bits := n - 0xC0, more := 1 }
      else if n = 0xE0 then some { bits := 0, more := 2, low := 0xA0 }
      else if n = 0xED then some { bits := 0xD, more := 2, high := 0x9F }
      else if n < 0xF0 then some { bits := n - 0xE0, more := 2 }
      else if n = 0xF0 then some { bits := 0, more := 3, low := 0x90 }
      else if n < 0xF4 then some { bits := n - 0xF0, more := 3 }
      else if n = 0xF4 then some { bits := 4, more := 3, high := 0x8F }
      else none := by
  simp only [lead?, UInt8.lt_iff_toNat_lt, ← UInt8.toNat_inj, toNat_byte h, UInt8.reduceToNat]

/-! ### First bytes of characters -/

theorem lead?_one (h : n < 0x80) : lead? (byte n) = some { bits := n, more := 0 } := by
  rw [lead?_byte (by omega), if_pos h]

theorem lead?_two (hleast : 2 ≤ k) (hk : k < 0x20) :
    lead? (byte (0xC0 + k)) = some { bits := k, more := 1 } := by
  rw [lead?_byte (by omega), if_neg (by omega), if_neg (by omega), if_pos (by omega),
    Nat.add_sub_cancel_left]

/-- The second byte of three may be any that no shorter spelling and no surrogate has. -/
theorem lead?_three (hk : k < 0x10) (hm : m < 0x40) (hshort : k = 0 → 0x20 ≤ m)
    (hsurrogate : k = 0xD → m < 0x20) :
    ∃ low high, lead? (byte (0xE0 + k)) = some { bits := k, more := 2, low, high } ∧
      low ≤ byte (0x80 + m) ∧ byte (0x80 + m) ≤ high := by
  have hbyte := lead?_byte (n := 0xE0 + k) (by omega)
  rw [if_neg (by omega), if_neg (by omega), if_neg (by omega)] at hbyte
  by_cases hzero : k = 0
  · subst hzero
    exact ⟨_, _, hbyte, byte_between (l := 0xA0) (u := 0xBF) (by omega) (by omega) (by omega)⟩
  · rw [if_neg (by omega)] at hbyte
    by_cases hlast : k = 0xD
    · subst hlast
      exact ⟨_, _, hbyte, byte_between (l := 0x80) (u := 0x9F) (by omega) (by omega) (by omega)⟩
    · rw [if_neg (by omega), if_pos (by omega), Nat.add_sub_cancel_left] at hbyte
      exact ⟨_, _, hbyte, byte_between (l := 0x80) (u := 0xBF) (by omega) (by omega) (by omega)⟩

/-- The second byte of four may be any that no shorter spelling and no number beyond the last
character has. -/
theorem lead?_four (hk : k < 5) (hm : m < 0x40) (hshort : k = 0 → 0x10 ≤ m)
    (hgreat : k = 4 → m < 0x10) :
    ∃ low high, lead? (byte (0xF0 + k)) = some { bits := k, more := 3, low, high } ∧
      low ≤ byte (0x80 + m) ∧ byte (0x80 + m) ≤ high := by
  have hbyte := lead?_byte (n := 0xF0 + k) (by omega)
  rw [if_neg (by omega), if_neg (by omega), if_neg (by omega), if_neg (by omega),
    if_neg (by omega), if_neg (by omega)] at hbyte
  by_cases hzero : k = 0
  · subst hzero
    exact ⟨_, _, hbyte, byte_between (l := 0x90) (u := 0xBF) (by omega) (by omega) (by omega)⟩
  · rw [if_neg (by omega)] at hbyte
    by_cases hlast : k = 4
    · subst hlast
      exact ⟨_, _, hbyte, byte_between (l := 0x80) (u := 0x8F) (by omega) (by omega) (by omega)⟩
    · rw [if_pos (by omega), Nat.add_sub_cancel_left] at hbyte
      exact ⟨_, _, hbyte, byte_between (l := 0x80) (u := 0xBF) (by omega) (by omega) (by omega)⟩

/-! ### Characters -/

/-- A byte that follows brings six bits. -/
theorem gather_follow {low high : UInt8} (more bits size : Nat) (bs : List UInt8) (hm : m < 0x40)
    (hlow : low ≤ byte (0x80 + m)) (hhigh : byte (0x80 + m) ≤ high) :
    gather (more + 1) low high bits size (byte (0x80 + m) :: bs) =
      gather more 0x80 0xBF (bits * 0x40 + m) (size + 1) bs := by
  rw [gather, if_pos ⟨hlow, hhigh⟩, toNat_byte (by omega), Nat.add_sub_cancel_left]

/-- The bytes behind the second may be any of those that follow. -/
theorem gather_rest (more bits size : Nat) (bs : List UInt8) (hm : m < 0x40) :
    gather (more + 1) 0x80 0xBF bits size (byte (0x80 + m) :: bs) =
      gather more 0x80 0xBF (bits * 0x40 + m) (size + 1) bs := by
  have hbyte := byte_between (l := 0x80) (n := 0x80 + m) (u := 0xBF) (by omega) (by omega)
    (by omega)
  exact gather_follow more bits size bs hm hbyte.1 hbyte.2

/-- A first byte and what it gathers are one piece. -/
theorem pieces_of_gather {b : UInt8} {rest : List UInt8} {lead : Lead} (hlead : lead? b = some lead)
    (h : gather lead.more lead.low lead.high lead.bits 1 rest = (.char c, bs)) :
    pieces (b :: rest) = .char c :: pieces bs := by
  rw [pieces_cons, piece, hlead]
  simp only [h]

theorem pieces_one (h : n < 0x80) (bs : List UInt8) :
    pieces (byte n :: bs) = .char (Char.ofNat n) :: pieces bs :=
  pieces_of_gather (lead?_one h) rfl

theorem pieces_two (hleast : 0x80 ≤ n) (h : n < 0x800) (bs : List UInt8) :
    pieces (byte (0xC0 + n / 0x40) :: byte (0x80 + n % 0x40) :: bs) =
      .char (Char.ofNat n) :: pieces bs := by
  have hbits : n / 0x40 * 0x40 + n % 0x40 = n := by omega
  refine pieces_of_gather (lead?_two (by omega) (by omega)) ?_
  rw [gather_rest 0 _ _ _ (by omega), gather, hbits]

theorem pieces_three (hleast : 0x800 ≤ n) (h : n < 0xD800 ∨ 0xDFFF < n ∧ n < 0x10000)
    (bs : List UInt8) :
    pieces (byte (0xE0 + n / 0x1000) :: byte (0x80 + n / 0x40 % 0x40) ::
      byte (0x80 + n % 0x40) :: bs) = .char (Char.ofNat n) :: pieces bs := by
  have hbits : (n / 0x1000 * 0x40 + n / 0x40 % 0x40) * 0x40 + n % 0x40 = n := by omega
  obtain ⟨low, high, hlead, hlow, hhigh⟩ :=
    lead?_three (k := n / 0x1000) (m := n / 0x40 % 0x40) (by omega) (by omega) (by omega)
      (by omega)
  refine pieces_of_gather hlead ?_
  rw [gather_follow 1 _ _ _ (by omega) hlow hhigh, gather_rest 0 _ _ _ (by omega), gather, hbits]

theorem pieces_four (hleast : 0x10000 ≤ n) (h : n < 0x110000) (bs : List UInt8) :
    pieces (byte (0xF0 + n / 0x40000) :: byte (0x80 + n / 0x1000 % 0x40) ::
      byte (0x80 + n / 0x40 % 0x40) :: byte (0x80 + n % 0x40) :: bs) =
      .char (Char.ofNat n) :: pieces bs := by
  have hbits : ((n / 0x40000 * 0x40 + n / 0x1000 % 0x40) * 0x40 + n / 0x40 % 0x40) * 0x40 +
      n % 0x40 = n := by omega
  obtain ⟨low, high, hlead, hlow, hhigh⟩ :=
    lead?_four (k := n / 0x40000) (m := n / 0x1000 % 0x40) (by omega) (by omega) (by omega)
      (by omega)
  refine pieces_of_gather hlead ?_
  rw [gather_follow 2 _ _ _ (by omega) hlow hhigh, gather_rest 1 _ _ _ (by omega),
    gather_rest 0 _ _ _ (by omega), gather, hbits]

/-- The piece that the bytes of a character begin is the character, and nothing behind it. -/
theorem pieces_encodeChar (c : Char) (bs : List UInt8) :
    pieces (encodeChar c ++ bs) = .char c :: pieces bs := by
  have hvalid : c.toNat < 0xD800 ∨ 0xDFFF < c.toNat ∧ c.toNat < 0x110000 := c.valid
  conv => rhs; rw [← Char.ofNat_toNat c]
  rw [encodeChar]
  split
  next h1 => exact pieces_one h1 bs
  next h1 =>
    split
    next h2 => exact pieces_two (by omega) h2 bs
    next h2 =>
      split
      next h3 => exact pieces_three (by omega) (by omega) bs
      next h3 => exact pieces_four (by omega) (by omega) bs

/-- A text that is written is read back. -/
theorem decode_encode (cs : List Char) : decode (encode cs) = .ok cs := by
  rw [decode_eq_ok_iff]
  induction cs with
  | nil => rfl
  | cons c cs ih => rw [encode, List.flatMap_cons, pieces_encodeChar, ← encode, ih, List.map_cons]

end Sparring.Text.Utf8
