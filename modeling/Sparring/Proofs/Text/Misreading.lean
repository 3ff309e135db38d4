/-
A text is not what a reader finds behind a mark that was none.

The bytes of a text in units of 16 bits may happen to begin like a mark.  A reader that takes
them for one goes on behind it, in the encoding of that mark, and whatever it finds there, it
is not the text (`decodeAnyway_ne`).  Length does not show this, since one unit may become two
characters.  A weight does: it counts the bytes beyond ASCII, but not the two that
stand for bytes which are no character.  What is read from bytes never weighs more than they do
(`weight_decodeAnyway_le`), because a character beyond ASCII takes as many heavy bytes in the
one encoding as in the other, or more, and a mark weighs something itself.
-/
import Mathlib.Algebra.Group.Nat.Defs
import Sparring.Proofs.Text.Marks
import Sparring.Proofs.Text.Utf16

namespace Sparring.Text

/-- Is a byte beyond ASCII, and none of the two of a replacement character? -/
def isHeavy (b : UInt8) : Bool := 0x80 ≤ b && b != 0xFD && b != 0xFF

/-- How many bytes are heavy. -/
def weight (bs : List UInt8) : Nat := bs.countP isHeavy

variable {b : UInt8} {bs bs' rest : List UInt8} {o : Utf16.Order} {c : Char} {cs : List Char}

theorem weight_append (bs bs' : List UInt8) : weight (bs ++ bs') = weight bs + weight bs' :=
  List.countP_append

theorem weight_cons (b : UInt8) (bs : List UInt8) :
    weight (b :: bs) = weight bs + if isHeavy b then 1 else 0 :=
  List.countP_cons

theorem weight_le_length (bs : List UInt8) : weight bs ≤ bs.length := List.countP_le_length

theorem weight_le_of_suffix (h : bs <:+ bs') : weight bs ≤ weight bs' := h.sublist.countP_le

theorem Encoding.weight_mark_pos (e : Encoding) : 0 < weight e.mark := by
  cases e with
  | utf8 => decide
  | utf16 o =>
      cases o with
      | little => decide
      | big => decide

/-! ### Units of 16 bits -/

namespace Utf16

variable {u : Nat} {us : List (Option Nat)}

theorem bytes_perm (o o' : Order) (u : Nat) : (o.bytes u).Perm (o'.bytes u) := by
  cases o with
  | little =>
      cases o' with
      | little => exact .refl _
      | big => exact .swap _ _ _
  | big =>
      cases o' with
      | little => exact .swap _ _ _
      | big => exact .refl _

theorem weight_bytes_unit (o o' : Order) (a b : UInt8) :
    weight (o.bytes (o'.unit a b)) = weight [a, b] := by
  rw [weight, (bytes_perm o o' _).countP_eq, bytes_unit, weight]

theorem weight_encode_cons (o : Order) (c : Char) (cs : List Char) :
    weight (encode o (c :: cs)) =
      weight ((encodeChar c).flatMap o.bytes) + weight (encode o cs) := by
  rw [encode_cons, weight_append]

theorem weight_replacement (o : Order) :
    weight ((encodeChar replacement).flatMap o.bytes) = 0 := by
  cases o with
  | little => decide
  | big => decide

/-- The bytes of units, without the half of a unit. -/
def whole (o : Order) (us : List (Option Nat)) : List UInt8 :=
  us.flatMap fun u => (u.map o.bytes).getD []

theorem whole_some (o : Order) (u : Nat) (us : List (Option Nat)) :
    whole o (some u :: us) = o.bytes u ++ whole o us :=
  rfl

theorem whole_none (o : Order) (us : List (Option Nat)) : whole o (none :: us) = whole o us := rfl

theorem weight_whole_units (o o' : Order) (bs : List UInt8) :
    weight (whole o (units o' bs)) ≤ weight bs := by
  fun_induction units o' bs with
  | case1 => exact Nat.le_refl _
  | case2 => exact Nat.zero_le _
  | case3 a b bs ih =>
      have hcons : a :: b :: bs = [a, b] ++ bs := rfl
      rw [whole_some, weight_append, weight_bytes_unit, hcons, weight_append]
      exact Nat.add_le_add_left ih _

/-- What a unit stands for alone does not weigh more than the unit. -/
theorem weight_alone_le (o : Order) (hu : u < 0x10000) :
    weight ((encodeChar (if isHigh u || isLow u then replacement else Char.ofNat u)).flatMap
      o.bytes) ≤ weight (o.bytes u) := by
  by_cases h : (isHigh u || isLow u) = true
  · rw [if_pos h, weight_replacement]
    exact Nat.zero_le _
  · refine Nat.le_of_eq ?_
    rw [if_neg h, encodeChar_ofNat hu (Bool.eq_false_iff.mpr h), List.flatMap_singleton]

theorem weight_encode_chars_le (o : Order) (h : ∀ u, some u ∈ us → u < 0x10000) :
    weight (encode o (chars us)) ≤ weight (whole o us) := by
  fun_induction chars us with
  | case1 => exact Nat.le_refl _
  | case2 us ih =>
      rw [weight_encode_cons, weight_replacement, whole_none, Nat.zero_add]
      exact ih fun u hu => h u (List.mem_cons_of_mem _ hu)
  | case3 u =>
      have halone := weight_alone_le o (h u List.mem_cons_self)
      rw [weight_encode_cons, whole_some, weight_append]
      exact Nat.add_le_add halone (Nat.le_refl 0)
  | case4 u us hhigh ih =>
      rw [weight_encode_cons, weight_replacement, whole_some, whole_none, weight_append,
        Nat.zero_add]
      have := ih fun u hu => h u (List.mem_cons_of_mem _ (List.mem_cons_of_mem _ hu))
      omega
  | case5 u us hhigh ih =>
      have halone := weight_alone_le o (h u List.mem_cons_self)
      simp only [hhigh, Bool.false_or] at halone
      rw [weight_encode_cons, whole_some, weight_append]
      exact Nat.add_le_add halone (ih fun v hv => h v (List.mem_cons_of_mem _ hv))
  | case6 u v us hpair ih =>
      rw [Bool.and_eq_true] at hpair
      rw [weight_encode_cons, encodeChar_pairChar hpair.1 hpair.2, whole_some, whole_some,
        weight_append, weight_append, List.flatMap_cons, List.flatMap_singleton, weight_append]
      have := ih fun w hw => h w (List.mem_cons_of_mem _ (List.mem_cons_of_mem _ hw))
      omega
  | case7 u v us hpair ih =>
      have halone := weight_alone_le o (h u List.mem_cons_self)
      rw [weight_encode_cons, whole_some, weight_append]
      exact Nat.add_le_add halone (ih fun w hw => h w (List.mem_cons_of_mem _ hw))

theorem lt_of_mem_units {o : Order} (h : some u ∈ units o bs) : u < 0x10000 := by
  fun_induction units o bs with
  | case1 => cases h
  | case2 => simp at h
  | case3 a b bs ih =>
      rcases List.mem_cons.mp h with heq | hmem
      · rw [Option.some.inj heq]
        exact unit_lt o a b
      · exact ih hmem

theorem weight_decodeAnyway_le (o o' : Order) (bs : List UInt8) :
    weight (encode o (decodeAnyway o' bs)) ≤ weight bs :=
  Nat.le_trans (weight_encode_chars_le o fun _ hu => lt_of_mem_units hu)
    (weight_whole_units o o' bs)

/-- A character weighs at most what it is long. -/
theorem weight_encodeChar_le (o : Order) (c : Char) :
    weight ((encodeChar c).flatMap o.bytes) ≤ 2 * (encodeChar c).length := by
  have hlength : ∀ us : List Nat, (us.flatMap o.bytes).length = 2 * us.length := by
    intro us
    induction us with
    | nil => rfl
    | cons u us ih =>
        have hbytes : (o.bytes u).length = 2 := by cases o <;> rfl
        rw [List.flatMap_cons, List.length_append, hbytes, ih, List.length_cons]
        omega
  exact Nat.le_trans (weight_le_length _) (Nat.le_of_eq (hlength _))

theorem weight_encodeChar_le_two (o : Order) (hc : c.toNat < 0x10000) :
    weight ((encodeChar c).flatMap o.bytes) ≤ 2 := by
  have hle := weight_encodeChar_le o c
  rw [encodeChar, if_pos hc] at hle ⊢
  exact hle

theorem weight_encodeChar_le_four (o : Order) (c : Char) :
    weight ((encodeChar c).flatMap o.bytes) ≤ 4 := by
  have hle := weight_encodeChar_le o c
  have hlength : (encodeChar c).length ≤ 2 := by
    rw [encodeChar]
    split
    · exact Nat.le_succ 1
    · exact Nat.le_refl 2
  omega

theorem weight_encodeChar_of_ascii (o : Order) (hc : c.toNat < 0x80) :
    weight ((encodeChar c).flatMap o.bytes) = 0 := by
  have hsmall : (UInt8.ofNat (c.toNat % 0x100)).toNat = c.toNat % 0x100 :=
    UInt8.toNat_ofNat_of_lt (show c.toNat % 0x100 < 0x100 by omega)
  have hlow : isHeavy (UInt8.ofNat (c.toNat % 0x100)) = false := by
    have hle : ¬ (0x80 : UInt8) ≤ UInt8.ofNat (c.toNat % 0x100) := by
      simp only [UInt8.le_iff_toNat_le, hsmall, UInt8.reduceToNat]
      omega
    simp [isHeavy, hle]
  have hhigh : isHeavy (UInt8.ofNat (c.toNat / 0x100)) = false := by
    rw [Nat.div_eq_of_lt (by omega)]
    rfl
  rw [encodeChar, if_pos (by omega), List.flatMap_singleton]
  cases o with
  | little => simp [Order.bytes, weight, hlow, hhigh]
  | big => simp [Order.bytes, weight, hlow, hhigh]

end Utf16

/-! ### Bytes of one to four a character -/

namespace Utf8

variable {more bits size : Nat} {low high : UInt8}

theorem isHeavy_of_follows (hlow : 0x80 ≤ b) (hhigh : b ≤ 0xBF) : isHeavy b = true := by
  simp only [UInt8.le_iff_toNat_le, UInt8.reduceToNat] at hlow hhigh
  simp only [isHeavy, UInt8.le_iff_toNat_le, UInt8.reduceToNat, Bool.and_eq_true,
    decide_eq_true_eq, bne_iff_ne, ne_eq, ← UInt8.toNat_inj]
  omega

/-- Behind the first byte of a character all its bytes are heavy, and each brings six bits. -/
theorem weight_of_gather (hlow : 0x80 ≤ low) (hhigh : high ≤ 0xBF)
    (h : gather more low high bits size bs = (.char c, rest)) :
    weight bs = weight rest + more ∧ ∃ n < (bits + 1) * 0x40 ^ more, c = Char.ofNat n := by
  induction more generalizing low high bits size bs with
  | zero =>
      obtain ⟨rfl, rfl⟩ : Char.ofNat bits = c ∧ bs = rest := by simpa [gather] using h
      exact ⟨rfl, bits, by omega, rfl⟩
  | succ more ih =>
      cases bs with
      | nil => simp [gather] at h
      | cons b bs =>
          rw [gather] at h
          split at h
          next hfollows =>
            obtain ⟨hweight, n, hn, rfl⟩ := ih (by decide) (by decide) h
            have hb : isHeavy b = true := isHeavy_of_follows
              (UInt8.le_trans hlow hfollows.1) (UInt8.le_trans hfollows.2 hhigh)
            refine ⟨?_, n, ?_, rfl⟩
            · rw [weight_cons, hweight, if_pos hb, Nat.add_assoc]
            · have hle : b.toNat ≤ 0xBF :=
                UInt8.le_iff_toNat_le.mp (UInt8.le_trans hfollows.2 hhigh)
              have hbits : bits * 0x40 + (b.toNat - 0x80) + 1 ≤ (bits + 1) * 0x40 := by omega
              calc n < (bits * 0x40 + (b.toNat - 0x80) + 1) * 0x40 ^ more := hn
                _ ≤ (bits + 1) * 0x40 * 0x40 ^ more := Nat.mul_le_mul_right _ hbits
                _ = (bits + 1) * 0x40 ^ (more + 1) := by rw [pow_succ', Nat.mul_assoc]
          next => cases h

/-- A first byte is a character of ASCII itself, or it is heavy and others follow, between the
limits that all of them have.  If they are less than three, the character is one unit of 16 bits. -/
def Lead.Sound (l : Lead) (b : UInt8) : Prop :=
  0x80 ≤ l.low ∧ l.high ≤ 0xBF ∧
    (l.more = 0 ∧ l.bits < 0x80 ∨
      isHeavy b = true ∧ (l.more = 3 ∨ 0 < l.more ∧ (l.bits + 1) * 0x40 ^ l.more ≤ 0x10000))

instance (l : Lead) (b : UInt8) : Decidable (l.Sound b) := inferInstanceAs (Decidable (_ ∧ _))

theorem sound_lead?_ofNat : ∀ n < 0x100, ∀ l ∈ lead? (UInt8.ofNat n), l.Sound (UInt8.ofNat n) := by
  decide +kernel

theorem sound_lead? {l : Lead} (h : lead? b = some l) : l.Sound b := by
  have hsound := sound_lead?_ofNat b.toNat b.toNat_lt
  rw [UInt8.ofNat_toNat] at hsound
  exact hsound l h

theorem toNat_ofNat_le (n : Nat) : (Char.ofNat n).toNat ≤ n := by
  by_cases h : n.isValidChar
  · rw [Char.ofNat, dif_pos h]
    exact Nat.le_refl n
  · rw [Char.ofNat, dif_neg h]
    exact Nat.zero_le n

/-- A piece, written in units of 16 bits, does not weigh more than its bytes. -/
theorem weight_piece_le (o : Utf16.Order) (b : UInt8) (bs : List UInt8) :
    weight ((Utf16.encodeChar (piece b bs).1.toChar).flatMap o.bytes) + weight (piece b bs).2 ≤
      weight (b :: bs) := by
  have hrest : weight (piece b bs).2 ≤ weight (b :: bs) :=
    weight_le_of_suffix ((piece_suffix b bs).trans (List.suffix_cons b bs))
  have hnone : weight ((Utf16.encodeChar replacement).flatMap o.bytes) = 0 :=
    Utf16.weight_replacement o
  cases hpiece : piece b bs with
  | mk p rest =>
      rw [hpiece] at hrest
      cases p with
      | bad size => simpa only [Piece.toChar, hnone, Nat.zero_add] using hrest
      | cut size => simpa only [Piece.toChar, hnone, Nat.zero_add] using hrest
      | char c =>
          simp only [Piece.toChar]
          rw [piece] at hpiece
          split at hpiece
          next l hlead =>
            obtain ⟨hlow, hhigh, hbits⟩ := sound_lead? hlead
            obtain ⟨hweight, n, hn, rfl⟩ := weight_of_gather hlow hhigh hpiece
            have hle := toNat_ofNat_le n
            rw [weight_cons, hweight]
            rcases hbits with ⟨hmore, hascii⟩ | ⟨hheavy, hmore | ⟨hmore, hsingle⟩⟩
            · rw [hmore, pow_zero, Nat.mul_one] at hn
              rw [Utf16.weight_encodeChar_of_ascii o (by omega)]
              omega
            · have hfour := Utf16.weight_encodeChar_le_four o (Char.ofNat n)
              rw [if_pos hheavy]
              omega
            · have htwo := Utf16.weight_encodeChar_le_two o (c := Char.ofNat n) (by omega)
              rw [if_pos hheavy]
              omega
          next => cases hpiece

theorem weight_decodeAnyway_le (o : Utf16.Order) (bs : List UInt8) :
    weight (Utf16.encode o (decodeAnyway bs)) ≤ weight bs := by
  induction hlength : bs.length using Nat.strongRecOn generalizing bs with
  | ind n ih =>
      cases bs with
      | nil => exact Nat.le_refl _
      | cons b bs =>
          have hpiece := weight_piece_le o b bs
          have hshorter : (piece b bs).2.length < n :=
            Nat.lt_of_le_of_lt (piece_length_le b bs) (by rw [← hlength]; exact Nat.lt_succ_self _)
          have hrest := ih _ hshorter (piece b bs).2 rfl
          rw [decodeAnyway, pieces_cons, List.map_cons, ← decodeAnyway, Utf16.weight_encode_cons]
          omega

end Utf8

/-! ### Behind a mark that was none -/

theorem Encoding.weight_decodeAnyway_le (o : Utf16.Order) (e : Encoding) (bs : List UInt8) :
    weight (Utf16.encode o (e.decodeAnyway bs)) ≤ weight bs := by
  cases e with
  | utf8 => exact Utf8.weight_decodeAnyway_le o bs
  | utf16 o' => exact Utf16.weight_decodeAnyway_le o o' bs

/-- What is read behind the beginning of a text, taken for a mark, is not the text. -/
theorem decodeAnyway_ne {e : Encoding} (h : Utf16.encode o cs = e.mark ++ rest) :
    e.decodeAnyway rest ≠ cs := by
  intro heq
  have hle := e.weight_decodeAnyway_le o rest
  have hmark := e.weight_mark_pos
  rw [heq, h, weight_append] at hle
  omega

end Sparring.Text
