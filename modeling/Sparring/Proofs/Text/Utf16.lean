/-
Units of 16 bits, written and read back.

Two bytes are a unit and a unit two bytes, in either order (`units_bytes`, `bytes_unit`).  One
unit that is no surrogate is one character, and a high surrogate with a low one behind it is
one; in both cases the character is written as the units it was read from
(`encodeChar_ofNat`, `encodeChar_pairChar`), and read from the units it is written as
(`chars_encodeChar`).  So a text comes back from its bytes.
-/
import Sparring.Text.Utf16

namespace Sparring.Text.Utf16

variable {o : Order} {a b : UInt8} {n u v : Nat}

/-! ### Bytes and units -/

theorem units_bytes (o : Order) (hu : u < 0x10000) (bs : List UInt8) :
    units o (o.bytes u ++ bs) = some u :: units o bs := by
  have hlow : (UInt8.ofNat (u % 0x100)).toNat = u % 0x100 :=
    UInt8.toNat_ofNat_of_lt (Nat.mod_lt u (by omega))
  have hhigh : (UInt8.ofNat (u / 0x100)).toNat = u / 0x100 :=
    UInt8.toNat_ofNat_of_lt (show u / 0x100 < 0x100 by omega)
  cases o with
  | little =>
      have hunit : u % 0x100 + 0x100 * (u / 0x100) = u := by omega
      simp only [Order.bytes, List.cons_append, List.nil_append, units, Order.unit, hlow, hhigh,
        hunit]
  | big =>
      have hunit : 0x100 * (u / 0x100) + u % 0x100 = u := by omega
      simp only [Order.bytes, List.cons_append, List.nil_append, units, Order.unit, hlow, hhigh,
        hunit]

theorem units_flatMap_bytes (o : Order) {ns : List Nat} (h : ∀ n ∈ ns, n < 0x10000) :
    units o (ns.flatMap o.bytes) = ns.map some := by
  induction ns with
  | nil => rfl
  | cons n ns ih =>
      have hn : n < 0x10000 := h n List.mem_cons_self
      rw [List.flatMap_cons, units_bytes o hn, ih fun m hm => h m (List.mem_cons_of_mem n hm),
        List.map_cons]

theorem unit_lt (o : Order) (a b : UInt8) : o.unit a b < 0x10000 := by
  have ha := a.toNat_lt
  have hb := b.toNat_lt
  cases o with
  | little => simp only [Order.unit]; omega
  | big => simp only [Order.unit]; omega

theorem bytes_unit (o : Order) (a b : UInt8) : o.bytes (o.unit a b) = [a, b] := by
  have ha := a.toNat_lt
  have hb := b.toNat_lt
  cases o with
  | little =>
      have hlow : (a.toNat + 0x100 * b.toNat) % 0x100 = a.toNat := by omega
      have hhigh : (a.toNat + 0x100 * b.toNat) / 0x100 = b.toNat := by omega
      simp only [Order.bytes, Order.unit, hlow, hhigh, UInt8.ofNat_toNat]
  | big =>
      have hlow : (0x100 * a.toNat + b.toNat) % 0x100 = b.toNat := by omega
      have hhigh : (0x100 * a.toNat + b.toNat) / 0x100 = a.toNat := by omega
      simp only [Order.bytes, Order.unit, hlow, hhigh, UInt8.ofNat_toNat]

/-! ### Units and characters -/

theorem isHigh_iff : isHigh n = true ↔ 0xD800 ≤ n ∧ n ≤ 0xDBFF := by
  simp [isHigh]

theorem isLow_iff : isLow n = true ↔ 0xDC00 ≤ n ∧ n ≤ 0xDFFF := by
  simp [isLow]

theorem isSurrogate_iff : (isHigh n || isLow n) = true ↔ 0xD800 ≤ n ∧ n ≤ 0xDFFF := by
  rw [Bool.or_eq_true, isHigh_iff, isLow_iff]
  omega

theorem toNat_ofNat (h : n < 0xD800 ∨ 0xDFFF < n ∧ n < 0x110000) : (Char.ofNat n).toNat = n := by
  rw [Char.ofNat, dif_pos h]
  rfl

/-- A unit that is no surrogate is a character, whatever follows. -/
theorem chars_cons (h : (isHigh u || isLow u) = false) (us : List (Option Nat)) :
    chars (some u :: us) = Char.ofNat u :: chars us := by
  obtain ⟨hhigh, hlow⟩ := Bool.or_eq_false_iff.mp h
  cases us with
  | nil => simp [chars, hhigh, hlow]
  | cons v us =>
      cases v with
      | none => simp [chars, hhigh, hlow]
      | some v => simp [chars, hhigh, hlow]

theorem chars_pair (hu : isHigh u = true) (hv : isLow v = true) (us : List (Option Nat)) :
    chars (some u :: some v :: us) = pairChar u v :: chars us := by
  rw [chars, hu, hv]
  rfl

theorem encodeChar_ofNat (hn : n < 0x10000) (h : (isHigh n || isLow n) = false) :
    encodeChar (Char.ofNat n) = [n] := by
  have hvalid : n < 0xD800 ∨ 0xDFFF < n ∧ n < 0x110000 := by
    have := mt isSurrogate_iff.mpr (Bool.eq_false_iff.mp h)
    omega
  rw [encodeChar, toNat_ofNat hvalid, if_pos hn]

theorem encodeChar_pairChar (hu : isHigh u = true) (hv : isLow v = true) :
    encodeChar (pairChar u v) = [u, v] := by
  rw [isHigh_iff] at hu
  rw [isLow_iff] at hv
  have hhigh : 0xD800 + (0x10000 + (u - 0xD800) * 0x400 + (v - 0xDC00) - 0x10000) / 0x400 = u := by
    omega
  have hlow : 0xDC00 + (0x10000 + (u - 0xD800) * 0x400 + (v - 0xDC00) - 0x10000) % 0x400 = v := by
    omega
  rw [encodeChar, pairChar, toNat_ofNat (by omega), if_neg (by omega)]
  simp only [hhigh, hlow]

theorem chars_encodeChar (c : Char) (us : List (Option Nat)) :
    chars ((encodeChar c).map some ++ us) = c :: chars us := by
  have hvalid : c.toNat < 0xD800 ∨ 0xDFFF < c.toNat ∧ c.toNat < 0x110000 := c.valid
  have hc : Char.ofNat c.toNat = c := Char.ofNat_toNat c
  rw [encodeChar]
  split
  next hone =>
    have hsingle : (isHigh c.toNat || isLow c.toNat) = false := by
      rw [Bool.eq_false_iff, Ne, isSurrogate_iff]
      omega
    rw [List.map_singleton, List.singleton_append, chars_cons hsingle, hc]
  next htwo =>
    have hpair : 0x10000 + (0xD800 + (c.toNat - 0x10000) / 0x400 - 0xD800) * 0x400 +
        (0xDC00 + (c.toNat - 0x10000) % 0x400 - 0xDC00) = c.toNat := by omega
    rw [List.map_cons, List.map_singleton, List.cons_append, List.singleton_append,
      chars_pair (isHigh_iff.mpr (by omega)) (isLow_iff.mpr (by omega)), pairChar, hpair, hc]

/-! ### Texts -/

theorem encodeChar_lt (c : Char) : ∀ u ∈ encodeChar c, u < 0x10000 := by
  have hvalid : c.toNat < 0xD800 ∨ 0xDFFF < c.toNat ∧ c.toNat < 0x110000 := c.valid
  rw [encodeChar]
  split
  next hone => simpa using hone
  next htwo =>
    simp only [List.mem_cons, List.not_mem_nil, or_false, forall_eq_or_imp, forall_eq]
    omega

theorem encode_cons (o : Order) (c : Char) (cs : List Char) :
    encode o (c :: cs) = (encodeChar c).flatMap o.bytes ++ encode o cs := by
  rw [encode, encode, List.flatMap_cons, List.flatMap_append]

/-- A text that is written is read back. -/
theorem decodeAnyway_encode (o : Order) (cs : List Char) : decodeAnyway o (encode o cs) = cs := by
  have hunits : ∀ u ∈ cs.flatMap encodeChar, u < 0x10000 := by
    intro u hu
    obtain ⟨c, -, hc⟩ := List.mem_flatMap.mp hu
    exact encodeChar_lt c u hc
  rw [decodeAnyway, encode, units_flatMap_bytes o hunits]
  clear hunits
  induction cs with
  | nil => rfl
  | cons c cs ih => rw [List.flatMap_cons, List.map_append, chars_encodeChar, ih]

/-! ### The first two bytes -/

theorem decodeAnyway_cons (h : (isHigh (o.unit a b) || isLow (o.unit a b)) = false)
    (bs : List UInt8) :
    decodeAnyway o (a :: b :: bs) = Char.ofNat (o.unit a b) :: decodeAnyway o bs := by
  rw [decodeAnyway, units, chars_cons h, ← decodeAnyway]

theorem encode_unit_cons (h : (isHigh (o.unit a b) || isLow (o.unit a b)) = false)
    (cs : List Char) : encode o (Char.ofNat (o.unit a b) :: cs) = a :: b :: encode o cs := by
  rw [encode_cons, encodeChar_ofNat (unit_lt o a b) h, List.flatMap_singleton, bytes_unit]
  rfl

/-- A text begins with two bytes that are no surrogate if it begins with their character. -/
theorem encode_eq_cons_iff (h : (isHigh (o.unit a b) || isLow (o.unit a b)) = false)
    {bs : List UInt8} {cs : List Char} :
    encode o cs = a :: b :: bs ↔ ∃ rest, cs = Char.ofNat (o.unit a b) :: rest ∧
      encode o rest = bs := by
  refine ⟨?_, ?_⟩
  · intro hbytes
    have hcs : cs = Char.ofNat (o.unit a b) :: decodeAnyway o bs := by
      rw [← decodeAnyway_cons h, ← hbytes, decodeAnyway_encode]
    refine ⟨_, hcs, ?_⟩
    rw [hcs, encode_unit_cons h] at hbytes
    exact (List.cons.inj (List.cons.inj hbytes).2).2
  · intro hbegins
    obtain ⟨rest, rfl, rfl⟩ := hbegins
    exact encode_unit_cons h rest

end Sparring.Text.Utf16
