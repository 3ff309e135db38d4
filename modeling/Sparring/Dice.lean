/-
The die that picks a slot, and why its rolls can be repeated.

A seed is stretched to a key of eight words by a small congruential generator; the key
drives the ChaCha stream cipher with four double rounds, whose output words, in order,
are the randomness.  A roll takes two words as a number below 2^64, multiplies it by the
number of faces and answers with what exceeds 2^64.  A number whose remainder is in the
upper half does not count, and two more words are taken; that happens every second time.

The counter of the blocks has 64 bits, so the stream comes round again in the end.  A number
that counts is among the first `Dice.period` numbers or nowhere, and so many tries are all
that a roll needs.

The stream is a function of key and position, so a die is the key and how far it has
been read.
-/
import Sparring.Bot.Playbook
import Sparring.Width

namespace Sparring

namespace ChaCha

/-- The state of a block: constants, key, counter and an empty nonce. -/
abbrev Block := Vector UInt32 16

/-- The word with its bits turned left. -/
def rotateLeft (x : UInt32) (n : UInt32) : UInt32 := (x <<< n) ||| (x >>> (32 - n))

/-- One quarter round. -/
def quarter (v : Block) (a b c d : Fin 16) : Block :=
  let v := v.set a (v[a] + v[b])
  let v := v.set d (rotateLeft (v[d] ^^^ v[a]) 16)
  let v := v.set c (v[c] + v[d])
  let v := v.set b (rotateLeft (v[b] ^^^ v[c]) 12)
  let v := v.set a (v[a] + v[b])
  let v := v.set d (rotateLeft (v[d] ^^^ v[a]) 8)
  let v := v.set c (v[c] + v[d])
  v.set b (rotateLeft (v[b] ^^^ v[c]) 7)

/-- Four quarter rounds on the columns, four on the diagonals. -/
def doubleRound (v : Block) : Block :=
  let v := quarter v 0 4 8 12
  let v := quarter v 1 5 9 13
  let v := quarter v 2 6 10 14
  let v := quarter v 3 7 11 15
  let v := quarter v 0 5 10 15
  let v := quarter v 1 6 11 12
  let v := quarter v 2 7 8 13
  quarter v 3 4 9 14

/-- The block before its rounds. -/
def start (key : Vector UInt32 8) (counter : UInt64) : Block :=
  #v[0x61707865, 0x3320646e, 0x79622d32, 0x6b206574,
    key[0], key[1], key[2], key[3], key[4], key[5], key[6], key[7],
    counter.toUInt32, (counter >>> 32).toUInt32, 0, 0]

/-- The output words of a block after `rounds` double rounds. -/
def block (rounds : Nat) (key : Vector UInt32 8) (counter : UInt64) : Block :=
  let s := start key counter
  Vector.zipWith (· + ·) (Nat.repeat doubleRound rounds s) s

end ChaCha

/-- A die and how far its words have been used. -/
structure Dice where
  key : Vector UInt32 8
  used : Nat := 0

namespace Dice

/-- One step of the generator that stretches a seed. -/
def stretch (s : UInt64) : UInt64 := s * 6364136223846793005 + 11634580027462260723

/-- The word that a stretched state gives. -/
def squeeze (s : UInt64) : UInt32 :=
  let word : UInt32 := (((s >>> 18) ^^^ s) >>> 27).toUInt32
  let right : UInt32 := (s >>> 59).toUInt32
  ChaCha.rotateLeft word (32 - right)

/-- The states of the generator after a seed, from the first step on. -/
def stretched (s : UInt64) : Nat → List UInt64
  | 0 => []
  | n + 1 => stretch s :: stretched (stretch s) n

/-- The die of a seed. -/
def ofSeed (seed : UInt64) : Dice where
  key := Vector.ofFn fun i : Fin 8 => ((stretched seed 8).map squeeze).getD i.val 0

/-- A word of the stream. -/
def word (d : Dice) (i : Nat) : UInt32 :=
  (ChaCha.block 4 d.key (UInt64.ofNat (i / 16))).get ⟨i % 16, Nat.mod_lt _ (by decide)⟩

/-- The die with `n` more of its numbers passed over. Each takes two words. -/
def skip (d : Dice) (n : Nat) : Dice := { d with used := d.used + 2 * n }

theorem low_high_lt (low high : UInt32) :
    low.toNat + Width.size32 * high.toNat < Width.size64 := by
  have hlow := low.toNat_lt
  have hhigh := high.toNat_lt
  rw [Width.size32, Width.size64]
  omega

/-- The next number below 2^64: the first of two words is the lower half. -/
def drawn (d : Dice) : Fin Width.size64 :=
  ⟨(d.word d.used).toNat + Width.size32 * (d.word (d.used + 1)).toNat, low_high_lt _ _⟩

/-- A number counts if what remains of its multiple is in the lower half. -/
def counts (v : Fin Width.size64) : Bool := v.val * faces % Width.size64 < Width.half64

/-- The face of a number. -/
def face (v : Fin Width.size64) : Fin faces :=
  ⟨v.val * faces / Width.size64,
    Nat.div_lt_of_lt_mul ((Nat.mul_lt_mul_right (by decide)).mpr v.isLt)⟩

/-- The face of the first number that counts, of the next `tries`, and the die after it. -/
def rollWithin : Nat → Dice → Option (Fin faces × Dice)
  | 0, _ => none
  | tries + 1, d =>
    if counts d.drawn then some (face d.drawn, d.skip 1) else rollWithin tries (d.skip 1)

/-- How many numbers the stream holds until it begins again: eight for every block. -/
def period : Nat := 8 * Width.size64

/-- A roll, counted from zero, and the die after it. There is none if no number counts. -/
def roll? (d : Dice) : Option (Fin faces × Dice) := rollWithin period d

/-- A roll and the die after it. If no number counts, a die would be rolled for ever; the first
face stands for that. -/
def roll (d : Dice) : Fin faces × Dice := d.roll?.getD (⟨0, Nat.succ_pos 7⟩, d)

/-- The next rolls of a die. -/
def rolls (d : Dice) : Nat → List Nat
  | 0 => []
  | n + 1 =>
    let (r, d) := d.roll
    r.val :: rolls d n

/-- The first roll of a seed. -/
def firstRoll (seed : UInt64) : Fin faces := (ofSeed seed).roll.1

end Dice

end Sparring
