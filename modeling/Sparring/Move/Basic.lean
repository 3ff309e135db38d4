/-
Moves, and the specs their authors write.

A spec names a kind and whatever differs from that kind's template; `Move.ofSpec`
completes it.  No number that feeds damage or hand size may be negative, and
`Move.firstNegative?` finds the first one that is, in the order in which a move
lists its numbers.
-/
import Sparring.Card.Attributes

namespace Sparring

/-- A move as its author writes it. -/
structure Spec where
  kind : Kind
  overrides : Overrides := {}
  /-- Damage added by each pump, in turn. -/
  pumps : List Amount := []
  /-- Super meter spent; only a super spends any. -/
  meter : Amount := 0
deriving DecidableEq, Repr

/-- A complete move with the symbol that names it. -/
structure Move extends Attributes where
  name : Char
  pumps : List Amount := []
  meter : Amount := 0
deriving DecidableEq, Repr

/-! ### Writing specs -/

namespace Spec

/-- A bare kind. -/
def ofKind (kind : Kind) : Spec := { kind }

/-- With this damage. -/
def damage (s : Spec) (n : Amount) : Spec :=
  { s with overrides := { s.overrides with damage := some n } }

/-- With this speed. -/
def speed (s : Spec) (n : Amount) : Spec :=
  { s with overrides := { s.overrides with speed := some n } }

/-- With this damage on block. -/
def blockDamage (s : Spec) (n : Amount) : Spec :=
  { s with overrides := { s.overrides with blockDamage := some n } }

/-- With this height. -/
def height (s : Spec) (h : Height) : Spec :=
  { s with overrides := { s.overrides with height := some h } }

/-- With this armor. -/
def armor (s : Spec) (a : Armor) : Spec :=
  { s with overrides := { s.overrides with armor := some a } }

/-- With these pump tiers. -/
def pump (s : Spec) (tiers : List Amount) : Spec := { s with pumps := tiers }

/-- A super that spends `meter`. -/
def superMeter (s : Spec) (meter : Amount) : Spec :=
  { s with overrides := { s.overrides with super := some true }, meter }

/-- With any other change to the overrides. -/
def tweak (s : Spec) (f : Overrides → Overrides) : Spec :=
  { s with overrides := f s.overrides }

/-- A strike of this damage and speed. -/
def strike (damage speed : Amount) : Spec := ofKind .strike |>.damage damage |>.speed speed

/-- A throw of this damage and speed. -/
def throw (damage speed : Amount) : Spec := ofKind .throw |>.damage damage |>.speed speed

/-- A projectile of this damage and speed. -/
def projectile (damage speed : Amount) : Spec :=
  ofKind .projectile |>.damage damage |>.speed speed

end Spec

/-! ### Moves -/

/-- The numbers of a move that must not be negative. -/
inductive Quantity where
  | stat (s : Stat)
  | meter
  | pump
deriving DecidableEq, Repr

/-- The quantity's key in a table. -/
def Quantity.key : Quantity → String
  | stat s => s.key
  | meter => "meter"
  | pump => "pump_damage"

namespace Move

/-- The template of the spec's kind, with what the spec changes. -/
def ofSpec (name : Char) (s : Spec) : Move where
  toAttributes := s.overrides.apply (Attributes.template s.kind)
  name
  pumps := s.pumps
  meter := s.meter

/-- The numbers of a move in order: the stats, the meter, then the pump tiers. -/
def quantities (m : Move) : List (Quantity × Amount) :=
  Stat.all.map (fun s => (.stat s, m.stat s)) ++ [(.meter, m.meter)] ++
    m.pumps.map (fun n => (.pump, n))

/-- The first number below zero. -/
def firstNegative? (m : Move) : Option (Quantity × Amount) :=
  m.quantities.find? (fun q => q.2.toInt < 0)

/-- No number is below zero. -/
def Valid (m : Move) : Prop := ∀ q ∈ m.quantities, 0 ≤ q.2.toInt

theorem firstNegative?_eq_none_iff {m : Move} : m.firstNegative? = none ↔ m.Valid := by
  simp [firstNegative?, Valid, List.find?_eq_none]

namespace Valid

variable {m : Move}

theorem stat_nonneg (h : m.Valid) (s : Stat) : 0 ≤ (m.stat s).toInt := by
  have hs : s ∈ Stat.all := by cases s <;> decide
  have hq : (Quantity.stat s, m.stat s) ∈ m.quantities := by
    simp only [quantities, List.append_assoc, List.mem_append, List.mem_map]
    exact Or.inl ⟨s, hs, rfl⟩
  exact h _ hq

theorem meter_nonneg (h : m.Valid) : 0 ≤ m.meter.toInt :=
  h (.meter, m.meter) (by simp [quantities])

theorem pump_nonneg (h : m.Valid) {n : Amount} (hn : n ∈ m.pumps) : 0 ≤ n.toInt :=
  h (.pump, n) (by simp [quantities, hn])

end Valid

end Move

end Sparring
