/-
The attributes that moves and cards share, and sparse changes to them.

Besides its kind, height and armor a card has six numbers (`Stat`) and thirteen
yes-or-no marks (`Flag`).  Both are enumerated, so that a table can be read and
written attribute by attribute; the records themselves keep one field for each.

`Overrides` holds what an author changed.  A set field wins, an unset one leaves
the attribute as it was.
-/
import Sparring.Amount
import Sparring.Card.Kind

namespace Sparring

/-! ### The numbers and the marks -/

/-- The numbers on a card. -/
inductive Stat where
  | damage
  | blockDamage
  | selfDamage
  | selfHeal
  | speed
  | level
deriving DecidableEq, Repr

/-- The yes-or-no marks on a card. -/
inductive Flag where
  | super
  /-- Hit back if blocked. -/
  | isUnsafe
  | knockdown
  | edge
  /-- Draw if not hit. -/
  | recur
  | drawOnBlock
  /-- Prevent the draw on block. -/
  | lockdown
  | backstep
  | undodgeable
  | unblockable
  | freeze
  | oblivion
  | transform
deriving DecidableEq, Repr

namespace Stat

/-- Every number, in table order. -/
def all : List Stat := [damage, blockDamage, selfDamage, selfHeal, speed, level]

/-- The number's key in a table. -/
def key : Stat → String
  | damage => "damage"
  | blockDamage => "block_damage"
  | selfDamage => "self_damage"
  | selfHeal => "self_heal"
  | speed => "speed"
  | level => "level"

end Stat

namespace Flag

/-- Every mark, in table order. -/
def all : List Flag :=
  [super, isUnsafe, knockdown, edge, recur, drawOnBlock, lockdown, backstep, undodgeable,
    unblockable, freeze, oblivion, transform]

/-- The mark's key in a table. -/
def key : Flag → String
  | super => "super"
  | isUnsafe => "unsafe"
  | knockdown => "knockdown"
  | edge => "edge"
  | recur => "recur"
  | drawOnBlock => "draw_on_block"
  | lockdown => "lockdown"
  | backstep => "backstep"
  | undodgeable => "undodgeable"
  | unblockable => "unblockable"
  | freeze => "freeze"
  | oblivion => "oblivion"
  | transform => "transform"

end Flag

/-! ### Attributes -/

/-- What a move and a card have in common. -/
structure Attributes where
  kind : Kind
  damage : Amount := 0
  blockDamage : Amount := 0
  selfDamage : Amount := 0
  selfHeal : Amount := 0
  /-- Above ten is a reversal. -/
  speed : Amount := 0
  /-- The level of a projectile, zero for all else. -/
  level : Amount := 0
  height : Height := .mid
  armor : Armor := .none
  super : Bool := false
  isUnsafe : Bool := false
  knockdown : Bool := false
  edge : Bool := false
  recur : Bool := false
  drawOnBlock : Bool := false
  lockdown : Bool := false
  backstep : Bool := false
  undodgeable : Bool := false
  unblockable : Bool := false
  freeze : Bool := false
  oblivion : Bool := false
  transform : Bool := false
deriving DecidableEq, Repr

namespace Attributes

/-- All numbers zero, mid height, no armor, no marks. -/
def blank (kind : Kind) : Attributes := { kind }

/-- Where a move of a kind starts before its author changes anything. -/
def template : Kind → Attributes
  | .throw => { kind := .throw, knockdown := true }
  | .projectile => { kind := .projectile, level := 1, recur := true, lockdown := true }
  | .blockLow => { kind := .blockLow, drawOnBlock := true, recur := true }
  | .blockHigh => { kind := .blockHigh, drawOnBlock := true, recur := true }
  | .blockFull => { kind := .blockFull, drawOnBlock := true, recur := true }
  | .strike => { kind := .strike }
  | .dodge => { kind := .dodge }

/-- A template is blank but for this: projectiles have a level and prevent draws, throws knock
down, blocks draw, and blocks and projectiles come back to the hand. -/
theorem template_eq (k : Kind) :
    template k = { blank k with
      level := if k = .projectile then 1 else 0
      lockdown := k = .projectile
      knockdown := k = .throw
      drawOnBlock := k.isBlock
      recur := k.isBlock ∨ k = .projectile } := by
  cases k <;> rfl

/-- One of the numbers. -/
def stat (a : Attributes) : Stat → Amount
  | .damage => a.damage
  | .blockDamage => a.blockDamage
  | .selfDamage => a.selfDamage
  | .selfHeal => a.selfHeal
  | .speed => a.speed
  | .level => a.level

/-- One of the marks. -/
def flag (a : Attributes) : Flag → Bool
  | .super => a.super
  | .isUnsafe => a.isUnsafe
  | .knockdown => a.knockdown
  | .edge => a.edge
  | .recur => a.recur
  | .drawOnBlock => a.drawOnBlock
  | .lockdown => a.lockdown
  | .backstep => a.backstep
  | .undodgeable => a.undodgeable
  | .unblockable => a.unblockable
  | .freeze => a.freeze
  | .oblivion => a.oblivion
  | .transform => a.transform

/-- Speed above ten. -/
def isReversal (a : Attributes) : Bool := a.speed.toInt > 10

end Attributes

/-! ### Overrides -/

/-- Changes to attributes, each of them optional. -/
structure Overrides where
  damage : Option Amount := none
  blockDamage : Option Amount := none
  selfDamage : Option Amount := none
  selfHeal : Option Amount := none
  speed : Option Amount := none
  level : Option Amount := none
  height : Option Height := none
  armor : Option Armor := none
  super : Option Bool := none
  isUnsafe : Option Bool := none
  knockdown : Option Bool := none
  edge : Option Bool := none
  recur : Option Bool := none
  drawOnBlock : Option Bool := none
  lockdown : Option Bool := none
  backstep : Option Bool := none
  undodgeable : Option Bool := none
  unblockable : Option Bool := none
  freeze : Option Bool := none
  oblivion : Option Bool := none
  transform : Option Bool := none
deriving DecidableEq, Repr

namespace Overrides

/-- The attributes with every set override in place. -/
def apply (o : Overrides) (a : Attributes) : Attributes where
  kind := a.kind
  damage := o.damage.getD a.damage
  blockDamage := o.blockDamage.getD a.blockDamage
  selfDamage := o.selfDamage.getD a.selfDamage
  selfHeal := o.selfHeal.getD a.selfHeal
  speed := o.speed.getD a.speed
  level := o.level.getD a.level
  height := o.height.getD a.height
  armor := o.armor.getD a.armor
  super := o.super.getD a.super
  isUnsafe := o.isUnsafe.getD a.isUnsafe
  knockdown := o.knockdown.getD a.knockdown
  edge := o.edge.getD a.edge
  recur := o.recur.getD a.recur
  drawOnBlock := o.drawOnBlock.getD a.drawOnBlock
  lockdown := o.lockdown.getD a.lockdown
  backstep := o.backstep.getD a.backstep
  undodgeable := o.undodgeable.getD a.undodgeable
  unblockable := o.unblockable.getD a.unblockable
  freeze := o.freeze.getD a.freeze
  oblivion := o.oblivion.getD a.oblivion
  transform := o.transform.getD a.transform

/-- The override of one number. -/
def stat (o : Overrides) : Stat → Option Amount
  | .damage => o.damage
  | .blockDamage => o.blockDamage
  | .selfDamage => o.selfDamage
  | .selfHeal => o.selfHeal
  | .speed => o.speed
  | .level => o.level

/-- The override of one mark. -/
def flag (o : Overrides) : Flag → Option Bool
  | .super => o.super
  | .isUnsafe => o.isUnsafe
  | .knockdown => o.knockdown
  | .edge => o.edge
  | .recur => o.recur
  | .drawOnBlock => o.drawOnBlock
  | .lockdown => o.lockdown
  | .backstep => o.backstep
  | .undodgeable => o.undodgeable
  | .unblockable => o.unblockable
  | .freeze => o.freeze
  | .oblivion => o.oblivion
  | .transform => o.transform

/-- With one number overridden. -/
def setStat (o : Overrides) (v : Option Amount) : Stat → Overrides
  | .damage => { o with damage := v }
  | .blockDamage => { o with blockDamage := v }
  | .selfDamage => { o with selfDamage := v }
  | .selfHeal => { o with selfHeal := v }
  | .speed => { o with speed := v }
  | .level => { o with level := v }

/-- With one mark overridden. -/
def setFlag (o : Overrides) (v : Option Bool) : Flag → Overrides
  | .super => { o with super := v }
  | .isUnsafe => { o with isUnsafe := v }
  | .knockdown => { o with knockdown := v }
  | .edge => { o with edge := v }
  | .recur => { o with recur := v }
  | .drawOnBlock => { o with drawOnBlock := v }
  | .lockdown => { o with lockdown := v }
  | .backstep => { o with backstep := v }
  | .undodgeable => { o with undodgeable := v }
  | .unblockable => { o with unblockable := v }
  | .freeze => { o with freeze := v }
  | .oblivion => { o with oblivion := v }
  | .transform => { o with transform := v }

theorem apply_empty (a : Attributes) : ({} : Overrides).apply a = a := rfl

end Overrides

end Sparring
