/-
What sort of card it is, how high it strikes, what armor it wears.

Each of the three lists its values in `all`, in the order in which a reader is
told about them, and names each value for the table format.  `ofName?` reads such
a name back and accepts nothing else.
-/

namespace Sparring

/-- The sort of a move or card. -/
inductive Kind where
  | dodge
  | throw
  | strike
  | projectile
  | blockLow
  | blockHigh
  | blockFull
deriving DecidableEq, Repr

/-- Which block beats a strike. -/
inductive Height where
  | low
  | mid
  | high
deriving DecidableEq, Repr

/-- Which attacks the card shrugs off. -/
inductive Armor where
  | none
  /-- A, B and C normals. -/
  | light
  /-- All normals. -/
  | medium
  /-- Normals and specials. -/
  | heavy
deriving DecidableEq, Repr

namespace Kind

/-- Every kind, in table order. -/
def all : List Kind := [dodge, throw, strike, projectile, blockLow, blockHigh, blockFull]

/-- The kind as tables write it. -/
def name : Kind → String
  | dodge => "dodge"
  | throw => "throw"
  | strike => "strike"
  | projectile => "projectile"
  | blockLow => "block_low"
  | blockHigh => "block_high"
  | blockFull => "block_full"

/-- The kind as cards show it. -/
def title : Kind → String
  | dodge => "Dodge"
  | throw => "Throw"
  | strike => "Strike"
  | projectile => "Projectile"
  | blockLow => "BlockLow"
  | blockHigh => "BlockHigh"
  | blockFull => "BlockFull"

/-- The three blocks. -/
def isBlock : Kind → Bool
  | blockLow | blockHigh | blockFull => true
  | _ => false

/-- The kind of that name. -/
def ofName? (s : String) : Option Kind := all.find? (·.name == s)

theorem ofName?_name (k : Kind) : ofName? k.name = some k := by cases k <;> decide

end Kind

namespace Height

/-- Every height, in table order. -/
def all : List Height := [low, mid, high]

/-- The height as tables write it. -/
def name : Height → String
  | low => "low"
  | mid => "mid"
  | high => "high"

/-- The height of that name. -/
def ofName? (s : String) : Option Height := all.find? (·.name == s)

theorem ofName?_name (h : Height) : ofName? h.name = some h := by cases h <;> decide

end Height

namespace Armor

/-- Every armor, in table order. -/
def all : List Armor := [none, light, medium, heavy]

/-- The armor as tables write it. -/
def name : Armor → String
  | none => "none"
  | light => "light"
  | medium => "medium"
  | heavy => "heavy"

/-- The armor of that name. -/
def ofName? (s : String) : Option Armor := all.find? (·.name == s)

theorem ofName?_name (a : Armor) : ofName? a.name = some a := by cases a <;> decide

end Armor

end Sparring
