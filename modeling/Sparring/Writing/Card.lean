/-
Writing overrides, patches and cards.

Every record is written with all its fields in table order; what is unset is null.
-/
import Sparring.Card.Basic
import Sparring.Datum.Basic

namespace Sparring

namespace Datum

/-- An amount. -/
def ofAmount (n : Amount) : Datum := .int n.toInt

end Datum

/-- The fields of attributes, the kind first. -/
def Attributes.entries (a : Attributes) : List (String × Datum) :=
  ("kind", .text a.kind.name) ::
    Stat.all.map (fun s => (s.key, .ofAmount (a.stat s))) ++
    [("height", .text a.height.name), ("armor", .text a.armor.name)] ++
    Flag.all.map (fun f => (f.key, .bool (a.flag f)))

/-- The fields of overrides. -/
def Overrides.entries (o : Overrides) : List (String × Datum) :=
  Stat.all.map (fun s => (s.key, .ofOption .ofAmount (o.stat s))) ++
    [("height", .ofOption (.text ·.name) o.height), ("armor", .ofOption (.text ·.name) o.armor)] ++
    Flag.all.map (fun f => (f.key, .ofOption .bool (o.flag f)))

/-- The patch as a record. -/
def Patch.toDatum (p : Patch) : Datum :=
  .record (("kind", .ofOption (.text ·.name) p.kind) :: p.toOverrides.entries ++ [
    ("description", .ofOption .text p.description),
    ("first_damage", .ofOption .ofAmount p.firstDamage),
    ("adjust", .ofOption .ofAmount p.adjust),
    ("always", .ofOption .bool p.always)])

/-- The card as a record. -/
def Card.toDatum (c : Card) : Datum :=
  .record (c.toAttributes.entries ++ [
    ("description", .text c.description),
    ("first_damage", .ofAmount c.firstDamage),
    ("adjust", .ofAmount c.adjust),
    ("always", .bool c.always)])

end Sparring
