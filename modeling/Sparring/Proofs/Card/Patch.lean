/-
Patches, field by field.

A card has twenty-six fields, a patch may set any of them, and setting one says nothing
about the others.  Cards and patches are records, so each such sentence would be one of
twenty-six; but a field can be named (`CardField`), and what a card or a patch has there
can be asked for by its name.  Then there is one rule (`Card.get_apply`), and since a card
is what it has in its fields (`Card.ext_of`), all else about patches follows from it.
-/
import Sparring.Card.Basic
import Sparring.Proofs.Card.Attributes

namespace Sparring

/-- The fields of a card. -/
inductive CardField where
  | kind
  | stat (s : Stat)
  | height
  | armor
  | flag (f : Flag)
  | description
  | firstDamage
  | adjust
  | always
deriving DecidableEq, Repr

/-- What a field holds. -/
def CardField.Value : CardField → Type
  | kind => Kind
  | height => Height
  | armor => Armor
  | flag _ | always => Bool
  | stat _ | firstDamage | adjust => Amount
  | description => String

/-- What a card has in a field. -/
def Card.get (c : Card) : (f : CardField) → f.Value
  | .kind => c.kind
  | .stat s => c.stat s
  | .height => c.height
  | .armor => c.armor
  | .flag f => c.flag f
  | .description => c.description
  | .firstDamage => c.firstDamage
  | .adjust => c.adjust
  | .always => c.always

namespace Patch

/-- What a patch sets a field to, if it does. -/
def get? (p : Patch) : (f : CardField) → Option f.Value
  | .kind => p.kind
  | .stat s => p.stat s
  | .height => p.height
  | .armor => p.armor
  | .flag f => p.flag f
  | .description => p.description
  | .firstDamage => p.firstDamage
  | .adjust => p.adjust
  | .always => p.always

/-- One patch laid over another: where both set a field, the upper one is seen. -/
def atop (q p : Patch) : Patch where
  toOverrides := .collect (fun s => (q.stat s).or (p.stat s)) (q.height.or p.height)
    (q.armor.or p.armor) fun f => (q.flag f).or (p.flag f)
  kind := q.kind.or p.kind
  description := q.description.or p.description
  firstDamage := q.firstDamage.or p.firstDamage
  adjust := q.adjust.or p.adjust
  always := q.always.or p.always

theorem get?_atop (q p : Patch) (f : CardField) :
    (q.atop p).get? f = (q.get? f).or (p.get? f) := by
  cases f with
  | stat s =>
      show (q.atop p).stat s = (q.stat s).or (p.stat s)
      rw [atop, Overrides.stat_collect]
  | height =>
      show (q.atop p).height = q.height.or p.height
      rw [atop, Overrides.height_collect]
  | armor =>
      show (q.atop p).armor = q.armor.or p.armor
      rw [atop, Overrides.armor_collect]
  | flag f =>
      show (q.atop p).flag f = (q.flag f).or (p.flag f)
      rw [atop, Overrides.flag_collect]
  | kind | description | firstDamage | adjust | always => rfl

end Patch

namespace Card

variable {c d : Card}

/-- A card is what it has in its fields. -/
theorem ext_of (h : ∀ f, c.get f = d.get f) : c = d := by
  have hattributes : c.toAttributes = d.toAttributes :=
    Attributes.ext_of (h .kind) (fun s => h (.stat s)) (h .height) (h .armor) fun f => h (.flag f)
  cases c
  cases d
  rw [mk.injEq]
  exact ⟨hattributes, h .description, h .firstDamage, h .adjust, h .always⟩

/-- A field that is set has the value of the patch, and one that is not stays as it was. -/
theorem get_apply (c : Card) (p : Patch) (f : CardField) :
    (c.apply p).get f = (p.get? f).getD (c.get f) := by
  cases f with
  | stat s => exact p.toOverrides.stat_apply c.toAttributes s
  | flag f => exact p.toOverrides.flag_apply c.toAttributes f
  | kind | height | armor | description | firstDamage | adjust | always => rfl

/-- Two patches one after the other are the one laid over the other. -/
theorem apply_apply (c : Card) (p q : Patch) : (c.apply p).apply q = c.apply (q.atop p) := by
  refine ext_of fun f => ?_
  calc ((c.apply p).apply q).get f
      = (q.get? f).getD ((p.get? f).getD (c.get f)) := by rw [get_apply, get_apply]
    _ = ((q.get? f).or (p.get? f)).getD (c.get f) := by rw [Option.getD_or]
    _ = (c.apply (q.atop p)).get f := by rw [get_apply, Patch.get?_atop]

end Card

end Sparring
