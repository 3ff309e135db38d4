/-
Reading overrides, patches and cards from values with types.

The three have their attributes in common.  In overrides and patches null leaves a field
unset; a card has no unset fields, so null is refused there, and fields that are absent
keep their defaults.

Where attributes are part of something larger, their entries are put aside until its own
fields have been read.
-/
import Sparring.Card.Basic
import Sparring.Reading.Record

namespace Sparring

namespace Reading

/-- The value that a name of a list stands for. -/
def named {β : Type} (names : List String) (ofName? : String → Option β)
    (name : Except Cause String) : Reading β := do
  let name ← here name
  match ofName? name with
  | some b => pure b
  | none => fail (.noSuchName name names)

/-- The names of the kinds. -/
def kindNames : List String := Kind.all.map (·.name)

/-- A kind. -/
def kind {α : Type} [Source α] (v : α) : Reading Kind :=
  named kindNames Kind.ofName? (Source.name kindNames v)

/-- A kind that may have been put aside. -/
def kindAside (d : Datum) : Reading Kind := named kindNames Kind.ofName? (d.name true kindNames)

/-- A height that may have been put aside. -/
def height (aside : Bool) (d : Datum) : Reading Height :=
  let names := Height.all.map (·.name)
  named names Height.ofName? (d.name aside names)

/-- An armor that may have been put aside. -/
def armor (aside : Bool) (d : Datum) : Reading Armor :=
  let names := Armor.all.map (·.name)
  named names Armor.ofName? (d.name aside names)

/-- An amount. -/
def amount {α : Type} [Source α] (v : α) : Reading Amount := here (Source.amount v)

/-- A yes or no. -/
def flag (d : Datum) : Reading Bool := here d.flag

/-- A text. -/
def text {α : Type} [Source α] (v : α) : Reading String := here (Source.text "a string" v)

end Reading

/-! ### Overrides and patches -/

namespace Overrides

/-- The fields of overrides that may have been put aside. -/
def fields (aside : Bool) : List (Field Datum Overrides) :=
  Stat.all.map (fun s => .of s.key (Reading.optional Reading.amount) fun o v => o.setStat v s) ++
    [.of "height" (Reading.optional (Reading.height aside)) fun o v => { o with height := v },
      .of "armor" (Reading.optional (Reading.armor aside)) fun o v => { o with armor := v }] ++
    Flag.all.map (fun f => .of f.key (Reading.optional Reading.flag) fun o v => o.setFlag v f)

/-- Takes the overrides out of entries that were put aside; the names of the other entries are
left over. -/
def claim (entries : List (String × Datum)) : Reading (Overrides × List String) :=
  Record.fill .ok (fields true) (fun name _ => .ok name) [] {} entries

/-- Overrides on their own: a map, or a list of values in order. -/
def ofDatum : Datum → Reading Overrides
  | .list vs => do
    match ← Record.inOrder (fields false) {} vs with
    | (o, []) => pure o
    | (_, _ :: _) => Reading.fail .trailing
  | d => do Record.lenient (fields false) {} (← Reading.here (Source.entries "overrides" d))

end Overrides

namespace Patch

/-- The fields of a patch. -/
def fields : List (Field Datum Patch) :=
  .of "kind" (Reading.optional Reading.kind) (fun p v => { p with kind := v }) ::
    (Overrides.fields true).map (.lift (·.toOverrides) fun p o => { p with toOverrides := o }) ++
    [.of "description" (Reading.optional Reading.text) fun p v => { p with description := v },
      .of "first_damage" (Reading.optional Reading.amount) fun p v => { p with firstDamage := v },
      .of "adjust" (Reading.optional Reading.amount) fun p v => { p with adjust := v },
      .of "always" (Reading.optional Reading.flag) fun p v => { p with always := v }]

/-- A patch, which has no entries but its fields. -/
def ofDatum (d : Datum) : Reading Patch := Record.strict "a patch" fields {} d

end Patch

/-! ### Cards -/

namespace Card

/-- A card that is being read: its kind may not have come yet. -/
structure Draft where
  kind : Option Kind := none
  overrides : Overrides := {}
  description : String := ""
  firstDamage : Amount := 0
  adjust : Amount := 0
  always : Bool := false

namespace Draft

/-- The fields of a card's attributes but its kind, collected as overrides. -/
def attributes : List (Field Datum Overrides) :=
  Stat.all.map (fun s => .of s.key Reading.amount fun o v => o.setStat (some v) s) ++
    [.of "height" (Reading.height true) fun o v => { o with height := some v },
      .of "armor" (Reading.armor true) fun o v => { o with armor := some v }] ++
    Flag.all.map (fun f => .of f.key Reading.flag fun o v => o.setFlag (some v) f)

/-- The fields of a card. -/
def fields : List (Field Datum Draft) :=
  .of "kind" Reading.kindAside (fun c v => { c with kind := some v }) ::
    attributes.map (.lift (·.overrides) fun c o => { c with overrides := o }) ++
    [.of "description" Reading.text fun c v => { c with description := v },
      .of "first_damage" Reading.amount fun c v => { c with firstDamage := v },
      .of "adjust" Reading.amount fun c v => { c with adjust := v },
      .of "always" Reading.flag fun c v => { c with always := v }]

/-- The card, if its kind is known. -/
def card (c : Draft) : Reading Card := do
  let kind ← Record.need "kind" c.kind
  pure {
    toAttributes := c.overrides.apply (Attributes.blank kind)
    description := c.description
    firstDamage := c.firstDamage
    adjust := c.adjust
    always := c.always }

end Draft

/-- A complete card. Entries that are no fields are left alone. -/
def ofDatum (d : Datum) : Reading Card := do
  let entries ← Reading.here (Source.entries "a card" d)
  (← Record.lenient Draft.fields {} entries).card

end Card

end Sparring
