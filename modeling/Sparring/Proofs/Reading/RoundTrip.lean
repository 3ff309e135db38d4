/-
What is written is read back.

A cell of a table has three shapes, and none of them says which it is: a text, a list of a
text and a patch, a record.  A spec is a record with its overrides among its own entries, so
that the reader has to put them aside and sort them out later.  In both, whatever is written
comes back as it was, the shape of a cell included.

The values are taken first: what a name or an amount is written as, its reader reads.  The
families of numbers and marks then need one argument (`reads_attributes`), for what is set as
for what may be unset, and the records are put together from their parts.

A value that is unset is written as null, and nothing else is.  This needs that no key is
written twice, which is seen from the fields alone, since they are written in their order.
-/
import Sparring.Proofs.Card.Attributes
import Sparring.Proofs.Reading.Filling
import Sparring.Reading.Spec
import Sparring.Reading.Token
import Sparring.Writing.Bot

namespace Sparring

/-! ### Values -/

namespace Reading

variable {β : Type}

theorem amount_ofAmount (n : Amount) : amount (Datum.ofAmount n) = .ok n := by
  show here (Datum.amountOf n.toInt) = .ok n
  rw [Datum.amountOf, Amount.fit?_eq_some_iff.mpr rfl]
  rfl

theorem flag_bool (b : Bool) : flag (.bool b) = .ok b := rfl

theorem text_text (s : String) : text (Datum.text s) = .ok s := rfl

/-- A name of a list, if its own value is found under it. -/
theorem named_name {all : List β} {name : β → String} {ofName? : String → Option β} {b : β}
    (hmem : b ∈ all) (hname : ofName? (name b) = some b) :
    named (all.map name) ofName? (Datum.nameAmong (all.map name) (name b)) = .ok b := by
  have hlisted : (all.map name).contains (name b) = true := by
    simpa using ⟨b, hmem, rfl⟩
  rw [Datum.nameAmong, if_pos hlisted]
  simp only [named, here, Except.mapError, bind, Except.bind, hname]
  rfl

theorem kind_name (k : Kind) : kind (Datum.text k.name) = .ok k :=
  named_name (by cases k <;> decide) k.ofName?_name

theorem kindAside_name (k : Kind) : kindAside (.text k.name) = .ok k :=
  named_name (by cases k <;> decide) k.ofName?_name

theorem height_name (aside : Bool) (h : Height) : height aside (.text h.name) = .ok h :=
  named_name (by cases h <;> decide) h.ofName?_name

theorem armor_name (aside : Bool) (a : Armor) : armor aside (.text a.name) = .ok a :=
  named_name (by cases a <;> decide) a.ofName?_name

theorem optional_ofOption {read : Datum → Reading β} {write : β → Datum}
    (hnull : ∀ b, (write b).isNull = false) (hread : ∀ b, read (write b) = .ok b)
    (o : Option β) : optional read (.ofOption write o) = .ok o := by
  cases o with
  | none => rfl
  | some b =>
      show (if (write b).isNull then _ else (read (write b)).map some) = _
      rw [hnull, if_neg Bool.false_ne_true, hread]
      rfl

theorem items_map {read : PathStep → Datum → Reading β} {write : β → Datum}
    (hread : ∀ step b, read step (write b) = .ok b) (i : Nat) (bs : List β) :
    items read i (bs.map write) = .ok bs := by
  induction bs generalizing i with
  | nil => rfl
  | cons b bs ih =>
      rw [List.map_cons, items, hread]
      simp only [bind, Except.bind, ih]
      rfl

end Reading

/-! ### Attributes -/

section

variable {statField : Stat → Field Datum Overrides} {flagField : Flag → Field Datum Overrides}
  {heightField armorField : Field Datum Overrides} {statValue : Stat → Datum}
  {flagValue : Flag → Datum} {heightValue armorValue : Datum} {stat : Stat → Option Amount}
  {height : Option Height} {armor : Option Armor} {flag : Flag → Option Bool}

/-- Attributes, however each of them is written. -/
theorem Record.reads_attributes
    (hstat : ∀ s o, (statField s).read o (statValue s) = .ok (o.setStat (stat s) s))
    (hheight : ∀ o, heightField.read o heightValue = .ok { o with height := height })
    (harmor : ∀ o, armorField.read o armorValue = .ok { o with armor := armor })
    (hflag : ∀ f o, (flagField f).read o (flagValue f) = .ok (o.setFlag (flag f) f)) :
    Reads (Stat.all.map statField ++ [heightField, armorField] ++ Flag.all.map flagField)
      (Stat.all.map (fun s => ((statField s).key, statValue s)) ++
        [(heightField.key, heightValue), (armorField.key, armorValue)] ++
        Flag.all.map fun f => ((flagField f).key, flagValue f))
      {} (.collect stat height armor flag) := by
  have hnames (o : Overrides) : Reads [heightField, armorField]
      [(heightField.key, heightValue), (armorField.key, armorValue)] o
      { o with height, armor } :=
    .cons (hheight o) (.cons (harmor _) (.nil _))
  exact ((Reads.map hstat Stat.all {}).append (hnames _)).append (.map hflag Flag.all _)

end

theorem Overrides.reads_entries (aside : Bool) (o : Overrides) :
    Record.Reads (fields aside) o.entries {} o := by
  have hstat (s : Stat) :=
    Reading.optional_ofOption (fun _ => rfl) Reading.amount_ofAmount (o.stat s)
  have hheight :=
    Reading.optional_ofOption (fun _ => rfl) (Reading.height_name aside) o.height
  have harmor := Reading.optional_ofOption (fun _ => rfl) (Reading.armor_name aside) o.armor
  have hflag (f : Flag) :=
    Reading.optional_ofOption (fun _ => rfl) Reading.flag_bool (o.flag f)
  have h : Record.Reads (fields aside) o.entries {} (.collect o.stat o.height o.armor o.flag) :=
    Record.reads_attributes (fun s => Record.read_of (hstat s)) (Record.read_of hheight)
      (Record.read_of harmor) fun f => Record.read_of (hflag f)
  rw [collect_self] at h
  exact h

/-- A card has its attributes set, each of them. -/
theorem Card.Draft.reads_attributes (a : Attributes) :
    Record.Reads attributes a.entries.tail {} a.overrides :=
  Record.reads_attributes (fun s => Record.read_of (Reading.amount_ofAmount (a.stat s)))
    (Record.read_of (Reading.height_name true a.height))
    (Record.read_of (Reading.armor_name true a.armor))
    fun f => Record.read_of (Reading.flag_bool (a.flag f))

/-! ### Patches and cards -/

/-- The entries of a patch. -/
def Patch.entries (p : Patch) : List (String × Datum) :=
  ("kind", .ofOption (.text ·.name) p.kind) :: p.toOverrides.entries ++ [
    ("description", .ofOption .text p.description),
    ("first_damage", .ofOption .ofAmount p.firstDamage),
    ("adjust", .ofOption .ofAmount p.adjust),
    ("always", .ofOption .bool p.always)]

theorem Patch.reads_entries (p : Patch) : Record.Reads fields p.entries {} p := by
  have hkind := Reading.optional_ofOption (fun _ => rfl) Reading.kind_name p.kind
  have hdescription := Reading.optional_ofOption (fun _ => rfl) Reading.text_text p.description
  have hfirst := Reading.optional_ofOption (fun _ => rfl) Reading.amount_ofAmount p.firstDamage
  have hadjust := Reading.optional_ofOption (fun _ => rfl) Reading.amount_ofAmount p.adjust
  have halways := Reading.optional_ofOption (fun _ => rfl) Reading.flag_bool p.always
  have hoverrides := Overrides.reads_entries true p.toOverrides
  refine .append (.cons (Record.read_of hkind _)
    (.lift ?_ ?_ ({ kind := p.kind } : Patch) hoverrides)) ?_
  · exact fun _ _ => rfl
  · exact fun _ _ _ => rfl
  exact .cons (Record.read_of hdescription _) <| .cons (Record.read_of hfirst _) <|
    .cons (Record.read_of hadjust _) <| .cons (Record.read_of halways _) (.nil _)

theorem Patch.nodup_keys : (fields.map (·.key)).Nodup := by decide

theorem Patch.ofDatum_toDatum (p : Patch) : ofDatum p.toDatum = .ok p :=
  Record.strict_record "a patch" nodup_keys p.reads_entries

theorem Card.reads_entries (c : Card) :
    Record.Reads Draft.fields
      (c.toAttributes.entries ++ [
        ("description", .text c.description),
        ("first_damage", .ofAmount c.firstDamage),
        ("adjust", .ofAmount c.adjust),
        ("always", .bool c.always)])
      {}
      { kind := some c.kind
        overrides := c.toAttributes.overrides
        description := c.description
        firstDamage := c.firstDamage
        adjust := c.adjust
        always := c.always } := by
  have hattributes := Draft.reads_attributes c.toAttributes
  refine .append (.cons (Record.read_of (Reading.kindAside_name c.kind) _)
    (.lift ?_ ?_ ({ kind := some c.kind } : Draft) hattributes)) ?_
  · exact fun _ _ => rfl
  · exact fun _ _ _ => rfl
  exact .cons (Record.read_of (Reading.text_text _) _) <|
    .cons (Record.read_of (Reading.amount_ofAmount _) _) <|
    .cons (Record.read_of (Reading.amount_ofAmount _) _) <|
    .cons (Record.read_of (Reading.flag_bool _) _) (.nil _)

theorem Card.ofDatum_toDatum (c : Card) : ofDatum c.toDatum = .ok c := by
  have hkeys : (Draft.fields.map (·.key)).Nodup := by decide
  show (Record.lenient Draft.fields {} _ >>= Draft.card) = .ok c
  rw [Record.lenient_record hkeys c.reads_entries]
  show Except.ok _ = _
  rw [Attributes.apply_overrides]
  rfl

/-! ### Specs -/

namespace Spec

theorem readTiers_list (ns : List Amount) :
    readTiers (Datum.list (ns.map .ofAmount)) = .ok ns := by
  refine Reading.items_map (fun step n => ?_) 0 ns
  rw [Reading.amount_ofAmount]
  rfl

/-- The entries of a spec. -/
def entries (s : Spec) : List (String × Datum) :=
  ("kind", .text s.kind.name) :: s.overrides.entries ++ [
    ("pump_damage", .list (s.pumps.map .ofAmount)),
    ("meter", .ofAmount s.meter)]

/-- No override has the key of a field that is read where it stands. -/
theorem overrides_apart (o : Overrides) :
    ∀ e ∈ o.entries, e.1 ∉ (Draft.fields : List (Field Datum Draft)).map (·.key) := by
  have hapart : ∀ key ∈ (Overrides.fields true).map (·.key),
      key ∉ (Draft.fields : List (Field Datum Draft)).map (·.key) := by
    decide
  intro e he
  apply hapart
  rw [← (o.reads_entries true).keys]
  exact List.mem_map_of_mem he

/-- The reader of a spec takes its own fields and puts the overrides aside. -/
theorem fill_entries {keep : String → Datum → Reading (String × Datum)}
    (hkeep : ∀ name d, keep name d = .ok (name, d)) (s : Spec) :
    Record.fill .ok Draft.fields keep [] {} s.entries =
      .ok ({ kind := some s.kind, pumps := s.pumps, meter := s.meter }, s.overrides.entries) := by
  let fields : List (Field Datum Draft) := Draft.fields
  have hkeys : (fields.map (·.key)).Nodup := by decide
  have hkind : Record.Reads (fields.take 1) [("kind", .text s.kind.name)] {}
      { kind := some s.kind } :=
    .cons (Record.read_of (Reading.kind_name s.kind) _) (.nil _)
  have hnumbers : Record.Reads (fields.drop 1)
      [("pump_damage", .list (s.pumps.map .ofAmount)), ("meter", .ofAmount s.meter)]
      { kind := some s.kind } { kind := some s.kind, pumps := s.pumps, meter := s.meter } :=
    .cons (Record.read_of (readTiers_list s.pumps) _) <|
      .cons (Record.read_of (Reading.amount_ofAmount s.meter) _) (.nil _)
  have hlast : Record.fill .ok fields keep ["kind"] { kind := some s.kind } _ = .ok (_, []) :=
    Record.fill_last hkeys hnumbers (List.drop_subset 1 fields) (by decide) keep
  -- The kind comes first and the numbers come last; the overrides in between are no fields.
  show Record.fill .ok fields keep [] {} ([_] ++ (s.overrides.entries ++ [_, _])) = _
  rw [Record.fill_of_reads hkeys hkind (List.take_subset 1 fields) (by decide),
    Record.fill_others (fun e _ => hkeep e.1 e.2) (overrides_apart s.overrides)]
  show (Record.fill .ok fields keep ["kind"] _ _).map _ = _
  rw [hlast]
  show Except.ok (_, s.overrides.entries.map id ++ []) = _
  rw [List.map_id, List.append_nil]

theorem read_toDatum (s : Spec) : read s.toDatum = .ok s := by
  have hkey : ∀ name, Source.key Wanted.key (Datum.text name) = .ok name := fun _ => rfl
  have hclaim : Overrides.claim s.overrides.entries = .ok (s.overrides, []) :=
    Record.fill_record (by decide) (s.overrides.reads_entries true) _
  show (Record.fill (Source.key Wanted.key) Draft.fields _ [] {}
    (s.entries.map fun e => (Datum.text e.1, e.2)) >>= _) = _
  rw [Record.fill_key hkey, fill_entries]
  · show (Reading.here ((Overrides.claim s.overrides.entries).mapError _) >>= _) = _
    rw [hclaim]
    rfl
  · exact fun _ _ => rfl

end Spec

/-! ### Cells -/

theorem Token.ofDatum?_toDatum (t : Token) : ofDatum? t.toDatum = some t := by
  cases t with
  | combo text => rfl
  | patched text patch =>
      rw [toDatum, ofDatum?, patch.ofDatum_toDatum]
  | card c =>
      have hread : Card.ofDatum (.map _) = .ok c := c.ofDatum_toDatum
      rw [toDatum, Card.toDatum, Datum.record, ofDatum?, hread]

theorem Token.read_toDatum (step : PathStep) (t : Token) : read step t.toDatum = .ok t := by
  have hdatum : Reading.within step (Source.datum t.toDatum) = .ok t.toDatum := rfl
  simp only [read, hdatum, bind, Except.bind, t.ofDatum?_toDatum]
  rfl

/-! ### What is unset -/

namespace Datum

/-- The last entry under a key is the only one where no key is written twice. -/
theorem field?_record {es : List (String × Datum)} (hkeys : (es.map (·.1)).Nodup) {key : String}
    {v : Datum} (h : (key, v) ∈ es) : (record es).field? key = some v := by
  obtain ⟨before, after, rfl⟩ := List.append_of_mem h
  have hafter : ∀ e ∈ after, e.1 ≠ key := by
    intro e he heq
    rw [List.map_append, List.map_cons] at hkeys
    refine (List.nodup_cons.mp (List.nodup_append.mp hkeys).2.1).1 ?_
    exact List.mem_map.mpr ⟨e, he, heq⟩
  simp only [field?, record, List.map_append, List.map_cons, List.reverse_append,
    List.reverse_cons, List.append_assoc, List.findSome?_append]
  rw [List.findSome?_eq_none_iff.mpr ?_]
  · simp
  · intro x hx
    obtain ⟨e, he, rfl⟩ := List.mem_map.mp (List.mem_reverse.mp hx)
    simp [hafter e he]

theorem null_iff_unset {β : Type} (write : β → Datum) (hwrite : ∀ b, (write b).isNull = false)
    {es : List (String × Datum)} (hkeys : (es.map (·.1)).Nodup) {key : String} {o : Option β}
    (h : (key, ofOption write o) ∈ es) : (record es).field? key = some .null ↔ o = none := by
  rw [field?_record hkeys h]
  cases o with
  | none => simp [ofOption]
  | some b =>
      have hnull : write b ≠ .null := fun heq => by simpa [heq, isNull] using hwrite b
      simpa [ofOption] using hnull

end Datum

/-- Where the overrides are unset, and only there, the record has null. -/
structure Overrides.NullWhereUnset (o : Overrides) (d : Datum) : Prop where
  stat : ∀ s, d.field? s.key = some .null ↔ o.stat s = none
  height : d.field? "height" = some .null ↔ o.height = none
  armor : d.field? "armor" = some .null ↔ o.armor = none
  flag : ∀ f, d.field? f.key = some .null ↔ o.flag f = none

/-- Where the patch is unset, and only there, the record has null. -/
structure Patch.NullWhereUnset (p : Patch) (d : Datum) : Prop
    extends p.toOverrides.NullWhereUnset d where
  kind : d.field? "kind" = some .null ↔ p.kind = none
  description : d.field? "description" = some .null ↔ p.description = none
  firstDamage : d.field? "first_damage" = some .null ↔ p.firstDamage = none
  adjust : d.field? "adjust" = some .null ↔ p.adjust = none
  always : d.field? "always" = some .null ↔ p.always = none

theorem Overrides.null_where_unset {o : Overrides} {es : List (String × Datum)}
    (hkeys : (es.map (·.1)).Nodup) (hes : o.entries ⊆ es) : o.NullWhereUnset (.record es) where
  stat s := by
    refine Datum.null_iff_unset .ofAmount (fun _ => rfl) hkeys (hes ?_)
    simp only [entries, List.mem_append]
    exact .inl (.inl (List.mem_map.mpr ⟨s, s.mem_all, rfl⟩))
  height := Datum.null_iff_unset (.text ·.name) (fun _ => rfl) hkeys (hes (by simp [entries]))
  armor := Datum.null_iff_unset (.text ·.name) (fun _ => rfl) hkeys (hes (by simp [entries]))
  flag f := by
    refine Datum.null_iff_unset .bool (fun _ => rfl) hkeys (hes ?_)
    simp only [entries, List.mem_append]
    exact .inr (List.mem_map.mpr ⟨f, f.mem_all, rfl⟩)

theorem Patch.null_where_unset (p : Patch) : p.NullWhereUnset p.toDatum := by
  have hkeys : (p.entries.map (·.1)).Nodup := by
    rw [p.reads_entries.keys]
    exact nodup_keys
  have hoverrides : p.toOverrides.entries ⊆ p.entries := by
    intro e he
    simp [entries, he]
  exact {
    Overrides.null_where_unset hkeys hoverrides with
    kind := Datum.null_iff_unset (.text ·.name) (fun _ => rfl) hkeys (by simp [entries])
    description := Datum.null_iff_unset .text (fun _ => rfl) hkeys (by simp [entries])
    firstDamage := Datum.null_iff_unset .ofAmount (fun _ => rfl) hkeys (by simp [entries])
    adjust := Datum.null_iff_unset .ofAmount (fun _ => rfl) hkeys (by simp [entries])
    always := Datum.null_iff_unset .bool (fun _ => rfl) hkeys (by simp [entries]) }

theorem Spec.null_where_unset (s : Spec) : s.overrides.NullWhereUnset s.toDatum := by
  have hkeys : (s.entries.map (·.1)).Nodup := by
    have hoverrides := (s.overrides.reads_entries true).keys
    simp only [entries, List.map_append, List.map_cons, hoverrides]
    decide
  refine Overrides.null_where_unset hkeys fun e he => ?_
  simp [he]

/-! ### Cells and specs -/

/--
**Whatever is written is read back.**  A cell comes back as it was, in the shape that it was
written in; so does a spec, its overrides among its own entries, and so does a patch.  What is
unset in a spec or a patch is written as null, and as it comes back it is unset again; what is
set is never written as null.
-/
theorem cells_and_specs_read_back :
    (∀ (step : PathStep) (t : Token), Token.read step t.toDatum = .ok t) ∧
    (∀ s : Spec, Spec.read s.toDatum = .ok s ∧ s.overrides.NullWhereUnset s.toDatum) ∧
    ∀ p : Patch, Patch.ofDatum p.toDatum = .ok p ∧ p.NullWhereUnset p.toDatum :=
  ⟨Token.read_toDatum, fun s => ⟨s.read_toDatum, s.null_where_unset⟩,
    fun p => ⟨p.ofDatum_toDatum, p.null_where_unset⟩⟩

end Sparring
