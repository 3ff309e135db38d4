/-
No key is overlooked.

An author who misspells a key wants to be told.  In the rows and in the table itself every
entry must be a field, and there it is told at once.  In a spec the entries that are no
fields are put aside first, the overrides are taken out of them, and whatever is left is
refused.  And a cell that is no text with a patch, because the patch has a key that it may
not have, is not taken for anything else: a list is no card.

All of it rests on one observation (`taken_of_fill`).  A reader that ends well has taken
every entry, either as a field or as one that is none.  So a foreign key is noticed by the
reader of its own record, and whoever called this reader fails with it: through lists,
fields and rows up to the whole table.  `Catches` says that of a reader and a kind of
change, and it is passed on by everything that readers are put together with.
-/
import Sparring.Proofs.Reading.Tree
import Sparring.Reading.Table

namespace Sparring

variable {α β γ κ σ τ : Type}

/-! ### Catching a change -/

namespace Reading

/-- A reader that accepts nothing that has been changed so. -/
def Catches (read : α → Reading β) (R : α → α → Prop) : Prop :=
  ∀ x y, R x y → ∀ b, read y ≠ .ok b

variable {read : α → Reading β} {R : α → α → Prop}

theorem Catches.bind (h : Catches read R) (more : β → Reading γ) :
    Catches (fun v => read v >>= more) R := by
  intro x y hchange c hc
  obtain ⟨b, hb, -⟩ := Checked.bind_eq_ok_iff.mp hc
  exact h x y hchange b hb

theorem Catches.within (h : Catches read R) (step : PathStep) :
    Catches (fun v => Reading.within step (read v)) R := by
  intro x y hchange b hb
  exact h x y hchange b (Checked.mapError_eq_ok_iff.mp hb)

/-- What has been changed is not nothing. -/
theorem Catches.optional [Source α] (h : Catches read R)
    (hnull : ∀ x y, R x y → Source.isNull y = false) : Catches (Reading.optional read) R := by
  intro x y hchange o ho
  rw [Reading.optional, hnull x y hchange, if_neg Bool.false_ne_true] at ho
  obtain ⟨b, hb, -⟩ := Checked.map_eq_ok_iff.mp ho
  exact h x y hchange b hb

theorem Catches.field (h : Catches read R) (key : String) (set : σ → β → σ) (s : σ) :
    Catches ((Field.of key read set).read s) R := (h.within (.key key)).bind _

/-- A list that has been read has all its items read. -/
theorem exists_of_items {read : PathStep → α → Reading β} {vs : List α} {i : Nat} {bs : List β}
    (h : items read i vs = .ok bs) : ∀ v ∈ vs, ∃ step b, read step v = .ok b := by
  induction vs generalizing i bs with
  | nil =>
      intro v hv
      cases hv
  | cons v vs ih =>
      rw [items] at h
      obtain ⟨b, hb, h⟩ := Checked.bind_eq_ok_iff.mp h
      obtain ⟨bs', hbs, -⟩ := Checked.bind_eq_ok_iff.mp h
      intro w hw
      rcases List.mem_cons.mp hw with rfl | hw
      · exact ⟨_, b, hb⟩
      · exact ih hbs w hw

/-- So has a list of a fixed length, as there is no item that was passed over. -/
theorem exists_of_tuple [Source α] {read : PathStep → α → Reading β} {n : Nat} {v : α}
    {t : Tuple n β} (h : tuple n read v = .ok t) :
    ∃ wanted vs, Source.items wanted v = .ok vs ∧
      ∀ x ∈ vs, ∃ step b, read step x = .ok b := by
  rw [tuple] at h
  obtain ⟨vs, hvs, h⟩ := Checked.bind_eq_ok_iff.mp h
  obtain ⟨bs, hbs, h⟩ := Checked.bind_eq_ok_iff.mp h
  refine ⟨_, vs, Checked.mapError_eq_ok_iff.mp hvs, ?_⟩
  split at h
  · cases h
  obtain ⟨_, -, h⟩ := Checked.bind_eq_ok_iff.mp h
  by_cases hlong : n < vs.length
  · rw [if_pos hlong] at h
    cases h
  · rw [List.take_of_length_le (Nat.le_of_not_lt hlong)] at hbs
    exact exists_of_items hbs

theorem catches_tuple [Source α] [Tree α] {read : PathStep → α → Reading β}
    (h : ∀ step, Catches (read step) R) (n : Nat) :
    Catches (tuple n read) (Tree.AtItem R) := by
  intro x y hchange t ht
  obtain ⟨before, after, hitem⟩ := hchange
  obtain ⟨wanted, vs, hvs, hread⟩ := exists_of_tuple ht
  rw [Tree.items_list] at hvs
  cases hvs
  obtain ⟨step, b, hb⟩ := hread _ List.mem_append_cons_self
  exact h step _ _ hitem b hb

end Reading

/-! ### Records -/

namespace Record

variable {key : κ → Except Cause String} {fields : List (Field α σ)}
  {other : String → α → Reading β} {seen : List String} {s t : σ} {es : List (κ × α)}
  {bs : List β} {k : κ} {x : α}

/-- How an entry was taken: as a field, or as one that is none. -/
inductive Taken (fields : List (Field α σ)) (other : String → α → Reading β) (bs : List β)
    (name : String) (x : α) : Prop where
  | field {f : Field α σ} {s t : σ} (found : fields.find? (fun f => f.key = name) = some f)
      (read : f.read s x = .ok t)
  | other {b : β} (foreign : name ∉ fields.map (·.key)) (read : other name x = .ok b)
      (mem : b ∈ bs)

theorem mem_of_found {name : String} {f : Field α σ}
    (h : fields.find? (fun f => f.key = name) = some f) : name ∈ fields.map (·.key) := by
  have hname : f.key = name := by simpa using List.find?_some h
  rw [← hname]
  exact List.mem_map_of_mem (List.mem_of_find?_eq_some h)

/-- A record that has been filled in has taken every entry. -/
theorem taken_of_fill (h : fill key fields other seen s es = .ok (t, bs))
    (hmem : (k, x) ∈ es) : ∃ name, key k = .ok name ∧ Taken fields other bs name x := by
  induction es generalizing seen s bs with
  | nil => cases hmem
  | cons e es ih =>
      obtain ⟨k₀, x₀⟩ := e
      rw [fill] at h
      obtain ⟨name, hname, h⟩ := Checked.bind_eq_ok_iff.mp h
      have hkey : key k₀ = .ok name := Checked.mapError_eq_ok_iff.mp hname
      cases hfind : fields.find? (fun f => f.key = name) with
      | some f =>
          rw [hfind] at h
          dsimp only at h
          by_cases hseen : name ∈ seen
          · rw [if_pos hseen] at h
            cases h
          rw [if_neg hseen] at h
          obtain ⟨s', hread, hrest⟩ := Checked.bind_eq_ok_iff.mp h
          rcases List.mem_cons.mp hmem with heq | hmem
          · cases heq
            exact ⟨name, hkey, .field hfind hread⟩
          · exact ih hrest hmem
      | none =>
          rw [hfind] at h
          obtain ⟨b, hb, h⟩ := Checked.bind_eq_ok_iff.mp h
          obtain ⟨⟨s', bs'⟩, hrest, hpure⟩ := Checked.bind_eq_ok_iff.mp h
          cases hpure
          rcases List.mem_cons.mp hmem with heq | hmem
          · cases heq
            refine ⟨name, hkey, .other ?_ hb (by simp)⟩
            intro hlisted
            obtain ⟨f, hf, hfname⟩ := List.mem_map.mp hlisted
            exact List.find?_eq_none.mp hfind f hf (by simpa using hfname)
          · obtain ⟨name', hkey', htaken⟩ := ih hrest hmem
            refine ⟨name', hkey', ?_⟩
            cases htaken with
            | field found read => exact .field found read
            | other foreign read mem => exact .other foreign read (by simp [mem])

variable [Source α] {fields : List (Field α σ)} {s t : σ} {wanted : String} {v : α}

/-- A strict record takes an entry as a field or not at all. -/
theorem exists_field_of_strict (h : strict wanted fields s v = .ok t) :
    ∃ es, Source.entries wanted v = .ok es ∧ ∀ k x, (k, x) ∈ es →
      ∃ name f, Source.key Wanted.key k = .ok name ∧
        fields.find? (fun f => f.key = name) = some f ∧ ∃ s t, f.read s x = .ok t := by
  rw [strict] at h
  obtain ⟨es, hes, h⟩ := Checked.bind_eq_ok_iff.mp h
  obtain ⟨⟨s', bs⟩, hfill, -⟩ := Checked.bind_eq_ok_iff.mp h
  refine ⟨es, Checked.mapError_eq_ok_iff.mp hes, ?_⟩
  intro k x hmem
  obtain ⟨name, hkey, htaken⟩ := taken_of_fill hfill hmem
  cases htaken with
  | field found read => exact ⟨name, _, hkey, found, _, _, read⟩
  | other foreign read mem => cases read

variable [Tree α] {R : α → α → Prop}

theorem catches_spoilt (wanted : String) (fields : List (Field α σ)) (s : σ) :
    Reading.Catches (strict wanted fields s) (Tree.Spoilt (fields.map (·.key))) := by
  intro x y hchange t ht
  obtain ⟨before, after, hkey, hforeign⟩ := hchange
  obtain ⟨es, hes, hfields⟩ := exists_field_of_strict ht
  rw [Tree.entries_map] at hes
  cases hes
  obtain ⟨name, f, hkey', hfound, -⟩ := hfields _ _ List.mem_append_cons_self
  cases hkey.symm.trans hkey'
  exact hforeign (mem_of_found hfound)

/-- A change under the key of a field is caught by the field. -/
theorem catches_atKey (wanted : String) {name : String} {f : Field α σ}
    (hfound : fields.find? (fun f => f.key = name) = some f)
    (h : ∀ s, Reading.Catches (f.read s) R) (s : σ) :
    Reading.Catches (strict wanted fields s) (Tree.AtKey R name) := by
  intro x y hchange t ht
  obtain ⟨before, after, hkey, hvalue⟩ := hchange
  obtain ⟨es, hes, hfields⟩ := exists_field_of_strict ht
  rw [Tree.entries_map] at hes
  cases hes
  obtain ⟨name', g, hkey', hfound', s', t', hread⟩ := hfields _ _ List.mem_append_cons_self
  cases hkey.symm.trans hkey'
  cases hfound.symm.trans hfound'
  exact h s' _ _ hvalue t' hread

end Record

/-! ### Patches -/

/-- The keys of overrides. -/
def Overrides.fieldNames : List String :=
  ["damage", "block_damage", "self_damage", "self_heal", "speed", "level", "height", "armor",
    "super", "unsafe", "knockdown", "edge", "recur", "draw_on_block", "lockdown", "backstep",
    "undodgeable", "unblockable", "freeze", "oblivion", "transform"]

/-- The keys of a patch. -/
def Patch.fieldNames : List String :=
  "kind" :: Overrides.fieldNames ++ ["description", "first_damage", "adjust", "always"]

theorem Overrides.keys_fields : (fields true).map (·.key) = fieldNames := rfl

theorem Patch.keys_fields : fields.map (·.key) = fieldNames := rfl

/-- A key of typed values is the text that it is, or the digits of a number. -/
theorem Datum.keyText_eq_ok {wanted name : String} {d : Datum} (h : d.keyText wanted = .ok name) :
    d = .text name ∨ ∃ n : Nat, name = n.repr := by
  cases d with
  | text s =>
      cases h
      exact Or.inl rfl
  | int n =>
      rw [keyText] at h
      by_cases hn : 0 ≤ n
      · rw [if_pos hn] at h
        cases h
        obtain ⟨m, rfl⟩ := Int.eq_ofNat_of_zero_le hn
        exact Or.inr ⟨m, rfl⟩
      · rw [if_neg hn] at h
        cases h
  | _ => cases h

/-- No field of a patch is named by a number. -/
theorem Patch.repr_not_mem_fieldNames (n : Nat) : n.repr ∉ fieldNames := by
  intro hmem
  have hletter : ∀ name ∈ fieldNames, name.toList.any (fun c => !c.isDigit) = true := by decide
  obtain ⟨c, hc, hdigit⟩ := List.any_eq_true.mp (hletter _ hmem)
  rw [Nat.toList_repr] at hc
  rw [Nat.isDigit_of_mem_toDigits (by decide) (by decide) hc] at hdigit
  cases hdigit

/-- Keys of a patch that is accepted are keys that a patch may have. -/
theorem Patch.keys_of_ofDatum {ds : List (Datum × Datum)} {p : Patch}
    (h : ofDatum (.map ds) = .ok p) {k x : Datum} (hmem : (k, x) ∈ ds) :
    ∃ name ∈ fieldNames, k = .text name := by
  obtain ⟨es, hes, hfields⟩ := Record.exists_field_of_strict h
  cases hes
  obtain ⟨name, f, hkey, hfound, -⟩ := hfields k x hmem
  have hlisted : name ∈ fieldNames := by
    rw [← keys_fields]
    exact Record.mem_of_found hfound
  rcases Datum.keyText_eq_ok hkey with hk | ⟨n, hn⟩
  · exact ⟨name, hlisted, hk⟩
  · rw [hn] at hlisted
    exact absurd hlisted (repr_not_mem_fieldNames n)

/-! ### Cells -/

namespace Token

variable [Source α] [Tree α]

/-- A text with a patch, and with a foreign key in the patch. -/
inductive Spoilt : α → α → Prop where
  | patch {text p p' : α} (h : Tree.Spoilt Patch.fieldNames p p') :
      Spoilt (Tree.list [text, p]) (Tree.list [text, p'])

theorem Spoilt.isNull {v v' : α} (h : Spoilt v v') : Source.isNull v' = false := by
  cases h
  exact Tree.isNull_list _

/-- A list is a token only if it is a text with a patch. -/
theorem eq_of_ofDatum? {ds : List Datum} {t : Token} (h : ofDatum? (.list ds) = some t) :
    ∃ s d p, ds = [.text s, d] ∧ Patch.ofDatum d = .ok p := by
  unfold ofDatum? at h
  split at h
  · rename_i heq
    cases heq
  · rename_i s d heq
    cases heq
    cases hp : Patch.ofDatum d with
    | error e =>
        rw [hp] at h
        cases h
    | ok p => exact ⟨s, d, p, rfl, hp⟩
  · rename_i heq
    cases heq
  · cases h

theorem catches_read (step : PathStep) :
    Reading.Catches (read (α := α) step) Spoilt := by
  intro x y hchange t ht
  obtain ⟨hpatch⟩ := hchange
  obtain ⟨before, after, hkey, hforeign⟩ := hpatch
  rw [read] at ht
  obtain ⟨d, hd, ht⟩ := Checked.bind_eq_ok_iff.mp ht
  obtain ⟨ds, rfl, hds⟩ := Tree.datum_list (Checked.mapError_eq_ok_iff.mp hd)
  cases htoken : ofDatum? (.list ds) with
  | none =>
      rw [htoken] at ht
      cases ht
  | some t' =>
      obtain ⟨s, d, p, rfl, hp⟩ := eq_of_ofDatum? htoken
      simp only [List.map_cons, List.map_nil, List.cons.injEq] at hds
      obtain ⟨-, hmap, -⟩ := hds
      obtain ⟨ds, rfl, hentries⟩ := Tree.datum_map hmap
      obtain ⟨k', x', hk', hmem⟩ := hentries _ _ List.mem_append_cons_self
      obtain ⟨name, hlisted, rfl⟩ := Patch.keys_of_ofDatum hp hmem
      rw [Tree.key_datum hkey hk'] at hlisted
      exact hforeign hlisted

theorem catches_readOptional (step : PathStep) :
    Reading.Catches (readOptional (α := α) step) Spoilt :=
  (catches_read step).optional fun _ _ h => h.isNull

end Token

/-! ### Rows -/

namespace Row

variable [Source α] [Tree α]

/-- The keys of a row. -/
def fieldNames : List String := ["choices", "hitback"]

/-- A row with a foreign key of its own or in one of its cells. -/
inductive Spoilt : α → α → Prop where
  | own {v v' : α} (h : Tree.Spoilt fieldNames v v') : Spoilt v v'
  | slot {v v' : α} (h : Tree.AtKey (Tree.AtItem Token.Spoilt) "choices" v v') : Spoilt v v'
  | hitback {v v' : α} (h : Tree.AtKey Token.Spoilt "hitback" v v') : Spoilt v v'

theorem Spoilt.isNull {v v' : α} (h : Spoilt v v') : Source.isNull v' = false := by
  cases h with
  | own h =>
      cases h
      exact Tree.isNull_map _
  | slot h =>
      cases h
      exact Tree.isNull_map _
  | hitback h =>
      cases h
      exact Tree.isNull_map _

variable {slot : PathStep → α → Reading σ} {hitback : PathStep → α → Reading τ}

theorem catches_read (hslot : ∀ step, Reading.Catches (slot step) Token.Spoilt)
    (hhitback : ∀ step, Reading.Catches (hitback step) Token.Spoilt) (wanted : String)
    (absent : Option τ) : Reading.Catches (read wanted slot hitback absent) Spoilt := by
  have hstrict : Reading.Catches (Record.strict wanted (Draft.fields slot hitback) {})
      Spoilt := by
    intro x y hchange
    cases hchange with
    | own h => exact Record.catches_spoilt _ _ _ x y h
    | slot h =>
        exact Record.catches_atKey _ rfl
          ((Reading.catches_tuple hslot faces).field "choices" _) _ x y h
    | hitback h =>
        exact Record.catches_atKey _ rfl (fun s => (hhitback (.key "hitback")).bind _) _ x y h
  exact hstrict.bind _

theorem catches_readFull : Reading.Catches (readFull (α := α)) Spoilt :=
  catches_read Token.catches_read Token.catches_read _ _

theorem catches_readLoose : Reading.Catches (readLoose (α := α)) Spoilt :=
  catches_read Token.catches_read Token.catches_readOptional _ _

theorem catches_readSparse : Reading.Catches (readSparse (α := α)) Spoilt :=
  catches_read Token.catches_readOptional Token.catches_readOptional _ _

end Row

/-! ### Moves -/

namespace Spec

/-- The keys of a spec. -/
def fieldNames : List String := "kind" :: Overrides.fieldNames ++ ["pump_damage", "meter"]

/-- If nothing is the least of some names, there are none. -/
theorem least?_eq_none {names : List String} (h : least? names = none) : names = [] := by
  cases names with
  | nil => rfl
  | cons name names =>
      rw [least?] at h
      split at h
      · cases h
      · cases h

/-- Overrides that leave nothing over were looked for under their own keys. -/
theorem key_of_claim {entries : List (String × Datum)} {o : Overrides}
    (h : Overrides.claim entries = .ok (o, [])) {name : String} {d : Datum}
    (hmem : (name, d) ∈ entries) : name ∈ Overrides.fieldNames := by
  obtain ⟨name', hname, htaken⟩ := Record.taken_of_fill h hmem
  cases hname
  cases htaken with
  | field found read =>
      rw [← Overrides.keys_fields]
      exact Record.mem_of_found found
  | other foreign read mem => cases mem

variable [Source α] {v : α}

/-- An entry of a spec that is accepted has a key that a spec may have. -/
theorem key_of_read {s : Spec} (h : read v = .ok s) :
    ∃ es, Source.entries Wanted.spec v = .ok es ∧ ∀ k x, (k, x) ∈ es →
      ∃ name ∈ fieldNames, Source.key Wanted.key k = .ok name := by
  rw [read] at h
  obtain ⟨es, hes, h⟩ := Checked.bind_eq_ok_iff.mp h
  obtain ⟨⟨draft, others⟩, hfill, h⟩ := Checked.bind_eq_ok_iff.mp h
  obtain ⟨kind, -, h⟩ := Checked.bind_eq_ok_iff.mp h
  obtain ⟨⟨overrides, unclaimed⟩, hclaim, h⟩ := Checked.bind_eq_ok_iff.mp h
  refine ⟨es, Checked.mapError_eq_ok_iff.mp hes, ?_⟩
  have hclaim : Overrides.claim others = .ok (overrides, unclaimed) :=
    Checked.mapError_eq_ok_iff.mp (Checked.mapError_eq_ok_iff.mp hclaim)
  cases hleast : least? unclaimed with
  | some name =>
      dsimp only at h
      rw [hleast] at h
      cases h
  | none =>
      rw [least?_eq_none hleast] at hclaim
      intro k x hmem
      obtain ⟨name, hkey, htaken⟩ := Record.taken_of_fill hfill hmem
      refine ⟨name, ?_, hkey⟩
      cases htaken with
      | field found read =>
          have hown : name ∈ ["kind", "pump_damage", "meter"] := Record.mem_of_found found
          simp only [List.mem_cons, List.not_mem_nil, or_false] at hown
          rcases hown with rfl | rfl | rfl
          · decide
          · decide
          · decide
      | other foreign read mem =>
          obtain ⟨d, -, hpure⟩ := Checked.bind_eq_ok_iff.mp read
          cases hpure
          have hoverride := key_of_claim hclaim mem
          simp [fieldNames, hoverride]

variable [Tree α]

theorem catches_read : Reading.Catches (read (α := α)) (Tree.Spoilt fieldNames) := by
  intro x y hchange s hs
  obtain ⟨before, after, hkey, hforeign⟩ := hchange
  obtain ⟨es, hes, hnames⟩ := key_of_read hs
  rw [Tree.entries_map] at hes
  cases hes
  obtain ⟨name, hname, hkey'⟩ := hnames _ _ List.mem_append_cons_self
  cases hkey.symm.trans hkey'
  exact hforeign hname

end Spec

namespace Registry

variable [Source α]

/-- A list of moves that has been read has all its specs read. -/
theorem exists_of_readSpecs {es : List (α × α)} {specs : List (Char × Spec)}
    (h : readSpecs es = .ok specs) : ∀ e ∈ es, ∃ s, Spec.read e.2 = .ok s := by
  induction es generalizing specs with
  | nil =>
      intro e he
      cases he
  | cons e es ih =>
      obtain ⟨k, x⟩ := e
      rw [readSpecs] at h
      obtain ⟨name, -, h⟩ := Checked.bind_eq_ok_iff.mp h
      obtain ⟨s, hs, h⟩ := Checked.bind_eq_ok_iff.mp h
      obtain ⟨specs', hspecs, -⟩ := Checked.bind_eq_ok_iff.mp h
      intro e' he'
      rcases List.mem_cons.mp he' with rfl | he'
      · exact ⟨s, Checked.mapError_eq_ok_iff.mp hs⟩
      · exact ih hspecs e' he'

variable [Tree α]

theorem catches_read :
    Reading.Catches (read (α := α)) (Tree.AtValue (Tree.Spoilt Spec.fieldNames)) := by
  intro x y hchange r hr
  obtain ⟨before, after, hspec⟩ := hchange
  rw [read] at hr
  obtain ⟨es, hes, hr⟩ := Checked.bind_eq_ok_iff.mp hr
  obtain ⟨specs, hspecs, -⟩ := Checked.bind_eq_ok_iff.mp hr
  have hentries := Checked.mapError_eq_ok_iff.mp hes
  rw [Tree.entries_map] at hentries
  cases hentries
  obtain ⟨s, hs⟩ := exists_of_readSpecs hspecs (_, _) List.mem_append_cons_self
  exact Spec.catches_read _ _ hspec s hs

end Registry

/-! ### Tables -/

namespace Table

variable [Source α] [Tree α]

/-- The keys of a table. -/
def fieldNames : List String :=
  ["name", "difficulty", "moves", "normal", "knockdown", "wakeup", "dragon", "desperate"]

/-- A table with a foreign key: of its own, in the spec of a move, in a row, in a cell. -/
inductive Spoilt : α → α → Prop where
  | own {v v' : α} (h : Tree.Spoilt fieldNames v v') : Spoilt v v'
  | spec {v v' : α} (h : Tree.AtKey (Tree.AtValue (Tree.Spoilt Spec.fieldNames)) "moves" v v') :
      Spoilt v v'
  | normal {v v' : α} (h : Tree.AtKey (Tree.AtItem Row.Spoilt) "normal" v v') : Spoilt v v'
  | row {name : String} {v v' : α}
      (hname : name ∈ ["knockdown", "wakeup", "dragon", "desperate"])
      (h : Tree.AtKey Row.Spoilt name v v') : Spoilt v v'

/-- The field of a row other than the normal ones. -/
theorem exists_row_field {name : String}
    (hname : name ∈ ["knockdown", "wakeup", "dragon", "desperate"]) :
    ∃ f : Field α Draft, Draft.fields.find? (fun f => f.key = name) = some f ∧
      ∀ s, Reading.Catches (f.read s) Row.Spoilt := by
  have hnull : ∀ x y : α, Row.Spoilt x y → Source.isNull y = false := fun _ _ h => h.isNull
  have hloose := Row.catches_readLoose (α := α)
  have hsparse := Row.catches_readSparse (α := α)
  simp only [List.mem_cons, List.not_mem_nil, or_false] at hname
  rcases hname with rfl | rfl | rfl | rfl
  · exact ⟨_, rfl, hloose.field "knockdown" _⟩
  · exact ⟨_, rfl, (hloose.optional hnull).field "wakeup" _⟩
  · exact ⟨_, rfl, (hloose.optional hnull).field "dragon" _⟩
  · exact ⟨_, rfl, (hsparse.optional hnull).field "desperate" _⟩

theorem catches_strict : Reading.Catches
    (Record.strict Wanted.table (Draft.fields : List (Field α Draft)) {}) Spoilt := by
  have hrow := fun step : PathStep => (Row.catches_readFull (α := α)).within step
  intro x y hchange
  cases hchange with
  | own h => exact Record.catches_spoilt _ _ _ x y h
  | spec h =>
      exact Record.catches_atKey _ rfl (Registry.catches_read.field "moves" _) _ x y h
  | normal h =>
      exact Record.catches_atKey _ rfl
        ((Reading.catches_tuple hrow brackets).field "normal" _) _ x y h
  | row hname h =>
      obtain ⟨f, hfound, hcatches⟩ := exists_row_field (α := α) hname
      exact Record.catches_atKey _ hfound hcatches _ x y h

/--
**No key is overlooked.**  A table with one more entry in it, under a key that its record
does not have, is refused: wherever the entry stands, whatever its value, and whatever else
is in the table.  Only complete cards may hold more than is read of them.
-/
theorem no_key_is_overlooked {v v' : α} (h : Spoilt v v') : ∃ f, read v' = .error f := by
  have hcatches : Reading.Catches (read (α := α)) Spoilt := catches_strict.bind _
  cases hread : read v' with
  | error f => exact ⟨f, rfl⟩
  | ok t => exact absurd hread (hcatches v v' h t)

/-- A patched cell for desperation, and a key misspelled in its patch. -/
theorem no_key_is_overlooked_desperate :
    let word := Yaml.Node.scalar true
    let combo := Yaml.Node.scalar false "A"
    let adjust := (word "adjust", word "0")
    let adjsut := (word "adjsut", word "0")
    let row (cells : List Yaml.Node) : Yaml.Node :=
      .map [(word "choices", .list cells), (word "hitback", combo)]
    let full := row (List.replicate faces combo)
    let table (patch : List (Yaml.Node × Yaml.Node)) : Yaml.Node := .map [
      (word "name", word "Training Dummy"),
      (word "difficulty", word "1"),
      (word "moves", .map [(combo, .map [(word "kind", word "strike")])]),
      (word "normal", .list (List.replicate brackets full)),
      (word "knockdown", full),
      (word "desperate", row (List.replicate 7 (word "~") ++ [.list [combo, .map patch]]))]
    (read (table [adjust])).isOk = true ∧ Spoilt (table [adjust]) (table [adjust, adjsut]) ∧
      ∃ f, read (table [adjust, adjsut]) = .error f := by
  intro word combo adjust adjsut row full table
  have hcell : Token.Spoilt (α := Yaml.Node)
      (.list [combo, .map [adjust]]) (.list [combo, .map [adjust, adjsut]]) :=
    .patch (.intro [adjust] [] rfl (by decide))
  have hrow (before : List Yaml.Node) : Row.Spoilt
      (row (before ++ [.list [combo, .map [adjust]]]))
      (row (before ++ [.list [combo, .map [adjust, adjsut]]])) :=
    .slot (.intro [] [(word "hitback", combo)] rfl (.intro before [] hcell))
  have hspoilt : Spoilt (table [adjust]) (table [adjust, adjsut]) :=
    .row (by simp) (.intro [(word "name", _), (word "difficulty", _), (word "moves", _),
      (word "normal", _), (word "knockdown", _)] [] rfl (hrow (List.replicate 7 (word "~"))))
  exact ⟨by decide +kernel, hspoilt, no_key_is_overlooked hspoilt⟩

end Table

end Sparring
