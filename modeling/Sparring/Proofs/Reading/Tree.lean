/-
Trees of lists and maps, and small changes deep inside them.

Readers ask a value what it is and never look at how it was built.  To speak of a change to
a document one has to build values, too, so `Tree` says what lists and maps answer to the
readers' questions.  Documents are trees, and so are values with types.

A change is made in one place: an entry is added to a map, or the change is made further in,
under a key, in an item or in the value of some entry.
-/
import Sparring.Proofs.Checked
import Sparring.Reading.Source

namespace Sparring

/-- Values that are built from lists and maps, and what these answer. -/
class Tree (α : Type) [Source α] where
  list : List α → α
  map : List (α × α) → α
  items_list (wanted : String) (xs : List α) : Source.items wanted (list xs) = .ok xs
  entries_map (wanted : String) (es : List (α × α)) :
    Source.entries wanted (map es) = .ok es
  isNull_list (xs : List α) : Source.isNull (list xs) = false
  isNull_map (es : List (α × α)) : Source.isNull (map es) = false
  /-- On its own terms a list is the list of its items, … -/
  datum_list {xs : List α} {d : Datum} (h : Source.datum (list xs) = .ok d) :
    ∃ ds : List Datum, d = .list ds ∧ xs.map Source.datum = ds.map Except.ok
  /-- … and a map has the entries of the map. -/
  datum_map {es : List (α × α)} {d : Datum} (h : Source.datum (map es) = .ok d) :
    ∃ ds : List (Datum × Datum), d = .map ds ∧
      ∀ k x, (k, x) ∈ es → ∃ k' x', Source.datum k = .ok k' ∧ (k', x') ∈ ds
  /-- A key that is a text on its own terms is this text as a key, too. -/
  key_datum {k : α} {name text : String} (hkey : Source.key Wanted.key k = .ok name)
    (hdatum : Source.datum k = .ok (.text text)) : text = name

/-! ### Values with types -/

instance : Tree Datum where
  list := .list
  map := .map
  items_list _ _ := rfl
  entries_map _ _ := rfl
  isNull_list _ := rfl
  isNull_map _ := rfl
  datum_list h := by
    cases h
    exact ⟨_, rfl, rfl⟩
  datum_map h := by
    cases h
    exact ⟨_, rfl, fun k x hmem => ⟨k, x, rfl, hmem⟩⟩
  key_datum hkey hdatum := by
    cases hdatum
    cases hkey
    rfl

/-! ### Documents -/

namespace Yaml

/-- A scalar that is a text says what is written there. -/
theorem eq_of_resolve_eq_text {s text : String} (h : resolve s = .text text) : text = s := by
  unfold resolve at h
  split at h
  · cases h
  split at h
  · cases h
  split at h
  · cases h
  split at h
  · exact (Datum.text.inj h).symm
  split at h
  · cases h
  · exact (Datum.text.inj h).symm

namespace Node

theorem datums_eq_ok {xs : List Node} {i : Nat} {ds : List Datum} (h : datums i xs = .ok ds) :
    xs.map datum = ds.map Except.ok := by
  induction xs generalizing i ds with
  | nil =>
      cases h
      rfl
  | cons x xs ih =>
      simp only [datums, Reading.within, Checked.bind_eq_ok_iff, Checked.mapError_eq_ok_iff] at h
      obtain ⟨d, hd, ds', hds, hpure⟩ := h
      cases hpure
      rw [List.map_cons, List.map_cons, hd, ih hds]

theorem datumEntries_eq_ok {es : List (Node × Node)} {ds : List (Datum × Datum)}
    (h : datumEntries es = .ok ds) (k x : Node) (hmem : (k, x) ∈ es) :
    ∃ k' x', datum k = .ok k' ∧ (k', x') ∈ ds := by
  induction es generalizing ds with
  | nil => cases hmem
  | cons e es ih =>
      obtain ⟨k₀, x₀⟩ := e
      simp only [datumEntries, Reading.within, Checked.bind_eq_ok_iff,
        Checked.mapError_eq_ok_iff] at h
      obtain ⟨k', hk, x', -, ds', hds, hpure⟩ := h
      cases hpure
      rcases List.mem_cons.mp hmem with heq | hmem
      · cases heq
        exact ⟨k', x', hk, by simp⟩
      · obtain ⟨k'', x'', hk'', hmem''⟩ := ih hds hmem
        exact ⟨k'', x'', hk'', by simp [hmem'']⟩

theorem eq_of_scalarDatum {isPlain : Bool} {s text : String}
    (h : scalarDatum (scalar isPlain s) = .ok (.text text)) : text = s := by
  unfold scalarDatum at h
  split at h
  · split at h
    · cases h
    · cases h
  · have hglimpse : (scalar isPlain s).glimpse = .text text := Except.ok.inj h
    cases isPlain with
    | true => exact eq_of_resolve_eq_text hglimpse
    | false => exact (Datum.text.inj hglimpse).symm

end Node

end Yaml

instance : Tree Yaml.Node where
  list := .list
  map := .map
  items_list _ _ := rfl
  entries_map _ _ := rfl
  isNull_list _ := rfl
  isNull_map _ := rfl
  datum_list h := by
    obtain ⟨ds, hds, rfl⟩ := Checked.map_eq_ok_iff.mp h
    exact ⟨ds, rfl, Yaml.Node.datums_eq_ok hds⟩
  datum_map h := by
    obtain ⟨ds, hds, rfl⟩ := Checked.map_eq_ok_iff.mp h
    exact ⟨ds, rfl, Yaml.Node.datumEntries_eq_ok hds⟩
  key_datum {k name text} hkey hdatum := by
    cases k with
    | scalar isPlain s =>
        cases hkey
        exact Yaml.Node.eq_of_scalarDatum hdatum
    | list xs => cases hkey
    | map es => cases hkey
    | flawed f => cases hkey

/-! ### Changes -/

namespace Tree

variable {α : Type} [Source α] [Tree α]

/-- A map, and the map with one more entry, whose key is none of these names. -/
inductive Spoilt (names : List String) : α → α → Prop where
  | intro (before after : List (α × α)) {k x : α} {name : String}
      (key : Source.key Wanted.key k = .ok name) (foreign : name ∉ names) :
      Spoilt names (map (before ++ after)) (map (before ++ (k, x) :: after))

variable (R : α → α → Prop)

/-- A map in which the value under a key has been changed. -/
inductive AtKey (name : String) : α → α → Prop where
  | intro (before after : List (α × α)) {k x y : α}
      (key : Source.key Wanted.key k = .ok name) (change : R x y) :
      AtKey name (map (before ++ (k, x) :: after)) (map (before ++ (k, y) :: after))

/-- A map in which the value of one entry has been changed. -/
inductive AtValue : α → α → Prop where
  | intro (before after : List (α × α)) {k x y : α} (change : R x y) :
      AtValue (map (before ++ (k, x) :: after)) (map (before ++ (k, y) :: after))

/-- A list in which one item has been changed. -/
inductive AtItem : α → α → Prop where
  | intro (before after : List α) {x y : α} (change : R x y) :
      AtItem (list (before ++ x :: after)) (list (before ++ y :: after))

end Tree

end Sparring
