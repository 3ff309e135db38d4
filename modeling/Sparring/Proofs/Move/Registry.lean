/-
What a registry holds that was made from a list.

The specs of a list are taken in one after another, and a symbol that comes again keeps its
place and changes its move.  So the two things that a registry shows go apart.  Its symbols
stand in the order in which they came first (`names_ofList_pairwise`), and the move under a
symbol is made from the spec that came last (`get?_ofList_eq_some_iff`).  Either is one lemma
about `insert` and then an induction over the list from its end, because the last spec of the
list is the one that decides.

`LastFor` says which spec counts, and `Move.Completes` what it makes of a move: attribute by
attribute, and without filling in a record.
-/
import Mathlib.Data.List.Basic
import Mathlib.Data.List.Induction
import Mathlib.Data.List.Nodup
import Sparring.Combo.Compile
import Sparring.Proofs.Card.Attributes

namespace Sparring

/-! ### One move -/

namespace Move

variable {m : Move} {c : Char} {s : Spec}

/-- The move has this symbol and is the template of the spec's kind, changed where the spec
changes it and nowhere else. -/
structure Completes (m : Move) (c : Char) (s : Spec) : Prop where
  name : m.name = c
  kind : m.kind = s.kind
  stat : ∀ f, m.stat f = (s.overrides.stat f).getD ((Attributes.template s.kind).stat f)
  height : m.height = s.overrides.height.getD (Attributes.template s.kind).height
  armor : m.armor = s.overrides.armor.getD (Attributes.template s.kind).armor
  flag : ∀ f, m.flag f = (s.overrides.flag f).getD ((Attributes.template s.kind).flag f)
  pumps : m.pumps = s.pumps
  meter : m.meter = s.meter

theorem kind_template (k : Kind) : (Attributes.template k).kind = k := by
  rw [Attributes.template_eq, Attributes.blank]

theorem completes_ofSpec (c : Char) (s : Spec) : (ofSpec c s).Completes c s where
  name := rfl
  kind := kind_template s.kind
  stat := s.overrides.stat_apply _
  height := rfl
  armor := rfl
  flag := s.overrides.flag_apply _
  pumps := rfl
  meter := rfl

/-- A spec leaves nothing of its move open. -/
theorem completes_iff : m.Completes c s ↔ m = ofSpec c s := by
  constructor
  · intro h
    have hspec := completes_ofSpec c s
    have hattributes : m.toAttributes = (ofSpec c s).toAttributes :=
      Attributes.ext_of (h.kind.trans hspec.kind.symm)
        (fun f => (h.stat f).trans (hspec.stat f).symm)
        (h.height.trans hspec.height.symm) (h.armor.trans hspec.armor.symm)
        fun f => (h.flag f).trans (hspec.flag f).symm
    cases m
    rw [ofSpec, mk.injEq]
    exact ⟨hattributes, h.name, h.pumps, h.meter⟩
  · rintro rfl
    exact completes_ofSpec c s

/-- A move that is put in is found under its symbol, and all others are found as before. -/
theorem find?_putInto (m : Move) (ms : List Move) (c : Char) :
    (m.putInto ms).find? (fun x => x.name = c) =
      if c = m.name then some m else ms.find? (fun x => x.name = c) := by
  induction ms with
  | nil =>
      by_cases hc : c = m.name
      · simp [putInto, hc]
      · simp [putInto, hc, Ne.symm hc]
  | cons x xs ih =>
      by_cases hx : x.name = m.name
      · rw [putInto, if_pos hx]
        by_cases hc : c = m.name
        · simp [hc]
        · simp [hc, hx, Ne.symm hc]
      · rw [putInto, if_neg hx, List.find?_cons, ih, List.find?_cons]
        by_cases hxc : x.name = c
        · have hc : c ≠ m.name := fun heq => hx (hxc.trans heq)
          simp [hxc, hc]
        · simp [hxc]

end Move

namespace Registry

variable {r : Registry} {specs : List (Char × Spec)} {c name : Char} {s s' : Spec} {m : Move}
  {combo : String}

/-! ### Looking up -/

/-- The symbols of a registry, in order. -/
def names (r : Registry) : List Char := r.moves.map (·.name)

/-- A move that is found is one of the registry's. -/
theorem mem_of_get? (h : r.get? c = some m) : m ∈ r.moves := List.mem_of_find?_eq_some h

/-- A move is found under its symbol, since no other move has it. -/
theorem get?_of_mem (hm : m ∈ r.moves) : r.get? m.name = some m := by
  cases found : r.get? m.name with
  | none =>
      have hall := List.find?_eq_none.mp found m hm
      simp at hall
  | some x =>
      have hname : x.name = m.name := by simpa using List.find?_some found
      have hx : x ∈ r.moves := mem_of_get? found
      rw [List.inj_on_of_nodup_map r.nodup hx hm hname]

theorem get?_eq_some_iff : r.get? c = some m ↔ m ∈ r.moves ∧ m.name = c := by
  constructor
  · intro h
    exact ⟨mem_of_get? h, by simpa using List.find?_some h⟩
  · rintro ⟨hm, rfl⟩
    exact get?_of_mem hm

theorem get?_eq_none_iff : r.get? c = none ↔ c ∉ r.names := by
  simp [get?, names, List.find?_eq_none]

theorem lookup_eq_ok_iff : r.lookup name combo = .ok m ↔ r.get? name = some m := by
  unfold lookup
  cases r.get? name with
  | none => simp
  | some m' => simp

theorem lookup_eq_error_iff {e : Combo.Error} :
    r.lookup name combo = .error e ↔ r.get? name = none ∧ e = .unknownMove name combo := by
  unfold lookup
  cases r.get? name with
  | none => simp [eq_comm]
  | some m' => simp

/-! ### Taking in one spec -/

theorem names_insert (r : Registry) (name : Char) (s : Spec) :
    (r.insert name s).names = if name ∈ r.names then r.names else r.names ++ [name] :=
  Move.names_putInto _ _

theorem get?_insert (r : Registry) (name : Char) (s : Spec) (c : Char) :
    (r.insert name s).get? c = if c = name then some (Move.ofSpec name s) else r.get? c :=
  Move.find?_putInto _ _ _

theorem ofList_concat (specs : List (Char × Spec)) (name : Char) (s : Spec) :
    ofList (specs ++ [(name, s)]) = (ofList specs).insert name s := by
  simp [ofList, List.foldl_append]

/-! ### Taking in a list -/

theorem mem_names_ofList : c ∈ (ofList specs).names ↔ c ∈ specs.map (·.1) := by
  induction specs using List.reverseRecOn generalizing c with
  | nil => exact Iff.rfl
  | append_singleton specs x ih =>
      obtain ⟨name, s⟩ := x
      rw [ofList_concat, names_insert, List.map_append, List.mem_append]
      by_cases hname : name ∈ (ofList specs).names
      · rw [if_pos hname, ih]
        refine ⟨Or.inl, ?_⟩
        rintro (h | h)
        · exact h
        · rw [List.mem_singleton.mp h]
          exact ih.mp hname
      · rw [if_neg hname, List.mem_append, ih]
        rfl

/-- Of two symbols of a registry, the one that came first in the list stands first. -/
theorem names_ofList_pairwise (specs : List (Char × Spec)) :
    (ofList specs).names.Pairwise fun c d =>
      (specs.map (·.1)).idxOf c < (specs.map (·.1)).idxOf d := by
  induction specs using List.reverseRecOn with
  | nil => exact List.Pairwise.nil
  | append_singleton specs x ih =>
      obtain ⟨name, s⟩ := x
      -- What follows in the list does not change where a symbol came first.
      have hold : (ofList specs).names.Pairwise fun c d =>
          ((specs ++ [(name, s)]).map (·.1)).idxOf c <
            ((specs ++ [(name, s)]).map (·.1)).idxOf d := by
        refine List.Pairwise.imp_of_mem ?_ ih
        intro c d hc hd hlt
        rw [List.map_append, List.idxOf_append_of_mem (mem_names_ofList.mp hc),
          List.idxOf_append_of_mem (mem_names_ofList.mp hd)]
        exact hlt
      rw [ofList_concat, names_insert]
      by_cases hname : name ∈ (ofList specs).names
      · rw [if_pos hname]
        exact hold
      · rw [if_neg hname, List.pairwise_append]
        refine ⟨hold, List.pairwise_singleton _ _, ?_⟩
        intro c hc d hd
        have hc' : c ∈ specs.map (·.1) := mem_names_ofList.mp hc
        have hname' : name ∉ specs.map (·.1) := fun h => hname (mem_names_ofList.mpr h)
        rw [List.mem_singleton.mp hd, List.map_append, List.idxOf_append_of_mem hc',
          List.idxOf_append_of_notMem hname']
        exact Nat.lt_of_lt_of_le (List.idxOf_lt_length_of_mem hc') (Nat.le_add_right _ _)

/-- The spec is the last one that the list has for this symbol. -/
def LastFor (specs : List (Char × Spec)) (c : Char) (s : Spec) : Prop :=
  ∃ before after, specs = before ++ (c, s) :: after ∧ c ∉ after.map (·.1)

theorem not_lastFor_nil : ¬ LastFor [] c s := by
  rintro ⟨before, after, hsplit, -⟩
  simp at hsplit

theorem lastFor_concat :
    LastFor (specs ++ [(name, s)]) c s' ↔ c = name ∧ s' = s ∨ c ≠ name ∧ LastFor specs c s' := by
  constructor
  · rintro ⟨before, after, hsplit, hafter⟩
    rcases List.eq_nil_or_concat after with rfl | ⟨after, x, rfl⟩
    · have hlast : name = c ∧ s = s' := by simpa using (List.append_inj' hsplit rfl).2
      exact Or.inl ⟨hlast.1.symm, hlast.2.symm⟩
    · rw [List.concat_eq_append, ← List.cons_append, ← List.append_assoc] at hsplit
      obtain ⟨rfl, hx⟩ := List.append_inj' hsplit rfl
      have hlast : x = (name, s) := (List.singleton_inj.mp hx).symm
      refine Or.inr ⟨?_, before, after, rfl, fun h => hafter (by simp [h])⟩
      intro hc
      exact hafter (by simp [hlast, hc])
  · rintro (⟨rfl, rfl⟩ | ⟨hc, before, after, rfl, hafter⟩)
    · exact ⟨specs, [], rfl, by simp⟩
    · exact ⟨before, after ++ [(name, s)], by simp, by simp [hafter, hc]⟩

/-- The move under a symbol is made from its last spec. -/
theorem get?_ofList_eq_some_iff :
    (ofList specs).get? c = some m ↔ ∃ s, LastFor specs c s ∧ m = Move.ofSpec c s := by
  induction specs using List.reverseRecOn with
  | nil =>
      refine ⟨fun h => ?_, ?_⟩
      · cases h
      · rintro ⟨s, hs, -⟩
        exact absurd hs not_lastFor_nil
  | append_singleton specs x ih =>
      obtain ⟨name, s⟩ := x
      rw [ofList_concat, get?_insert]
      by_cases hc : c = name
      · subst hc
        simp [lastFor_concat, eq_comm]
      · rw [if_neg hc, ih]
        simp [lastFor_concat, hc]

/--
**A registry holds the last spec of every symbol of its list, where the symbol came first.**  It
has a move for each symbol of the list and for no other, and the moves stand in the order in
which their symbols came first, so no symbol has two.  Looking up succeeds for these symbols,
and names the symbol that is missing for all others.  What is found is completed from the last
spec for the symbol.
-/
theorem holds_last_specs (specs : List (Char × Spec)) :
    let r := ofList specs
    let symbols := specs.map (·.1)
    (∀ c, c ∈ r.moves.map (·.name) ↔ c ∈ symbols) ∧
    (r.moves.map (·.name)).Pairwise (fun c d => symbols.idxOf c < symbols.idxOf d) ∧
    ∀ c combo,
      ((∃ m, r.lookup c combo = .ok m) ↔ c ∈ symbols) ∧
      (r.lookup c combo = .error (.unknownMove c combo) ↔ c ∉ symbols) ∧
      ∀ m, r.lookup c combo = .ok m ↔ ∃ s, LastFor specs c s ∧ m.Completes c s := by
  intro r symbols
  have hnone : ∀ c, r.get? c = none ↔ c ∉ symbols := by
    intro c
    rw [get?_eq_none_iff, mem_names_ofList]
  refine ⟨fun c => mem_names_ofList, names_ofList_pairwise specs, ?_⟩
  intro c combo
  refine ⟨?_, ?_, ?_⟩
  · simp only [lookup_eq_ok_iff, ← Option.ne_none_iff_exists', ne_eq, hnone, not_not]
  · rw [lookup_eq_error_iff, hnone]
    exact and_iff_left rfl
  · intro m
    rw [lookup_eq_ok_iff, get?_ofList_eq_some_iff]
    simp only [Move.completes_iff]

/-- A symbol that comes again keeps its place and nothing else. -/
theorem holds_last_specs_repeated :
    let specs : List (Char × Spec) :=
      [('A', .strike 3 8), ('t', .throw 7 5), ('A', .ofKind .blockLow)]
    let r := ofList specs
    r.moves.map (·.name) = ['A', 't'] ∧
      (∃ m, r.lookup 'A' "At" = .ok m ∧ m.kind = .blockLow ∧ m.damage = 0 ∧ m.recur = true) ∧
      (∃ m, r.lookup 't' "At" = .ok m ∧ m.damage = 7 ∧ m.knockdown = true) ∧
      r.lookup 'h' "Ah" = .error (.unknownMove 'h' "Ah") := by
  intro specs r
  obtain ⟨-, -, hfound⟩ := holds_last_specs specs
  have hblock : LastFor specs 'A' (.ofKind .blockLow) :=
    ⟨[('A', .strike 3 8), ('t', .throw 7 5)], [], rfl, by decide⟩
  have hthrow : LastFor specs 't' (.throw 7 5) :=
    ⟨[('A', .strike 3 8)], [('A', .ofKind .blockLow)], rfl, by decide⟩
  obtain ⟨-, -, hA⟩ := hfound 'A' "At"
  obtain ⟨-, -, ht⟩ := hfound 't' "At"
  obtain ⟨-, hmissing, -⟩ := hfound 'h' "Ah"
  refine ⟨by decide, ?_, ?_, hmissing.mpr (by decide)⟩
  · exact ⟨_, (hA _).mpr ⟨_, hblock, Move.completes_ofSpec _ _⟩, rfl, rfl, rfl⟩
  · exact ⟨_, (ht _).mpr ⟨_, hthrow, Move.completes_ofSpec _ _⟩, rfl, rfl⟩

end Registry

end Sparring
