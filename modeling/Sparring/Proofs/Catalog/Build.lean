/-
A catalog is built from all its tables or not at all.

The tables are taken one by one.  Two things can end this: a table that makes no bot, and a
bot whose code another one has already.  Which of the two comes first is a matter of
position alone, so `Rejects` says of a position what is wrong there, and `ofTables` fails
with what is wrong at the least position where anything is.

`enter` is the step, one more table.  What it does is said once (`enter_eq_ok_iff`,
`enter_eq_error_iff`), and the run follows by induction: the bots so far are those of the
tables so far, in order, and their codes differ.

Texts are read before any table is assembled.  So a text that is no table hides whatever is
wrong with the tables before it.
-/
import Sparring.Catalog.Load
import Sparring.Proofs.Bot.Assembly

namespace Sparring

/-- A bot has the name of its table. -/
theorem Table.name_of_assemble {t : Table} {b : Bot} (h : t.assemble = .ok b) :
    b.name = t.book.name :=
  (Table.assemble_eq_ok_iff.mp h).2.name

/-- So it has the code of its table. -/
theorem Table.code_of_assemble {t : Table} {b : Bot} (h : t.assemble = .ok b) :
    b.code = Code.ofName t.book.name :=
  congrArg Code.ofName (name_of_assemble h)

namespace Catalog

variable {c c' : Catalog} {t : Table} {ts : List Table} {b : Bot} {bots : List Bot}
  {halt : Halt BuildError}

/-- The codes of the bots, in order. -/
def codes (c : Catalog) : List String := c.bots.map (·.code)

/-! ### One more table -/

/-- The error of a table whose code is taken. -/
def taken (t : Table) : BuildError :=
  { bot := t.book.name, spot := .name, cause := .codeTaken (Code.ofName t.book.name) }

/-- The catalog with the bot of one more table. -/
def enter (c : Catalog) (t : Table) : Checked BuildError Catalog := do
  (c.add (← t.assemble)).mapError .refused

theorem addTables_nil : c.addTables [] = .ok c := rfl

theorem addTables_cons : c.addTables (t :: ts) = c.enter t >>= fun c' => c'.addTables ts := rfl

theorem add_eq_ok_iff : c.add b = .ok c' ↔ b.code ∉ c.codes ∧ c'.bots = c.bots ++ [b] := by
  unfold add codes
  split
  · rename_i hmem
    simp [hmem]
  · rename_i hmem
    obtain ⟨bots, nodup⟩ := c'
    simp [hmem, eq_comm]

theorem add_eq_error_iff {e : BuildError} :
    c.add b = .error e ↔
      b.code ∈ c.codes ∧ e = { bot := b.name, spot := .name, cause := .codeTaken b.code } := by
  unfold add codes
  split
  · rename_i hmem
    simp [hmem, eq_comm]
  · rename_i hmem
    simp [hmem]

theorem enter_eq_ok_iff :
    c.enter t = .ok c' ↔
      ∃ b, t.assemble = .ok b ∧ Code.ofName t.book.name ∉ c.codes ∧ c'.bots = c.bots ++ [b] := by
  unfold enter
  simp only [Checked.bind_eq_ok_iff, Checked.mapError_eq_ok_iff, add_eq_ok_iff]
  refine exists_congr fun b => and_congr_right fun hb => ?_
  rw [Table.code_of_assemble hb]

theorem enter_eq_error_iff :
    c.enter t = .error halt ↔ t.assemble = .error halt ∨
      (∃ b, t.assemble = .ok b) ∧ Code.ofName t.book.name ∈ c.codes ∧
        halt = .refused (taken t) := by
  unfold enter
  simp only [Checked.bind_eq_error_iff, Checked.mapError_eq_error_iff, add_eq_error_iff]
  refine or_congr_right ⟨?_, ?_⟩
  · intro hadd
    obtain ⟨b, hb, e, ⟨hmem, rfl⟩, rfl⟩ := hadd
    rw [Table.code_of_assemble hb] at hmem ⊢
    rw [Table.name_of_assemble hb]
    exact ⟨⟨b, hb⟩, hmem, rfl⟩
  · intro htaken
    obtain ⟨⟨b, hb⟩, hmem, rfl⟩ := htaken
    refine ⟨b, hb, taken t, ⟨?_, ?_⟩, rfl⟩
    · rw [Table.code_of_assemble hb]
      exact hmem
    · rw [taken, Table.code_of_assemble hb, Table.name_of_assemble hb]

/-! ### All tables -/

/-- Only the bots tell catalogs apart. -/
theorem eq_of_bots (h : c.bots = c'.bots) : c = c' := by
  obtain ⟨bots, nodup⟩ := c
  obtain ⟨bots', nodup'⟩ := c'
  cases h
  rfl

/-- The bots of tables have the codes of the tables. -/
theorem codes_of_made (hmade : ts.map Table.assemble = bots.map .ok) :
    bots.map (·.code) = ts.map fun t => Code.ofName t.book.name := by
  induction ts generalizing bots with
  | nil =>
      cases bots with
      | nil => rfl
      | cons b bots => cases hmade
  | cons t ts ih =>
      cases bots with
      | nil => cases hmade
      | cons b bots =>
          obtain ⟨hb, hbots⟩ := List.cons.inj hmade
          rw [List.map_cons, List.map_cons, ih hbots, Table.code_of_assemble hb]

/-- A run of entries puts the new bots behind the old ones. -/
theorem addTables_eq_ok_iff :
    c.addTables ts = .ok c' ↔
      ∃ bots, ts.map Table.assemble = bots.map .ok ∧ c'.bots = c.bots ++ bots := by
  induction ts generalizing c with
  | nil =>
      rw [addTables_nil, Except.ok.injEq]
      refine ⟨?_, ?_⟩
      · intro h
        exact ⟨[], rfl, by rw [h, List.append_nil]⟩
      · intro h
        obtain ⟨bots, hmade, hbots⟩ := h
        cases bots with
        | nil => exact eq_of_bots (by rw [hbots, List.append_nil])
        | cons b bots => cases hmade
  | cons t ts ih =>
      simp only [addTables_cons, Checked.bind_eq_ok_iff, enter_eq_ok_iff, ih]
      refine ⟨?_, ?_⟩
      · intro h
        obtain ⟨c₁, ⟨b, hb, -, hc₁⟩, bots, hmade, hc'⟩ := h
        refine ⟨b :: bots, by rw [List.map_cons, List.map_cons, hb, hmade], ?_⟩
        rw [hc', hc₁, List.append_assoc, List.singleton_append]
      · intro h
        obtain ⟨bots, hmade, hc'⟩ := h
        cases bots with
        | nil => cases hmade
        | cons b bots =>
            obtain ⟨hb, hbots⟩ := List.cons.inj hmade
            have hsplit : c'.bots = (c.bots ++ [b]) ++ bots := by
              rw [hc', List.append_assoc, List.singleton_append]
            -- The codes of the whole differ, so those of its beginning do.
            have hcodes := c'.nodup
            rw [hsplit, List.map_append] at hcodes
            have hnodup := (List.nodup_append.mp hcodes).1
            refine ⟨⟨c.bots ++ [b], hnodup⟩, ⟨b, hb, ?_, rfl⟩, bots, hbots, hsplit⟩
            rw [← Table.code_of_assemble hb]
            rw [List.map_append, List.nodup_append] at hnodup
            intro hmem
            exact hnodup.2.2 _ hmem _ (by simp) rfl

theorem ofTables_eq_ok_iff : ofTables ts = .ok c ↔ ts.map Table.assemble = c.bots.map .ok := by
  rw [ofTables, addTables_eq_ok_iff]
  refine ⟨?_, ?_⟩
  · intro h
    obtain ⟨bots, hmade, hc⟩ := h
    rw [hc]
    exact hmade
  · intro h
    exact ⟨c.bots, h, rfl⟩

theorem exists_ofTables_eq_ok_iff :
    (∃ c, ofTables ts = .ok c) ↔ (∀ t ∈ ts, ∃ b, t.assemble = .ok b) ∧
      (ts.map fun t => Code.ofName t.book.name).Nodup := by
  simp only [ofTables_eq_ok_iff, ← Checked.exists_map_eq_map_ok_iff]
  refine ⟨?_, ?_⟩
  · intro h
    obtain ⟨c, hmade⟩ := h
    refine ⟨⟨c.bots, hmade⟩, ?_⟩
    rw [← codes_of_made hmade]
    exact c.nodup
  · intro h
    obtain ⟨⟨bots, hmade⟩, hnodup⟩ := h
    exact ⟨⟨bots, by rw [codes_of_made hmade]; exact hnodup⟩, hmade⟩

/-- A run of entries fails at the first entry that fails. -/
theorem addTables_eq_error_iff :
    c.addTables ts = .error halt ↔ ∃ before t after c', ts = before ++ t :: after ∧
      c.addTables before = .ok c' ∧ c'.enter t = .error halt := by
  induction ts generalizing c with
  | nil =>
      refine ⟨?_, ?_⟩
      · intro h
        cases h
      · intro h
        obtain ⟨before, t, after, c', hsplit, -⟩ := h
        simp at hsplit
  | cons t ts ih =>
      simp only [addTables_cons, Checked.bind_eq_error_iff, ih]
      refine ⟨?_, ?_⟩
      · intro h
        rcases h with hhere | ⟨c₁, hc₁, before, t', after, c', rfl, hc', hlater⟩
        · exact ⟨[], t, ts, c, rfl, addTables_nil, hhere⟩
        · refine ⟨t :: before, t', after, c', rfl, ?_, hlater⟩
          exact Checked.bind_eq_ok_iff.mpr ⟨c₁, hc₁, hc'⟩
      · intro h
        obtain ⟨before, t', after, c', hsplit, hbefore, hfail⟩ := h
        cases before with
        | nil =>
            obtain ⟨rfl, rfl⟩ := List.cons.inj hsplit
            cases hbefore
            exact Or.inl hfail
        | cons t₁ before =>
            obtain ⟨rfl, rfl⟩ := List.cons.inj hsplit
            obtain ⟨c₁, hc₁, hc'⟩ := Checked.bind_eq_ok_iff.mp hbefore
            exact Or.inr ⟨c₁, hc₁, before, t', after, c', rfl, hc', hfail⟩

/-! ### The position to blame -/

/-- What is wrong at a position. -/
inductive Rejects (ts : List Table) (i : Nat) : Halt BuildError → Prop where
  /-- The table makes no bot. -/
  | table {t : Table} {halt : Halt BuildError} (found : ts[i]? = some t)
      (failed : t.assemble = .error halt) : Rejects ts i halt
  /-- It makes one, but an earlier table has a name with the same code. -/
  | code {t other : Table} {b : Bot} {j : Nat} (found : ts[i]? = some t)
      (made : t.assemble = .ok b) (earlier : j < i) (taker : ts[j]? = some other)
      (same : Code.ofName other.book.name = Code.ofName t.book.name) :
      Rejects ts i (.refused {
        bot := t.book.name
        spot := .name
        cause := .codeTaken (Code.ofName t.book.name) })

/-- Nothing is wrong among tables that make a catalog, whatever comes behind them. -/
theorem not_rejects_of_ofTables {before after : List Table} (h : ofTables before = .ok c)
    {j : Nat} (hj : j < before.length) : ¬ Rejects (before ++ after) j halt := by
  obtain ⟨hall, hnodup⟩ := exists_ofTables_eq_ok_iff.mp ⟨c, h⟩
  have hbefore : ∀ k, k ≤ j → (before ++ after)[k]? = before[k]? := by
    intro k hk
    exact List.getElem?_append_left (by omega)
  intro hreject
  cases hreject with
  | table found failed =>
      rw [hbefore j (Nat.le_refl j)] at found
      obtain ⟨b, hb⟩ := hall _ (List.mem_of_getElem? found)
      cases hb.symm.trans failed
  | @code t other b k found made earlier taker same =>
      rw [hbefore j (Nat.le_refl j)] at found
      rw [hbefore k (by omega)] at taker
      have hcodes : (before.map fun t => Code.ofName t.book.name)[k]? =
          (before.map fun t => Code.ofName t.book.name)[j]? := by
        rw [List.getElem?_map, List.getElem?_map, found, taker, Option.map_some, Option.map_some,
          same]
      have hkj := (List.getElem?_inj (by rw [List.length_map]; omega) hnodup).mp hcodes
      omega

/-- A table that cannot be entered is what is wrong at its position. -/
theorem rejects_of_enter {before after : List Table} (h : ofTables before = .ok c)
    (hfail : c.enter t = .error halt) : Rejects (before ++ t :: after) before.length halt := by
  have hfound : (before ++ t :: after)[before.length]? = some t := by simp
  rcases enter_eq_error_iff.mp hfail with hfailed | ⟨⟨b, hb⟩, hmem, rfl⟩
  · exact .table hfound hfailed
  · rw [codes, codes_of_made (ofTables_eq_ok_iff.mp h)] at hmem
    obtain ⟨other, hother, hsame⟩ := List.mem_map.mp hmem
    obtain ⟨j, hj, hget⟩ := List.getElem_of_mem hother
    have htaker : (before ++ t :: after)[j]? = some other := by
      rw [List.getElem?_append_left hj, List.getElem?_eq_getElem hj, hget]
    exact .code hfound hb hj htaker hsame

theorem rejects_of_ofTables (h : ofTables ts = .error halt) :
    ∃ i, Rejects ts i halt ∧ ∀ j < i, ∀ halt', ¬ Rejects ts j halt' := by
  obtain ⟨before, t, after, c, rfl, hbefore, hfail⟩ := addTables_eq_error_iff.mp h
  refine ⟨before.length, rejects_of_enter hbefore hfail, ?_⟩
  intro j hj halt'
  exact not_rejects_of_ofTables hbefore hj

/-! ### Texts -/

section Texts

variable [Yaml.Reader]

theorem ofTexts_eq_unreadable_iff {texts : List String} {f : Fault} :
    ofTexts texts = .error (.unreadable f) ↔ ∃ before text after,
      texts = before ++ text :: after ∧ (∀ s ∈ before, ∃ t, Table.ofText s = .ok t) ∧
        Table.ofText text = .error f := by
  rw [← Checked.mapM_eq_error_iff, ofTexts, Checked.bind_eq_error_iff]
  refine ⟨?_, ?_⟩
  · intro h
    rcases h with hread | ⟨ts, -, hbuild⟩
    · obtain ⟨f', hf', hunreadable⟩ := Checked.mapError_eq_error_iff.mp hread
      cases hunreadable
      exact hf'
    · obtain ⟨halt, -, hhalt⟩ := Checked.mapError_eq_error_iff.mp hbuild
      cases halt with
      | overflow => cases hhalt
      | refused e => cases hhalt
  · intro h
    exact Or.inl (Checked.mapError_eq_error_iff.mpr ⟨f, h, rfl⟩)

/-- Texts that hold tables make the catalog of the tables, or fail as the tables do. -/
theorem ofTexts_of_readable {texts : List String} (h : texts.map Table.ofText = ts.map Except.ok) :
    ofTexts texts = match ofTables ts with
      | .ok c => .ok c
      | .error (.refused e) => .error (.unbuildable e)
      | .error .overflow => .error .overflow := by
  have hread : ofTexts texts = build ts := by
    rw [ofTexts, Checked.mapM_eq_ok_iff.mpr h]
    rfl
  rw [hread, build]
  cases ofTables ts with
  | ok c => rfl
  | error halt =>
      cases halt with
      | refused e => rfl
      | overflow => rfl

/--
**A catalog is built from all its tables or not at all.**  It is built if every table makes a
bot and no two names have the same code, and then its bots are those of the tables, one by
one and in order, with the codes of their names.  Otherwise it fails with what is wrong at
the least position where anything is.  If the tables are to be read from texts, the first
text that cannot be read is the answer, whatever is wrong with the tables before it; and if all
can be read, the texts make what their tables make.
-/
theorem built_all_or_nothing (ts : List Table) (texts : List String) :
    ((∃ c, ofTables ts = .ok c) ↔
      (∀ t ∈ ts, ∃ b, t.assemble = .ok b) ∧
        (ts.map fun t => Code.ofName t.book.name).Nodup) ∧
    (∀ c, ofTables ts = .ok c → ts.map Table.assemble = c.bots.map Except.ok ∧
      ∀ i, c.code? i = ts[i]?.map fun t => Code.ofName t.book.name) ∧
    (∀ halt, ofTables ts = .error halt →
      ∃ i, Rejects ts i halt ∧ ∀ j < i, ∀ halt', ¬ Rejects ts j halt') ∧
    (∀ f, ofTexts texts = .error (.unreadable f) ↔ ∃ before text after,
      texts = before ++ text :: after ∧ (∀ s ∈ before, ∃ t, Table.ofText s = .ok t) ∧
        Table.ofText text = .error f) ∧
    (texts.map Table.ofText = ts.map Except.ok →
      ofTexts texts = match ofTables ts with
        | .ok c => .ok c
        | .error (.refused e) => .error (.unbuildable e)
        | .error .overflow => .error .overflow) := by
  refine ⟨exists_ofTables_eq_ok_iff, ?_, fun _ => rejects_of_ofTables,
    fun _ => ofTexts_eq_unreadable_iff, ofTexts_of_readable⟩
  intro c hc
  have hmade := ofTables_eq_ok_iff.mp hc
  refine ⟨hmade, fun i => ?_⟩
  rw [code?, ← List.getElem?_map, codes_of_made hmade, List.getElem?_map]

end Texts

end Catalog

end Sparring
