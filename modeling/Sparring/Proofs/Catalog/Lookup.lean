/-
Whoever asks a catalog for a bot gets that bot and no other.

A bot can be asked for by its position, by its code, or by any text that has the same code,
its full name among them.  A code finds the first bot that has it; as no two bots of a
catalog have the same code, the first is the only one, and `position?_code_eq_some_iff` says
so in both directions.  A code is its own code, so asking for a code as a catalog lists it is
one case of this.

Everything a catalog tells about a position it tells about the same bot.
-/
import Sparring.Catalog.Basic
import Sparring.Proofs.Catalog.Code

namespace Sparring.Catalog

variable {c : Catalog} {i : Nat} {b : Bot}

theorem code?_of_bots (h : c.bots[i]? = some b) : c.code? i = some b.code := by
  rw [code?, h, Option.map_some]

theorem lt_size_of_code? {code : String} (h : c.code? i = some code) : i < c.size := by
  obtain ⟨b, hb, -⟩ := Option.map_eq_some_iff.mp h
  exact (List.getElem?_eq_some_iff.mp hb).1

/-! ### Positions -/

/-- A code is found at the one position that has it. -/
theorem position?_code_eq_some_iff {text : String} :
    c.position? (.code text) = some i ↔ c.code? i = some (Code.ofName text) := by
  have hcodes : c.code? i = (c.bots.map (·.code))[i]? := by rw [code?, List.getElem?_map]
  simp only [position?, List.findIdx?_eq_some_iff_getElem, decide_eq_true_eq]
  refine ⟨?_, ?_⟩
  · intro h
    obtain ⟨hi, hfound, -⟩ := h
    rw [code?, List.getElem?_eq_getElem hi, Option.map_some, hfound]
  · intro h
    have hi : i < c.bots.length := lt_size_of_code? h
    have hfound : c.bots[i].code = Code.ofName text := by
      rw [code?, List.getElem?_eq_getElem hi, Option.map_some, Option.some.injEq] at h
      exact h
    refine ⟨hi, hfound, ?_⟩
    intro j hji hj
    -- An earlier bot with this code would share it with the one at `i`.
    have hsame : (c.bots.map (·.code))[j]? = (c.bots.map (·.code))[i]? := by
      rw [← hcodes, h, List.getElem?_map, List.getElem?_eq_getElem (by omega), Option.map_some, hj]
    have hij := (List.getElem?_inj (by rw [List.length_map]; omega) c.nodup).mp hsame
    omega

theorem position?_index_eq_some_iff {n : Nat} :
    c.position? (.index n) = some i ↔ n = i ∧ i < c.size := by
  show (if n < c.size then some n else none) = some i ↔ n = i ∧ i < c.size
  by_cases hn : n < c.size
  · rw [if_pos hn, Option.some.injEq]
    exact ⟨fun h => ⟨h, h ▸ hn⟩, fun h => h.1⟩
  · rw [if_neg hn]
    refine ⟨?_, ?_⟩
    · intro h
      cases h
    · intro h
      obtain ⟨rfl, hi⟩ := h
      exact absurd hi hn

/-- Any text with the code of a bot finds the bot. -/
theorem position?_of_code_eq {text : String} (hb : c.bots[i]? = some b)
    (htext : Code.ofName text = b.code) : c.position? (.code text) = some i := by
  rw [position?_code_eq_some_iff, htext]
  exact code?_of_bots hb

/-! ### What stands at a position -/

theorem get?_of_position? {id : BotId} (h : c.position? id = some i) : c.get? id = c.bots[i]? := by
  rw [get?, h, Option.bind_some]

theorem get?_index (c : Catalog) (i : Nat) : c.get? (.index i) = c.bots[i]? := by
  by_cases hi : i < c.size
  · exact get?_of_position? (position?_index_eq_some_iff.mpr ⟨rfl, hi⟩)
  · have hnone : c.position? (.index i) = none := if_neg hi
    rw [get?, hnone, Option.bind_none]
    exact (List.getElem?_eq_none (Nat.le_of_not_lt hi)).symm

theorem summaries_getElem? (c : Catalog) (i : Nat) :
    c.summaries[i]? = c.bots[i]?.map fun b =>
      { index := i, code := b.code, name := b.name, difficulty := b.difficulty } := by
  rw [summaries, List.getElem?_mapIdx]

/--
**A text is found at a position if and only if the bot there has its code.**  So a bot is
found under its code, under its name and under every other spelling of them, and no other
bot is; a position is found if there is a bot at it; and the bot that is got, its code, its
place in the list and its summary belong together.
-/
theorem found_by_code (c : Catalog) (text : String) (i : Nat) :
    (c.position? (.code text) = some i ↔
      i < c.size ∧ c.code? i = some (Code.ofName text)) ∧
    (∀ b, c.bots[i]? = some b →
      c.position? (.code b.code) = some i ∧ c.position? (.code b.name) = some i ∧
      (Code.ofName text = b.code → c.position? (.code text) = some i ∧
        c.get? (.code text) = some b)) ∧
    (c.position? (.index i) = some i ↔ i < c.size) ∧
    (c.get? (.index i) = c.bots[i]? ∧
      c.code? i = c.bots[i]?.map (fun b => Code.ofName b.name) ∧
      c.names[i]? = c.bots[i]?.map (·.name) ∧
      c.summaries[i]? = c.bots[i]?.map fun b => {
        index := i, code := Code.ofName b.name, name := b.name, difficulty := b.difficulty }) := by
  refine ⟨?_, ?_, ?_, get?_index c i, rfl, List.getElem?_map, summaries_getElem? c i⟩
  · rw [position?_code_eq_some_iff]
    exact ⟨fun h => ⟨lt_size_of_code? h, h⟩, fun h => h.2⟩
  · intro b hb
    have hcode : Code.ofName b.code = b.code := Code.ofName_ofName b.name
    refine ⟨position?_of_code_eq hb hcode, position?_of_code_eq hb rfl, ?_⟩
    intro htext
    have hposition := position?_of_code_eq hb htext
    exact ⟨hposition, by rw [get?_of_position? hposition, hb]⟩
  · rw [position?_index_eq_some_iff]
    exact ⟨fun h => h.2, fun h => ⟨rfl, h⟩⟩

end Sparring.Catalog
