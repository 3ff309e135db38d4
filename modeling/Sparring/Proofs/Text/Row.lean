/-
Rows of words with single blanks between them.

A row of words that hold no blank themselves can be cut into its words again
(`eq_of_intercalate_eq`).  Often the words come in blocks, some of which are left out, and
nothing but the words says which.  If the first word of a block tells what the block is of, two
equal rows have the same blocks (`eq_of_flatMap_eq`).

Many of the words are numerals: digits, perhaps with a sign, and nothing else.
-/
import Mathlib

namespace Sparring.Text

/-! ### Rows of words -/

/-- Words behind another, each with a blank in front. -/
def spaced : List String → String
  | [] => ""
  | w :: ws => " " ++ w ++ spaced ws

theorem spaced_append (ws vs : List String) : spaced (ws ++ vs) = spaced ws ++ spaced vs := by
  induction ws with
  | nil => simp [spaced]
  | cons w ws ih => simp [spaced, ih, String.append_assoc]

theorem intercalate_cons_eq_spaced (w : String) (ws : List String) :
    " ".intercalate (w :: ws) = w ++ spaced ws := by
  induction ws generalizing w with
  | nil => simp [spaced]
  | cons v ws ih => rw [String.intercalate_cons_cons, ih, spaced, String.append_assoc,
      String.append_assoc]

/-- A row of words without blanks can be cut into its words again. -/
theorem eq_of_intercalate_eq {ws vs : List String} (hws : ∀ w ∈ ws, ' ' ∉ w.toList)
    (hvs : ∀ v ∈ vs, ' ' ∉ v.toList) (hws' : ws ≠ []) (hvs' : vs ≠ [])
    (h : " ".intercalate ws = " ".intercalate vs) : ws = vs := by
  have hcut : ∀ us : List String, (∀ u ∈ us, ' ' ∉ u.toList) → us ≠ [] →
      (" ".intercalate us).toList.splitOn ' ' = us.map String.toList := by
    intro us hus hne
    rw [String.toList_intercalate]
    refine List.splitOn_intercalate ' ' ?_ (by simpa using hne)
    intro l hl
    obtain ⟨u, hu, rfl⟩ := List.mem_map.mp hl
    exact hus u hu
  have hmap : ws.map String.toList = vs.map String.toList := by
    rw [← hcut ws hws hws', h, hcut vs hvs hvs']
  exact List.map_injective_iff.mpr (fun _ _ => String.toList_inj.mp) hmap

/-! ### Blocks told by their first words -/

section Blocks

variable {α β : Type} {tag : β → α} {f g : α → List β} {l : List α} {a : α} {b : β} {bs : List β}

/-- The first word of every block tells what the block is of. -/
def Told (tag : β → α) (f : α → List β) : Prop := ∀ a b bs, f a = b :: bs → tag b = a

theorem exists_block_of_flatMap_eq (h : l.flatMap f = b :: bs) :
    ∃ a ∈ l, ∃ rest, f a = b :: rest := by
  induction l with
  | nil => cases h
  | cons a l ih =>
      cases hblock : f a with
      | nil =>
          rw [List.flatMap_cons, hblock, List.nil_append] at h
          obtain ⟨a', ha', hrest⟩ := ih h
          exact ⟨a', List.mem_cons_of_mem a ha', hrest⟩
      | cons b' rest =>
          rw [List.flatMap_cons, hblock, List.cons_append] at h
          obtain ⟨rfl, -⟩ := List.cons.inj h
          exact ⟨a, List.mem_cons_self, rest, hblock⟩

/-- A block that is left out of one of two equal rows is left out of the other. -/
theorem block_eq_nil (hf : Told tag f) (hg : Told tag g) (ha : a ∉ l)
    (h : l.flatMap f = g a ++ l.flatMap g) : g a = [] := by
  cases hother : g a with
  | nil => rfl
  | cons b bs =>
      rw [hother, List.cons_append] at h
      obtain ⟨a', ha', rest, hrest⟩ := exists_block_of_flatMap_eq h
      have htag : a' = a := (hf a' b rest hrest).symm.trans (hg a b bs hother)
      exact absurd (htag ▸ ha') ha

/-- Two equal rows of blocks have the same blocks. -/
theorem eq_of_flatMap_eq (hf : Told tag f) (hg : Told tag g)
    (hlength : ∀ a, f a ≠ [] → g a ≠ [] → (f a).length = (g a).length) (hl : l.Nodup)
    (h : l.flatMap f = l.flatMap g) : ∀ a ∈ l, f a = g a := by
  induction l with
  | nil => simp
  | cons a l ih =>
      obtain ⟨ha, hl⟩ := List.nodup_cons.mp hl
      rw [List.flatMap_cons, List.flatMap_cons] at h
      -- A block that only one row had would begin, in the other, the block of a later item.
      have hfirst : f a = g a ∧ l.flatMap f = l.flatMap g := by
        by_cases hfa : f a = []
        · rw [hfa, List.nil_append] at h
          have hga : g a = [] := block_eq_nil hf hg ha h
          rw [hga, List.nil_append] at h
          exact ⟨hfa.trans hga.symm, h⟩
        · by_cases hga : g a = []
          · rw [hga, List.nil_append] at h
            exact absurd (block_eq_nil hg hf ha h.symm) hfa
          · exact List.append_inj h (hlength a hfa hga)
      intro a' ha'
      rcases List.mem_cons.mp ha' with rfl | ha'
      · exact hfirst.1
      · exact ih hl hfirst.2 a' ha'

end Blocks

/-! ### Numerals -/

variable {m n : Int} {c : Char}

theorem isDigit_of_mem_numeral (h : c ∈ n.repr.toList) :
    c = '-' ∨ c.isDigit = true := by
  have hnat : ∀ {m : Nat}, c ∈ m.repr.toList → c.isDigit = true := by
    intro m hm
    rw [Nat.toList_repr] at hm
    exact Nat.isDigit_of_mem_toDigits (by decide) (by decide) hm
  rw [Int.repr_eq_if] at h
  split at h
  · exact Or.inr (hnat h)
  · rw [String.toList_append, List.mem_append] at h
    rcases h with h | h
    · exact Or.inl (List.mem_singleton.mp h)
    · exact Or.inr (hnat h)

theorem not_mem_numeral (hsign : c ≠ '-') (hdigit : c.isDigit = false) :
    c ∉ n.repr.toList := by
  intro h
  rcases isDigit_of_mem_numeral h with rfl | h
  · exact hsign rfl
  · rw [hdigit] at h
    cases h

/-- A mark behind a numeral can be told from it by a character that no numeral has. -/
theorem marked_numeral_inj {mark : String} (hmark : c ∈ mark.toList) (hsign : c ≠ '-')
    (hdigit : c.isDigit = false) {p q : Bool}
    (h : m.repr ++ (if p then mark else "") = n.repr ++ (if q then mark else "")) :
    m = n ∧ p = q := by
  have hm : c ∉ m.repr.toList := not_mem_numeral hsign hdigit
  have hn : c ∉ n.repr.toList := not_mem_numeral hsign hdigit
  cases p with
  | true =>
      cases q with
      | true =>
          rw [if_pos rfl, String.append_left_inj, Int.repr_inj] at h
          exact ⟨h, rfl⟩
      | false =>
          rw [if_pos rfl, if_neg Bool.false_ne_true, String.append_empty] at h
          exact absurd (by rw [← h]; simp [hmark]) hn
  | false =>
      cases q with
      | true =>
          rw [if_pos rfl, if_neg Bool.false_ne_true, String.append_empty] at h
          exact absurd (by rw [h]; simp [hmark]) hm
      | false =>
          rw [if_neg Bool.false_ne_true, String.append_empty, String.append_empty,
            Int.repr_inj] at h
          exact ⟨h, rfl⟩

end Sparring.Text
