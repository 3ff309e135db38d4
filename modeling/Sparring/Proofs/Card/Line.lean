/-
A card's line gives away the numbers on it.

Before the first bar the line is a row of words (`line_eq`).  The first is the kind; after it
stand the figures of the card in a fixed order, each of one word or two, and a figure of zero is
left out.  So only the words themselves can tell which figures are there, and they do: no two
figures begin with the same letter (`told_words`).  Then two lines with the same row have the
same words for each figure, and the words of a figure are those of one number only
(`amount_eq_of_words_eq`).

A level is told by as many strokes, so none may be below zero.
-/
import Mathlib
import Sparring.Card.Line
import Sparring.Proofs.Text.Row

namespace Sparring

/-- The numbers on the line of a card. -/
inductive Figure where
  | damage
  /-- Damage of the opener of a combo. -/
  | opener
  | level
  | speed
  | block
  /-- The change of the hand size. -/
  | adjust
deriving DecidableEq, Repr

namespace Figure

/-- Every figure, in the order of the line. -/
def all : List Figure := [damage, opener, level, speed, block, adjust]

theorem mem_all (f : Figure) : f ∈ all := by cases f <;> decide

/-- The number of a card. -/
def amount (c : Card) : Figure → Amount
  | damage => c.damage
  | opener => c.firstDamage
  | level => c.level
  | speed => c.speed
  | block => c.blockDamage
  | adjust => c.adjust

/-- The words for the number of a card. -/
def spelling (c : Card) : Figure → List String
  | damage => [toString c.damage.toInt]
  | opener => ["(" ++ toString c.firstDamage.toInt ++ ")"]
  | level => [String.ofList (List.replicate c.level.toInt.toNat 'I')]
  | speed => ["spd", toString c.speed.toInt ++ (if c.isReversal then "R" else "")]
  | block => ["blk", toString c.blockDamage.toInt]
  | adjust => ["adj", toString c.adjust.toInt ++ (if c.always then "!" else "")]

/-- What stands on the line of a card for the figure. -/
def words (c : Card) (f : Figure) : List String :=
  if f.amount c = 0 then [] else f.spelling c

variable {c d : Card} {f : Figure}

theorem words_of_zero (h : f.amount c = 0) : f.words c = [] := if_pos h

theorem words_of_ne_zero (h : f.amount c ≠ 0) : f.words c = f.spelling c := if_neg h

theorem spelling_ne_nil (c : Card) (f : Figure) : f.spelling c ≠ [] := by
  cases f <;> exact List.cons_ne_nil _ _

theorem words_eq_nil_iff : f.words c = [] ↔ f.amount c = 0 := by
  refine ⟨?_, words_of_zero⟩
  intro h
  by_contra hne
  rw [words_of_ne_zero hne] at h
  exact spelling_ne_nil c f h

/-- The figure whose words begin with a word. -/
def ofWord (w : String) : Figure :=
  match w.toList.head? with
  | some '(' => opener
  | some 'I' => level
  | some 's' => speed
  | some 'b' => block
  | some 'a' => adjust
  | _ => damage

end Figure

namespace Card

open Text

variable {c d : Card} {f : Figure}

/-- The words before the first bar. -/
def words (c : Card) : List String := c.kind.title :: Figure.all.flatMap (Figure.words c)

/-! ### The line is a row of words -/

theorem head_eq (c : Card) :
    c.head = c.kind.title ++ spaced (Figure.words c .damage ++ Figure.words c .opener) := by
  have hdamage : spaced (Figure.words c .damage) =
      if c.damage = 0 then "" else " " ++ toString c.damage.toInt := by
    rw [Figure.words, Figure.amount]
    split <;> simp [spaced, Figure.spelling]
  have hopener : spaced (Figure.words c .opener) =
      if c.firstDamage = 0 then "" else " (" ++ toString c.firstDamage.toInt ++ ")" := by
    rw [Figure.words, Figure.amount]
    split <;> simp [spaced, Figure.spelling, ← String.append_assoc]
  rw [spaced_append, hdamage, hopener, ← String.append_assoc, head]

/-- A figure that is written with its name is two words. -/
theorem spaced_named {p : Prop} [Decidable p] {written name number : String}
    (h : written = name ++ " " ++ number) :
    spaced (if p then [] else [written]) = spaced (if p then [] else [name, number]) := by
  subst h
  split <;> simp [spaced, String.append_assoc]

theorem spaced_figures (c : Card) :
    spaced c.figures = spaced (Figure.words c .level ++ Figure.words c .speed ++
      Figure.words c .block ++ Figure.words c .adjust) := by
  have hspeed : "spd " ++ toString c.speed.toInt ++ (if c.isReversal then "R" else "") =
      "spd" ++ " " ++ (toString c.speed.toInt ++ (if c.isReversal then "R" else "")) := by
    rw [← String.append_assoc]
    rfl
  have hadjust : "adj " ++ toString c.adjust.toInt ++ (if c.always then "!" else "") =
      "adj" ++ " " ++ (toString c.adjust.toInt ++ (if c.always then "!" else "")) := by
    rw [← String.append_assoc]
    rfl
  have hblock : "blk " ++ toString c.blockDamage.toInt =
      "blk" ++ " " ++ toString c.blockDamage.toInt := rfl
  rw [figures, spaced_append, spaced_append, spaced_append, spaced_named hspeed,
    spaced_named hblock, spaced_named hadjust, ← spaced_append, ← spaced_append, ← spaced_append]
  rfl

theorem intercalate_head_figures (c : Card) :
    " ".intercalate (c.head :: c.figures) = " ".intercalate c.words := by
  rw [intercalate_cons_eq_spaced, head_eq, spaced_figures, String.append_assoc, ← spaced_append,
    words, intercalate_cons_eq_spaced]
  simp [Figure.all]

theorem line_eq (c : Card) :
    c.line = " ".intercalate c.words ++
      ((if c.description = "" then "" else " | " ++ c.description) ++
        (if c.labels = [] then "" else " | " ++ " ".intercalate c.labels)) := by
  rw [line, intercalate_head_figures, String.append_assoc]

/-! ### Its words -/

theorem title_inj {k k' : Kind} : k.title = k'.title ↔ k = k' := by
  refine ⟨?_, congrArg Kind.title⟩
  have hnodup : (Kind.all.map Kind.title).Nodup := by decide
  have hall : ∀ k : Kind, k ∈ Kind.all := by
    intro k
    cases k <;> decide
  exact List.inj_on_of_nodup_map hnodup (hall k) (hall k')

theorem blank_not_mem_spelling (c : Card) (f : Figure) :
    ∀ w ∈ f.spelling c, ' ' ∉ w.toList := by
  have hnumeral : ∀ n : Int, ' ' ∉ n.repr.toList := by
    intro n
    exact not_mem_numeral (by decide) (by decide)
  cases f with
  | damage => simp [Figure.spelling, hnumeral]
  | opener => simp [Figure.spelling, hnumeral]
  | level => simp [Figure.spelling]
  | speed =>
      by_cases h : c.isReversal = true
      · simp [Figure.spelling, hnumeral, h]
      · simp [Figure.spelling, hnumeral, h]
  | block => simp [Figure.spelling, hnumeral]
  | adjust =>
      by_cases h : c.always = true
      · simp [Figure.spelling, hnumeral, h]
      · simp [Figure.spelling, hnumeral, h]

theorem blank_not_mem_words (c : Card) : ∀ w ∈ c.words, ' ' ∉ w.toList := by
  intro w hw
  rcases List.mem_cons.mp hw with rfl | hw
  · cases c.kind <;> decide
  · obtain ⟨f, -, hf⟩ := List.mem_flatMap.mp hw
    by_cases hzero : f.amount c = 0
    · rw [Figure.words_of_zero hzero] at hf
      cases hf
    · rw [Figure.words_of_ne_zero hzero] at hf
      exact blank_not_mem_spelling c f w hf

theorem ofWord_numeral (n : Int) : Figure.ofWord n.repr = .damage := by
  have hhead : ∀ {c : Char}, n.repr.toList.head? = some c → c = '-' ∨ c.isDigit = true :=
    fun h => isDigit_of_mem_numeral (List.mem_of_head? h)
  unfold Figure.ofWord
  split
  next h => exact absurd (hhead h) (by decide)
  next h => exact absurd (hhead h) (by decide)
  next h => exact absurd (hhead h) (by decide)
  next h => exact absurd (hhead h) (by decide)
  next h => exact absurd (hhead h) (by decide)
  next => rfl

/-- The first word for a number tells which it is. -/
theorem ofWord_spelling (hlevel : 0 ≤ c.level.toInt) (hamount : f.amount c ≠ 0) :
    (f.spelling c).head?.map Figure.ofWord = some f := by
  cases f with
  | damage => exact congrArg some (ofWord_numeral c.damage.toInt)
  | opener => simp [Figure.spelling, Figure.ofWord]
  | level =>
      have hne : c.level.toInt ≠ 0 := fun hzero => hamount (Int32.toInt_inj.mp hzero)
      obtain ⟨n, hn⟩ : ∃ n, c.level.toInt.toNat = n + 1 :=
        Nat.exists_eq_add_one_of_ne_zero (by omega)
      simp [Figure.spelling, Figure.ofWord, hn, List.replicate_succ]
  | speed => rfl
  | block => rfl
  | adjust => rfl

theorem told_words (hlevel : 0 ≤ c.level.toInt) : Told Figure.ofWord (Figure.words c) := by
  intro f w ws h
  have hamount : f.amount c ≠ 0 := by
    intro hzero
    rw [Figure.words_of_zero hzero] at h
    cases h
  have htold := ofWord_spelling hlevel hamount
  rw [← Figure.words_of_ne_zero hamount, h] at htold
  exact Option.some.inj htold

theorem length_words_eq (hc : f.words c ≠ []) (hd : f.words d ≠ []) :
    (f.words c).length = (f.words d).length := by
  rw [Figure.words_of_ne_zero (mt Figure.words_of_zero hc),
    Figure.words_of_ne_zero (mt Figure.words_of_zero hd)]
  -- The words differ from card to card, so the two lengths must not be evaluated.
  cases f <;> simp only [Figure.spelling, List.length_cons, List.length_nil]

/-- The row of words says what stands on the line for each figure. -/
theorem words_eq_iff (hc : 0 ≤ c.level.toInt) (hd : 0 ≤ d.level.toInt) :
    c.words = d.words ↔ c.kind = d.kind ∧ ∀ f : Figure, f.words c = f.words d := by
  rw [words, words, List.cons.injEq, title_inj]
  refine and_congr_right fun _ => ⟨?_, ?_⟩
  · intro h f
    exact eq_of_flatMap_eq (told_words hc) (told_words hd) (fun f => length_words_eq) (by decide) h
      f f.mem_all
  · intro h
    exact congrArg Figure.all.flatMap (funext h)

/-! ### Their numbers -/

/-- The same words for a figure are for the same number. -/
theorem amount_eq_of_spelling_eq (hc : 0 ≤ c.level.toInt) (hd : 0 ≤ d.level.toInt)
    (h : f.spelling c = f.spelling d) : f.amount c = f.amount d := by
  cases f with
  | damage =>
      have hwords := List.singleton_inj.mp h
      exact Int32.toInt_inj.mp (Int.repr_inj.mp hwords)
  | opener =>
      have hwords := List.singleton_inj.mp h
      rw [String.append_left_inj, String.append_right_inj] at hwords
      exact Int32.toInt_inj.mp (Int.repr_inj.mp hwords)
  | level =>
      have hstrokes := congrArg List.length (String.ofList_inj.mp (List.singleton_inj.mp h))
      rw [List.length_replicate, List.length_replicate] at hstrokes
      have hlevel : c.level.toInt = d.level.toInt := by omega
      exact Int32.toInt_inj.mp hlevel
  | speed =>
      have hwords := List.singleton_inj.mp (List.cons.inj h).2
      have hboth := marked_numeral_inj (c := 'R') (by decide) (by decide) (by decide) hwords
      exact Int32.toInt_inj.mp hboth.1
  | block =>
      have hwords := List.singleton_inj.mp (List.cons.inj h).2
      exact Int32.toInt_inj.mp (Int.repr_inj.mp hwords)
  | adjust =>
      have hwords := List.singleton_inj.mp (List.cons.inj h).2
      have hboth := marked_numeral_inj (c := '!') (by decide) (by decide) (by decide) hwords
      exact Int32.toInt_inj.mp hboth.1

theorem amount_eq_of_words_eq (hc : 0 ≤ c.level.toInt) (hd : 0 ≤ d.level.toInt)
    (h : f.words c = f.words d) : f.amount c = f.amount d := by
  by_cases hzero : f.amount c = 0
  · rw [Figure.words_of_zero hzero] at h
    rw [hzero, Figure.words_eq_nil_iff.mp h.symm]
  · have hzero' : f.amount d ≠ 0 := by
      rwa [Ne, ← Figure.words_eq_nil_iff, ← h, Figure.words_eq_nil_iff]
    rw [Figure.words_of_ne_zero hzero, Figure.words_of_ne_zero hzero'] at h
    exact amount_eq_of_spelling_eq hc hd h

theorem always_eq_of_spelling_eq (h : Figure.spelling c .adjust = Figure.spelling d .adjust) :
    c.always = d.always := by
  have hwords := List.singleton_inj.mp (List.cons.inj h).2
  exact (marked_numeral_inj (c := '!') (by decide) (by decide) (by decide) hwords).2

/-- The words for a figure depend on nothing but its number, and for the hand-size change on
whether it is made in any case. -/
theorem words_congr (hamount : f.amount c = f.amount d)
    (halways : c.adjust ≠ 0 → c.always = d.always) : f.words c = f.words d := by
  by_cases hzero : f.amount c = 0
  · rw [Figure.words_of_zero hzero, Figure.words_of_zero (hamount ▸ hzero)]
  · rw [Figure.words_of_ne_zero hzero, Figure.words_of_ne_zero (hamount ▸ hzero)]
    cases f with
    | damage =>
        have heq : c.damage = d.damage := hamount
        simp only [Figure.spelling, heq]
    | opener =>
        have heq : c.firstDamage = d.firstDamage := hamount
        simp only [Figure.spelling, heq]
    | level =>
        have heq : c.level = d.level := hamount
        simp only [Figure.spelling, heq]
    | speed =>
        have heq : c.speed = d.speed := hamount
        have hreversal : c.isReversal = d.isReversal := by
          rw [Attributes.isReversal, Attributes.isReversal, heq]
        simp only [Figure.spelling, heq, hreversal]
    | block =>
        have heq : c.blockDamage = d.blockDamage := hamount
        simp only [Figure.spelling, heq]
    | adjust =>
        have heq : c.adjust = d.adjust := hamount
        simp only [Figure.spelling, heq, halways hzero]

/-- Two rows of words are equal if the cards have the same kind and the same numbers. -/
theorem words_eq_iff_amounts_eq (hc : 0 ≤ c.level.toInt) (hd : 0 ≤ d.level.toInt) :
    c.words = d.words ↔ (c.kind = d.kind ∧ ∀ f : Figure, f.amount c = f.amount d) ∧
      (c.adjust ≠ 0 → c.always = d.always) := by
  rw [words_eq_iff hc hd]
  refine ⟨?_, ?_⟩
  · intro h
    obtain ⟨hkind, hwords⟩ := h
    have hamount : ∀ f : Figure, f.amount c = f.amount d := fun f =>
      amount_eq_of_words_eq hc hd (hwords f)
    refine ⟨⟨hkind, hamount⟩, fun hadjust => ?_⟩
    have hspelling := hwords .adjust
    have hadjust' : d.adjust ≠ 0 := fun hzero => hadjust ((hamount .adjust).trans hzero)
    rw [Figure.words_of_ne_zero (f := .adjust) hadjust,
      Figure.words_of_ne_zero (f := .adjust) hadjust'] at hspelling
    exact always_eq_of_spelling_eq hspelling
  · intro h
    obtain ⟨⟨hkind, hamount⟩, halways⟩ := h
    exact ⟨hkind, fun f => words_congr (hamount f) halways⟩

theorem amounts_eq_iff :
    (∀ f : Figure, f.amount c = f.amount d) ↔
      c.damage = d.damage ∧ c.firstDamage = d.firstDamage ∧ c.level = d.level ∧
        c.speed = d.speed ∧ c.blockDamage = d.blockDamage ∧ c.adjust = d.adjust := by
  refine ⟨?_, ?_⟩
  · intro h
    exact ⟨h .damage, h .opener, h .level, h .speed, h .block, h .adjust⟩
  · intro h f
    obtain ⟨hdamage, hopener, hlevel, hspeed, hblock, hadjust⟩ := h
    cases f <;> assumption

/-- **What stands on the line can be read off it.**  If two cards have the same description and
the same labels, and no level is below zero, then their lines are equal exactly if they have the
same kind and the same numbers, and change the hand in the same cases if they change it. -/
theorem lines_agree_iff (hc : 0 ≤ c.level.toInt) (hd : 0 ≤ d.level.toInt)
    (hdescription : c.description = d.description) (hlabels : c.labels = d.labels) :
    c.line = d.line ↔
      (c.kind = d.kind ∧ c.damage = d.damage ∧ c.firstDamage = d.firstDamage ∧
        c.level = d.level ∧ c.speed = d.speed ∧ c.blockDamage = d.blockDamage ∧
        c.adjust = d.adjust) ∧ (c.adjust ≠ 0 → c.always = d.always) := by
  rw [line_eq, line_eq, hdescription, hlabels, String.append_left_inj, ← amounts_eq_iff,
    ← words_eq_iff_amounts_eq hc hd]
  refine ⟨?_, congrArg _⟩
  exact eq_of_intercalate_eq (blank_not_mem_words c) (blank_not_mem_words d)
    (List.cons_ne_nil _ _) (List.cons_ne_nil _ _)

/-- A projectile that costs two cards even when it whiffs. -/
def spent : Card := { kind := .projectile, damage := -3, level := 2, adjust := -2, always := true }

/-- The same, but costing nothing when it whiffs. -/
def spared : Card := { spent with always := false }

/-- The lines of the two are not the same. -/
theorem lines_agree_iff_whiffed :
    0 ≤ spent.level.toInt ∧ 0 ≤ spared.level.toInt ∧ spent.description = spared.description ∧
      spent.labels = spared.labels ∧ spent.adjust ≠ 0 ∧ spent.line ≠ spared.line := by
  have hlevel : 0 ≤ spent.level.toInt := by decide
  have hlevel' : 0 ≤ spared.level.toInt := by decide
  have hadjust : spent.adjust ≠ 0 := by decide
  refine ⟨hlevel, hlevel', rfl, rfl, hadjust, fun hline => ?_⟩
  have halways := ((lines_agree_iff hlevel hlevel' rfl rfl).mp hline).2 hadjust
  exact Bool.noConfusion halways

-- Strokes cannot tell levels below zero apart.
example :
    let low : Card := { kind := .strike, level := -1 }
    low.line = Card.line { low with level := -2 } := by
  decide +kernel

end Card

end Sparring
