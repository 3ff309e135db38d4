/-
What the code of a name is: its words, joined by hyphens.

`Code.ofName` goes over the name once and decides at every character from what it kept last.
Here its result is said without going over anything: cut the name at everything that is no
ASCII letter or digit, write what lies between the cuts in small letters, drop what is empty
and put one hyphen between the rest (`toList_ofName`).

The words of a code are the words it was made from (`words_joined`), and with that a code is
its own code (`ofName_ofName`).
-/
import Sparring.Catalog.Code

namespace Sparring.Code

/-! ### The characters of a word -/

/-- A small letter or a digit of ASCII. -/
def IsWordChar (c : Char) : Prop := ('a' ≤ c ∧ c ≤ 'z') ∨ ('0' ≤ c ∧ c ≤ '9')

theorem isWordChar_iff {c : Char} :
    IsWordChar c ↔ (97 ≤ c.toNat ∧ c.toNat ≤ 122) ∨ (48 ≤ c.toNat ∧ c.toNat ≤ 57) := Iff.rfl

theorem isAlphanum_iff {c : Char} :
    c.isAlphanum = true ↔ (65 ≤ c.toNat ∧ c.toNat ≤ 90) ∨ IsWordChar c := by
  have hclasses : c.isAlphanum = ((c.isUpper || c.isLower) || c.isDigit) := rfl
  have hupper : c.isUpper = true ↔ 'A'.toNat ≤ c.toNat ∧ c.toNat ≤ 'Z'.toNat := decide_eq_true_iff
  have hlower : c.isLower = true ↔ 'a'.toNat ≤ c.toNat ∧ c.toNat ≤ 'z'.toNat :=
    (Bool.and_eq_true_iff).trans (and_congr decide_eq_true_iff decide_eq_true_iff)
  rw [hclasses, Bool.or_eq_true, Bool.or_eq_true, hupper, hlower, Char.isDigit_iff_toNat]
  show ((65 ≤ c.toNat ∧ c.toNat ≤ 90) ∨ (97 ≤ c.toNat ∧ c.toNat ≤ 122)) ∨
    (48 ≤ c.toNat ∧ c.toNat ≤ 57) ↔ _
  rw [isWordChar_iff]
  omega

theorem toNat_toLower (c : Char) :
    c.toLower.toNat = if 65 ≤ c.toNat ∧ c.toNat ≤ 90 then c.toNat + 32 else c.toNat := by
  unfold Char.toLower
  split
  · rename_i h
    have hupper : 65 ≤ c.toNat ∧ c.toNat ≤ 90 := h
    rw [if_pos hupper]
    show (c.val + 32).toNat = c.toNat + 32
    rw [UInt32.toNat_add]
    show (c.toNat + 32) % 4294967296 = c.toNat + 32
    omega
  · rename_i h
    exact (if_neg h).symm

theorem isWordChar_toLower {c : Char} (h : c.isAlphanum = true) : IsWordChar c.toLower := by
  rw [isAlphanum_iff, isWordChar_iff] at h
  rw [isWordChar_iff, toNat_toLower]
  split <;> omega

namespace IsWordChar

variable {c : Char}

theorem toLower_eq (h : IsWordChar c) : c.toLower = c := by
  rw [isWordChar_iff] at h
  rw [← Char.toNat_inj, toNat_toLower, if_neg (by omega)]

theorem isAlphanum (h : IsWordChar c) : c.isAlphanum = true := isAlphanum_iff.mpr (Or.inr h)

theorem ne_hyphen (h : IsWordChar c) : c ≠ '-' := by
  intro heq
  subst heq
  exact absurd h.isAlphanum (by decide)

end IsWordChar

/-! ### Words -/

/-- Does a character stand between words? -/
def separates (c : Char) : Bool := !c.isAlphanum

/-- What remains of a list of cuttings: in small letters, without the empty ones. -/
def wordsOf (cuttings : List (List Char)) : List (List Char) :=
  (cuttings.map fun w => w.map Char.toLower).filter (· ≠ [])

/-- The words of a text. -/
def words (cs : List Char) : List (List Char) := wordsOf (cs.splitOnP separates)

/-- The runs of letters and digits of a text, as they stand there. -/
def runs (cs : List Char) : List (List Char) := (cs.splitOnP separates).filter (· ≠ [])

theorem words_eq_map_runs (cs : List Char) :
    words cs = (runs cs).map fun run => run.map Char.toLower := by
  simp [words, wordsOf, runs, List.filter_map, Function.comp_def]

/-- Words with a hyphen between each two. -/
def joined (ws : List (List Char)) : List Char := ['-'].intercalate ws

/-- A word: not empty, and of small letters and digits. -/
structure IsWord (w : List Char) : Prop where
  ne_nil : w ≠ []
  chars : ∀ c ∈ w, IsWordChar c

theorem joined_cons (w : List Char) (ws : List (List Char)) :
    joined (w :: ws) = w ++ ws.flatMap ('-' :: ·) := by
  induction ws generalizing w with
  | nil => simp [joined]
  | cons v ws ih =>
      have htail : joined (v :: ws) = v ++ ws.flatMap ('-' :: ·) := ih v
      unfold joined at htail ⊢
      rw [List.intercalate_cons_cons, htail, List.flatMap_cons]
      simp

theorem wordsOf_cons_nil (cuttings : List (List Char)) :
    wordsOf ([] :: cuttings) = wordsOf cuttings := by
  simp [wordsOf]

theorem wordsOf_cons {w : List Char} (h : w ≠ []) (cuttings : List (List Char)) :
    wordsOf (w :: cuttings) = w.map Char.toLower :: wordsOf cuttings := by
  simp [wordsOf, h]

/-! ### Cutting a text

Cutting never leaves nothing at all, so there is a first cutting, and a character either goes
to its front or begins a new one.  `Cut` says so with one constructor for each, and what is
shown of cuttings is shown by induction on it.
-/

/-- The text is cut into `w` and then `cuttings`. -/
inductive Cut : List Char → List Char → List (List Char) → Prop where
  | nil : Cut [] [] []
  | letter {d : Char} {cs w : List Char} {cuttings : List (List Char)}
      (h : d.isAlphanum = true) (rest : Cut cs w cuttings) : Cut (d :: cs) (d :: w) cuttings
  | separator {d : Char} {cs w : List Char} {cuttings : List (List Char)}
      (h : ¬ d.isAlphanum = true) (rest : Cut cs w cuttings) : Cut (d :: cs) [] (w :: cuttings)

theorem exists_cut (cs : List Char) :
    ∃ w cuttings, cs.splitOnP separates = w :: cuttings ∧ Cut cs w cuttings := by
  induction cs with
  | nil => exact ⟨[], [], rfl, .nil⟩
  | cons d cs ih =>
      obtain ⟨w, cuttings, hsplit, hcut⟩ := ih
      rw [List.splitOnP_cons_eq_if_modifyHead, hsplit]
      by_cases h : d.isAlphanum = true
      · rw [if_neg (by simp [separates, h])]
        exact ⟨d :: w, cuttings, rfl, .letter h hcut⟩
      · rw [if_pos (by simp [separates, h])]
        exact ⟨[], w :: cuttings, rfl, .separator h hcut⟩

/-- No cutting holds a character that cuts. -/
theorem Cut.isAlphanum {cs w : List Char} {cuttings : List (List Char)} (hcut : Cut cs w cuttings) :
    ∀ v ∈ w :: cuttings, ∀ c ∈ v, c.isAlphanum = true := by
  induction hcut with
  | nil => simp
  | letter h _ ih =>
      intro v hv c hc
      rcases List.mem_cons.mp hv with rfl | hv
      · rcases List.mem_cons.mp hc with rfl | hc
        · exact h
        · exact ih _ (by simp) c hc
      · exact ih v (by simp [hv]) c hc
  | separator _ _ ih =>
      intro v hv c hc
      rcases List.mem_cons.mp hv with rfl | hv
      · cases hc
      · exact ih v hv c hc

/-! ### What is kept of a name -/

/-- The text of what was kept, without the hyphens at its end. -/
def spelled (kept : List Char) : List Char := (kept.dropWhile (· = '-')).reverse

theorem spelled_word {c : Char} (h : IsWordChar c) (kept : List Char) :
    spelled (c :: kept) = (c :: kept).reverse := by
  simp [spelled, h.ne_hyphen]

theorem spelled_hyphen (kept : List Char) : spelled ('-' :: kept) = spelled kept := by
  simp [spelled]

theorem push_alphanum {d : Char} (h : d.isAlphanum = true) (kept : List Char) :
    push kept d = d.toLower :: kept := by
  simp [push, h]

theorem push_word {c d : Char} (h : ¬ d.isAlphanum = true) (hc : IsWordChar c)
    (kept : List Char) : push (c :: kept) d = '-' :: c :: kept := by
  have hne := hc.ne_hyphen
  unfold push
  rw [if_neg h]
  split
  · contradiction
  · rename_i heq
    exact absurd (List.cons.inj heq).1 hne
  · rfl

theorem push_hyphen {d : Char} (h : ¬ d.isAlphanum = true) (kept : List Char) :
    push ('-' :: kept) d = '-' :: kept := by
  simp [push, h]

theorem push_nil {d : Char} (h : ¬ d.isAlphanum = true) : push [] d = [] := by
  simp [push, h]

/-- How a text is read that is cut into `w` and then `cuttings`. There are three ways, and
they depend on what was kept last: a character of a word, which `w` continues; a hyphen; or
nothing at all. -/
structure Reads (cs w : List Char) (cuttings : List (List Char)) : Prop where
  inWord : ∀ c kept, IsWordChar c → spelled (cs.foldl push (c :: kept)) =
    joined (((c :: kept).reverse ++ w.map Char.toLower) :: wordsOf cuttings)
  afterHyphen : ∀ c kept, IsWordChar c → spelled (cs.foldl push ('-' :: c :: kept)) =
    joined ((c :: kept).reverse :: wordsOf (w :: cuttings))
  atStart : spelled (cs.foldl push []) = joined (wordsOf (w :: cuttings))

theorem reads_nil : Reads [] [] [] where
  inWord c kept hc := by
    rw [List.foldl_nil, spelled_word hc]
    simp [joined, wordsOf]
  afterHyphen c kept hc := by
    rw [List.foldl_nil, spelled_hyphen, spelled_word hc]
    simp [joined, wordsOf]
  atStart := rfl

/-- A letter goes to the front of the first cutting. -/
theorem Reads.letter {d : Char} {cs w : List Char} {cuttings : List (List Char)}
    (h : d.isAlphanum = true) (hcs : Reads cs w cuttings) : Reads (d :: cs) (d :: w) cuttings where
  inWord c kept hc := by
    rw [List.foldl_cons, push_alphanum h, hcs.inWord _ _ (isWordChar_toLower h)]
    simp
  afterHyphen c kept hc := by
    rw [List.foldl_cons, push_alphanum h, hcs.inWord _ _ (isWordChar_toLower h),
      wordsOf_cons (by simp), joined_cons, joined_cons]
    simp
  atStart := by
    rw [List.foldl_cons, push_alphanum h, hcs.inWord _ _ (isWordChar_toLower h),
      wordsOf_cons (by simp)]
    simp

/-- Anything else cuts. -/
theorem Reads.separator {d : Char} {cs w : List Char} {cuttings : List (List Char)}
    (h : ¬ d.isAlphanum = true) (hcs : Reads cs w cuttings) :
    Reads (d :: cs) [] (w :: cuttings) where
  inWord c kept hc := by
    rw [List.foldl_cons, push_word h hc, hcs.afterHyphen c kept hc, List.map_nil, List.append_nil]
  afterHyphen c kept hc := by
    rw [List.foldl_cons, push_hyphen h, hcs.afterHyphen c kept hc, wordsOf_cons_nil]
  atStart := by
    rw [List.foldl_cons, push_nil h, hcs.atStart, wordsOf_cons_nil]

theorem Cut.reads {cs w : List Char} {cuttings : List (List Char)} (hcut : Cut cs w cuttings) :
    Reads cs w cuttings := by
  induction hcut with
  | nil => exact reads_nil
  | letter h _ ih => exact ih.letter h
  | separator h _ ih => exact ih.separator h

/-- **A code is made of the words of the name, with a hyphen between each two.** -/
theorem toList_ofName (name : String) : (ofName name).toList = joined (words name.toList) := by
  unfold ofName words
  rw [String.toList_ofList]
  obtain ⟨w, cuttings, hsplit, hcut⟩ := exists_cut name.toList
  rw [hsplit]
  exact hcut.reads.atStart

/-! ### The words of a code -/

theorem isWord_of_mem_words {cs w : List Char} (h : w ∈ words cs) : IsWord w := by
  obtain ⟨hmem, hne⟩ := List.mem_filter.mp h
  obtain ⟨v, hv, rfl⟩ := List.mem_map.mp hmem
  obtain ⟨first, cuttings, hsplit, hcut⟩ := exists_cut cs
  rw [hsplit] at hv
  refine ⟨of_decide_eq_true hne, ?_⟩
  intro c hc
  obtain ⟨d, hd, rfl⟩ := List.mem_map.mp hc
  exact isWordChar_toLower (hcut.isAlphanum v hv d hd)

theorem runs_append_separator {d : Char} (h : ¬ d.isAlphanum = true) (xs ys : List Char) :
    runs (xs ++ d :: ys) = runs xs ++ runs ys := by
  unfold runs
  rw [List.splitOnP_append_cons _ _ (by simp [separates, h]), List.filter_append]

theorem words_append_separator {d : Char} (h : ¬ d.isAlphanum = true) (xs ys : List Char) :
    words (xs ++ d :: ys) = words xs ++ words ys := by
  rw [words_eq_map_runs, runs_append_separator h, List.map_append, ← words_eq_map_runs,
    ← words_eq_map_runs]

/-- Letters and digits without anything between them are one run. -/
theorem runs_of_isAlphanum {w : List Char} (hne : w ≠ []) (h : ∀ c ∈ w, c.isAlphanum = true) :
    runs w = [w] := by
  have hcut : w.splitOnP separates = [w] :=
    List.splitOnP_eq_singleton fun c hc => by simp [separates, h c hc]
  rw [runs, hcut]
  simp [hne]

/-- A word is its own and only word. -/
theorem IsWord.words_eq {w : List Char} (h : IsWord w) : words w = [w] := by
  have hlower : w.map Char.toLower = w := by
    rw [List.map_congr_left fun c hc => (h.chars c hc).toLower_eq, List.map_id']
  rw [words_eq_map_runs, runs_of_isAlphanum h.ne_nil fun c hc => (h.chars c hc).isAlphanum,
    List.map_singleton, hlower]

/-- Joining words loses none. -/
theorem words_joined {ws : List (List Char)} (h : ∀ w ∈ ws, IsWord w) : words (joined ws) = ws := by
  induction ws with
  | nil => rfl
  | cons w ws ih =>
      have hw := h w (by simp)
      have hws := ih fun v hv => h v (by simp [hv])
      cases ws with
      | nil => simpa [joined] using hw.words_eq
      | cons v ws =>
          have hsplit : joined (w :: v :: ws) = w ++ '-' :: joined (v :: ws) := by
            rw [joined_cons, joined_cons, List.flatMap_cons, List.cons_append]
          rw [hsplit, words_append_separator (by decide), hw.words_eq, hws, List.singleton_append]

theorem mem_joined {d : Char} {ws : List (List Char)} (hws : ∀ w ∈ ws, IsWord w)
    (hd : d ∈ joined ws) : IsWordChar d ∨ d = '-' := by
  cases ws with
  | nil => cases hd
  | cons w ws =>
      rw [joined_cons] at hd
      rcases List.mem_append.mp hd with hd | hd
      · exact Or.inl ((hws w (by simp)).chars d hd)
      · obtain ⟨v, hv, hdv⟩ := List.mem_flatMap.mp hd
        rcases List.mem_cons.mp hdv with rfl | hdv
        · exact Or.inr rfl
        · exact Or.inl ((hws v (by simp [hv])).chars d hdv)

/-- A code holds small letters, digits and hyphens only. -/
theorem mem_ofName {d : Char} {name : String} (hd : d ∈ (ofName name).toList) :
    IsWordChar d ∨ d = '-' := by
  rw [toList_ofName] at hd
  exact mem_joined (fun w hw => isWord_of_mem_words hw) hd

/-- The words of a code are those of its name. -/
theorem words_ofName (name : String) : words (ofName name).toList = words name.toList := by
  rw [toList_ofName, words_joined fun w hw => isWord_of_mem_words hw]

/-- **A code is its own code.** -/
theorem ofName_ofName (name : String) : ofName (ofName name) = ofName name := by
  rw [← String.toList_inj, toList_ofName, words_ofName, ← toList_ofName]

end Sparring.Code
