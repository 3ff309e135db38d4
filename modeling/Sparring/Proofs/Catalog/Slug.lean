/-
A code is the slug of a name.

`Runs` says what the runs of letters and digits of a text are without cutting it: what stands
before a run is no letter or digit, the run is not empty, and it is as long as it can be, since
what follows begins with a separator if it begins at all.  A text has one such list of runs
(`runs_iff`), and a code is these runs in small letters with one hyphen between each two.

That no hyphen stands at an end of a code or beside another one follows from how short a code
is.  It is never longer than a text with the same words (`length_ofName_le_of_words`), so each
of its hyphens separates something (`words_without_hyphen_ne`).
-/
import Sparring.Proofs.Catalog.Code

namespace Sparring.Code

variable {cs ds gap run rest : List Char} {rs : List (List Char)} {name other : String}

/-! ### The runs of a text -/

/-- The runs of letters and digits of a text, first to last, each as long as it can be. -/
inductive Runs : List Char → List (List Char) → Prop where
  | none {gap : List Char} (separators : ∀ c ∈ gap, ¬ c.isAlphanum = true) : Runs gap []
  | cons {gap run rest : List Char} {rs : List (List Char)}
      (separators : ∀ c ∈ gap, ¬ c.isAlphanum = true)
      (ne_nil : run ≠ []) (chars : ∀ c ∈ run, c.isAlphanum = true)
      (maximal : ∀ c, rest.head? = some c → ¬ c.isAlphanum = true)
      (more : Runs rest rs) : Runs (gap ++ run ++ rest) (run :: rs)

/-- There are no runs among separators. -/
theorem runs_separators (h : ∀ c ∈ gap, ¬ c.isAlphanum = true) (cs : List Char) :
    runs (gap ++ cs) = runs cs := by
  induction gap with
  | nil => rfl
  | cons d gap ih =>
      have hcut : runs (d :: (gap ++ cs)) = runs [] ++ runs (gap ++ cs) :=
        runs_append_separator (h d (by simp)) [] (gap ++ cs)
      rw [List.cons_append, hcut, ih fun c hc => h c (by simp [hc])]
      rfl

/-- A run ends where a separator follows. -/
theorem runs_append_rest (hne : run ≠ []) (hrun : ∀ c ∈ run, c.isAlphanum = true)
    (hrest : ∀ c, rest.head? = some c → ¬ c.isAlphanum = true) :
    runs (run ++ rest) = run :: runs rest := by
  cases rest with
  | nil => rw [List.append_nil, runs_of_isAlphanum hne hrun]; rfl
  | cons d rest =>
      have hd : ¬ d.isAlphanum = true := hrest d rfl
      have hgap : ∀ c ∈ [d], ¬ c.isAlphanum = true := by simpa using hd
      have hskip : runs (d :: rest) = runs rest := runs_separators hgap rest
      rw [runs_append_separator hd, runs_of_isAlphanum hne hrun, hskip, List.singleton_append]

theorem Runs.eq_runs (h : Runs cs rs) : rs = runs cs := by
  induction h with
  | @none gap separators =>
      have hall : runs (gap ++ []) = runs [] := runs_separators separators []
      rw [List.append_nil] at hall
      exact hall.symm
  | cons separators ne_nil chars maximal _ ih =>
      rw [List.append_assoc, runs_separators separators, runs_append_rest ne_nil chars maximal, ih]

theorem Runs.cons_separator {d : Char} (hd : ¬ d.isAlphanum = true) (h : Runs cs rs) :
    Runs (d :: cs) rs := by
  cases h with
  | none separators => exact .none (by simpa [hd] using separators)
  | @cons gap _ _ _ separators ne_nil chars maximal more =>
      have hgap : ∀ c ∈ d :: gap, ¬ c.isAlphanum = true := by simpa [hd] using separators
      exact .cons hgap ne_nil chars maximal more

/-- A letter begins a run, or it goes to the front of the one that begins behind it. -/
theorem Runs.exists_cons_letter {d : Char} (hd : d.isAlphanum = true) (h : Runs cs rs) :
    ∃ rs', Runs (d :: cs) rs' := by
  have hone : ∀ c ∈ [d], c.isAlphanum = true := by simpa using hd
  have hnone : ∀ c ∈ ([] : List Char), ¬ c.isAlphanum = true := by simp
  cases h with
  | none separators =>
      refine ⟨[[d]], .cons hnone (by simp) hone ?_ (.none separators)⟩
      intro c hc
      exact separators c (List.mem_of_mem_head? hc)
  | @cons gap run rest rs separators ne_nil chars maximal more =>
      cases gap with
      | nil =>
          have hrun : ∀ c ∈ d :: run, c.isAlphanum = true := by simpa [hd] using chars
          exact ⟨(d :: run) :: rs, .cons hnone (by simp) hrun maximal more⟩
      | cons g gap =>
          refine ⟨[d] :: run :: rs, .cons hnone (by simp) hone ?_
            (.cons separators ne_nil chars maximal more)⟩
          intro c hc
          have hg : g = c := by simpa using hc
          exact hg ▸ separators g (by simp)

theorem exists_runs (cs : List Char) : ∃ rs, Runs cs rs := by
  induction cs with
  | nil => exact ⟨[], .none (by simp)⟩
  | cons d cs ih =>
      obtain ⟨rs, hrs⟩ := ih
      by_cases hd : d.isAlphanum = true
      · exact hrs.exists_cons_letter hd
      · exact ⟨rs, hrs.cons_separator hd⟩

/-- A text has one list of runs. -/
theorem runs_iff : Runs cs rs ↔ rs = runs cs := by
  constructor
  · exact Runs.eq_runs
  · rintro rfl
    obtain ⟨rs, hrs⟩ := exists_runs cs
    rw [← hrs.eq_runs]
    exact hrs

/-! ### How short a code is -/

theorem length_push_le (kept : List Char) (c : Char) :
    (push kept c).length ≤ kept.length + 1 := by
  by_cases hc : c.isAlphanum = true
  · simp [push_alphanum hc]
  · unfold push
    rw [if_neg hc]
    split
    · simp
    · simp
    · simp

theorem length_foldl_push_le (cs kept : List Char) :
    (cs.foldl push kept).length ≤ kept.length + cs.length := by
  induction cs generalizing kept with
  | nil => simp
  | cons c cs ih =>
      have hstep := length_push_le kept c
      have hrest := ih (push kept c)
      rw [List.foldl_cons, List.length_cons]
      omega

theorem length_ofName_le (name : String) :
    (ofName name).toList.length ≤ name.toList.length := by
  have hscan := length_foldl_push_le name.toList []
  have hdrop := (List.dropWhile_suffix (l := name.toList.foldl push []) (· = '-')).length_le
  rw [ofName, String.toList_ofList, List.length_reverse]
  rw [List.length_nil, Nat.zero_add] at hscan
  exact Nat.le_trans hdrop hscan

/-- No text is shorter than the code that has its words. -/
theorem length_ofName_le_of_words (h : words cs = words (ofName name).toList) :
    (ofName name).toList.length ≤ cs.length := by
  have hcode : ofName (String.ofList cs) = ofName name := by
    rw [← String.toList_inj, toList_ofName, toList_ofName, String.toList_ofList, h, words_ofName]
  have hlen := length_ofName_le (String.ofList cs)
  rw [hcode, String.toList_ofList] at hlen
  exact hlen

/-! ### Where no hyphen stands -/

theorem hyphen_separates : ¬ '-'.isAlphanum = true := by decide

theorem words_hyphen_cons (cs : List Char) : words ('-' :: cs) = words cs :=
  words_append_separator hyphen_separates [] cs

/-- Each hyphen of a code separates something: without it the words are others. -/
theorem words_without_hyphen_ne (h : (ofName name).toList = cs ++ '-' :: ds) :
    words (cs ++ ds) ≠ words (ofName name).toList := by
  intro hwords
  have hlen := length_ofName_le_of_words hwords
  rw [h] at hlen
  simp only [List.length_append, List.length_cons] at hlen
  omega

theorem head?_ofName_ne_hyphen (name : String) : (ofName name).toList.head? ≠ some '-' := by
  intro h
  obtain ⟨cs, hcs⟩ := List.head?_eq_some_iff.mp h
  have hsplit : (ofName name).toList = [] ++ '-' :: cs := hcs
  refine words_without_hyphen_ne hsplit ?_
  rw [hcs, words_hyphen_cons, List.nil_append]

theorem getLast?_ofName_ne_hyphen (name : String) :
    (ofName name).toList.getLast? ≠ some '-' := by
  intro h
  obtain ⟨cs, hcs⟩ := List.getLast?_eq_some_iff.mp h
  refine words_without_hyphen_ne hcs ?_
  have hnil : words [] = [] := rfl
  rw [hcs, words_append_separator hyphen_separates, hnil, List.append_nil, List.append_nil]

theorem no_hyphens_in_ofName (name : String) : ¬ ['-', '-'] <:+: (ofName name).toList := by
  rintro ⟨before, after, hcs⟩
  have hsplit : (ofName name).toList = before ++ '-' :: '-' :: after := by
    rw [← hcs, List.append_assoc, List.cons_append, List.singleton_append]
  refine words_without_hyphen_ne hsplit ?_
  rw [hsplit, words_append_separator hyphen_separates, words_append_separator hyphen_separates,
    words_hyphen_cons]

/-! ### Codes and runs -/

/-- Names have the same code if they have the same words. -/
theorem ofName_eq_iff : ofName name = ofName other ↔ words name.toList = words other.toList := by
  constructor
  · intro h
    rw [← words_ofName name, h, words_ofName]
  · intro h
    rw [← String.toList_inj, toList_ofName, toList_ofName, h]

/--
**The code of a name is its runs of letters and digits, in small letters, with one hyphen between
each two.**  The runs are those that `Runs` tells, and there is one list of them.  So a code has
small letters, digits and hyphens only, no hyphen stands at either end of it or beside another
one, a code is its own code, and two names share their code if and only if their runs are the
same in small letters.
-/
theorem ofName_is_slug (name : String) :
    (∀ rs, Runs name.toList rs ↔ rs = runs name.toList) ∧
    (ofName name).toList =
      ['-'].intercalate ((runs name.toList).map fun run => run.map Char.toLower) ∧
    (∀ c ∈ (ofName name).toList, (('a' ≤ c ∧ c ≤ 'z') ∨ ('0' ≤ c ∧ c ≤ '9')) ∨ c = '-') ∧
    (ofName name).toList.head? ≠ some '-' ∧ (ofName name).toList.getLast? ≠ some '-' ∧
    ¬ ['-', '-'] <:+: (ofName name).toList ∧
    ofName (ofName name) = ofName name ∧
    ∀ other, ofName name = ofName other ↔
      (runs name.toList).map (fun run => run.map Char.toLower) =
        (runs other.toList).map fun run => run.map Char.toLower := by
  refine ⟨fun _ => runs_iff, ?_, fun _ => mem_ofName, head?_ofName_ne_hyphen name,
    getLast?_ofName_ne_hyphen name, no_hyphens_in_ofName name, ofName_ofName name, ?_⟩
  · rw [toList_ofName, words_eq_map_runs, joined]
  · intro other
    rw [ofName_eq_iff, words_eq_map_runs, words_eq_map_runs]

example : ofName "  Jandra, the (last) Négator II!" = "jandra-the-last-n-gator-ii" := by decide

end Sparring.Code
