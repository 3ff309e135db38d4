/-
When a text that is typed finds what it would find as it is written.

A typed text that is no number is trimmed and put into lower case before its code is made.
Neither should matter, since a code has no blanks around it and is in lower case anyway.  For
the blanks that is so: they only stand between words (`words_trim`).  For lower case it is so
character by character.  What stands for a character in lower case moves the scan of a code
exactly as the character does (`foldl_push_small`), be it a letter, which is kept in lower case
in either case, or a separator, for which some separators stand.

Only a foreign capital breaks the rule.  It is a separator as it is written and brings a letter
when it is typed, so the two codes have different numbers of letters (`countP_ofName`), and
whoever is found by one of them is not found by the other.
-/
import Sparring.Proofs.Catalog.Slug
import Sparring.Proofs.Catalog.Typed
import Sparring.Proofs.Text.Capitals

namespace Sparring

/-! ### Blanks -/

namespace Text

variable {cs : List Char} {c : Char}

theorem mem_takeWhile_isBlank (h : c ∈ cs.takeWhile isBlank) : isBlank c = true := by
  have hall := List.all_takeWhile (p := isBlank) (l := cs)
  exact List.all_eq_true.mp hall c h

/-- Trimming takes blanks from both ends and nothing else. -/
theorem exists_trim (cs : List Char) :
    ∃ before after, cs = before ++ trim cs ++ after ∧
      (∀ c ∈ before, isBlank c = true) ∧ ∀ c ∈ after, isBlank c = true := by
  refine ⟨cs.takeWhile isBlank, ((cs.dropWhile isBlank).reverse.takeWhile isBlank).reverse,
    ?_, fun c => mem_takeWhile_isBlank, ?_⟩
  · rw [trim, List.append_assoc, ← List.reverse_append, List.takeWhile_append_dropWhile,
      List.reverse_reverse, List.takeWhile_append_dropWhile]
  · intro c hc
    exact mem_takeWhile_isBlank (List.mem_reverse.mp hc)

theorem isAlphanum_of_isBlank (h : isBlank c = true) : c.isAlphanum = false := by
  refine Bool.eq_false_iff.mpr fun halnum => ?_
  rw [Code.isAlphanum_iff, Code.isWordChar_iff] at halnum
  rw [isBlank_eq_false (by omega) (by omega)] at h
  cases h

theorem isForeign_of_isBlank (h : isBlank c = true) : isForeign c = false := by
  refine Bool.eq_false_iff.mpr fun hforeign => ?_
  rcases eq_of_isForeign hforeign with rfl | rfl
  · exact absurd h (by decide)
  · exact absurd h (by decide)

/-- Trimming takes no character away that is not blank. -/
theorem forall_mem_trim_iff {P : Char → Prop} (hblank : ∀ c, isBlank c = true → P c) :
    (∀ c ∈ trim cs, P c) ↔ ∀ c ∈ cs, P c := by
  obtain ⟨before, after, hcs, hbefore, hafter⟩ := exists_trim cs
  constructor
  · intro h c hc
    rw [hcs, List.append_assoc] at hc
    rcases List.mem_append.mp hc with hc | hc
    · exact hblank c (hbefore c hc)
    · rcases List.mem_append.mp hc with hc | hc
      · exact h c hc
      · exact hblank c (hafter c hc)
  · intro h c hc
    refine h c ?_
    rw [hcs]
    simp [hc]

end Text

namespace Code

variable {c d : Char} {cs ds kept : List Char}

/-- There are no words without letters and digits. -/
theorem words_separators (h : ∀ c ∈ cs, c.isAlphanum = false) (ds : List Char) :
    words (cs ++ ds) = words ds := by
  have hruns : runs (cs ++ ds) = runs ds := runs_separators (fun c hc => by simp [h c hc]) ds
  rw [words_eq_map_runs, hruns, ← words_eq_map_runs]

theorem words_append_separators (h : ∀ c ∈ ds, c.isAlphanum = false) (cs : List Char) :
    words (cs ++ ds) = words cs := by
  cases ds with
  | nil => rw [List.append_nil]
  | cons d ds =>
      have hd : ¬ d.isAlphanum = true := by simp [h d (by simp)]
      have hrest : words (ds ++ []) = words [] :=
        words_separators (fun e he => h e (by simp [he])) []
      have hnil : words [] = [] := rfl
      rw [List.append_nil] at hrest
      rw [words_append_separator hd, hrest, hnil, List.append_nil]

/-- Blanks at the ends stand before the first word and behind the last. -/
theorem words_trim (cs : List Char) : words (Text.trim cs) = words cs := by
  obtain ⟨before, after, hcs, hbefore, hafter⟩ := Text.exists_trim cs
  calc words (Text.trim cs) = words (before ++ Text.trim cs) :=
        (words_separators (fun c hc => Text.isAlphanum_of_isBlank (hbefore c hc)) _).symm
    _ = words (before ++ Text.trim cs ++ after) :=
        (words_append_separators (fun c hc => Text.isAlphanum_of_isBlank (hafter c hc)) _).symm
    _ = words cs := by rw [← hcs]

theorem ofName_trim (cs : List Char) :
    ofName (String.ofList (Text.trim cs)) = ofName (String.ofList cs) := by
  rw [← String.toList_inj, toList_ofName, toList_ofName, String.toList_ofList,
    String.toList_ofList, words_trim]

/-! ### Small letters -/

/-- A separator is kept as a hyphen, unless it would stand in front or behind another one. -/
theorem push_separator (hc : c.isAlphanum = false) (kept : List Char) :
    push kept c = if kept = [] ∨ kept.head? = some '-' then kept else '-' :: kept := by
  have hc' : ¬ c.isAlphanum = true := by simp [hc]
  unfold push
  rw [if_neg hc']
  split
  · simp
  · simp
  · rename_i hne hhyphen
    rw [if_neg]
    intro h
    rcases h with h | h
    · exact hne h
    · obtain ⟨rest, hrest⟩ := List.head?_eq_some_iff.mp h
      exact hhyphen rest hrest

/-- A separator behind a separator changes nothing. -/
theorem push_push_separator (hc : c.isAlphanum = false) (hd : d.isAlphanum = false)
    (kept : List Char) : push (push kept c) d = push kept c := by
  rw [push_separator hd, if_pos]
  rw [push_separator hc]
  by_cases h : kept = [] ∨ kept.head? = some '-'
  · rw [if_pos h]
    exact h
  · rw [if_neg h]
    exact Or.inr rfl

/-- Separators, one at least, are as good as any one separator. -/
theorem foldl_push_separators (hc : c.isAlphanum = false) (hne : ds ≠ [])
    (hds : ∀ d ∈ ds, d.isAlphanum = false) : ds.foldl push kept = push kept c := by
  have hmore : ∀ ds : List Char, (∀ d ∈ ds, d.isAlphanum = false) →
      ds.foldl push (push kept c) = push kept c := by
    intro ds hds
    induction ds with
    | nil => rfl
    | cons d ds ih =>
        rw [List.foldl_cons, push_push_separator hc (hds d (by simp))]
        exact ih fun e he => hds e (by simp [he])
  cases ds with
  | nil => exact absurd rfl hne
  | cons d ds =>
      have hfirst : push kept d = push kept c := by
        rw [push_separator (hds d (by simp)), push_separator hc]
      rw [List.foldl_cons, hfirst]
      exact hmore ds fun e he => hds e (by simp [he])

/-- What stands for a character in lower case moves the scan of a code as the character does. -/
theorem foldl_push_small (h : Text.Small c ds) (hc : Text.isForeign c = false) :
    ds.foldl push kept = push kept c := by
  cases h with
  | letter halnum =>
      have hword := isWordChar_toLower halnum
      rw [List.foldl_cons, List.foldl_nil, push_alphanum hword.isAlphanum, hword.toLower_eq,
        push_alphanum halnum]
  | foreign hforeign _ =>
      rw [hc] at hforeign
      cases hforeign
  | other halnum _ hne hds => exact foldl_push_separators halnum hne hds

theorem foldl_push_lower (h : ∀ c ∈ cs, Text.isForeign c = false) :
    (Text.lower cs).foldl push [] = cs.foldl push [] := by
  have hfrom : ∀ before kept, (Text.lowerFrom before cs).foldl push kept = cs.foldl push kept := by
    induction cs with
    | nil => exact fun _ _ => rfl
    | cons c cs ih =>
        intro before kept
        obtain ⟨ds, hds, hsmall⟩ := Text.lowerFrom_cons before c cs
        have hrest := ih (fun d hd => h d (by simp [hd])) (c :: before) (push kept c)
        rw [hds, List.foldl_append, foldl_push_small hsmall (h c (by simp)), hrest,
          List.foldl_cons]
  exact hfrom [] []

/-- Without foreign capitals a text has the code of its small letters. -/
theorem ofName_lower (h : ∀ c ∈ cs, Text.isForeign c = false) :
    ofName (String.ofList (Text.lower cs)) = ofName (String.ofList cs) := by
  unfold ofName
  rw [String.toList_ofList, String.toList_ofList, foldl_push_lower h]

/-! ### How many letters there are -/

theorem countP_push (kept : List Char) (c : Char) :
    (push kept c).countP (· ≠ '-') =
      kept.countP (· ≠ '-') + [c].countP Char.isAlphanum := by
  by_cases hc : c.isAlphanum = true
  · have hne := (isWordChar_toLower hc).ne_hyphen
    rw [push_alphanum hc]
    simp [hc, hne]
  · have hfalse : c.isAlphanum = false := by simpa using hc
    rw [push_separator hfalse]
    split
    · simp [hc]
    · simp [hc]

theorem countP_foldl_push (cs : List Char) (kept : List Char) :
    (cs.foldl push kept).countP (· ≠ '-') =
      kept.countP (· ≠ '-') + cs.countP Char.isAlphanum := by
  induction cs generalizing kept with
  | nil => simp
  | cons c cs ih =>
      have hfront : c :: cs = [c] ++ cs := rfl
      rw [List.foldl_cons, ih, countP_push, hfront, List.countP_append]
      omega

/-- A code has as many letters and digits as its name. -/
theorem countP_ofName (cs : List Char) :
    (ofName (String.ofList cs)).toList.countP (· ≠ '-') = cs.countP Char.isAlphanum := by
  have hdrop : ∀ kept : List Char,
      (kept.dropWhile (· = '-')).countP (· ≠ '-') = kept.countP (· ≠ '-') := by
    intro kept
    induction kept with
    | nil => rfl
    | cons c kept ih =>
        by_cases hc : c = '-'
        · rw [List.dropWhile_cons_of_pos (by simp [hc]), ih, List.countP_cons_of_neg (by simp [hc])]
        · rw [List.dropWhile_cons_of_neg (by simp [hc])]
  unfold ofName
  rw [String.toList_ofList, String.toList_ofList, List.countP_reverse, hdrop, countP_foldl_push]
  simp

/-- **A text has the code of what it becomes when it is typed, unless there is a foreign capital
in it.** -/
theorem ofName_typed_iff (cs : List Char) :
    ofName (String.ofList (Text.lower (Text.trim cs))) = ofName (String.ofList cs) ↔
      ∀ c ∈ cs, Text.isForeign c = false := by
  rw [← Text.forall_mem_trim_iff fun c => Text.isForeign_of_isBlank, ← ofName_trim cs]
  constructor
  · intro h
    have hletters := countP_ofName (Text.lower (Text.trim cs))
    rw [h, countP_ofName, Text.countP_lower] at hletters
    have hnone : (Text.trim cs).countP Text.isForeign = 0 := by omega
    simpa [List.countP_eq_zero] using hnone
  · exact ofName_lower

end Code

/-! ### What is found -/

/-- A text that is taken for a position when it is typed. -/
def BotId.TakenForPosition (s : String) : Prop :=
  Text.IsNumber64 (Text.withoutPlus (Text.trim s.toList))

theorem BotId.ofText_of_not_taken {s : String} (h : ¬ BotId.TakenForPosition s) :
    BotId.ofText s = .code (String.ofList (Text.lower (Text.trim s.toList))) := by
  have hnone : Text.natBelow? Width.size64 (Text.trim s.toList) = none :=
    Text.natBelow?_eq_none_iff.mpr h
  simp only [BotId.ofText, hnone]

namespace Catalog

variable {c : Catalog} {s t : String}

/-- Two texts find the same if they have the same code, and otherwise only if they find
nothing. -/
theorem position?_code_eq_iff :
    c.position? (.code s) = c.position? (.code t) ↔
      Code.ofName s = Code.ofName t ∨
        (c.position? (.code s) = none ∧ c.position? (.code t) = none) := by
  constructor
  · intro h
    cases hs : c.position? (.code s) with
    | none =>
        rw [hs] at h
        exact Or.inr ⟨rfl, h.symm⟩
    | some i =>
        rw [hs] at h
        have hcode := position?_code_eq_some_iff.mp hs
        rw [position?_code_eq_some_iff.mp h.symm] at hcode
        exact Or.inl (Option.some.inj hcode).symm
  · intro h
    rcases h with h | h
    · simp only [position?, h]
    · rw [h.1, h.2]

/--
**What is typed finds what it would find as it is written, if there is no foreign capital in
it.**  If there is one, the two agree only where both find nothing; a bot with such a name is
not found by it.
-/
theorem typed_finds_as_written_iff (c : Catalog) (s : String)
    (h : ¬ BotId.TakenForPosition s) :
    (c.position? (BotId.ofText s) = c.position? (.code s) ↔
      (∀ x ∈ s.toList, Text.isForeign x = false) ∨
        (c.position? (BotId.ofText s) = none ∧ c.position? (.code s) = none)) ∧
    ∀ i b, c.bots[i]? = some b → b.name = s →
      (c.position? (BotId.ofText s) = some i ↔ ∀ x ∈ s.toList, Text.isForeign x = false) := by
  have hcodes := Code.ofName_typed_iff s.toList
  rw [String.ofList_toList] at hcodes
  have hsame : c.position? (BotId.ofText s) = c.position? (.code s) ↔
      (∀ x ∈ s.toList, Text.isForeign x = false) ∨
        (c.position? (BotId.ofText s) = none ∧ c.position? (.code s) = none) := by
    rw [BotId.ofText_of_not_taken h, position?_code_eq_iff, hcodes]
  refine ⟨hsame, ?_⟩
  intro i b hb hname
  have hwritten : c.position? (.code s) = some i :=
    position?_of_code_eq hb (congrArg Code.ofName hname.symm)
  rw [hwritten] at hsame
  rw [hsame]
  simp

/-- A table with this name. -/
def tableNamed (name : String) : Table :=
  { Roster.glassMonk with book := { Roster.glassMonk.book with name } }

/-- A name with Greek capitals, which become two different small letters for a sigma. -/
theorem typed_finds_as_written_iff_greek :
    let name := "KING ΟΔΥΣΣΕΥΣ of Ithaca"
    ∃ c, ofTables [tableNamed name] = .ok c ∧ ¬ BotId.TakenForPosition name ∧
      c.position? (BotId.ofText name) = c.position? (.code name) ∧
      c.position? (BotId.ofText name) = some 0 := by
  intro name
  have hbuilt : (ofTables [tableNamed name]).toOption.map (fun c => c.bots.map (·.name)) =
      some [name] := by
    decide +kernel
  obtain ⟨c, hc, hnames⟩ := Checked.exists_eq_ok_of_map hbuilt
  obtain ⟨b, hb, hname⟩ : ∃ b, c.bots[0]? = some b ∧ b.name = name := by
    rw [← Option.map_eq_some_iff, ← List.getElem?_map, hnames]
    rfl
  have hletter : ¬ BotId.TakenForPosition name := fun h =>
    absurd (h.digits 'K' (by decide)) (by decide)
  have hall : name.toList.all (fun x => !Text.isForeign x) = true := by decide
  have hplain : ∀ x ∈ name.toList, Text.isForeign x = false := by
    intro x hx
    simpa using List.all_eq_true.mp hall x hx
  obtain ⟨hsame, hfound⟩ := typed_finds_as_written_iff c name hletter
  exact ⟨c, hc, hletter, hsame.mpr (Or.inl hplain), (hfound 0 b hb hname).mpr hplain⟩

/-- A name that begins with the sign of the kelvin is found as it is written, but not typed. -/
theorem typed_name_is_not_found :
    ¬ ∀ (ts : List Table) (c : Catalog), ofTables ts = .ok c →
      ∀ s, ¬ BotId.TakenForPosition s →
        c.position? (BotId.ofText s) = c.position? (.code s) := by
  intro hall
  have hbuilt : (ofTables [tableNamed "\u212Aelvin"]).toOption.map (fun c =>
      (c.position? (BotId.ofText "\u212Aelvin"), c.position? (.code "\u212Aelvin"))) =
      some (none, some 0) := by
    decide +kernel
  obtain ⟨c, hc, hpositions⟩ := Checked.exists_eq_ok_of_map hbuilt
  simp only [Prod.mk.injEq] at hpositions
  have hletter : ¬ BotId.TakenForPosition "\u212Aelvin" := fun h =>
    absurd (h.digits 'e' (by decide)) (by decide)
  have hsame := hall _ c hc _ hletter
  rw [hpositions.1, hpositions.2] at hsame
  cases hsame

end Catalog

end Sparring
