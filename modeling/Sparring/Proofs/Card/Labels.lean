/-
The labels of a card are the lines of the legend that are set on it.

The legend and the labels are made apart from each other: the plain marks are filtered from the
legend, but armor and what the bot does to itself are written out a second time.
`Attributes.labels_eq` is that the two agree.  There a label is what its line says, with the
number of the line's key for `(X)`.

A label gives its line away (`keyOf?_label`): numbers stand in front, so a label with a number
ends as its line does, and no icon ends like one.  So if two cards have the same labels, a line
is set on both or on none, and where it has a number the number is the same.  All that the
labels are made of can be read off them.
-/
import Mathlib
import Sparring.Card.Legend
import Sparring.Proofs.Card.Attributes

namespace Sparring

/-! ### What a line of the legend shows -/

namespace Legend

/-- The lines of the legend, first to last. -/
def entries : List Entry := marks ++ specials

/-- The text with the number for every `(X)` in it. -/
def fillIn (number : List Char) : List Char → List Char
  | '(' :: 'X' :: ')' :: cs => number ++ fillIn number cs
  | c :: cs => c :: fillIn number cs
  | [] => []

/-- The number of a card under the key of the line, if the key is that of a number. -/
def Entry.number? (e : Entry) (a : Attributes) : Option Amount :=
  (Stat.all.find? fun s => s.key = e.key).map a.stat

/-- The icon of the line, with the number of the card for `(X)`. -/
def Entry.label (e : Entry) (a : Attributes) : String :=
  match e.number? a with
  | none => e.icon
  | some n => String.ofList (fillIn (toString n.toInt).toList e.icon.toList)

/-- The key of the line that a label belongs to. Labels with a number are told by their last
letter, since no icon ends on either. -/
def keyOf? (label : String) : Option String :=
  match label.toList.getLast? with
  | some 'G' => some Stat.selfDamage.key
  | some 'L' => some Stat.selfHeal.key
  | _ => (entries.find? fun e => e.icon = label).map (·.key)

/-- A line for a number: it is set unless the number is zero, and it shows the number and then
the unit. -/
structure Entry.Counts (e : Entry) (s : Stat) (unit : String) : Prop where
  isSet : ∀ a, e.isSet a = (a.stat s != 0)
  label : ∀ a, e.label a = toString (a.stat s).toInt ++ unit

variable {e e' : Entry} {a b : Attributes} {s : Stat} {unit : String}

theorem Entry.label_of_no_number (h : Stat.all.find? (fun s => s.key = e.key) = none)
    (a : Attributes) : e.label a = e.icon := by
  rw [label, number?, h]
  rfl

theorem Entry.label_of_number (h : Stat.all.find? (fun s => s.key = e.key) = some s)
    (hicon : ∀ n, fillIn n e.icon.toList = n ++ unit.toList) (a : Attributes) :
    e.label a = toString (a.stat s).toInt ++ unit := by
  rw [label, number?, h]
  show String.ofList (fillIn (toString (a.stat s).toInt).toList e.icon.toList) = _
  rw [hicon, ← String.toList_inj, String.toList_ofList, String.toList_append]

/-- The lines without a number: those of the marks and of armor. -/
def plain : List Entry := marks ++ specials.take 3

/-- The line for the damage that the bot does to itself. -/
def damageLine : Entry := specials.get ⟨3, by decide⟩

/-- The line for what the bot heals. -/
def healLine : Entry := specials.get ⟨4, by decide⟩

theorem entries_eq : entries = plain ++ [damageLine, healLine] := rfl

theorem label_of_mem_plain (he : e ∈ plain) (a : Attributes) : e.label a = e.icon := by
  have hnone : ∀ e ∈ plain, Stat.all.find? (fun s => s.key = e.key) = none := by decide
  exact e.label_of_no_number (hnone e he) a

theorem counts_damageLine : damageLine.Counts .selfDamage " SELF DMG" where
  isSet _ := rfl
  label := Entry.label_of_number rfl fun _ => rfl

theorem counts_healLine : healLine.Counts .selfHeal " SELF HEAL" where
  isSet _ := rfl
  label := Entry.label_of_number rfl fun _ => rfl

/-- What is shown for one number. -/
theorem Entry.Counts.shown (h : e.Counts s unit) (a : Attributes) :
    ([e].filter (·.isSet a)).map (·.label a) =
      if a.stat s = 0 then [] else [toString (a.stat s).toInt ++ unit] := by
  by_cases hzero : a.stat s = 0
  · simp [h.isSet, hzero]
  · simp [h.isSet, h.label, hzero]

/-- A label says which line it is of. -/
theorem keyOf?_label (he : e ∈ entries) (a : Attributes) : keyOf? (e.label a) = some e.key := by
  rw [entries_eq] at he
  rcases List.mem_append.mp he with he | he
  · have hicon : ∀ e ∈ plain, keyOf? e.icon = some e.key := by decide
    rw [label_of_mem_plain he, hicon e he]
  · rcases List.mem_pair.mp he with rfl | rfl
    · have hlast : (damageLine.label a).toList.getLast? = some 'G' := by
        simp [counts_damageLine.label]
      rw [keyOf?, hlast]
      rfl
    · have hlast : (healLine.label a).toList.getLast? = some 'L' := by
        simp [counts_healLine.label]
      rw [keyOf?, hlast]
      rfl

theorem eq_of_key_eq (he : e ∈ entries) (he' : e' ∈ entries) (h : e.key = e'.key) : e = e' := by
  have hnodup : (entries.map (·.key)).Nodup := by decide
  exact List.inj_on_of_nodup_map hnodup he he' h

end Legend

namespace Attributes

open Legend

variable {a b : Attributes} {e : Entry} {s : Stat} {unit : String}

/-! ### Labels and legend -/

/-- Armor is labelled as its line is. -/
theorem armorLabel_eq (a : Attributes) :
    a.armorLabel = ((specials.take 3).filter (·.isSet a)).map (·.icon) := by
  unfold armorLabel
  cases h : a.armor <;> simp [specials, h]

/-- **What a card shows are the lines of the legend that are set on it.** -/
theorem labels_eq (a : Attributes) : a.labels = (entries.filter (·.isSet a)).map (·.label a) := by
  have hplain : (plain.filter (·.isSet a)).map (·.label a) =
      (plain.filter (·.isSet a)).map (·.icon) :=
    List.map_congr_left fun e he => label_of_mem_plain (List.mem_of_mem_filter he) a
  have hnumbers : [damageLine, healLine] = [damageLine] ++ [healLine] := rfl
  rw [entries_eq, hnumbers, List.filter_append, List.filter_append, List.map_append,
    List.map_append, hplain, counts_damageLine.shown, counts_healLine.shown, plain,
    List.filter_append, List.map_append, ← armorLabel_eq]
  simp only [labels, List.append_assoc]
  rfl

/-! ### What can be read off the labels -/

/-- A line that is set on one of two cards with the same labels is set on the other, with the
same number. -/
theorem shown_of_labels_eq (h : a.labels = b.labels) (he : e ∈ entries) (hset : e.isSet a = true) :
    e.isSet b = true ∧ e.label b = e.label a := by
  have hmem : e.label a ∈ b.labels := by
    rw [← h, labels_eq]
    exact List.mem_map_of_mem (List.mem_filter.mpr ⟨he, hset⟩)
  rw [labels_eq] at hmem
  obtain ⟨e', hmem', hlabel⟩ := List.mem_map.mp hmem
  obtain ⟨he', hset'⟩ := List.mem_filter.mp hmem'
  have hkey : some e'.key = some e.key := by
    rw [← keyOf?_label he' b, hlabel, keyOf?_label he a]
  obtain rfl : e' = e := eq_of_key_eq he' he (Option.some.inj hkey)
  exact ⟨hset', hlabel⟩

theorem isSet_eq_of_labels_eq (h : a.labels = b.labels) (he : e ∈ entries) :
    e.isSet a = e.isSet b := by
  rw [Bool.eq_iff_iff]
  exact ⟨fun hset => (shown_of_labels_eq h he hset).1,
    fun hset => (shown_of_labels_eq h.symm he hset).1⟩

theorem stat_eq_of_labels_eq (h : a.labels = b.labels) (he : e ∈ entries)
    (hcounts : e.Counts s unit) : a.stat s = b.stat s := by
  have hset := isSet_eq_of_labels_eq h he
  rw [hcounts.isSet, hcounts.isSet] at hset
  by_cases hzero : a.stat s = 0
  · have hzero' : b.stat s = 0 := by simpa [hzero] using hset
    rw [hzero, hzero']
  · have hshown := (shown_of_labels_eq h he (by simp [hcounts.isSet, hzero])).2
    rw [hcounts.label, hcounts.label, String.append_left_inj] at hshown
    exact (Int32.toInt_inj.mp (Int.repr_inj.mp hshown)).symm

/-- The marks that the legend has a line for, in its order. -/
def marked : List Flag :=
  [.isUnsafe, .edge, .knockdown, .recur, .lockdown, .drawOnBlock, .backstep, .undodgeable,
    .unblockable, .freeze, .oblivion, .transform]

theorem mem_marked {f : Flag} : f ∈ marked ↔ f ≠ .super := by cases f <;> decide

/-- Each line for a mark reads its own mark. -/
theorem isSet_marks : marks.map (·.isSet) = marked.map fun f a => a.flag f := rfl

theorem flag_eq_of_labels_eq (h : a.labels = b.labels) {f : Flag} (hf : f ≠ .super) :
    a.flag f = b.flag f := by
  have hread : (fun a : Attributes => a.flag f) ∈ marks.map (·.isSet) := by
    rw [isSet_marks]
    exact List.mem_map_of_mem (mem_marked.mpr hf)
  obtain ⟨e, he, hset⟩ := List.mem_map.mp hread
  have hsame := isSet_eq_of_labels_eq h (e := e) (List.mem_append_left _ he)
  rw [hset] at hsame
  exact hsame

theorem armor_eq_of_labels_eq (h : a.labels = b.labels) : a.armor = b.armor := by
  have hspecial : ∀ e ∈ specials, e.isSet a = e.isSet b := fun e he =>
    isSet_eq_of_labels_eq h (List.mem_append_right _ he)
  have hlight : (a.armor == .light) = (b.armor == .light) :=
    hspecial _ (List.get_mem specials ⟨0, by decide⟩)
  have hmedium : (a.armor == .medium) = (b.armor == .medium) :=
    hspecial _ (List.get_mem specials ⟨1, by decide⟩)
  have hheavy : (a.armor == .heavy) = (b.armor == .heavy) :=
    hspecial _ (List.get_mem specials ⟨2, by decide⟩)
  revert hlight hmedium hheavy
  cases a.armor <;> cases b.armor <;> decide

/-- What the labels are made of makes them. -/
theorem labels_congr (hflag : ∀ f, f ≠ .super → a.flag f = b.flag f) (harmor : a.armor = b.armor)
    (hdamage : a.selfDamage = b.selfDamage) (hheal : a.selfHeal = b.selfHeal) :
    a.labels = b.labels := by
  have hmarks : marks.filter (·.isSet a) = marks.filter (·.isSet b) := by
    refine List.filter_congr fun e he => ?_
    have hread : e.isSet ∈ marked.map fun f a => a.flag f := by
      rw [← isSet_marks]
      exact List.mem_map_of_mem he
    obtain ⟨f, hf, hset⟩ := List.mem_map.mp hread
    rw [← hset]
    exact hflag f (mem_marked.mp hf)
  simp only [labels, armorLabel, hmarks, harmor, hdamage, hheal]

/--
**The labels of a card are the legend of the card, and they lose nothing of it.**  They are the
lines of the legend that are set, in its order and with the number for `(X)`; and two cards have
the same labels if and only if they agree in all marks but `super`, which has no line, in armor
and in what the bot does to itself.
-/
theorem labels_are_the_legend (a b : Attributes) :
    a.labels = ((marks ++ specials).filter (·.isSet a)).map (·.label a) ∧
    (a.labels = b.labels ↔ (∀ f, f ≠ .super → a.flag f = b.flag f) ∧ a.armor = b.armor ∧
      a.selfDamage = b.selfDamage ∧ a.selfHeal = b.selfHeal) := by
  refine ⟨labels_eq a, ⟨?_, ?_⟩⟩
  · intro h
    exact ⟨fun f => flag_eq_of_labels_eq h, armor_eq_of_labels_eq h,
      stat_eq_of_labels_eq (s := .selfDamage) h (by simp [entries_eq]) counts_damageLine,
      stat_eq_of_labels_eq (s := .selfHeal) h (by simp [entries_eq]) counts_healLine⟩
  · rintro ⟨hflag, harmor, hdamage, hheal⟩
    exact labels_congr hflag harmor hdamage hheal

example :
    let a : Attributes := { kind := .throw, knockdown := true, armor := .heavy, selfDamage := -12 }
    a.labels = ["KD", "[H]", "-12 SELF DMG"] := by
  decide

end Attributes

end Sparring
