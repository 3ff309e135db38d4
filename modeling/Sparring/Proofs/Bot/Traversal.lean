/-
Visiting every cell of a playbook.

`traverse` walks tuples inside rows inside a playbook, through sections that may be
missing and slots that may be empty, and stops at the first cell that fails.  None of
that matters to what comes out in the end: `traverse_eq_ok_iff` says that the new
playbook is the old one cell by cell, each made from the cell of the same address, with
nothing missing that was there and nothing there that was missing.

`Rel` is that relation between two playbooks, whatever is asked of a pair of cells.
`at?` reads a playbook by address, so that a fact about every cell is one sentence
instead of eight.
-/
import Sparring.Bot.Playbook
import Sparring.Proofs.Checked

namespace Sparring

variable {n : Nat} {α β σ τ σ' τ' ε : Type}

/-! ### Tuples -/

namespace Tuple

@[simp] theorem get_replicate (x : α) (i : Fin n) : (replicate n x).get i = x := by
  simp [get, replicate]

theorem traverseAlong_eq_ok {f : Fin n → α → Except ε β} :
    ∀ {is : List (Fin n)} {xs : List α} {ys : List β}, is.length = xs.length →
      (traverseAlong f is xs = .ok ys ↔
        ys.length = xs.length ∧ ∀ (k : Nat) (h₁ : k < is.length) (h₂ : k < xs.length)
          (h₃ : k < ys.length), f is[k] xs[k] = .ok ys[k]) := by
  intro is
  induction is with
  | nil =>
      intro xs ys hlen
      have hxs : xs = [] := List.length_eq_zero_iff.mp hlen.symm
      subst hxs
      refine ⟨?_, ?_⟩
      · intro h
        cases h
        exact ⟨rfl, fun k h₁ => absurd h₁ (Nat.not_lt_zero k)⟩
      · intro h
        obtain ⟨hys, -⟩ := h
        rw [List.length_eq_zero_iff.mp hys]
        rfl
  | cons i is ih =>
      intro xs ys hlen
      cases xs with
      | nil => simp at hlen
      | cons x xs =>
          have hlen' : is.length = xs.length := by simpa using hlen
          simp only [traverseAlong, Checked.bind_eq_ok_iff]
          refine ⟨?_, ?_⟩
          · intro h
            obtain ⟨y, hy, ys', hys', hpure⟩ := h
            cases hpure
            obtain ⟨hl, hall⟩ := (ih hlen').mp hys'
            refine ⟨by simpa using hl, ?_⟩
            intro k h₁ h₂ h₃
            cases k with
            | zero => exact hy
            | succ k =>
                exact hall k (by simpa using h₁) (by simpa using h₂) (by simpa using h₃)
          · intro h
            obtain ⟨hl, hall⟩ := h
            cases ys with
            | nil => simp at hl
            | cons y ys =>
                have htail : traverseAlong f is xs = .ok ys := by
                  refine (ih hlen').mpr ⟨by simpa using hl, ?_⟩
                  intro k h₁ h₂ h₃
                  exact hall (k + 1) (by simpa using h₁) (by simpa using h₂) (by simpa using h₃)
                exact ⟨y, hall 0 (by simp) (by simp) (by simp), ys, htail, rfl⟩

theorem traverse_eq_ok_iff {f : Fin n → α → Except ε β} {t : Tuple n α} {u : Tuple n β} :
    t.traverse f = .ok u ↔ ∀ i, f i (t.get i) = .ok (u.get i) := by
  have hlen : (List.finRange n).length = t.toList.length := by
    rw [List.length_finRange, t.length_toList]
  have halong : t.traverse f = .ok u ↔
      traverseAlong f (List.finRange n) t.toList = .ok u.toList := by
    unfold traverse
    split
    · rename_i ys hys
      refine ⟨?_, ?_⟩
      · intro h
        cases h
        exact hys
      · intro h
        cases u
        cases hys.symm.trans h
        rfl
    · rename_i e he
      refine ⟨?_, ?_⟩
      · intro h
        cases h
      · intro h
        cases he.symm.trans h
  rw [halong, traverseAlong_eq_ok hlen]
  refine ⟨?_, ?_⟩
  · intro h i
    obtain ⟨-, hall⟩ := h
    have := hall i.val (by simp) (by simp [t.length_toList]) (by simp [u.length_toList])
    simpa [get] using this
  · intro hall
    refine ⟨by rw [t.length_toList, u.length_toList], ?_⟩
    intro k h₁ h₂ h₃
    have hk : k < n := by simpa using h₁
    simpa [get] using hall ⟨k, hk⟩

theorem exists_of_traverseAlong_eq_error {f : Fin n → α → Except ε β} {e : ε} :
    ∀ {is : List (Fin n)} {xs : List α}, traverseAlong f is xs = .error e →
      ∃ (k : Nat) (h₁ : k < is.length) (h₂ : k < xs.length), f is[k] xs[k] = .error e := by
  intro is
  induction is with
  | nil => intro xs h; cases h
  | cons i is ih =>
      intro xs h
      cases xs with
      | nil => cases h
      | cons x xs =>
          simp only [traverseAlong, Checked.bind_eq_error_iff] at h
          rcases h with hx | ⟨y, -, hrest | ⟨_, _, hpure⟩⟩
          · exact ⟨0, by simp, by simp, hx⟩
          · obtain ⟨k, h₁, h₂, hk⟩ := ih hrest
            exact ⟨k + 1, by simpa using h₁, by simpa using h₂, hk⟩
          · cases hpure

/-- A failure is that of an entry. -/
theorem exists_of_traverse_eq_error {f : Fin n → α → Except ε β} {t : Tuple n α} {e : ε}
    (h : t.traverse f = .error e) : ∃ i, f i (t.get i) = .error e := by
  unfold traverse at h
  split at h
  · cases h
  · rename_i e' he
    cases h
    obtain ⟨k, h₁, h₂, hk⟩ := exists_of_traverseAlong_eq_error he
    have hkn : k < n := by simpa using h₁
    exact ⟨⟨k, hkn⟩, by simpa [get] using hk⟩

end Tuple

/-! ### What may be missing -/

theorem traverseOption_eq_ok_iff {f : α → Except ε β} {x : Option α} {y : Option β} :
    traverseOption f x = .ok y ↔ Option.Rel (fun a b => f a = .ok b) x y := by
  cases x with
  | none =>
      refine ⟨?_, ?_⟩
      · intro h
        cases h
        exact .none
      · intro h
        cases h
        rfl
  | some a =>
      rw [traverseOption, Checked.map_eq_ok_iff]
      refine ⟨?_, ?_⟩
      · intro h
        obtain ⟨b, hb, rfl⟩ := h
        exact .some hb
      · intro h
        cases h with
        | some hb => exact ⟨_, hb, rfl⟩

theorem exists_of_traverseOption_eq_error {f : α → Except ε β} {x : Option α} {e : ε}
    (h : traverseOption f x = .error e) : ∃ a, x = some a ∧ f a = .error e := by
  cases x with
  | none => cases h
  | some a => exact ⟨a, rfl, Checked.map_eq_error_iff.mp h⟩

/-! ### Rows -/

namespace Row

/-- Two rows, slot by slot and hitback to hitback. -/
structure Rel (S : Fin faces → σ → σ' → Prop) (H : τ → τ' → Prop) (r : Row σ τ)
    (r' : Row σ' τ') : Prop where
  slots : ∀ i, S i (r.slots.get i) (r'.slots.get i)
  hitback : H r.hitback r'.hitback

theorem traverse_eq_ok_iff {slot : Fin faces → σ → Except ε σ'} {hitback : τ → Except ε τ'}
    {r : Row σ τ} {r' : Row σ' τ'} :
    r.traverse slot hitback = .ok r' ↔
      Rel (fun i x y => slot i x = .ok y) (fun x y => hitback x = .ok y) r r' := by
  simp only [Row.traverse, Checked.bind_eq_ok_iff]
  refine ⟨?_, ?_⟩
  · intro h
    obtain ⟨slots, hslots, h, hh, hpure⟩ := h
    cases hpure
    exact ⟨Tuple.traverse_eq_ok_iff.mp hslots, hh⟩
  · intro h
    obtain ⟨hslots, hh⟩ := h
    exact ⟨r'.slots, Tuple.traverse_eq_ok_iff.mpr hslots, r'.hitback, hh, rfl⟩

theorem exists_of_traverse_eq_error {slot : Fin faces → σ → Except ε σ'}
    {hitback : τ → Except ε τ'} {r : Row σ τ} {e : ε} (h : r.traverse slot hitback = .error e) :
    (∃ i, slot i (r.slots.get i) = .error e) ∨ hitback r.hitback = .error e := by
  simp only [Row.traverse, Checked.bind_eq_error_iff] at h
  rcases h with hslots | ⟨_, _, hh | ⟨_, _, hpure⟩⟩
  · exact Or.inl (Tuple.exists_of_traverse_eq_error hslots)
  · exact Or.inr hh
  · cases hpure

end Row

/-! ### Playbooks -/

namespace Playbook

/-- Two playbooks of one shape and one name, cell by cell. -/
structure Rel (R : Cell → α → β → Prop) (p : Playbook α) (q : Playbook β) : Prop where
  name : q.name = p.name
  difficulty : q.difficulty = p.difficulty
  normal : ∀ b, Row.Rel (fun i => R ⟨.normal b, .slot i⟩) (R ⟨.normal b, .hitback⟩)
    (p.normal.get b) (q.normal.get b)
  knockdown : Row.Rel (fun i => R ⟨.knockdown, .slot i⟩)
    (Option.Rel (R ⟨.knockdown, .hitback⟩)) p.knockdown q.knockdown
  wakeup : Option.Rel (Row.Rel (fun i => R ⟨.wakeup, .slot i⟩)
    (Option.Rel (R ⟨.wakeup, .hitback⟩))) p.wakeup q.wakeup
  dragon : Option.Rel (Row.Rel (fun i => R ⟨.dragon, .slot i⟩)
    (Option.Rel (R ⟨.dragon, .hitback⟩))) p.dragon q.dragon
  desperate : Option.Rel (Row.Rel (fun i => Option.Rel (R ⟨.desperate, .slot i⟩))
    (Option.Rel (R ⟨.desperate, .hitback⟩))) p.desperate q.desperate

/-- **The new playbook is the old one, cell by cell.** -/
theorem traverse_eq_ok_iff {f : Cell → α → Except ε β} {p : Playbook α} {q : Playbook β} :
    p.traverse f = .ok q ↔ Rel (fun cell x y => f cell x = .ok y) p q := by
  simp only [Playbook.traverse, Checked.bind_eq_ok_iff, Tuple.traverse_eq_ok_iff,
    Row.traverse_eq_ok_iff, traverseOption_eq_ok_iff]
  refine ⟨?_, ?_⟩
  · intro h
    obtain ⟨normal, hn, knockdown, hk, wakeup, hw, dragon, hd, desperate, hx, hpure⟩ := h
    cases hpure
    exact ⟨rfl, rfl, hn, hk, hw, hd, hx⟩
  · intro h
    obtain ⟨hname, hdifficulty, hn, hk, hw, hd, hx⟩ := h
    refine ⟨_, hn, _, hk, _, hw, _, hd, _, hx, ?_⟩
    rw [← hname, ← hdifficulty]
    rfl

/-- What stands in a cell. -/
def at? (p : Playbook α) (cell : Cell) : Option α :=
  match cell.row, cell.place with
  | .normal b, .slot i => some ((p.normal.get b).slots.get i)
  | .normal b, .hitback => some (p.normal.get b).hitback
  | .knockdown, .slot i => some (p.knockdown.slots.get i)
  | .knockdown, .hitback => p.knockdown.hitback
  | .wakeup, .slot i => p.wakeup.map fun r => r.slots.get i
  | .wakeup, .hitback => p.wakeup.bind fun r => r.hitback
  | .dragon, .slot i => p.dragon.map fun r => r.slots.get i
  | .dragon, .hitback => p.dragon.bind fun r => r.hitback
  | .desperate, .slot i => p.desperate.bind fun r => r.slots.get i
  | .desperate, .hitback => p.desperate.bind fun r => r.hitback

/-! ### By address

Every section of a playbook is read through an option or two, so the two lemmas below
carry a relation through them.
-/

private theorem rel_map {S : σ → σ' → Prop} {R : α → β → Prop} {x : Option σ} {y : Option σ'}
    {f : σ → α} {g : σ' → β} (h : Option.Rel S x y) (hfg : ∀ a b, S a b → R (f a) (g b)) :
    Option.Rel R (x.map f) (y.map g) := by
  cases h with
  | none => exact .none
  | some hab => exact .some (hfg _ _ hab)

private theorem rel_bind {S : σ → σ' → Prop} {R : α → β → Prop} {x : Option σ} {y : Option σ'}
    {f : σ → Option α} {g : σ' → Option β} (h : Option.Rel S x y)
    (hfg : ∀ a b, S a b → Option.Rel R (f a) (g b)) :
    Option.Rel R (x.bind f) (y.bind g) := by
  cases h with
  | none => exact .none
  | some hab => exact hfg _ _ hab

/-- Cells of one address are related, or both are empty. -/
theorem Rel.at? {R : Cell → α → β → Prop} {p : Playbook α} {q : Playbook β} (h : Rel R p q)
    (cell : Cell) : Option.Rel (R cell) (p.at? cell) (q.at? cell) := by
  obtain ⟨row, place⟩ := cell
  cases row with
  | normal b =>
      cases place with
      | slot i => exact .some ((h.normal b).slots i)
      | hitback => exact .some (h.normal b).hitback
  | knockdown =>
      cases place with
      | slot i => exact .some (h.knockdown.slots i)
      | hitback => exact h.knockdown.hitback
  | wakeup =>
      cases place with
      | slot i => exact rel_map h.wakeup fun _ _ hr => hr.slots i
      | hitback => exact rel_bind h.wakeup fun _ _ hr => hr.hitback
  | dragon =>
      cases place with
      | slot i => exact rel_map h.dragon fun _ _ hr => hr.slots i
      | hitback => exact rel_bind h.dragon fun _ _ hr => hr.hitback
  | desperate =>
      cases place with
      | slot i => exact rel_bind h.desperate fun _ _ hr => hr.slots i
      | hitback => exact rel_bind h.desperate fun _ _ hr => hr.hitback

/-- What stands in a cell of the new playbook was made from that cell of the old one. -/
theorem Rel.exists_of_at?_eq_some {R : Cell → α → β → Prop} {p : Playbook α} {q : Playbook β}
    (h : Rel R p q) {cell : Cell} {y : β} (hy : q.at? cell = some y) :
    ∃ x, p.at? cell = some x ∧ R cell x y := by
  have hrel := h.at? cell
  rw [hy] at hrel
  generalize p.at? cell = x at hrel
  cases hrel with
  | some hxy => exact ⟨_, rfl, hxy⟩

/-- What stood in a cell of the old playbook has become something in the new one. -/
theorem Rel.exists_at?_eq_some {R : Cell → α → β → Prop} {p : Playbook α} {q : Playbook β}
    (h : Rel R p q) {cell : Cell} {x : α} (hx : p.at? cell = some x) :
    ∃ y, q.at? cell = some y ∧ R cell x y := by
  have hrel := h.at? cell
  rw [hx] at hrel
  generalize q.at? cell = y at hrel
  cases hrel with
  | some hxy => exact ⟨_, rfl, hxy⟩

/-- A cell that was empty stays empty. -/
theorem Rel.at?_eq_none {R : Cell → α → β → Prop} {p : Playbook α} {q : Playbook β}
    (h : Rel R p q) {cell : Cell} (hx : p.at? cell = none) : q.at? cell = none := by
  have hrel := h.at? cell
  rw [hx] at hrel
  generalize q.at? cell = y at hrel
  cases hrel with
  | none => rfl

/-! ### The cell to blame -/

private theorem exists_of_loose_eq_error {f : Cell → α → Except ε β} {row : RowName}
    {r : Row α (Option α)} {e : ε}
    (h : r.traverse (fun i => f ⟨row, .slot i⟩) (traverseOption (f ⟨row, .hitback⟩)) = .error e) :
    (∃ i, f ⟨row, .slot i⟩ (r.slots.get i) = .error e) ∨
      ∃ x, r.hitback = some x ∧ f ⟨row, .hitback⟩ x = .error e := by
  rcases Row.exists_of_traverse_eq_error h with hslot | hhitback
  · exact Or.inl hslot
  · exact Or.inr (exists_of_traverseOption_eq_error hhitback)

/-- A traversal that fails has failed at some cell, with what that cell says. -/
theorem exists_of_traverse_eq_error {f : Cell → α → Except ε β} {p : Playbook α} {e : ε}
    (h : p.traverse f = .error e) : ∃ cell x, p.at? cell = some x ∧ f cell x = .error e := by
  simp only [Playbook.traverse, Checked.bind_eq_error_iff] at h
  rcases h with hn | ⟨_, -, hk | ⟨_, -, hw | ⟨_, -, hd | ⟨_, -, hx | ⟨_, _, hpure⟩⟩⟩⟩⟩
  · obtain ⟨b, hb⟩ := Tuple.exists_of_traverse_eq_error hn
    rcases Row.exists_of_traverse_eq_error hb with ⟨i, hi⟩ | hh
    · exact ⟨⟨.normal b, .slot i⟩, _, rfl, hi⟩
    · exact ⟨⟨.normal b, .hitback⟩, _, rfl, hh⟩
  · rcases exists_of_loose_eq_error hk with ⟨i, hi⟩ | ⟨x, hsome, hh⟩
    · exact ⟨⟨.knockdown, .slot i⟩, _, rfl, hi⟩
    · exact ⟨⟨.knockdown, .hitback⟩, x, hsome, hh⟩
  · obtain ⟨r, hr, herr⟩ := exists_of_traverseOption_eq_error hw
    rcases exists_of_loose_eq_error herr with ⟨i, hi⟩ | ⟨x, hsome, hh⟩
    · exact ⟨⟨.wakeup, .slot i⟩, _, by simp [at?, hr], hi⟩
    · exact ⟨⟨.wakeup, .hitback⟩, x, by simp [at?, hr, hsome], hh⟩
  · obtain ⟨r, hr, herr⟩ := exists_of_traverseOption_eq_error hd
    rcases exists_of_loose_eq_error herr with ⟨i, hi⟩ | ⟨x, hsome, hh⟩
    · exact ⟨⟨.dragon, .slot i⟩, _, by simp [at?, hr], hi⟩
    · exact ⟨⟨.dragon, .hitback⟩, x, by simp [at?, hr, hsome], hh⟩
  · obtain ⟨r, hr, herr⟩ := exists_of_traverseOption_eq_error hx
    rcases Row.exists_of_traverse_eq_error herr with ⟨i, hi⟩ | hh
    · obtain ⟨x, hsome, hf⟩ := exists_of_traverseOption_eq_error hi
      exact ⟨⟨.desperate, .slot i⟩, x, by simp [at?, hr, hsome], hf⟩
    · obtain ⟨x, hsome, hf⟩ := exists_of_traverseOption_eq_error hh
      exact ⟨⟨.desperate, .hitback⟩, x, by simp [at?, hr, hsome], hf⟩
  · cases hpure

end Playbook

end Sparring
