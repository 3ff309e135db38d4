/-
A checked computation, read backwards.

A chain of steps ends well only if each of its steps did, and otherwise it ends as the
first step that did not.  `bind_eq_ok_iff` and `bind_eq_error_iff` say so once, and no
proof further on has to open a chain by hand.  `mapM_eq_ok_iff` and `mapM_eq_error_iff` say
the same of a step that is run on every item of a list.

Below them stands what a checked sum gives away: if it exists it is the exact sum, and
if it does not, the only reason is that a number left its range.  It exists if and only if
every sum on the way to it is in range (`exists_sum_eq_ok_iff`), and if nothing is below
zero, all of them are as soon as the last is (`inRange_total_take`).
-/
import Sparring.Amount

namespace Sparring

namespace Checked

variable {ε ε' α β : Type}

/-! ### Chains of steps -/

theorem bind_eq_ok_iff {x : Except ε α} {f : α → Except ε β} {b : β} :
    (x >>= f) = .ok b ↔ ∃ a, x = .ok a ∧ f a = .ok b := by
  cases x with
  | error e => simp [bind, Except.bind]
  | ok a => simp [bind, Except.bind]

theorem bind_eq_error_iff {x : Except ε α} {f : α → Except ε β} {e : ε} :
    (x >>= f) = .error e ↔ x = .error e ∨ ∃ a, x = .ok a ∧ f a = .error e := by
  cases x with
  | error e' => simp [bind, Except.bind]
  | ok a => simp [bind, Except.bind]

/-- Two chains end alike if their first steps do, and then all that may follow does. -/
theorem bind_congr {x y : Except ε α} {f g : α → Except ε β} (hxy : x = y)
    (hfg : ∀ a, f a = g a) : (x >>= f) = (y >>= g) := by
  rw [hxy, funext hfg]

theorem mapError_eq_ok_iff {x : Except ε α} {g : ε → ε'} {a : α} :
    x.mapError g = .ok a ↔ x = .ok a := by
  cases x with
  | error e =>
      show Except.error (g e) = .ok a ↔ Except.error e = .ok a
      simp
  | ok b =>
      show Except.ok b = .ok a ↔ Except.ok b = .ok a
      simp

theorem mapError_eq_error_iff {x : Except ε α} {g : ε → ε'} {e' : ε'} :
    x.mapError g = .error e' ↔ ∃ e, x = .error e ∧ g e = e' := by
  cases x with
  | error e =>
      show Except.error (g e) = .error e' ↔ ∃ e₁, Except.error e = .error e₁ ∧ g e₁ = e'
      simp
  | ok b =>
      show Except.ok b = .error e' ↔ ∃ e₁, Except.ok b = .error e₁ ∧ g e₁ = e'
      simp

theorem map_eq_ok_iff {x : Except ε α} {f : α → β} {b : β} :
    x.map f = .ok b ↔ ∃ a, x = .ok a ∧ f a = b := by
  cases x with
  | error e => simp [Except.map]
  | ok a => simp [Except.map]

theorem map_eq_error_iff {x : Except ε α} {f : α → β} {e : ε} :
    x.map f = .error e ↔ x = .error e := by
  cases x with
  | error e' => simp [Except.map]
  | ok a => simp [Except.map]

/-- Steps over a list all end well, each with its own result. -/
theorem mapM_eq_ok_iff {f : α → Except ε β} {xs : List α} {ys : List β} :
    xs.mapM f = .ok ys ↔ xs.map f = ys.map Except.ok := by
  induction xs generalizing ys with
  | nil =>
      rw [List.mapM_nil, List.map_nil]
      show (Except.ok [] : Except ε (List β)) = .ok ys ↔ [] = ys.map Except.ok
      rw [Except.ok.injEq, List.nil_eq, List.nil_eq, List.map_eq_nil_iff]
  | cons x xs ih =>
      rw [List.mapM_cons, List.map_cons]
      simp only [bind_eq_ok_iff, ih]
      refine ⟨?_, ?_⟩
      · intro h
        obtain ⟨y, hy, ys', hys, hpure⟩ := h
        cases hpure
        rw [hy, hys, List.map_cons]
      · intro h
        cases ys with
        | nil => cases h
        | cons y ys =>
            obtain ⟨hy, hys⟩ := List.cons.inj h
            exact ⟨y, hy, ys, hys, rfl⟩

/-- Steps that all end well have a list of results. -/
theorem exists_map_eq_map_ok_iff {f : α → Except ε β} {xs : List α} :
    (∃ ys : List β, xs.map f = ys.map Except.ok) ↔ ∀ x ∈ xs, ∃ y, f x = .ok y := by
  refine ⟨?_, ?_⟩
  · intro h x hx
    obtain ⟨ys, hys⟩ := h
    have hmem : f x ∈ ys.map Except.ok := by
      rw [← hys]
      exact List.mem_map_of_mem hx
    obtain ⟨y, -, hy⟩ := List.mem_map.mp hmem
    exact ⟨y, hy.symm⟩
  · intro h
    induction xs with
    | nil => exact ⟨[], rfl⟩
    | cons x xs ih =>
        obtain ⟨y, hy⟩ := h x (by simp)
        obtain ⟨ys, hys⟩ := ih fun x' hx' => h x' (by simp [hx'])
        exact ⟨y :: ys, by rw [List.map_cons, List.map_cons, hy, hys]⟩

/-- Or they end as the first step that did not. -/
theorem mapM_eq_error_iff {f : α → Except ε β} {xs : List α} {e : ε} :
    xs.mapM f = .error e ↔ ∃ before x after, xs = before ++ x :: after ∧
      (∀ y ∈ before, ∃ z, f y = .ok z) ∧ f x = .error e := by
  induction xs with
  | nil =>
      rw [List.mapM_nil]
      refine ⟨?_, ?_⟩
      · intro h
        cases h
      · intro h
        obtain ⟨before, x, after, hsplit, -⟩ := h
        simp at hsplit
  | cons x xs ih =>
      rw [List.mapM_cons]
      simp only [bind_eq_error_iff, ih]
      refine ⟨?_, ?_⟩
      · intro h
        rcases h with hx | ⟨z, hz, ⟨before, y, after, rfl, hbefore, hy⟩ | ⟨_, _, hpure⟩⟩
        · exact ⟨[], x, xs, rfl, by simp, hx⟩
        · refine ⟨x :: before, y, after, rfl, ?_, hy⟩
          intro w hw
          rcases List.mem_cons.mp hw with rfl | hw
          · exact ⟨z, hz⟩
          · exact hbefore w hw
        · cases hpure
      · intro h
        obtain ⟨before, y, after, hsplit, hbefore, hy⟩ := h
        cases before with
        | nil =>
            obtain ⟨rfl, rfl⟩ := List.cons.inj hsplit
            exact Or.inl hy
        | cons w before =>
            obtain ⟨rfl, rfl⟩ := List.cons.inj hsplit
            obtain ⟨z, hz⟩ := hbefore x (by simp)
            exact Or.inr ⟨z, hz, Or.inl ⟨before, y, after, rfl,
              fun v hv => hbefore v (by simp [hv]), hy⟩⟩

theorem exists_eq_ok {x : Except ε α} (h : x.isOk = true) : ∃ a, x = .ok a := by
  cases x with
  | error e => cases h
  | ok a => exact ⟨a, rfl⟩

/-- What is seen of a result is seen of a result that there is. -/
theorem exists_eq_ok_of_map {x : Except ε α} {f : α → β} {b : β}
    (h : x.toOption.map f = some b) : ∃ a, x = .ok a ∧ f a = b := by
  cases x with
  | error e => cases h
  | ok a => exact ⟨a, rfl, Option.some.inj h⟩

/-- Whether a computation overflowed can be seen from how it ended. -/
instance decidableOverflow : (x : Checked ε α) → Decidable (x = .error .overflow)
  | .ok _ => isFalse (by simp)
  | .error .overflow => isTrue rfl
  | .error (.refused _) => isFalse (by simp)

end Checked

/-! ### Sums -/

namespace Amount

variable {ε : Type}

theorem fit_eq_ok_iff {n : Int} {a : Amount} :
    (fit n : Checked ε Amount) = .ok a ↔ a.toInt = n := by
  unfold fit
  cases h : fit? n with
  | none =>
      have hne : a.toInt ≠ n := fun heq => by
        rw [fit?_eq_some_iff.mpr heq] at h
        cases h
      simpa using hne
  | some b =>
      have hb : b.toInt = n := fit?_eq_some_iff.mp h
      rw [Except.ok.injEq, ← hb, ← Int32.toInt_inj]
      exact eq_comm

/-- The only way for a sum to fail. -/
theorem fit_eq_error {n : Int} {h : Halt ε} (hfit : (fit n : Checked ε Amount) = .error h) :
    h = .overflow := by
  unfold fit at hfit
  split at hfit
  · cases hfit
  · exact (Except.error.inj hfit).symm

/-- An amount can have this value. -/
def InRange (n : Int) : Prop := least ≤ n ∧ n ≤ greatest

instance (n : Int) : Decidable (InRange n) := by
  unfold InRange
  infer_instance

theorem inRange_toInt (a : Amount) : InRange a.toInt := ⟨least_le a, le_greatest a⟩

theorem inRange_of_nonneg {n : Int} (h : 0 ≤ n) (hle : n ≤ greatest) : InRange n := by
  refine ⟨?_, hle⟩
  unfold least
  omega

theorem exists_fit_eq_ok_iff {n : Int} :
    (∃ a, (fit n : Checked ε Amount) = .ok a) ↔ InRange n := by
  refine ⟨?_, ?_⟩
  · intro h
    obtain ⟨a, ha⟩ := h
    rw [← fit_eq_ok_iff.mp ha]
    exact inRange_toInt a
  · intro h
    cases hfit : fit? n with
    | none =>
        obtain ⟨hlo, hhi⟩ := h
        have := fit?_eq_none_iff.mp hfit
        omega
    | some a => exact ⟨a, fit_eq_ok_iff.mpr (fit?_eq_some_iff.mp hfit)⟩

/-- The exact sum of a list of amounts. -/
def total : List Amount → Int
  | [] => 0
  | x :: xs => x.toInt + total xs

@[simp] theorem total_nil : total [] = 0 := rfl

@[simp] theorem total_cons (x : Amount) (xs : List Amount) :
    total (x :: xs) = x.toInt + total xs := rfl

@[simp] theorem total_append (xs ys : List Amount) : total (xs ++ ys) = total xs + total ys := by
  induction xs with
  | nil => simp
  | cons x xs ih =>
      rw [List.cons_append, total_cons, total_cons, ih]
      omega

theorem total_nonneg {xs : List Amount} (h : ∀ x ∈ xs, 0 ≤ x.toInt) : 0 ≤ total xs := by
  induction xs with
  | nil => simp
  | cons x xs ih =>
      have hx := h x (by simp)
      have hxs := ih fun y hy => h y (by simp [hy])
      rw [total_cons]
      omega

/-- Nothing below zero: the sums on the way only grow. -/
theorem total_take_le {xs : List Amount} (h : ∀ x ∈ xs, 0 ≤ x.toInt) (n : Nat) :
    total (xs.take n) ≤ total xs := by
  have hrest : 0 ≤ total (xs.drop n) := total_nonneg fun x hx => h x (List.mem_of_mem_drop hx)
  have hsplit : total xs = total (xs.take n) + total (xs.drop n) := by
    rw [← total_append, List.take_append_drop]
  omega

private theorem foldlM_fit_eq_ok (xs : List Amount) :
    ∀ {acc a : Amount},
      xs.foldlM (fun acc x => (fit (acc.toInt + x.toInt) : Checked ε Amount)) acc = .ok a →
      a.toInt = acc.toInt + total xs := by
  induction xs with
  | nil =>
      intro acc a h
      cases h
      simp
  | cons x xs ih =>
      intro acc a h
      rw [List.foldlM_cons, Checked.bind_eq_ok_iff] at h
      obtain ⟨b, hb, hrest⟩ := h
      have hstep := fit_eq_ok_iff.mp hb
      have hsum := ih hrest
      rw [total_cons]
      omega

private theorem foldlM_fit_eq_error (xs : List Amount) :
    ∀ {acc : Amount} {h : Halt ε},
      xs.foldlM (fun acc x => (fit (acc.toInt + x.toInt) : Checked ε Amount)) acc = .error h →
      h = .overflow := by
  induction xs with
  | nil =>
      intro acc h hx
      cases hx
  | cons x xs ih =>
      intro acc h hx
      rw [List.foldlM_cons, Checked.bind_eq_error_iff] at hx
      rcases hx with hx | ⟨b, -, hrest⟩
      · exact fit_eq_error hx
      · exact ih hrest

private theorem exists_foldlM_fit_eq_ok_iff (xs : List Amount) :
    ∀ {acc : Amount},
      (∃ a, xs.foldlM (fun acc x => (fit (acc.toInt + x.toInt) : Checked ε Amount)) acc = .ok a) ↔
        ∀ n, InRange (acc.toInt + total (xs.take n)) := by
  induction xs with
  | nil =>
      intro acc
      refine ⟨?_, fun _ => ⟨acc, rfl⟩⟩
      intro _ n
      simpa using inRange_toInt acc
  | cons x xs ih =>
      intro acc
      simp only [List.foldlM_cons, Checked.bind_eq_ok_iff]
      refine ⟨?_, ?_⟩
      · intro h n
        obtain ⟨a, b, hb, hrest⟩ := h
        have hstep := fit_eq_ok_iff.mp hb
        cases n with
        | zero => simpa using inRange_toInt acc
        | succ n =>
            have := ih.mp ⟨a, hrest⟩ n
            rw [List.take_succ_cons, total_cons, ← Int.add_assoc, ← hstep]
            exact this
      · intro h
        have hfirst : InRange (acc.toInt + x.toInt) := by simpa using h 1
        obtain ⟨b, hb⟩ := exists_fit_eq_ok_iff.mpr hfirst
        have hstep := fit_eq_ok_iff.mp hb
        obtain ⟨a, ha⟩ := ih.mpr fun n => by
          have := h (n + 1)
          rw [List.take_succ_cons, total_cons, ← Int.add_assoc, ← hstep] at this
          exact this
        exact ⟨a, b, hb, ha⟩

/-- A checked sum that exists is the exact one. -/
theorem sum_eq_ok {xs : List Amount} {a : Amount} (h : (sum xs : Checked ε Amount) = .ok a) :
    a.toInt = total xs := by
  have := foldlM_fit_eq_ok xs h
  simpa using this

theorem sum_eq_error {xs : List Amount} {h : Halt ε}
    (hsum : (sum xs : Checked ε Amount) = .error h) : h = .overflow :=
  foldlM_fit_eq_error xs hsum

/-- The sum of one number is this number. -/
theorem sum_singleton (x : Amount) : (sum [x] : Checked ε Amount) = .ok x := by
  have hfit : (fit ((0 : Amount).toInt + x.toInt) : Checked ε Amount) = .ok x :=
    fit_eq_ok_iff.mpr (by simp)
  show (fit ((0 : Amount).toInt + x.toInt) >>= fun a => pure a) = _
  rw [hfit]
  rfl

/-- **A sum exists if and only if every sum on the way to it is in range.** -/
theorem exists_sum_eq_ok_iff {xs : List Amount} :
    (∃ a, (sum xs : Checked ε Amount) = .ok a) ↔ ∀ n, InRange (total (xs.take n)) := by
  have hfold : (∃ a, (sum xs : Checked ε Amount) = .ok a) ↔
      ∀ n, InRange ((0 : Amount).toInt + total (xs.take n)) := exists_foldlM_fit_eq_ok_iff xs
  simpa using hfold

/-- If nothing is below zero, only the whole sum matters. -/
theorem inRange_total_take {xs : List Amount} (hxs : ∀ x ∈ xs, 0 ≤ x.toInt)
    (hle : total xs ≤ greatest) (n : Nat) : InRange (total (xs.take n)) := by
  have hpart := total_take_le hxs n
  exact inRange_of_nonneg (total_nonneg fun x hx => hxs x (List.mem_of_mem_take hx)) (by omega)

end Amount

end Sparring
