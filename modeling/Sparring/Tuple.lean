/-
A fixed number of values in order: the eight faces of a die, the four brackets
of a hand.

A tuple is a list together with its length, so the lemmas about lists apply.  The
one operation of substance is `traverse`, which runs a step on every entry, first
to last, and stops at the first step that fails.
-/

namespace Sparring

/-- `n` values in order. -/
structure Tuple (n : Nat) (α : Type) where
  /-- The values, first to last. -/
  toList : List α
  length_toList : toList.length = n
deriving DecidableEq, Repr

namespace Tuple

variable {n : Nat} {α β ε : Type}

/-- The entry at a position. -/
def get (t : Tuple n α) (i : Fin n) : α :=
  t.toList.get ⟨i.val, by rw [t.length_toList]; exact i.isLt⟩

instance : GetElem (Tuple n α) Nat α fun _ i => i < n where
  getElem t i h := t.get ⟨i, h⟩

/-- Equal entries make equal tuples. -/
theorem ext {s t : Tuple n α} (h : ∀ i, s.get i = t.get i) : s = t := by
  obtain ⟨xs, hx⟩ := s
  obtain ⟨ys, hy⟩ := t
  have : xs = ys := by
    apply List.ext_getElem (by rw [hx, hy])
    intro i h₁ _
    exact h ⟨i, hx ▸ h₁⟩
  subst this
  rfl

/-- The list as a tuple, if it has the right length. -/
def ofList? (xs : List α) : Option (Tuple n α) :=
  if h : xs.length = n then some ⟨xs, h⟩ else none

/-- The same value everywhere. -/
def replicate (n : Nat) (x : α) : Tuple n α :=
  ⟨List.replicate n x, List.length_replicate⟩

/-- Every entry through `f`. -/
def map (f : α → β) (t : Tuple n α) : Tuple n β :=
  ⟨t.toList.map f, by rw [List.length_map, t.length_toList]⟩

@[simp] theorem get_map (f : α → β) (t : Tuple n α) (i : Fin n) :
    (t.map f).get i = f (t.get i) := by
  simp [get, map]

/-- Two tuples, entry by entry. -/
def zipWith {γ : Type} (f : α → β → γ) (s : Tuple n α) (t : Tuple n β) : Tuple n γ :=
  ⟨List.zipWith f s.toList t.toList, by simp [s.length_toList, t.length_toList]⟩

@[simp] theorem get_zipWith {γ : Type} (f : α → β → γ) (s : Tuple n α) (t : Tuple n β)
    (i : Fin n) : (s.zipWith f t).get i = f (s.get i) (t.get i) := by
  simp [get, zipWith]

/-! ### Running a step on every entry -/

/-- Steps along the positions `is`, each on its own entry. -/
def traverseAlong (f : Fin n → α → Except ε β) : List (Fin n) → List α → Except ε (List β)
  | i :: is, x :: xs => do
    let y ← f i x
    let ys ← traverseAlong f is xs
    pure (y :: ys)
  | _, _ => pure []

theorem length_traverseAlong {f : Fin n → α → Except ε β} :
    ∀ {is : List (Fin n)} {xs : List α} {ys : List β}, is.length = xs.length →
      traverseAlong f is xs = .ok ys → ys.length = xs.length
  | [], [], ys, _, h => by
    simp only [traverseAlong, pure, Except.pure, Except.ok.injEq] at h
    simp [← h]
  | i :: is, x :: xs, ys, hlen, h => by
    simp only [traverseAlong, bind, Except.bind] at h
    split at h
    next => cases h
    next y _ =>
      split at h
      next => cases h
      next ys' hys =>
        simp only [pure, Except.pure, Except.ok.injEq] at h
        have := length_traverseAlong (by simpa using hlen) hys
        simp [← h, this]

/-- Runs `f` on every entry, first to last; the first failure is the answer. -/
def traverse (f : Fin n → α → Except ε β) (t : Tuple n α) : Except ε (Tuple n β) :=
  match h : traverseAlong f (List.finRange n) t.toList with
  | .ok ys => .ok ⟨ys, by
      rw [length_traverseAlong (by rw [List.length_finRange, t.length_toList]) h,
        t.length_toList]⟩
  | .error e => .error e

end Tuple

end Sparring
