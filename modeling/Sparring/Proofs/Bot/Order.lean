/-
In what order the cells of a playbook are visited.

A traversal that fails says nothing about the cells behind the one it failed at, so which
failure is seen depends on the order of the visits.  The order is the reading order: row by
row, the slots of a row first to last and then its hitback.  `Cell.inOrder` lists all cells
that way, whether a playbook fills them or not, and `failure?_traverse` is that a traversal
fails with the failure of the first cell in this list that has one.
-/
import Sparring.Proofs.Bot.Traversal

namespace Sparring

variable {n : Nat} {α β σ τ σ' τ' ε : Type}

/-! ### What stopped a computation -/

namespace Checked

/-- The failure of a computation, if it failed. -/
def failure? : Except ε α → Option ε
  | .ok _ => none
  | .error e => some e

@[simp] theorem failure?_ok (a : α) : failure? (.ok a : Except ε α) = none := rfl

@[simp] theorem failure?_error (e : ε) : failure? (.error e : Except ε α) = some e := rfl

@[simp] theorem failure?_pure (a : α) : failure? (pure a : Except ε α) = none := rfl

theorem failure?_eq_none_iff {x : Except ε α} : failure? x = none ↔ ∃ a, x = .ok a := by
  cases x with
  | error e => simp
  | ok a => simp

theorem failure?_eq_some_iff {x : Except ε α} {e : ε} : failure? x = some e ↔ x = .error e := by
  cases x with
  | error e' => simp
  | ok a => simp

theorem failure?_map (f : α → β) (x : Except ε α) : failure? (x.map f) = failure? x := by
  cases x with
  | error e => rfl
  | ok a => rfl

/-- Of two steps the first to fail is seen, if the value of the first has no say in whether
the second fails. -/
theorem failure?_bind {x : Except ε α} {f : α → Except ε β} {k : Option ε}
    (h : ∀ a, failure? (f a) = k) : failure? (x >>= f) = (failure? x).or k := by
  cases x with
  | error e => rfl
  | ok a => exact h a

end Checked

open Checked

/-! ### The order of the visits -/

/-- The places of a row, in reading order. -/
def Place.inOrder : List Place := (List.finRange faces).map .slot ++ [.hitback]

/-- The rows of a playbook, in reading order. -/
def RowName.inOrder : List RowName :=
  (List.finRange brackets).map .normal ++ [.knockdown, .wakeup, .dragon, .desperate]

/-- The cells of a playbook, in reading order. -/
def Cell.inOrder : List Cell :=
  RowName.inOrder.flatMap fun row => Place.inOrder.map fun place => ⟨row, place⟩

/-! ### The first failure -/

theorem findSome?_cons_eq_or (f : α → Option β) (x : α) (xs : List α) :
    (x :: xs).findSome? f = (f x).or (xs.findSome? f) := by
  rw [List.findSome?_cons]
  cases f x with
  | none => rfl
  | some b => rfl

theorem findSome?_flatMap (f : β → Option σ) (g : α → List β) (xs : List α) :
    (xs.flatMap g).findSome? f = xs.findSome? fun x => (g x).findSome? f := by
  induction xs with
  | nil => rfl
  | cons x xs ih => rw [List.flatMap_cons, List.findSome?_append, ih, findSome?_cons_eq_or]

namespace Tuple

theorem failure?_traverseAlong {f : Fin n → α → Except ε β} (t : Tuple n α) (is : List (Fin n)) :
    failure? (traverseAlong f is (is.map t.get)) =
      is.findSome? fun i => failure? (f i (t.get i)) := by
  induction is with
  | nil => rfl
  | cons i is ih =>
      rw [List.map_cons, traverseAlong, findSome?_cons_eq_or, ← ih]
      refine failure?_bind fun y => ?_
      rw [failure?_bind fun _ => failure?_pure _, Option.or_none]

theorem failure?_traverse (f : Fin n → α → Except ε β) (t : Tuple n α) :
    failure? (t.traverse f) = (List.finRange n).findSome? fun i => failure? (f i (t.get i)) := by
  have hget : (List.finRange n).map t.get = t.toList := by
    apply List.ext_getElem
    · simp [t.length_toList]
    · intro k _ _
      simp [get]
  rw [← failure?_traverseAlong t, hget]
  unfold traverse
  split
  · rename_i ys hys
    exact (failure?_eq_none_iff.mpr ⟨ys, hys⟩).symm
  · rename_i e he
    exact (failure?_eq_some_iff.mpr he).symm

end Tuple

theorem failure?_traverseOption (f : α → Except ε β) (x : Option α) :
    failure? (traverseOption f x) = x.bind fun a => failure? (f a) := by
  cases x with
  | none => rfl
  | some a => exact failure?_map _ _

theorem Row.failure?_traverse (slot : Fin faces → σ → Except ε σ') (hitback : τ → Except ε τ')
    (r : Row σ τ) :
    failure? (r.traverse slot hitback) = Place.inOrder.findSome? fun
      | .slot i => failure? (slot i (r.slots.get i))
      | .hitback => failure? (hitback r.hitback) := by
  unfold Row.traverse
  rw [failure?_bind fun _ => failure?_bind fun _ => failure?_pure _, Tuple.failure?_traverse]
  simp only [Place.inOrder, List.findSome?_append, List.findSome?_map, findSome?_cons_eq_or]
  rfl

namespace Playbook

variable {f : Cell → α → Except ε β} {p : Playbook α} {row : RowName}

/-- The first failure in a row. -/
def rowFailure? (f : Cell → α → Except ε β) (p : Playbook α) (row : RowName) : Option ε :=
  Place.inOrder.findSome? fun place =>
    (p.at? ⟨row, place⟩).bind fun x => failure? (f ⟨row, place⟩ x)

theorem rowFailure?_eq_none (h : ∀ place, p.at? ⟨row, place⟩ = none) :
    p.rowFailure? f row = none := by
  unfold rowFailure?
  rw [List.findSome?_eq_none_iff]
  intro place _
  rw [h]
  rfl

/-- A row is visited place by place, so it fails as its first failing place does. -/
theorem rowFailure?_eq_failure? {slot : Fin faces → σ → Except ε σ'}
    {hitback : τ → Except ε τ'} {r : Row σ τ}
    (hslot : ∀ i, failure? (slot i (r.slots.get i)) =
      (p.at? ⟨row, .slot i⟩).bind fun x => failure? (f ⟨row, .slot i⟩ x))
    (hhitback : failure? (hitback r.hitback) =
      (p.at? ⟨row, .hitback⟩).bind fun x => failure? (f ⟨row, .hitback⟩ x)) :
    failure? (r.traverse slot hitback) = p.rowFailure? f row := by
  rw [Row.failure?_traverse]
  unfold rowFailure?
  congr 1
  funext place
  cases place with
  | slot i => exact hslot i
  | hitback => exact hhitback

theorem rowFailure?_normal (b : Fin brackets) :
    failure? ((p.normal.get b).traverse (fun i => f ⟨.normal b, .slot i⟩)
      (f ⟨.normal b, .hitback⟩)) = p.rowFailure? f (.normal b) :=
  rowFailure?_eq_failure? (fun _ => rfl) rfl

theorem rowFailure?_knockdown :
    failure? (p.knockdown.traverse (fun i => f ⟨.knockdown, .slot i⟩)
      (traverseOption (f ⟨.knockdown, .hitback⟩))) = p.rowFailure? f .knockdown :=
  rowFailure?_eq_failure? (fun _ => rfl) (failure?_traverseOption _ _)

/-- A row that may be missing, whichever it is. -/
theorem rowFailure?_loose {x : Option (Row α (Option α))}
    (hslot : ∀ i, p.at? ⟨row, .slot i⟩ = x.map fun r => r.slots.get i)
    (hhitback : p.at? ⟨row, .hitback⟩ = x.bind fun r => r.hitback) :
    failure? (traverseOption (Row.traverse (fun i => f ⟨row, .slot i⟩)
      (traverseOption (f ⟨row, .hitback⟩))) x) = p.rowFailure? f row := by
  rw [failure?_traverseOption]
  cases x with
  | none =>
      refine (rowFailure?_eq_none fun place => ?_).symm
      cases place with
      | slot i => exact hslot i
      | hitback => exact hhitback
  | some r =>
      refine rowFailure?_eq_failure? (fun i => ?_) ?_
      · rw [hslot]
        rfl
      · rw [hhitback]
        exact failure?_traverseOption _ _

theorem rowFailure?_desperate :
    failure? (traverseOption (Row.traverse (fun i => traverseOption (f ⟨.desperate, .slot i⟩))
      (traverseOption (f ⟨.desperate, .hitback⟩))) p.desperate) = p.rowFailure? f .desperate := by
  rw [failure?_traverseOption]
  cases h : p.desperate with
  | none =>
      refine (rowFailure?_eq_none fun place => ?_).symm
      cases place with
      | slot i => simp [at?, h]
      | hitback => simp [at?, h]
  | some r =>
      refine rowFailure?_eq_failure? (fun i => ?_) ?_
      · rw [failure?_traverseOption]
        simp [at?, h]
      · rw [failure?_traverseOption]
        simp [at?, h]

theorem findSome?_inOrder (f : Cell → α → Except ε β) (p : Playbook α) :
    (Cell.inOrder.findSome? fun cell => (p.at? cell).bind fun x => failure? (f cell x)) =
      RowName.inOrder.findSome? (p.rowFailure? f) := by
  simp only [Cell.inOrder, findSome?_flatMap, List.findSome?_map]
  rfl

/-- **A traversal fails with the failure of the first cell, in reading order, that has one.** -/
theorem failure?_traverse (f : Cell → α → Except ε β) (p : Playbook α) :
    failure? (p.traverse f) =
      Cell.inOrder.findSome? fun cell => (p.at? cell).bind fun x => failure? (f cell x) := by
  rw [findSome?_inOrder]
  simp only [RowName.inOrder, List.findSome?_append, List.findSome?_map, findSome?_cons_eq_or]
  unfold Playbook.traverse
  -- No step looks at what an earlier one made, so the sections can be told apart.
  refine (failure?_bind fun _ => failure?_bind fun _ => failure?_bind fun _ =>
    failure?_bind fun _ => failure?_bind fun _ => failure?_pure _).trans ?_
  rw [Tuple.failure?_traverse, rowFailure?_knockdown, rowFailure?_loose (fun _ => rfl) rfl,
    rowFailure?_loose (fun _ => rfl) rfl, rowFailure?_desperate]
  simp only [rowFailure?_normal]
  rfl

end Playbook

end Sparring
