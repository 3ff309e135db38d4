/-
The moves of one bot, each under its symbol.

Moves keep the order in which they were written.  A symbol written again takes the
later spec in the earlier place, so every symbol occurs once.
-/
import Sparring.Move.Basic

namespace Sparring

/-- `m` in the place of the move of the same name, or at the end. -/
def Move.putInto (m : Move) : List Move → List Move
  | [] => [m]
  | x :: xs => if x.name = m.name then m :: xs else x :: m.putInto xs

/-- Putting a move in adds its name at most once. -/
theorem Move.names_putInto (m : Move) (ms : List Move) :
    (m.putInto ms).map (·.name) =
      if m.name ∈ ms.map (·.name) then ms.map (·.name) else ms.map (·.name) ++ [m.name] := by
  induction ms with
  | nil => simp [Move.putInto]
  | cons x xs ih =>
    by_cases h : x.name = m.name
    · simp [Move.putInto, h]
    · have h' : ¬ m.name = x.name := fun e => h e.symm
      simp only [Move.putInto, h, if_false, List.map_cons, ih, List.mem_cons, h', false_or]
      split <;> simp

/-- Moves by symbol, in the order of their authors. -/
structure Registry where
  moves : List Move
  nodup : (moves.map (·.name)).Nodup
deriving Repr

namespace Registry

/-- No moves at all. -/
def empty : Registry := ⟨[], by simp⟩

/-- The registry with one more spec. -/
def insert (r : Registry) (name : Char) (s : Spec) : Registry where
  moves := (Move.ofSpec name s).putInto r.moves
  nodup := by
    rw [Move.names_putInto]
    split
    · exact r.nodup
    next h =>
      rw [List.nodup_append]
      refine ⟨r.nodup, by simp, ?_⟩
      rintro a ha b hb rfl
      simp only [List.mem_cons, List.not_mem_nil, or_false] at hb
      exact h (hb ▸ ha)

/-- The registry of a list of specs, taken in order. -/
def ofList (specs : List (Char × Spec)) : Registry :=
  specs.foldl (fun r s => r.insert s.1 s.2) empty

/-- The move of that symbol. -/
def get? (r : Registry) (name : Char) : Option Move :=
  r.moves.find? (fun m => m.name = name)

/-- How many moves there are. -/
def size (r : Registry) : Nat := r.moves.length

end Registry

end Sparring
