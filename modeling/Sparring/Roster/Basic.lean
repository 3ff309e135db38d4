/-
How the built-in tables are written down.

A text is a combo.  A row is its eight slots and then its hitback, and there are four normal
rows, so nothing about lengths is left to be checked.
-/
import Sparring.Bot.Assemble

namespace Sparring.Roster

instance : Coe String Token := ⟨.combo⟩

/-- The eight slots of a row. -/
def eight {σ : Type} (a b c d e f g h : σ) : Tuple faces σ := ⟨[a, b, c, d, e, f, g, h], rfl⟩

/-- One row for each bracket. -/
def four {α : Type} (a b c d : α) : Tuple brackets α := ⟨[a, b, c, d], rfl⟩

end Sparring.Roster
