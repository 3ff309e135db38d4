/-
Reading the specs of moves.

Kind, pump tiers and meter are read where they stand.  All other entries are kept until
the end of the spec, and then the overrides are taken out of them; so a wrong override is
noticed after a missing kind, and is reported with the move's place and not its own.
Whatever is still left is an error, the first name in the order of characters.
-/
import Sparring.Move.Basic
import Sparring.Reading.Card

namespace Sparring.Spec

/-- A spec that is being read, without its overrides. -/
structure Draft where
  kind : Option Kind := none
  pumps : List Amount := []
  meter : Amount := 0

variable {α : Type} [Source α]

/-- A list of amounts. -/
def readTiers (v : α) : Reading (List Amount) := do
  let vs ← Reading.here (Source.items "a sequence" v)
  Reading.items (fun step v => Reading.within step (Reading.amount v)) 0 vs

/-- The fields that are read where they stand. -/
def Draft.fields : List (Field α Draft) := [
  .of "kind" Reading.kind fun s v => { s with kind := some v },
  .of "pump_damage" readTiers fun s v => { s with pumps := v },
  .of "meter" Reading.amount fun s v => { s with meter := v }]

/-- The least of the names. -/
def least? : List String → Option String
  | [] => none
  | name :: names =>
    match least? names with
    | some other => some (if other < name then other else name)
    | none => some name

/-- A spec. -/
def read (v : α) : Reading Spec := do
  let entries ← Reading.here (Source.entries Wanted.spec v)
  let keep (name : String) (v : α) : Reading (String × Datum) := do
    let d ← Reading.within (.key name) (Source.datum v)
    pure (name, d)
  let (draft, others) ←
    Record.fill (Source.key Wanted.key) Draft.fields keep [] {} entries
  let kind ← Record.need "kind" draft.kind
  let (overrides, unclaimed) ← Reading.here ((Overrides.claim others).mapError (·.cause))
  match least? unclaimed with
  | some name => Reading.fail (.unclaimed name)
  | none => pure { kind, overrides, pumps := draft.pumps, meter := draft.meter }

end Sparring.Spec
