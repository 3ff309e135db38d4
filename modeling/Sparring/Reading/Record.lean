/-
Reading records, field by field, and lists of a fixed length.

Entries are taken in the order in which they are written, because the first thing that is
wrong is what the author is told about.  A field may be written once.  What to do with an
entry that is no field is up to the record: complain, ignore it, or keep it for later.
-/
import Sparring.Reading.Source
import Sparring.Tuple

namespace Sparring

/-- A field of a record that is being filled in. -/
structure Field (α σ : Type) where
  key : String
  /-- The record with this field read. -/
  read : σ → α → Reading σ

namespace Field

variable {α β σ τ : Type}

/-- A field whose value is read on its own. -/
def of (key : String) (read : α → Reading β) (set : σ → β → σ) : Field α σ where
  key
  read s v := do
    let b ← Reading.within (.key key) (read v)
    pure (set s b)

/-- The field as one of a larger record. -/
def lift (get : τ → σ) (set : τ → σ → τ) (f : Field α σ) : Field α τ where
  key := f.key
  read t v := do
    let s ← f.read (get t) v
    pure (set t s)

end Field

namespace Record

variable {α β κ σ : Type}

/-- Fills in a record from its entries. `other` gets the entries that are no fields. -/
def fill (key : κ → Except Cause String) (fields : List (Field α σ))
    (other : String → α → Reading β) :
    List String → σ → List (κ × α) → Reading (σ × List β)
  | _, s, [] => .ok (s, [])
  | seen, s, (k, v) :: es => do
    let name ← Reading.here (key k)
    match fields.find? (fun f => f.key = name) with
    | some f =>
      if name ∈ seen then Reading.fail (.duplicate name)
      else
        let s ← f.read s v
        fill key fields other (name :: seen) s es
    | none => do
      let b ← other name v
      let (s, bs) ← fill key fields other seen s es
      pure (s, b :: bs)

/-- Fills in a record that has no other entries than its fields. -/
def strict [Source α] (wanted : String) (fields : List (Field α σ)) (s : σ) (v : α) :
    Reading σ := do
  let entries ← Reading.here (Source.entries wanted v)
  let refuse (name : String) (_ : α) : Reading Unit :=
    Reading.fail (.unknown name (fields.map (·.key)))
  let (s, _) ← fill (Source.key Wanted.key) fields refuse [] s entries
  pure s

/-- Fills in a record and leaves the entries alone that are no fields. -/
def lenient [Source α] (fields : List (Field α σ)) (s : σ) (entries : List (α × α)) :
    Reading σ := do
  let (s, _) ← fill (Source.key Wanted.key) fields (fun _ _ => .ok ()) [] s entries
  pure s

/-- Fills in a record from a list of its fields in order; later ones may be absent. The items
that are left over come last. -/
def inOrder : List (Field α σ) → σ → List α → Reading (σ × List α)
  | f :: fields, s, v :: vs => do
    let s ← f.read s v
    inOrder fields s vs
  | _, s, vs => .ok (s, vs)

/-- A field that must be there. -/
def need (name : String) : Option β → Reading β
  | some b => .ok b
  | none => Reading.fail (.missing name)

end Record

namespace Reading

variable {α β : Type}

/-- The items of a list, each read at its step. -/
def items (read : PathStep → α → Reading β) (i : Nat) : List α → Reading (List β)
  | [] => .ok []
  | v :: vs => do
    let b ← read (.item i) v
    let bs ← items read (i + 1) vs
    pure (b :: bs)

/-- A list of exactly `n` items. -/
def tuple [Source α] (n : Nat) (read : PathStep → α → Reading β) (v : α) :
    Reading (Tuple n β) := do
  let wanted := "an array of length " ++ toString n
  let vs ← here (Source.items wanted v)
  let bs ← items read 0 (vs.take n)
  match Tuple.ofList? bs with
  | none => fail (.wrongLength bs.length wanted)
  | some t => do
    (vs.drop n).forM fun v => here (Source.skip v)
    if n < vs.length then
      fail (.wrongLength vs.length ("sequence of " ++ toString n ++ " elements"))
    else
      pure t

/-- A value that null leaves out. -/
def optional [Source α] (read : α → Reading β) (v : α) : Reading (Option β) :=
  if Source.isNull v then .ok none else (read v).map some

end Reading

end Sparring
