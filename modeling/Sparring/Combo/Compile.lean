/-
From a combo to a card.

The damage of a combo is the sum over its moves, pumps included.  A super costs its
meter; of the other moves the opener is free and each later one costs a card.  The
card looks like the opener, except that knockdown and edge are those of the last
move, self damage and self heal add up, and freeze and oblivion come from any move.

Sums are formed from left to right and checked as they grow, so that an overflow
and a faulty step compete by position.
-/
import Sparring.Card.Basic
import Sparring.Combo.Step
import Sparring.Move.Registry

namespace Sparring

namespace Registry

/-- The move of that symbol, on behalf of a combo. -/
def lookup (r : Registry) (name : Char) (combo : String) : Except Combo.Error Move :=
  match r.get? name with
  | some m => .ok m
  | none => .error (.unknownMove name combo)

end Registry

namespace Combo

/-- What a combo has dealt and cost so far. -/
structure Tally where
  damage : Amount := 0
  cost : Amount := 0
deriving DecidableEq, Repr

/-- The move of a step, and the pump tiers that the step uses. -/
def Step.resolve (r : Registry) (combo : String) (s : Step) :
    Except Error (Move × List Amount) := do
  let m ← r.lookup s.name combo
  if s.pumps ≤ m.pumps.length then
    pure (m, m.pumps.take s.pumps)
  else
    throw (.pumpOverflow m.name s.pumps m.pumps.length combo)

/-- What playing a move costs: its meter, or a card unless it opens. -/
def moveCost (opens : Bool) (m : Move) : Amount :=
  if m.super then m.meter else if opens then 0 else 1

/-- The tally after one more move with the tiers of its pumps. -/
def Tally.add (t : Tally) (opens : Bool) (m : Move) (tiers : List Amount) :
    Checked Error Tally := do
  let pumped ← Amount.sum tiers
  let dealt ← Amount.fit (m.damage.toInt + pumped.toInt)
  let damage ← Amount.fit (t.damage.toInt + dealt.toInt)
  let cost ← Amount.fit (t.cost.toInt + (moveCost opens m).toInt)
  pure { damage, cost }

/-- The moves of the steps, and the tally after all of them. -/
def play (r : Registry) (combo : String) (opens : Bool) (t : Tally) :
    List Step → Checked Error (List Move × Tally)
  | [] => .ok ([], t)
  | s :: rest => do
    let (m, tiers) ← (s.resolve r combo).mapError .refused
    let t ← t.add opens m tiers
    let (ms, total) ← play r combo false t rest
    pure (m :: ms, total)

/-- The text on the card: nothing for a low or high block, the symbol of a single move,
the opener and what follows it for a combo. -/
def describe (combo : String) (opener : Move) (follows : Bool) : String :=
  if opener.kind = .blockLow ∨ opener.kind = .blockHigh then ""
  else if follows then
    match combo.toList with
    | [] => opener.name.toString ++ " → "
    | c :: cs => c.toString ++ " → " ++ String.ofList cs
  else opener.name.toString

/-- The card of a sequence of moves. -/
def cardOf (combo : String) (t : Tally) (opener : Move) (rest : List Move) :
    Checked Error Card := do
  let last := (opener :: rest).getLast (by simp)
  let follows := !rest.isEmpty
  let selfDamage ← Amount.sum ((opener :: rest).map (·.selfDamage))
  let selfHeal ← Amount.sum ((opener :: rest).map (·.selfHeal))
  let adjust ← Amount.fit (-t.cost.toInt)
  pure {
    kind := opener.kind
    damage := t.damage
    blockDamage := opener.blockDamage
    selfDamage
    selfHeal
    speed := opener.speed
    level := opener.level
    height := opener.height
    armor := opener.armor
    super := opener.super
    isUnsafe := opener.isUnsafe
    knockdown := last.knockdown
    edge := last.edge
    recur := opener.recur
    drawOnBlock := opener.drawOnBlock
    lockdown := opener.lockdown
    backstep := opener.backstep
    undodgeable := opener.undodgeable
    unblockable := opener.unblockable
    freeze := (opener :: rest).any (·.freeze)
    oblivion := (opener :: rest).any (·.oblivion)
    transform := opener.transform
    description := describe combo opener follows
    firstDamage := if follows then opener.damage else 0
    adjust
    always := opener.super }

/-- The card of a combo. -/
def compile (r : Registry) (combo : String) : Checked Error Card := do
  let steps ← (parse combo).mapError .refused
  match ← play r combo true {} steps with
  | ([], _) => .error (.refused .empty)
  | (opener :: rest, total) => cardOf combo total opener rest

/-- The card of a combo with a patch on top; no patch may make the hand larger. -/
def compilePatched (r : Registry) (combo : String) (p : Patch) : Checked Error Card := do
  let c := (← compile r combo).apply p
  if 0 < c.adjust.toInt then
    .error (.refused (.positiveAdjust c.adjust combo))
  else
    pure c

end Combo

end Sparring
