/-
Writing what a catalog is asked and what it answers.
-/
import Sparring.Catalog.Lookup
import Sparring.Writing.Card

namespace Sparring

/-- The state as a record. -/
def State.toDatum (s : State) : Datum :=
  .record [
    ("hand_size", .int s.handSize.toNat),
    ("choice_index", .int s.choiceIndex.toNat),
    ("mode", .text s.mode.name),
    ("desperate", .bool s.desperate),
    ("hitback", .bool s.hitback)]

/-- The id as a number or a text. -/
def BotId.toDatum : BotId → Datum
  | index n => .int n
  | code text => .text text

/-- The summary as a record. -/
def Summary.toDatum (s : Summary) : Datum :=
  .record [
    ("index", .int s.index),
    ("code", .text s.code),
    ("name", .text s.name),
    ("difficulty", .int s.difficulty.toNat)]

/-- The answer as a record. -/
def Answer.toDatum (a : Answer) : Datum :=
  .record [
    ("bot", .text a.bot),
    ("difficulty", .int a.difficulty.toNat),
    ("bracket", .text a.bracket),
    ("state", a.state.toDatum),
    ("choice", a.card.toDatum),
    ("flags", .list (a.labels.map .text))]

end Sparring
