/-
The legend of the marks on cards, and the labels a card shows.

Two lists: the plain marks, and the marks that stand for armor or for what the bot
does to itself.  `labels` gives what one card shows, in legend order; where the
legend writes `(X)` the label has the number.
-/
import Sparring.Card.Basic

namespace Sparring

namespace Legend

/-- One line of the legend. -/
structure Entry where
  key : String
  icon : String
  meaning : String
  /-- Does a card with these attributes show it? -/
  isSet : Attributes → Bool

/-- The plain marks. -/
def marks : List Entry := [
  ⟨"unsafe", "⚠", "Unsafe on block", (·.isUnsafe)⟩,
  ⟨"edge", "⊕", "Edge on block or hit", (·.edge)⟩,
  ⟨"knockdown", "KD", "Knockdown on hit", (·.knockdown)⟩,
  ⟨"recur", "RECUR", "+1 handsize if not hit", (·.recur)⟩,
  ⟨"lockdown", "LOCK", "Prevent draw from block", (·.lockdown)⟩,
  ⟨"draw", "DRAW", "+1 handsize if blocked a strike", (·.drawOnBlock)⟩,
  ⟨"backstep", "STEP", "Beats normal/special strikes of speed 8 or higher", (·.backstep)⟩,
  ⟨"undodgeable", "CAN'T DODGE", "Cannot be dodged", (·.undodgeable)⟩,
  ⟨"unblockable", "CAN'T BLOCK", "Cannot be blocked", (·.unblockable)⟩,
  ⟨"freeze", "FREEZE", "If this hits on the bot's turn, skip your next main phase", (·.freeze)⟩,
  ⟨"oblivion", "BREAK", "If this hits, remove a random discarded card from the game",
    (·.oblivion)⟩,
  ⟨"transform", "DRAGON", "Transforms into a dragon", (·.transform)⟩]

/-- Armor, and what the bot does to itself. -/
def specials : List Entry := [
  ⟨"armor_light", "[L]", "Has armor versus A, B, C normal attacks.", (·.armor == .light)⟩,
  ⟨"armor_medium", "[M]", "Has armor versus normal attacks.", (·.armor == .medium)⟩,
  ⟨"armor_heavy", "[H]", "Has armor versus normal and special attacks.", (·.armor == .heavy)⟩,
  ⟨"self_damage", "(X) SELF DMG", "The bot takes (X) damage", (·.selfDamage != 0)⟩,
  ⟨"self_heal", "(X) SELF HEAL", "The bot heals (X) damage", (·.selfHeal != 0)⟩]

/-- What armor does, printed below an armored card. -/
def armorNote : String :=
  "If your faster attack hits the bot's armored attack, your attack can't combo, pump, or knock " ++
    "the bot down. Then the bot's attack hits you."

end Legend

namespace Attributes

/-- The label of the armor, if there is any. -/
def armorLabel (a : Attributes) : List String :=
  match a.armor with
  | .none => []
  | .light => ["[L]"]
  | .medium => ["[M]"]
  | .heavy => ["[H]"]

/-- The labels shown for these attributes, in legend order. -/
def labels (a : Attributes) : List String :=
  (Legend.marks.filter (·.isSet a)).map (·.icon) ++ a.armorLabel ++
    (if a.selfDamage = 0 then [] else [toString a.selfDamage.toInt ++ " SELF DMG"]) ++
    (if a.selfHeal = 0 then [] else [toString a.selfHeal.toInt ++ " SELF HEAL"])

end Attributes

/-- Five stars, as many of them filled as the bot is hard, but not more than five. -/
def stars (difficulty : Nat) : String :=
  String.ofList (List.replicate (min difficulty 5) '★' ++ List.replicate (5 - min difficulty 5) '☆')

end Sparring
