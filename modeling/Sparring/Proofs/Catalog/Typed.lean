/-
What becomes of a code that a player types.

A typed text is trimmed, tried as a number and otherwise put into lower case.  Trimming and
lower case do nothing to a code (`trim_ofName`, `lower_ofName`), but the number is taken
seriously.  A name may consist of digits, its code then does too, and such a code is read as
a position if it has at most 64 bits: typing it finds the bot at that position, if there is
one, and not the bot whose code it is.  A code that is no such number finds its bot.
-/
import Sparring.Proofs.Catalog.Lookup
import Sparring.Proofs.Checked
import Sparring.Proofs.Text.Typed
import Sparring.Roster.Catalog

namespace Sparring

/-! ### Codes -/

namespace Code

variable {d : Char} {name : String}

theorem toNat_of_mem_ofName (hd : d ∈ (ofName name).toList) :
    (97 ≤ d.toNat ∧ d.toNat ≤ 122) ∨ (48 ≤ d.toNat ∧ d.toNat ≤ 57) ∨ d.toNat = 45 := by
  rcases mem_ofName hd with hword | rfl
  · rw [isWordChar_iff] at hword
    omega
  · exact Or.inr (Or.inr rfl)

/-- None of these is blank. -/
theorem trim_ofName (name : String) : Text.trim (ofName name).toList = (ofName name).toList := by
  refine Text.trim_eq_self fun d hd => ?_
  have := toNat_of_mem_ofName hd
  exact Text.isBlank_eq_false (by omega) (by omega)

/-- And none is a capital. -/
theorem lower_ofName (name : String) : Text.lower (ofName name).toList = (ofName name).toList := by
  refine Text.lower_eq_self fun d hd => ?_
  have := toNat_of_mem_ofName hd
  refine ⟨?_, Text.lowerChar_eq_self (by omega) (by omega)⟩
  intro hsigma
  subst hsigma
  revert this
  decide

theorem plus_not_mem_ofName (name : String) : '+' ∉ (ofName name).toList := by
  intro hd
  have := toNat_of_mem_ofName hd
  revert this
  decide

end Code

/-- A code that spells no number is typed as it stands. -/
theorem BotId.ofText_ofName_of_not_number {name : String}
    (h : ¬ Text.IsNumber64 (Code.ofName name).toList) :
    BotId.ofText (Code.ofName name) = .code (Code.ofName name) := by
  have hnone : Text.natBelow? Width.size64 (Code.ofName name).toList = none := by
    rw [Option.eq_none_iff_forall_ne_some]
    intro n hn
    exact h ((Text.natBelow?_eq_some_iff (Code.plus_not_mem_ofName name)).mp hn).1
  simp only [BotId.ofText, Code.trim_ofName, hnone, Code.lower_ofName, String.ofList_toList]

/-- A code that spells a number is typed as a position. -/
theorem BotId.ofText_ofName_of_number {name : String}
    (h : Text.IsNumber64 (Code.ofName name).toList) :
    BotId.ofText (Code.ofName name) = .index (Text.value (Code.ofName name).toList) := by
  have hsome := (Text.natBelow?_eq_some_iff (Code.plus_not_mem_ofName name)).mpr ⟨h, rfl⟩
  simp only [BotId.ofText, Code.trim_ofName, hsome]

namespace Catalog

/--
**A code that is typed finds its bot unless it spells a number.**  If it does, and the number
has at most 64 bits, it is read as a position: it finds the bot at that position, if there is
one, and so its own bot only if that is where it stands.
-/
theorem position?_typed (c : Catalog) (i : Nat) (code : String) (hcode : c.code? i = some code) :
    (¬ Text.IsNumber64 code.toList → c.position? (BotId.ofText code) = some i) ∧
    (Text.IsNumber64 code.toList → c.position? (BotId.ofText code) =
      if Text.value code.toList < c.size then some (Text.value code.toList) else none) := by
  obtain ⟨b, hb, rfl⟩ := Option.map_eq_some_iff.mp hcode
  refine ⟨?_, ?_⟩
  · intro h
    have htyped : BotId.ofText b.code = .code b.code := BotId.ofText_ofName_of_not_number h
    rw [htyped]
    exact position?_of_code_eq hb (Code.ofName_ofName b.name)
  · intro h
    have htyped : BotId.ofText b.code = .index (Text.value b.code.toList) :=
      BotId.ofText_ofName_of_number h
    rw [htyped]
    rfl

/-- Two tables, the first with a number for its name. -/
def numbered : List Table := [
  { Roster.glassMonk with book := { Roster.glassMonk.book with name := "1" } },
  Roster.foxPrimus]

/-- They make a catalog in which the code of the first bot is the position of the second. -/
theorem exists_ofTables_numbered :
    ∃ c, ofTables numbered = .ok c ∧
      c.code? 0 = some "1" ∧ c.code? 1 = some "fox-primus" ∧ c.size = 2 := by
  have hcodes : (ofTables numbered).toOption.map (fun c => (c.code? 0, c.code? 1, c.size)) =
      some (some "1", some "fox-primus", 2) := by
    decide +kernel
  obtain ⟨c, hc, hvalues⟩ := Checked.exists_eq_ok_of_map hcodes
  simp only [Prod.mk.injEq] at hvalues
  exact ⟨c, hc, hvalues⟩

theorem position?_typed_numbered :
    ∃ c, ofTables numbered = .ok c ∧
      c.code? 0 = some "1" ∧ c.position? (BotId.ofText "1") = some 1 ∧
      c.code? 1 = some "fox-primus" ∧ c.position? (BotId.ofText "fox-primus") = some 1 := by
  obtain ⟨c, hc, hfirst, hsecond, hsize⟩ := exists_ofTables_numbered
  have hdigits : "1".toList.all Char.isDigit = true := by decide
  have hnumber : Text.IsNumber64 "1".toList :=
    ⟨by decide, List.all_eq_true.mp hdigits, by decide⟩
  have hword : ¬ Text.IsNumber64 "fox-primus".toList := fun h =>
    absurd (h.digits 'f' (by decide)) (by decide)
  refine ⟨c, hc, hfirst, ?_, hsecond, (position?_typed c 1 _ hsecond).1 hword⟩
  rw [(position?_typed c 0 _ hfirst).2 hnumber, hsize]
  decide

/-- The first bot is not found by its code: what is found is the second. -/
theorem typed_code_finds_another :
    ¬ ∀ (ts : List Table) (c : Catalog), ofTables ts = .ok c → ∀ i code, c.code? i = some code →
      c.position? (BotId.ofText code) = some i := by
  intro hall
  obtain ⟨c, hc, hfirst, -⟩ := exists_ofTables_numbered
  have hfound := hall numbered c hc 0 "1" hfirst
  have htyped : BotId.ofText "1" = .index 1 := by decide
  rw [htyped, position?_index_eq_some_iff] at hfound
  exact absurd hfound.1 (by decide)

end Catalog

end Sparring
