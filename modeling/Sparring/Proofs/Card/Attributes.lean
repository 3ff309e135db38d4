/-
Attributes one by one.

Overrides and attributes are records with a field for each number and each mark, but readers
go through the numbers and the marks as lists.  What connects the two is said here: a record
is known by the values under every number and mark (`ext_of`), a list of settings sets every
member of its own family and touches none of the other, and the overrides that are set are
the attributes that come out.
-/
import Sparring.Card.Attributes

namespace Sparring

theorem Stat.mem_all (s : Stat) : s ∈ Stat.all := by cases s <;> decide

theorem Flag.mem_all (f : Flag) : f ∈ Flag.all := by cases f <;> decide

namespace Overrides

theorem ext_of {o o' : Overrides} (hstat : ∀ s, o.stat s = o'.stat s)
    (hheight : o.height = o'.height) (harmor : o.armor = o'.armor)
    (hflag : ∀ f, o.flag f = o'.flag f) : o = o' := by
  cases o
  cases o'
  rw [mk.injEq]
  exact ⟨hstat .damage, hstat .blockDamage, hstat .selfDamage, hstat .selfHeal, hstat .speed,
    hstat .level, hheight, harmor, hflag .super, hflag .isUnsafe, hflag .knockdown, hflag .edge,
    hflag .recur, hflag .drawOnBlock, hflag .lockdown, hflag .backstep, hflag .undodgeable,
    hflag .unblockable, hflag .freeze, hflag .oblivion, hflag .transform⟩

/-! ### Setting one -/

theorem stat_setStat (o : Overrides) (v : Option Amount) (s t : Stat) :
    (o.setStat v s).stat t = if t = s then v else o.stat t := by
  cases s <;> cases t <;> rfl

theorem flag_setFlag (o : Overrides) (v : Option Bool) (f g : Flag) :
    (o.setFlag v f).flag g = if g = f then v else o.flag g := by
  cases f <;> cases g <;> rfl

theorem stat_setFlag (o : Overrides) (v : Option Bool) (f : Flag) (s : Stat) :
    (o.setFlag v f).stat s = o.stat s := by
  cases f <;> rfl

theorem height_setFlag (o : Overrides) (v : Option Bool) (f : Flag) :
    (o.setFlag v f).height = o.height := by
  cases f <;> rfl

theorem armor_setFlag (o : Overrides) (v : Option Bool) (f : Flag) :
    (o.setFlag v f).armor = o.armor := by
  cases f <;> rfl

/-! ### Setting all -/

/-- With these numbers. -/
def setStats (o : Overrides) (stat : Stat → Option Amount) : Overrides :=
  Stat.all.foldl (fun o s => o.setStat (stat s) s) o

/-- With these marks. -/
def setFlags (o : Overrides) (flag : Flag → Option Bool) : Overrides :=
  Flag.all.foldl (fun o f => o.setFlag (flag f) f) o

theorem stat_setStats (o : Overrides) (stat : Stat → Option Amount) (s : Stat) :
    (o.setStats stat).stat s = stat s := by
  cases s <;> simp [setStats, Stat.all, stat_setStat]

theorem flag_setFlags (o : Overrides) (flag : Flag → Option Bool) (f : Flag) :
    (o.setFlags flag).flag f = flag f := by
  cases f <;> simp [setFlags, Flag.all, flag_setFlag]

theorem stat_setFlags (o : Overrides) (flag : Flag → Option Bool) (s : Stat) :
    (o.setFlags flag).stat s = o.stat s := by
  simp [setFlags, Flag.all, stat_setFlag]

theorem height_setFlags (o : Overrides) (flag : Flag → Option Bool) :
    (o.setFlags flag).height = o.height := by
  simp [setFlags, Flag.all, height_setFlag]

theorem armor_setFlags (o : Overrides) (flag : Flag → Option Bool) :
    (o.setFlags flag).armor = o.armor := by
  simp [setFlags, Flag.all, armor_setFlag]

/-- The overrides with these values. -/
def collect (stat : Stat → Option Amount) (height : Option Height) (armor : Option Armor)
    (flag : Flag → Option Bool) : Overrides :=
  { ({} : Overrides).setStats stat with height, armor }.setFlags flag

section

variable (stat : Stat → Option Amount) (height : Option Height) (armor : Option Armor)
  (flag : Flag → Option Bool)

theorem stat_collect (s : Stat) : (collect stat height armor flag).stat s = stat s := by
  rw [collect, stat_setFlags, ← stat_setStats {} stat s]
  cases s <;> rfl

theorem height_collect : (collect stat height armor flag).height = height := by
  rw [collect, height_setFlags]

theorem armor_collect : (collect stat height armor flag).armor = armor := by
  rw [collect, armor_setFlags]

theorem flag_collect (f : Flag) : (collect stat height armor flag).flag f = flag f := by
  rw [collect, flag_setFlags]

end

theorem collect_self (o : Overrides) : collect o.stat o.height o.armor o.flag = o :=
  ext_of (stat_collect _ _ _ _) (height_collect _ _ _ _) (armor_collect _ _ _ _)
    (flag_collect _ _ _ _)

/-! ### Overriding everything -/

theorem stat_apply (o : Overrides) (a : Attributes) (s : Stat) :
    (o.apply a).stat s = (o.stat s).getD (a.stat s) := by
  cases s <;> rfl

theorem flag_apply (o : Overrides) (a : Attributes) (f : Flag) :
    (o.apply a).flag f = (o.flag f).getD (a.flag f) := by
  cases f <;> rfl

end Overrides

namespace Attributes

theorem ext_of {a b : Attributes} (hkind : a.kind = b.kind) (hstat : ∀ s, a.stat s = b.stat s)
    (hheight : a.height = b.height) (harmor : a.armor = b.armor)
    (hflag : ∀ f, a.flag f = b.flag f) : a = b := by
  cases a
  cases b
  rw [mk.injEq]
  exact ⟨hkind, hstat .damage, hstat .blockDamage, hstat .selfDamage, hstat .selfHeal,
    hstat .speed, hstat .level, hheight, harmor, hflag .super, hflag .isUnsafe,
    hflag .knockdown, hflag .edge, hflag .recur, hflag .drawOnBlock, hflag .lockdown,
    hflag .backstep, hflag .undodgeable, hflag .unblockable, hflag .freeze, hflag .oblivion,
    hflag .transform⟩

/-- The overrides that set every attribute. -/
def overrides (a : Attributes) : Overrides :=
  .collect (fun s => some (a.stat s)) (some a.height) (some a.armor) fun f => some (a.flag f)

/-- Overrides that set everything leave nothing of what they are applied to but its kind. -/
theorem apply_overrides (a b : Attributes) : a.overrides.apply b = { a with kind := b.kind } := by
  refine ext_of rfl (fun s => ?_) ?_ ?_ fun f => ?_
  · rw [Overrides.stat_apply, overrides, Overrides.stat_collect]
    cases s <;> rfl
  · show a.overrides.height.getD b.height = a.height
    rw [overrides, Overrides.height_collect]
    rfl
  · show a.overrides.armor.getD b.armor = a.armor
    rw [overrides, Overrides.armor_collect]
    rfl
  · rw [Overrides.flag_apply, overrides, Overrides.flag_collect]
    cases f <;> rfl

end Attributes

end Sparring
