/-
The bots of the game, in the order of the catalog.
-/
import Sparring.Roster.GlassMonk
import Sparring.Roster.FoxPrimus
import Sparring.Roster.Colossus
import Sparring.Roster.TwilightBaron
import Sparring.Roster.DragonbornCenturion
import Sparring.Roster.SoothingMonk
import Sparring.Roster.WhitestarGrappler
import Sparring.Roster.AncientHero
import Sparring.Roster.JandraTheNegator
import Sparring.Roster.DragonbornFirebat

namespace Sparring.Roster

/-- The tables, each under its key. -/
def tables : List (String × Table) := [
  ("glass_monk", glassMonk),
  ("fox_primus", foxPrimus),
  ("colossus", colossus),
  ("twilight_baron", twilightBaron),
  ("dragonborn_centurion", dragonbornCenturion),
  ("soothing_monk", soothingMonk),
  ("whitestar_grappler", whitestarGrappler),
  ("ancient_hero", ancientHero),
  ("jandra_the_negator", jandraTheNegator),
  ("dragonborn_firebat", dragonbornFirebat)]

/-- The table under a key. -/
def table? (key : String) : Option Table := tables.lookup key

end Sparring.Roster
