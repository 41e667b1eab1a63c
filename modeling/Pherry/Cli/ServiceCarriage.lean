import Pherry.Cli.ServiceAgents
import Pherry.Cli.ServiceDirectives

/-!
# What the service units carry

The values of an invocation, as the two managers read them back from the units.
-/

namespace Pherry.Cli

/-- Both units are read as the command, the variables and the log of the invocation, and nothing else: the property
list as the code points it is written with, the unit whatever its specifiers stand for. -/
structure CarriesExactly (inv : ServeInvocation) : Prop where
  agent : PropertyList.read (codePoints (renderLaunchdPlist inv)) = some (serveAgent inv)
  unit : ∀ specifiers, UnitFile.load specifiers (utf8 (renderSystemdUnit inv)) = some (serveDirectives inv)

/-- The values that both units carry. -/
structure FitsServices (inv : ServeInvocation) : Prop where
  agent : ∀ value ∈ inv.values, isLegal value = true ∧ 0x0D ∉ codePoints value
  unit : FitsUnit inv

end Pherry.Cli
