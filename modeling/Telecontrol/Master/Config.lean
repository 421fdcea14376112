import Telecontrol.Parameters

/-!
# Master configuration

What a controlling station is told about the outstation that it connects to.

* `MasterConfig`: address, parameters and whether the data transfer is started at once.
-/

namespace Telecontrol

structure MasterConfig where
  host : String
  port : Nat := Parameters.defaultPort
  parameters : Parameters := {}
  autostart : Bool := true
  secured : Bool := false
  deriving DecidableEq, Repr, Inhabited

namespace MasterConfig

def describe (c : MasterConfig) : String :=
  Text.record "ConnectionConfig"
    [("host", Text.quoted c.host), ("port", toString c.port),
      ("parameters", c.parameters.describe), ("autostart", toString c.autostart),
      ("security", toString c.secured)]
    true

end MasterConfig

end Telecontrol
