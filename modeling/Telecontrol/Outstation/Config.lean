import Telecontrol.Parameters

/-!
# Outstation configuration

Where a controlled station listens, and the limits that it keeps.

* `OutstationConfig`: the configuration, with its defaults.
* `OutstationConfig.validate`: the first rule that a configuration breaks, if any.
-/

namespace Telecontrol

structure OutstationConfig where
  bindAddress : String := "0.0.0.0"
  port : Nat := Parameters.defaultPort
  parameters : Parameters := {}
  maxQueueSize : Nat := 1000
  maxOpenConnections : Nat := 10
  secured : Bool := false
  deriving DecidableEq, Repr, Inhabited

namespace OutstationConfig

/-- Accepts a configuration that an outstation can run with, or names the first rule it breaks. -/
def validate (c : OutstationConfig) : Except Fault Unit := do
  c.parameters.validate
  if c.maxOpenConnections = 0 then
    throw (.config "max_open_connections must be at least 1")
  if c.maxQueueSize = 0 then
    throw (.config "max_queue_size must be at least 1")

def describe (c : OutstationConfig) : String :=
  Text.record "ServerConfig"
    [("bind_address", Text.quoted c.bindAddress), ("port", toString c.port),
      ("parameters", c.parameters.describe), ("max_queue_size", toString c.maxQueueSize),
      ("max_open_connections", toString c.maxOpenConnections), ("security", toString c.secured)]
    true

end OutstationConfig

end Telecontrol
