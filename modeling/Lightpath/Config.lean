import Lightpath.Datastore
import Lightpath.Error
import Lightpath.PowerRange

/-!
# Configuration

What an operator decides for all devices, the values that hold without a decision, and the values
that are refused.
-/

namespace Lightpath

/-- What is decided for fiber switches. -/
structure SwitchConfig where
  /-- The priority of rules read back from a switch, which keeps none. -/
  defaultPriority : UInt32 := 88
  connectionsPath : String := "/connections/"
  portsPath : String := "/ports/"
deriving DecidableEq, Repr, Inhabited

/-- What is decided for all devices. -/
structure Config where
  /-- How many connections a device may hold. -/
  maxConnections : UInt64 := 100
  /-- What the labels of ports contain that face a neighbouring node. -/
  linePortMarker : String := "DEG"
  /-- What the labels of ports contain that face a client. -/
  clientPortMarker : String := "SRG"
  opticalControlMode : String := "off"
  /-- The power with which a connection starts. -/
  targetOutputPower : Float := 0
  /-- The datastore that is edited and read. -/
  datastore : Datastore := .running
  /-- Whether discovery first puts the device back to what it starts up with. -/
  resetRunningOnDiscovery : Bool := false
  /-- The powers that may be asked for. -/
  powerRange : PowerRange := ⟨-60, 60⟩
  fiberSwitch : SwitchConfig := {}
deriving Repr, Inhabited

namespace Config

/-- Refuses a field. -/
def refuse (field message : String) : Except Error Unit := .error (.invalidConfig field message)

/-- Finds the first field whose value is refused. -/
def validate (c : Config) : Except Error Unit :=
  if c.maxConnections = 0 then refuse "max-connections" "must be greater than zero"
  else if c.linePortMarker.isEmpty then refuse "line-port-marker" "must not be empty"
  else if c.clientPortMarker.isEmpty then refuse "client-port-marker" "must not be empty"
  else if c.powerRange.min.isNaN || c.powerRange.max.isNaN || c.powerRange.max < c.powerRange.min
  then
    refuse "power-range-dbm"
      ("lower bound " ++ Decimal.display c.powerRange.min ++ " exceeds upper bound " ++
        Decimal.display c.powerRange.max)
  else if c.fiberSwitch.connectionsPath.toList.head? ≠ some '/' then
    refuse "polatis.connections-path" "must be an absolute resource path"
  else if c.fiberSwitch.portsPath.toList.head? ≠ some '/' then
    refuse "polatis.ports-path" "must be an absolute resource path"
  else .ok ()

end Config

end Lightpath
