import Lightpath.Roadm

/-!
# Target powers

The power that a connection is to leave the node with belongs to the connection. It is asked for
by a port and a channel, which stand for the first connection, in the order of names, that has the
port at one end and the center of the channel.
-/

namespace Lightpath

/-- Whether a connection ends at a port and is centered where a channel is. -/
def Connection.carries (c : Connection) (port : PortNumber) (channel : Channel) : Bool :=
  (c.inPort = port || c.outPort = port) && c.channel.center = channel.center

namespace Roadm

/-- The connection that a port and a channel stand for. -/
def carrier? (cache : ConnectionCache) (port : PortNumber) (channel : Channel) :
    Option Connection :=
  cache.values.find? (·.carries port channel)

/-- The target power at a port; ports as a whole have none. -/
def targetPower (port : PortNumber) (channel : Option Channel) : Action (Option Float) := do
  let state ← get
  return do
    let channel ← channel
    let cache ← state.cache
    let conn ← carrier? cache port channel
    return conn.targetOutputPower

/-- Sets the target power at a port, within the powers that may be asked for. -/
def setTargetPower (r : Roadm) (port : PortNumber) (channel : Option Channel) (dbm : Float) :
    Action Unit :=
  match channel with
  | none => throw (.unsupported ("port-level target power on port " ++ port.display))
  | some channel => do
    if !r.config.powerRange.contains dbm then
      throw (.invalidConfig "target-output-power"
        (Decimal.display dbm ++ " dBm outside " ++ r.config.powerRange.display))
    let cache ← openCache
    match carrier? cache port channel with
    | none =>
      throw (.cacheInconsistency r.device
        ("no connection on port " ++ port.display ++ " for " ++ channel.display))
    | some conn =>
      r.acquire
      r.edit ⟨"set target-output-power", CircuitEdit.setPower conn.name dbm⟩
      changeCache (·.setPower conn.name dbm)

/-- The powers that may be asked for at a port that sends. -/
def targetPowerRange (r : Roadm) (port : PortNumber) : Option PowerRange :=
  match Port.find? r.ports port with
  | some port => if port.isTransmitter then some r.config.powerRange else none
  | none => none

/-- The powers that may come in at a port that receives. -/
def inputPowerRange (r : Roadm) (port : PortNumber) : Option PowerRange :=
  match Port.find? r.ports port with
  | some port => if port.isReceiver then some r.config.powerRange else none
  | none => none

end Roadm

end Lightpath
