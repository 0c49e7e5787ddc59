import Lightpath.Device
import Lightpath.Port

/-!
# Flow rules

A flow rule asks a device to carry light from one port to another, on one optical channel or, on
a device that does not tell channels apart, as a whole. A flow entry is a rule with the state that
it has on the device.
-/

namespace Lightpath

/-- What is to be carried from where to where. -/
structure FlowRule where
  device : DeviceId
  inPort : PortNumber
  outPort : Option PortNumber
  channel : Option Channel
  signalType : Option SignalType
  priority : UInt32
  cookie : UInt64
deriving DecidableEq, Repr, Inhabited

namespace FlowRule

/-- The rule from port to port, without a channel. -/
def between (device : DeviceId) (inPort outPort : PortNumber) : FlowRule :=
  ⟨device, inPort, some outPort, none, none, 0, 0⟩

/-- The rule for one channel, which keeps to a fixed grid. -/
def onChannel (r : FlowRule) (c : Channel) : FlowRule :=
  { r with channel := some c, signalType := some .fixedGrid }

/-- Whether two rules ask for the same: device, signal type and cookie make no difference. -/
def sameIntent (a b : FlowRule) : Bool :=
  a.inPort = b.inPort && a.outPort = b.outPort && a.channel = b.channel && a.priority = b.priority

/-- The rule as it is shown to people. -/
def display (r : FlowRule) : String :=
  let out := match r.outPort with
    | some p => p.display
    | none => "?"
  let channel := match r.channel with
    | some c => " [" ++ c.display ++ "]"
    | none => ""
  r.device.name ++ ":" ++ r.inPort.display ++ "->" ++ out ++ channel

end FlowRule

/-- How far a rule has come on the device. -/
inductive FlowState where
  | pendingAdd
  | added
  | pendingRemove
deriving DecidableEq, Repr, Inhabited

/-- A rule with its state on the device. -/
structure FlowEntry where
  rule : FlowRule
  state : FlowState
deriving DecidableEq, Repr, Inhabited

/-- The entry of a rule that is in place. -/
def FlowEntry.added (rule : FlowRule) : FlowEntry := ⟨rule, .added⟩

end Lightpath
