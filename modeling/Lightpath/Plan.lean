import Lightpath.Inventory
import Lightpath.Roadm.Provision

/-!
# Planning a connection

What would be sent to a node to make one connection, and to take it away again, is found by making
the connection in a rehearsal.
-/

namespace Lightpath

/-- The connection that is planned. -/
structure Plan where
  inPort : PortNumber
  outPort : PortNumber
  center : Frequency
  width : Frequency
  /-- Whether it is also planned to take the connection away. -/
  release : Bool := false
deriving DecidableEq, Repr, Inhabited

namespace Plan

/-- The rule of the connection, the channel of which has to be on the grid. -/
def rule (p : Plan) (device : DeviceId) : Except Error FlowRule := do
  let channel ← Channel.around p.center p.width
  return (FlowRule.between device p.inPort p.outPort).onChannel channel

/-- Makes the connection and takes it away if that is planned. -/
def carryOut (p : Plan) (r : Roadm) : Roadm.Action Unit := do
  let rule ← p.rule r.device
  let _ ← r.apply rule
  if p.release then
    let _ ← r.release rule

/-- What is printed when the plan is carried out on the device of a file, and whether the plan
    fails. -/
def rehearse (p : Plan) (config : Config) (file : PortFile) : Except Error Unit × String :=
  let start : Roadm.State := ⟨none, some (.rehearsal {})⟩
  let (result, state) := (p.carryOut ⟨file.device, config, file.ports⟩).run start
  match state.session with
  | some (.rehearsal session) => (result, session.printed)
  | _ => (result, "")

end Plan

end Lightpath
