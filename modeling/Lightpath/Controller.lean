import Lightpath.FiberSwitch
import Lightpath.Inventory
import Lightpath.Model
import Lightpath.Roadm.Discovery
import Lightpath.Roadm.Power
import Lightpath.Roadm.Reconcile
import Lightpath.Session.Registry

/-!
# The controller

The controller binds devices to models and carries out operations on them. An operation is
addressed to a device and changes nothing but what belongs to it: its model, its cache and its
sessions. Caches outlive the binding of their device.
-/

namespace Lightpath

/-- The controller with all that it works with. -/
structure Controller where
  config : Config := {}
  inventory : Inventory := .table .empty
  /-- The rules that each device is meant to hold. -/
  intents : Table (List FlowRule) := .empty
  netconf : Sessions Netconf.Session := .empty
  rest : Sessions Rest.Session := .empty
  /-- The models that devices are bound to. -/
  bound : Table DeviceModel := .empty
  caches : Caches := .empty
deriving Inhabited

/-- Why an operation gives no answer. -/
inductive Refusal where
  /-- The device is bound to no model. -/
  | notBound
  /-- The model of the device has no such operation. -/
  | wrongModel
  | failed (error : Error)
deriving Inhabited

/-- What a device can be asked to do. -/
inductive Operation where
  | bind (tag : String)
  | unbind
  | apply (rule : FlowRule)
  | release (rule : FlowRule)
  | deleteByName (name : String)
  | reconcile
  | flowEntries
  | applyRules (rules : List FlowRule)
  | removeRules (rules : List FlowRule)
  | discoverDevice
  | discoverPorts
  | channels (port : PortNumber)
  | targetPower (port : PortNumber) (channel : Option Channel)
  | setTargetPower (port : PortNumber) (channel : Option Channel) (dbm : Float)
  | powerRanges (port : PortNumber)
  | connect (rule : FlowRule)
  | disconnect (rule : FlowRule)
  | readConnections
  | forget
deriving Inhabited

/-- What an operation answers. -/
inductive Answer where
  | done
  | bound (model : DeviceModel)
  /-- The model that the device was bound to. -/
  | unbound (model : Option DeviceModel)
  | connection (connection : Connection)
  | entries (entries : List FlowEntry)
  | rules (rules : List FlowRule)
  | description (description : DeviceDescription)
  | ports (ports : List Port)
  | channels (channels : List Channel)
  | power (dbm : Option Float)
  /-- The powers that may leave a port, and those that may come in. -/
  | powerRanges (target input : Option PowerRange)
  | outcome (outcome : FiberSwitch.Outcome)
  /-- Whether there was a cache. -/
  | forgotten (existed : Bool)
deriving Inhabited

namespace Controller

/-- A node, with what the controller knows about it. -/
def roadm (c : Controller) (d : DeviceId) : Roadm := ⟨d, c.config, c.inventory.portsOf d⟩

/-- The rules that a device is meant to hold. -/
def intentsOf (c : Controller) (d : DeviceId) : List FlowRule := (c.intents.get? d.name).getD []

/-- A switch, with what the controller knows about it. -/
def fiberSwitch (c : Controller) (d : DeviceId) : FiberSwitch :=
  ⟨d, c.config.fiberSwitch, c.intentsOf d⟩

/-- The model that a device is bound to. -/
def model? (c : Controller) (d : DeviceId) : Option DeviceModel := c.bound.get? d.name

/-- What operations on a node work with. -/
def roadmState (c : Controller) (d : DeviceId) : Roadm.State :=
  ⟨c.caches.get? d.name, c.netconf.reach? d⟩

/-- Keeps what an operation on a node has changed. -/
def keepRoadm (c : Controller) (d : DeviceId) (state : Roadm.State) : Controller :=
  { c with
    caches := match state.cache with
      | some cache => c.caches.insert d.name cache
      | none => c.caches
    netconf := match state.session with
      | some session => c.netconf.put d session
      | none => c.netconf }

/-- Keeps what an operation on a switch has changed. -/
def keepSwitch (c : Controller) (d : DeviceId) (session : Option Rest.Session) : Controller :=
  { c with
    rest := match session with
      | some session => c.rest.put d session
      | none => c.rest }

/-- The answer of an operation on a device. -/
def answerOf {α : Type} (answer : α → Answer) : Except Error α → Except Refusal Answer
  | .ok x => .ok (answer x)
  | .error e => .error (.failed e)

/-- Carries out an operation on a node. -/
def runRoadm {α : Type} (c : Controller) (d : DeviceId) (action : Roadm.Action α)
    (answer : α → Answer) : Except Refusal Answer × Controller :=
  let (result, state) := action.run (c.roadmState d)
  (answerOf answer result, c.keepRoadm d state)

/-- Carries out an operation on a switch. -/
def runSwitch {α : Type} (c : Controller) (d : DeviceId) (action : FiberSwitch.Action α)
    (answer : α → Answer) : Except Refusal Answer × Controller :=
  let (result, session) := action.run (c.rest.reach? d)
  (answerOf answer result, c.keepSwitch d session)

/-- Carries out an operation that only nodes have. -/
def onRoadm {α : Type} (c : Controller) (d : DeviceId) (action : Roadm → Roadm.Action α)
    (answer : α → Answer) : Except Refusal Answer × Controller :=
  match c.model? d with
  | none => (.error .notBound, c)
  | some .openRoadm => c.runRoadm d (action (c.roadm d)) answer
  | some .polatis => (.error .wrongModel, c)

/-- Carries out an operation that only switches have. -/
def onSwitch {α : Type} (c : Controller) (d : DeviceId)
    (action : FiberSwitch → FiberSwitch.Action α) (answer : α → Answer) :
    Except Refusal Answer × Controller :=
  match c.model? d with
  | none => (.error .notBound, c)
  | some .openRoadm => (.error .wrongModel, c)
  | some .polatis => c.runSwitch d (action (c.fiberSwitch d)) answer

/-- Carries out an operation that all devices have. -/
def onAny {α : Type} (c : Controller) (d : DeviceId) (onRoadm : Roadm → Roadm.Action α)
    (onSwitch : FiberSwitch → FiberSwitch.Action α) (answer : α → Answer) :
    Except Refusal Answer × Controller :=
  match c.model? d with
  | none => (.error .notBound, c)
  | some .openRoadm => c.runRoadm d (onRoadm (c.roadm d)) answer
  | some .polatis => c.runSwitch d (onSwitch (c.fiberSwitch d)) answer

/-- Binds a device to the model of a tag. A device that is bound keeps its model, whatever the
    tag. -/
def bind (c : Controller) (d : DeviceId) (tag : String) : Except Refusal Answer × Controller :=
  match c.model? d with
  | some model => (.ok (.bound model), c)
  | none =>
    match DeviceModel.read tag with
    | .ok model => (.ok (.bound model), { c with bound := c.bound.insert d.name model })
    | .error e => (.error (.failed e), c)

/-- Carries out an operation on a device. -/
def step (c : Controller) (d : DeviceId) : Operation → Except Refusal Answer × Controller
  | .bind tag => c.bind d tag
  | .unbind => (.ok (.unbound (c.model? d)), { c with bound := c.bound.erase d.name })
  | .apply rule => c.onRoadm d (·.apply rule) .connection
  | .release rule => c.onRoadm d (·.release rule) .connection
  | .deleteByName name => c.onRoadm d (·.deleteByName name) fun _ => .done
  | .reconcile => c.onAny d (·.reconcile) (·.reconcile) .entries
  | .flowEntries => c.onAny d (·.flowEntries) (·.flowEntries) .entries
  | .applyRules rules => c.onAny d (·.applyAll rules) (·.connectAll rules) .rules
  | .removeRules rules => c.onAny d (·.releaseAll rules) (·.disconnectAll rules) .rules
  | .discoverDevice =>
    c.onAny d (·.discoverDevice) (fun _ => pure FiberSwitch.description) .description
  | .discoverPorts => c.onAny d (·.discoverPorts) (·.discoverPorts) .ports
  | .channels _ => c.onAny d (fun _ => pure CBand.channels) (fun _ => pure CBand.channels) .channels
  | .targetPower port channel => c.onRoadm d (fun _ => Roadm.targetPower port channel) .power
  | .setTargetPower port channel dbm =>
    c.onRoadm d (·.setTargetPower port channel dbm) fun _ => .done
  | .powerRanges port =>
    c.onRoadm d (fun r => pure (r.targetPowerRange port, r.inputPowerRange port)) fun ranges =>
      .powerRanges ranges.1 ranges.2
  | .connect rule => c.onSwitch d (·.connect rule) .outcome
  | .disconnect rule => c.onSwitch d (·.disconnect rule) fun _ => .done
  | .readConnections => c.onSwitch d (·.readConnections) .rules
  | .forget =>
    (.ok (.forgotten (c.caches.contains d.name)), { c with caches := c.caches.erase d.name })

end Controller

end Lightpath
