import Lightpath.Circuit.Edit
import Lightpath.Session.Netconf

/-!
# Nodes that add, drop and pass channels

A node is programmed through a session. The connections made on it are remembered, so that they
can be told from those that somebody else made. Every operation is a function of what the
controller knows about the node, its cache and its session; what an operation has done before it
fails stays done.
-/

namespace Lightpath

/-- What is decided and known about a node. -/
structure Roadm where
  device : DeviceId
  config : Config
  ports : List Port
deriving Inhabited

namespace Roadm

/-- What operations change: the connections remembered, once there is a cache for the node, and
    the session, if the node can be reached. -/
structure State where
  cache : Option ConnectionCache
  session : Option Netconf.Session
deriving Inhabited

/-- An operation on a node. -/
abbrev Action (α : Type) := ExceptT Error (StateM State) α

/-- The connections remembered, from now on kept in a cache. -/
def openCache : Action ConnectionCache := do
  let state ← get
  let cache := state.cache.getD .empty
  set { state with cache := some cache }
  return cache

/-- Changes the connections remembered. -/
def changeCache (f : ConnectionCache → ConnectionCache) : Action Unit :=
  modify fun state => { state with cache := state.cache.map f }

/-- Fails unless the node can be reached. -/
def acquire (r : Roadm) : Action Unit := do
  if (← get).session.isNone then throw (.noSession r.device)

/-- Asks something of the session. -/
def ask {α : Type} (r : Roadm) (request : Netconf.Session → Except Error α × Netconf.Session) :
    Action α := fun state =>
  match state.session with
  | none => (.error (.noSession r.device), state)
  | some session =>
    let (answer, session) := request session
    (answer, { state with session := some session })

/-- Sends one edit. It has failed if the device refuses it. -/
def edit (r : Roadm) (step : CircuitEdit.Step) : Action Unit := do
  let taken ← r.ask (Netconf.Session.editConfig r.config.datastore .merge step.body)
  if !taken then throw (.transport step.label "device rejected edit-config")

/-- Sends edits one after the other, up to the first that fails. -/
def program (r : Roadm) : List CircuitEdit.Step → Action Unit
  | [] => return
  | step :: steps => do
    r.edit step
    r.program steps

/-- The numbers of the line ports. -/
def lineNumbers (r : Roadm) : List PortNumber :=
  Port.lineNumbers r.ports r.config.linePortMarker

/-- A port of the node. -/
def port (r : Roadm) (number : PortNumber) : Except Error Port :=
  match Port.find? r.ports number with
  | some port => .ok port
  | none => .error (.portNotFound r.device number)

/-- The connection that a checked rule asks for. -/
def connection (r : Roadm) (xc : CrossConnect) : Except Error Connection := do
  let source ← r.port xc.inPort
  let destination ← r.port xc.outPort
  Connection.build xc source destination r.config

end Roadm

end Lightpath
