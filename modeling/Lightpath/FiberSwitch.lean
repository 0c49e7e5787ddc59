import Lightpath.Config
import Lightpath.Document
import Lightpath.Session.Rest

/-!
# Fiber switches

A fiber switch leads all light of an in-port to an out-port. Its connections are one resource, an
object with in-ports as keys and out-ports as values. It does not know channels, so that rules for
a channel are not installed on it.
-/

namespace Lightpath

/-- What is decided and known about a switch. -/
structure FiberSwitch where
  device : DeviceId
  config : SwitchConfig
  /-- The rules that the switch is meant to hold. -/
  intents : List FlowRule
deriving Inhabited

namespace FiberSwitch

/-- An operation on a switch, with the session if the switch can be reached. -/
abbrev Action (α : Type) := ExceptT Error (StateM (Option Rest.Session)) α

/-- What has become of a rule. -/
inductive Outcome where
  | installed
  | skipped
deriving DecidableEq, Repr, Inhabited

/-- Fails unless the switch can be reached. -/
def acquire (s : FiberSwitch) : Action Unit := do
  if (← get).isNone then throw (.noSession s.device)

/-- Reads the resource at a path. -/
def read (s : FiberSwitch) (path : String) : Action Document := fun session =>
  match session with
  | none => (.error (.noSession s.device), none)
  | some session =>
    let (answer, session) := session.get path
    (answer, some session)

/-- Patches the connections. The work has a name for people, under which a status that tells of no
    success is reported. -/
def patch (s : FiberSwitch) (label : String) (body : Document) : Action Unit := fun session =>
  match session with
  | none => (.error (.noSession s.device), none)
  | some session =>
    let (status, session) := session.patch s.config.connectionsPath body
    if Rest.isSuccess status then (.ok (), some session)
    else (.error (.transport label ("HTTP " ++ toString status)), some session)

/-- The member of the connections that a rule asks for. -/
def mapping (rule : FlowRule) : Except Error Document :=
  match rule.outPort with
  | some out => .ok (.object [(rule.inPort.display, .word out.value)])
  | none => .error (.invalidFlowRule (rule.display ++ " has no out-port"))

/-- Installs a rule; rules for a channel are passed over. -/
def connect (s : FiberSwitch) (rule : FlowRule) : Action Outcome :=
  if rule.channel.isSome then return .skipped
  else do
    let body ← mapping rule
    s.acquire
    s.patch "connect" body
    return .installed

/-- Removes a rule. -/
def disconnect (s : FiberSwitch) (rule : FlowRule) : Action Unit := do
  let entry ← mapping rule
  s.acquire
  s.patch "disconnect" (.object [("remove", entry)])

/-- The out-port that a value names: an integer or a text. -/
def outPort? : Document → Option PortNumber
  | .int n => if 0 ≤ n ∧ n < UInt64.size then some ⟨UInt64.ofNat n.toNat⟩ else none
  | .text s => (PortNumber.read s).toOption
  | _ => none

/-- The rule of a member of the connections; members that name no ports have none. -/
def observed? (s : FiberSwitch) (member : String × Document) : Option FlowRule :=
  match PortNumber.read member.1, outPort? member.2 with
  | .ok inPort, some outPort =>
    some { FlowRule.between s.device inPort outPort with priority := s.config.defaultPriority }
  | _, _ => none

/-- Reads the connections back as rules, in the order of the members. -/
def readConnections (s : FiberSwitch) : Action (List FlowRule) := do
  s.acquire
  match ← s.read s.config.connectionsPath with
  | .object members => return members.filterMap s.observed?
  | _ => throw (.document (s.config.connectionsPath ++ " is not a JSON object"))

/-- Whether a rule that is meant to hold asks for what was read. -/
def asksFor (want seen : FlowRule) : Bool :=
  want.channel.isNone && want.inPort = seen.inPort && want.outPort = seen.outPort

/-- The rule that is to be installed in place of one that was read: the first for its in-port,
    unless one of the rules asks for what was read. -/
def repair? (intents : List FlowRule) (seen : FlowRule) : Option FlowRule :=
  if intents.any (asksFor · seen) then none
  else intents.find? fun want => want.inPort = seen.inPort && want.channel.isNone

/-- Repairs the connections that were read. What cannot be repaired is left for the next time. -/
def repairAll (s : FiberSwitch) : List FlowRule → Action Unit
  | [] => return
  | seen :: rest => do
    match repair? s.intents seen with
    | some want =>
      tryCatch (do
        let body ← mapping want
        s.patch "repair" body) fun _ => return
    | none => pure ()
    s.repairAll rest

/-- Compares the connections on the switch with those that are meant to hold and repairs them. The
    answer is what was read before. -/
def reconcile (s : FiberSwitch) : Action (List FlowEntry) := do
  let seen ← s.readConnections
  s.repairAll seen
  return seen.map .added

/-- The flow entries of a reconciliation; none if the switch cannot be read. -/
def flowEntries (s : FiberSwitch) : Action (List FlowEntry) :=
  tryCatch s.reconcile fun _ => return []

/-- Installs rules one after the other and tells which were installed. -/
def connectAll (s : FiberSwitch) : List FlowRule → Action (List FlowRule)
  | [] => return []
  | rule :: rules => do
    let outcome ← tryCatch (s.connect rule) fun _ => return .skipped
    let rest ← s.connectAll rules
    return if outcome = .installed then rule :: rest else rest

/-- Removes rules one after the other and tells which were removed. -/
def disconnectAll (s : FiberSwitch) : List FlowRule → Action (List FlowRule)
  | [] => return []
  | rule :: rules => do
    let done ← tryCatch (do s.disconnect rule; return true) fun _ => return false
    let rest ← s.disconnectAll rules
    return if done then rule :: rest else rest

/-- Switches of this kind do not describe themselves. -/
def description : DeviceDescription :=
  ⟨.fiberSwitch, "HPN", "0.1", "0.1", "1111", "1111", none, none⟩

/-- A port of a switch. -/
def portOf (number : PortNumber) : Port :=
  (Port.mk number .cBand true .empty).annotate Port.nameKey ("port-" ++ number.display)

/-- The ports that a switch lists: the in-ports, then the out-ports. -/
def readPorts (reply : Document) : List Port :=
  ["input_ports", "output_ports"].flatMap fun key =>
    match reply.member? key with
    | some list => list.nodes.filterMap fun node =>
      match node with
      | .int n =>
        if 0 ≤ n ∧ n < UInt64.size then some (portOf ⟨UInt64.ofNat n.toNat⟩) else none
      | _ => none
    | none => []

/-- Asks a switch for its ports; none if it cannot be read. -/
def discoverPorts (s : FiberSwitch) : Action (List Port) :=
  tryCatch (do
    s.acquire
    let reply ← s.read s.config.portsPath
    return readPorts reply) fun _ => return []

end FiberSwitch

end Lightpath
