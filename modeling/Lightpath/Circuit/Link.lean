import Lightpath.Error

/-!
# Links through a node

A connection through a node is told by the ports at its ends: `express` between two line ports,
`add` from a client port to a line port, and `drop` from a line port to a client port.
-/

namespace Lightpath

/-- The kind of a connection through a node. -/
inductive LinkType where
  | express
  | add
  | drop
deriving DecidableEq, Repr, Inhabited

/-- The ends of a connection. -/
inductive Side where
  | source
  | destination
deriving DecidableEq, Repr, Inhabited

namespace Side

/-- The name of the side. -/
def name : Side → String
  | source => "source"
  | destination => "destination"

end Side

namespace LinkType

/-- The name of the link type. -/
def name : LinkType → String
  | express => "EXPRESS"
  | add => "ADD"
  | drop => "DROP"

/-- The link type of a name. -/
def ofName? (s : String) : Option LinkType := [express, add, drop].find? (·.name = s)

/-- Whether the port at a side faces a neighbouring node. -/
def isLineSide : LinkType → Side → Bool
  | express, _ => true
  | add, .destination => true
  | drop, .source => true
  | _, _ => false

/-- The sides that face a neighbouring node, the source first. -/
def lineSides (t : LinkType) : List Side := [Side.source, Side.destination].filter t.isLineSide

/-- The link type of a connection between two ports, given the line ports of the node. -/
def resolve (inPort outPort : PortNumber) (lines : List PortNumber) : Except Error LinkType :=
  match lines.contains inPort, lines.contains outPort with
  | true, true => .ok express
  | false, true => .ok add
  | true, false => .ok drop
  | false, false => .error (.invalidTopology inPort outPort)

end LinkType

/-- A flow rule that says all that a connection through a node needs. -/
structure CrossConnect where
  rule : FlowRule
  linkType : LinkType
  inPort : PortNumber
  outPort : PortNumber
  channel : Channel
deriving DecidableEq, Repr, Inhabited

namespace CrossConnect

/-- Checks a rule against the line ports of the node. -/
def ofRule (rule : FlowRule) (lines : List PortNumber) : Except Error CrossConnect :=
  match rule.outPort, rule.channel with
  | none, _ => .error (.invalidFlowRule (rule.display ++ ": missing out-port"))
  | some _, none => .error (.invalidFlowRule (rule.display ++ ": missing lambda"))
  | some outPort, some channel =>
    match LinkType.resolve rule.inPort outPort lines with
    | .ok linkType => .ok ⟨rule, linkType, rule.inPort, outPort, channel⟩
    | .error e => .error e

/-- The connection as it is shown to people. -/
def display (xc : CrossConnect) : String :=
  xc.linkType.name ++ " " ++ xc.inPort.display ++ " -> " ++ xc.outPort.display ++ " @ " ++
    xc.channel.center.display

end CrossConnect

end Lightpath
