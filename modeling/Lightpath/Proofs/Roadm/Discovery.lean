import Lightpath.Proofs.Roadm.Identity
import Lightpath.Roadm.Discovery

/-!
# The ports that are read

What a node answers about its circuit packs is read port by port, each off a node of its own. Every
port that is read has all its labels: a label that its node does not tell is empty.
-/

namespace Lightpath.Roadm

/-- The nodes of the ports in a circuit pack, each with the name of the pack. -/
def packNodes (pack : Document) : List (String × Document) :=
  let name := ((pack.member? "circuit-pack-name").bind Document.leaf?).getD ""
  match pack.member? "ports" with
  | some ports => ports.nodes.map fun node => (name, node)
  | none => []

/-- The nodes of ports in an answer about circuit packs, each with the name of its pack. -/
def portNodes (reply : Document) : List (String × Document) :=
  (reply.nodesAt (CircuitEdit.replyPath CircuitEdit.circuitPacksKey)).flatMap packNodes

/-- Whether a node is read as a port with a number. -/
def isNodeOf (number : PortNumber) (entry : String × Document) : Bool :=
  (readPort? entry.1 entry.2).any (·.number = number)

/-- The node of the port with a number, the first that is read as one, with the name of its pack. -/
def portNode? (reply : Document) (number : PortNumber) : Option (String × Document) :=
  (portNodes reply).find? (isNodeOf number)

/-- The label that the node of a port tells. -/
def labelLeaf? (node : Document) : Option String :=
  (node.member? "logical-connection-point").bind Document.leaf?

theorem readPorts_eq (reply : Document) :
    readPorts reply = (portNodes reply).filterMap fun entry => readPort? entry.1 entry.2 := by
  rw [readPorts, portNodes, List.filterMap_flatMap]
  congr 1
  funext pack
  unfold packNodes
  cases pack.member? "ports" with
  | none => rfl
  | some ports =>
    dsimp only
    rw [List.filterMap_map]
    rfl

/-- The port with a number is read off its node. -/
theorem find?_readPorts (reply : Document) (number : PortNumber) :
    Port.find? (readPorts reply) number =
      (portNode? reply number).bind fun entry => readPort? entry.1 entry.2 := by
  rw [readPorts_eq, Port.find?, List.find?_filterMap]
  rfl

theorem ofPort_of_readPort? {pack : String} {node : Document} {p : Port}
    (read : readPort? pack node = some p) :
    ∃ name, PortLabels.ofPort p = .ok ⟨(labelLeaf? node).getD "", pack, name⟩ := by
  rw [readPort?] at read
  dsimp only at read
  split at read
  · generalize ((node.member? "port-name").bind Document.leaf?).getD "unnamed" = name at read
    split at read
    · cases read
      refine ⟨name, PortLabels.ofPort_eq_ok_iff.2 ⟨?_, ?_, ?_⟩⟩ <;>
        simp [PortLabels.require, Port.annotation?, Port.annotate, Table.get?_insert, Port.nameKey,
          Port.connectionPointKey, Port.circuitPackKey, labelLeaf?]
    · cases read
  · cases read

/-- Every port that is read has all its labels, if need be empty ones. -/
theorem ofPort_of_find? {reply : Document} {number : PortNumber} {p : Port}
    (found : Port.find? (readPorts reply) number = some p) :
    ∃ pack node name, portNode? reply number = some (pack, node) ∧
      PortLabels.ofPort p = .ok ⟨(labelLeaf? node).getD "", pack, name⟩ := by
  rw [find?_readPorts] at found
  obtain ⟨⟨pack, node⟩, first, read⟩ := Option.bind_eq_some_iff.1 found
  obtain ⟨name, known⟩ := ofPort_of_readPort? read
  exact ⟨pack, node, name, first, known⟩

end Lightpath.Roadm
