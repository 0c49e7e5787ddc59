import Lightpath.Circuit.Connection
import Lightpath.Encoding.FlowRule

/-!
# Connections as documents

Connections, the channels below them and the names of all these are written for people to read;
nothing is read back from them.
-/

namespace Lightpath

/-- The link type that a node names. -/
def LinkType.decode? {α : Type} [Encoded α] (node : α) : Option LinkType :=
  Encoded.alternative? LinkType.ofName? node

namespace MediaChannel

/-- The media channel as a document. -/
def encode (m : MediaChannel) : Document :=
  .object [("max_frequency", m.window.max.encode), ("min_frequency", m.window.min.encode),
    ("name", .text m.name), ("supporting_circuit_pack", .text m.circuitPack),
    ("supporting_interface", .text m.support), ("supporting_port", .text m.port)]

end MediaChannel

namespace NetworkMediaChannel

/-- The network media channel as a document. -/
def encode (n : NetworkMediaChannel) : Document :=
  .object [("frequency", n.center.encode), ("name", .text n.name),
    ("supporting_circuit_pack", .text n.circuitPack),
    ("supporting_interface", .textOrNull n.support), ("supporting_port", .text n.port),
    ("width", n.width.encode)]

end NetworkMediaChannel

namespace Connection

/-- The connection as a document. -/
def encode (c : Connection) : Document :=
  .object [("cookie", .word c.cookie), ("device_id", c.device.encode),
    ("dst_mc", encodeOption MediaChannel.encode c.destinationMedia),
    ("dst_nmc", c.destinationNetwork.encode), ("in_port", c.inPort.encode),
    ("link_type", .text c.linkType.name), ("name", .text c.name),
    ("och_signal", c.channel.encode), ("optical_control_mode", .text c.opticalControlMode),
    ("out_port", c.outPort.encode), ("priority", .int c.priority.toNat),
    ("src_mc", encodeOption MediaChannel.encode c.sourceMedia),
    ("src_nmc", c.sourceNetwork.encode), ("target_output_power", .number c.targetOutputPower)]

end Connection

namespace CircuitNames

/-- The names as a document. -/
def encode (n : CircuitNames) : Document :=
  .object [("connection", .text n.connection), ("dst_mc", .textOrNull n.destinationMedia),
    ("dst_nmc", .text n.destinationNetwork), ("mc_names", .texts n.medias),
    ("nmc_names", .texts n.networks), ("src_mc", .textOrNull n.sourceMedia),
    ("src_nmc", .text n.sourceNetwork)]

end CircuitNames

end Lightpath
