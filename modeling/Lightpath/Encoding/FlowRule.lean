import Lightpath.Encoding
import Lightpath.FlowRule

/-!
# Channels, ports and flow rules as documents

For each type, `encode` writes every field, in ascending order of the keys, and `decode?` reads it
back, from a document or from a draft. Fields at their default may be left out.
-/

namespace Lightpath

variable {α : Type} [DocumentForm α]

namespace Grid

/-- The name of the grid in documents. -/
def name : Grid → String
  | .dwdm => "dwdm"
  | .cwdm => "cwdm"
  | .flex => "flex"

/-- The grid of a name. -/
def ofName? (s : String) : Option Grid := all.find? (·.name = s)

end Grid

namespace Spacing

/-- The name of the spacing in documents. -/
def name : Spacing → String
  | .ghz100 => "100"
  | .ghz50 => "50"
  | .ghz25 => "25"
  | .ghz12Half => "12.5"
  | .ghz6Quarter => "6.25"

/-- The spacing of a name. -/
def ofName? (s : String) : Option Spacing := all.find? (·.name = s)

end Spacing

namespace SignalType

/-- The name of the signal type in documents. -/
def name : SignalType → String
  | .fixedGrid => "fixed_grid"
  | .flexGrid => "flex_grid"

/-- The signal type of a name. -/
def ofName? (s : String) : Option SignalType := [fixedGrid, flexGrid].find? (·.name = s)

end SignalType

namespace FlowState

/-- The name of the state in documents. -/
def name : FlowState → String
  | .pendingAdd => "pending_add"
  | .added => "added"
  | .pendingRemove => "pending_remove"

/-- The state of a name. -/
def ofName? (s : String) : Option FlowState :=
  [pendingAdd, added, pendingRemove].find? (·.name = s)

end FlowState

namespace Frequency

/-- The frequency as a document: its hertz. -/
def encode (f : Frequency) : Document := .word f.hz

/-- The frequency of a node. -/
def decode? (node : α) : Option Frequency := (Encoded.word64? node).map Frequency.mk

end Frequency

namespace PortNumber

/-- The port number as a document. -/
def encode (p : PortNumber) : Document := .word p.value

/-- The port number of a node. -/
def decode? (node : α) : Option PortNumber := (Encoded.word64? node).map PortNumber.mk

end PortNumber

namespace DeviceId

/-- The device as a document: its name. -/
def encode (d : DeviceId) : Document := .text d.name

/-- The device of a node. -/
def decode? (node : α) : Option DeviceId := (Encoded.text? node).map DeviceId.mk

end DeviceId

namespace Channel

/-- The channel as a document. -/
def encode (c : Channel) : Document :=
  .object [("channel_spacing", .text c.spacing.name), ("grid_type", .text c.grid.name),
    ("slot_granularity", .int c.slots.toNat), ("spacing_multiplier", .int c.multiplier.toInt)]

/-- The fields of a channel in their order. -/
def fieldNames : List String :=
  ["grid_type", "channel_spacing", "spacing_multiplier", "slot_granularity"]

/-- The channel of a node. -/
def decode? (node : α) : Option Channel := do
  let fields ← Encoded.fields? fieldNames 0 node
  let grid ← Encoded.field? fields "grid_type" (Encoded.alternative? Grid.ofName?)
  let spacing ← Encoded.field? fields "channel_spacing" (Encoded.alternative? Spacing.ofName?)
  let multiplier ← Encoded.field? fields "spacing_multiplier" DocumentForm.int32?
  let slots ← Encoded.field? fields "slot_granularity" Encoded.word32?
  return ⟨grid, spacing, multiplier, slots⟩

end Channel

namespace PortKind

/-- The kind of a port as a document; the member `type` tells which kind it is. -/
def encode : PortKind → Document
  | .oms minFrequency maxFrequency grid =>
    .object [("grid", grid.encode), ("max_frequency", maxFrequency.encode),
      ("min_frequency", minFrequency.encode), ("type", .text "oms")]
  | .och signal tunable =>
    .object [("signal", signal.encode), ("tunable", .bool tunable), ("type", .text "och")]

/-- The kind of a port from a record without the member that tells which it is. -/
def decodeAs? (kind : String) (doc : Document) : Option PortKind :=
  if kind = "oms" then do
    let fields ← Encoded.fields? ["min_frequency", "max_frequency", "grid"] 0 doc
    let minFrequency ← Encoded.field? fields "min_frequency" Frequency.decode?
    let maxFrequency ← Encoded.field? fields "max_frequency" Frequency.decode?
    let grid ← Encoded.field? fields "grid" Frequency.decode?
    return .oms minFrequency maxFrequency grid
  else if kind = "och" then do
    let fields ← Encoded.fields? ["signal", "tunable"] 0 doc
    let signal ← Encoded.field? fields "signal" Channel.decode?
    let tunable ← Encoded.field? fields "tunable" Encoded.bool?
    return .och signal tunable
  else none

/-- The kind of a port from a document, where it is told anywhere in an object or first in a
    list. -/
def ofDocument? : Document → Option PortKind
  | .object members => do
    let tag ← knownMembers? ["type"] members
    let kind ← Encoded.field? tag "type" Document.text?
    decodeAs? kind (.object (members.filter fun member => member.1 ≠ "type"))
  | .list (.text kind :: items) => decodeAs? kind (.list items)
  | _ => none

/-- The kind of a port from a node. All of it has to be known to find out which it is. -/
def decode? (node : α) : Option PortKind := (DocumentForm.whole? node).bind ofDocument?

end PortKind

namespace Port

/-- The annotations of a node: texts under keys, of several under one key the last. -/
def decodeAnnotations? (node : α) : Option (Table String) := do
  let members ← DocumentForm.members? node
  let entries ← members.mapM fun (key, value) => (Encoded.text? value).map fun s => (key, s)
  return Table.ofList entries

/-- The port as a document. -/
def encode (p : Port) : Document :=
  .object [("annotations", .object (p.annotations.entries.map fun (key, s) => (key, .text s))),
    ("enabled", .bool p.enabled), ("kind", p.kind.encode), ("number", p.number.encode)]

/-- The fields of a port in their order. -/
def fieldNames : List String := ["number", "kind", "enabled", "annotations"]

/-- The port of a node. It is enabled and has no annotations if the document is silent. -/
def decode? (node : α) : Option Port := do
  let fields ← Encoded.fields? fieldNames 0 node
  let number ← Encoded.field? fields "number" PortNumber.decode?
  let kind ← Encoded.field? fields "kind" PortKind.decode?
  let enabled ← Encoded.fieldOr fields "enabled" true Encoded.bool?
  let annotations ← Encoded.fieldOr fields "annotations" .empty decodeAnnotations?
  return ⟨number, kind, enabled, annotations⟩

end Port

/-- A value that may be missing, as a document. -/
def encodeOption {β : Type} (encode : β → Document) : Option β → Document
  | some x => encode x
  | none => .null

namespace FlowRule

/-- The rule as a document. -/
def encode (r : FlowRule) : Document :=
  .object [("cookie", .word r.cookie), ("device_id", r.device.encode),
    ("in_port", r.inPort.encode), ("och_signal", encodeOption Channel.encode r.channel),
    ("out_port", encodeOption PortNumber.encode r.outPort), ("priority", .int r.priority.toNat),
    ("signal_type", encodeOption (fun t : SignalType => .text t.name) r.signalType)]

/-- The fields of a rule in their order. -/
def fieldNames : List String :=
  ["device_id", "in_port", "out_port", "och_signal", "signal_type", "priority", "cookie"]

/-- The rule of a node. Without a word it has no out-port, no channel, no signal type, and the
    cookie zero. -/
def decode? (node : α) : Option FlowRule := do
  let fields ← Encoded.fields? fieldNames 0 node
  let device ← Encoded.field? fields "device_id" DeviceId.decode?
  let inPort ← Encoded.field? fields "in_port" PortNumber.decode?
  let outPort ← Encoded.fieldOr fields "out_port" none (Encoded.optional? PortNumber.decode?)
  let channel ← Encoded.fieldOr fields "och_signal" none (Encoded.optional? Channel.decode?)
  let signalType ← Encoded.fieldOr fields "signal_type" none
    (Encoded.optional? (Encoded.alternative? SignalType.ofName?))
  let priority ← Encoded.field? fields "priority" Encoded.word32?
  let cookie ← Encoded.fieldOr fields "cookie" 0 Encoded.word64?
  return ⟨device, inPort, outPort, channel, signalType, priority, cookie⟩

end FlowRule

namespace FlowEntry

/-- The entry as a document. -/
def encode (e : FlowEntry) : Document :=
  .object [("rule", e.rule.encode), ("state", .text e.state.name)]

/-- The entry of a node. -/
def decode? (node : α) : Option FlowEntry := do
  let fields ← Encoded.fields? ["rule", "state"] 0 node
  let rule ← Encoded.field? fields "rule" FlowRule.decode?
  let state ← Encoded.field? fields "state" (Encoded.alternative? FlowState.ofName?)
  return ⟨rule, state⟩

end FlowEntry

end Lightpath
