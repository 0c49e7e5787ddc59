import Lightpath.Config
import Lightpath.Encoding.FlowRule

/-!
# Configurations and device descriptions in a notation

A configuration is read from every notation by the same rules. Every field of it may be left out.
-/

namespace Lightpath

namespace Datastore

/-- The datastore of a name. -/
def ofName? (s : String) : Option Datastore := [running, candidate, startup].find? (·.name = s)

end Datastore

namespace DefaultOperation

/-- The operation of a name. -/
def ofName? (s : String) : Option DefaultOperation := [merge, replace, none].find? (·.name = s)

end DefaultOperation

namespace DeviceType

/-- The name of the device type in documents. -/
def name : DeviceType → String
  | .roadm => "ROADM"
  | .fiberSwitch => "FIBER_SWITCH"

/-- The device type of a name. -/
def ofName? (s : String) : Option DeviceType := [roadm, fiberSwitch].find? (·.name = s)

end DeviceType

namespace DeviceDescription

/-- The description as a document. -/
def encode (d : DeviceDescription) : Document :=
  .object [("chassis-id", .text d.chassisId), ("device-type", .text d.deviceType.name),
    ("hw-version", .text d.hardwareVersion), ("latitude", .textOrNull d.latitude),
    ("longitude", .textOrNull d.longitude), ("serial-number", .text d.serialNumber),
    ("sw-version", .text d.softwareVersion), ("vendor", .text d.vendor)]

/-- The fields of a description in their order. -/
def fieldNames : List String :=
  ["device-type", "vendor", "hw-version", "sw-version", "serial-number", "chassis-id", "latitude",
    "longitude"]

/-- The description that a node gives. As a list it has all its fields. -/
def decode? {α : Type} [Encoded α] (node : α) : Option DeviceDescription := do
  let fields ← Encoded.fields? fieldNames fieldNames.length node
  let deviceType ← Encoded.field? fields "device-type" (Encoded.alternative? DeviceType.ofName?)
  let vendor ← Encoded.field? fields "vendor" Encoded.text?
  let hardwareVersion ← Encoded.field? fields "hw-version" Encoded.text?
  let softwareVersion ← Encoded.field? fields "sw-version" Encoded.text?
  let serialNumber ← Encoded.field? fields "serial-number" Encoded.text?
  let chassisId ← Encoded.field? fields "chassis-id" Encoded.text?
  let latitude ← Encoded.fieldOr fields "latitude" none (Encoded.optional? Encoded.text?)
  let longitude ← Encoded.fieldOr fields "longitude" none (Encoded.optional? Encoded.text?)
  return ⟨deviceType, vendor, hardwareVersion, softwareVersion, serialNumber, chassisId, latitude,
    longitude⟩

end DeviceDescription

namespace PowerRange

/-- The range as a document. -/
def encode (r : PowerRange) : Document :=
  .object [("max_dbm", .number r.max), ("min_dbm", .number r.min)]

/-- The range that a node gives. -/
def decode? {α : Type} [Encoded α] (node : α) : Option PowerRange := do
  let fields ← Encoded.fields? ["min_dbm", "max_dbm"] 0 node
  let min ← Encoded.field? fields "min_dbm" Encoded.float?
  let max ← Encoded.field? fields "max_dbm" Encoded.float?
  return ⟨min, max⟩

/-- The range that a list of two powers gives. -/
def ofPair? {α : Type} [Encoded α] (node : α) : Option PowerRange :=
  match Encoded.list? Encoded.float? node with
  | some [min, max] => some ⟨min, max⟩
  | _ => none

end PowerRange

namespace SwitchConfig

/-- The configuration of switches as a document. -/
def encode (c : SwitchConfig) : Document :=
  .object [("connections-path", .text c.connectionsPath),
    ("default-priority", .int c.defaultPriority.toNat), ("ports-path", .text c.portsPath)]

/-- The fields in their order. -/
def fieldNames : List String := ["default-priority", "connections-path", "ports-path"]

/-- The configuration of switches that a node gives. -/
def decode? {α : Type} [Encoded α] (node : α) : Option SwitchConfig := do
  let fields ← Encoded.fields? fieldNames 0 node
  let default : SwitchConfig := {}
  let defaultPriority ← Encoded.fieldOr fields "default-priority" default.defaultPriority
    Encoded.word32?
  let connectionsPath ← Encoded.fieldOr fields "connections-path" default.connectionsPath
    Encoded.text?
  let portsPath ← Encoded.fieldOr fields "ports-path" default.portsPath Encoded.text?
  return ⟨defaultPriority, connectionsPath, portsPath⟩

end SwitchConfig

namespace Config

/-- The configuration as a document. -/
def encode (c : Config) : Document :=
  .object [("client-port-marker", .text c.clientPortMarker),
    ("datastore", .text c.datastore.name), ("line-port-marker", .text c.linePortMarker),
    ("max-connections", .word c.maxConnections),
    ("optical-control-mode", .text c.opticalControlMode), ("polatis", c.fiberSwitch.encode),
    ("power-range-dbm", .list [.number c.powerRange.min, .number c.powerRange.max]),
    ("reset-running-on-discovery", .bool c.resetRunningOnDiscovery),
    ("target-output-power", .number c.targetOutputPower)]

/-- The fields in their order. -/
def fieldNames : List String :=
  ["max-connections", "line-port-marker", "client-port-marker", "optical-control-mode",
    "target-output-power", "datastore", "reset-running-on-discovery", "power-range-dbm", "polatis"]

/-- The configuration that a node gives. -/
def decode? {α : Type} [Encoded α] (node : α) : Option Config := do
  let fields ← Encoded.fields? fieldNames 0 node
  let default : Config := {}
  let maxConnections ← Encoded.fieldOr fields "max-connections" default.maxConnections
    Encoded.word64?
  let linePortMarker ← Encoded.fieldOr fields "line-port-marker" default.linePortMarker
    Encoded.text?
  let clientPortMarker ← Encoded.fieldOr fields "client-port-marker" default.clientPortMarker
    Encoded.text?
  let opticalControlMode ← Encoded.fieldOr fields "optical-control-mode"
    default.opticalControlMode Encoded.text?
  let targetOutputPower ← Encoded.fieldOr fields "target-output-power" default.targetOutputPower
    Encoded.float?
  let datastore ← Encoded.fieldOr fields "datastore" default.datastore
    (Encoded.alternative? Datastore.ofName?)
  let resetRunningOnDiscovery ← Encoded.fieldOr fields "reset-running-on-discovery"
    default.resetRunningOnDiscovery Encoded.bool?
  let powerRange ← Encoded.fieldOr fields "power-range-dbm" default.powerRange
    PowerRange.ofPair?
  let fiberSwitch ← Encoded.fieldOr fields "polatis" default.fiberSwitch SwitchConfig.decode?
  return ⟨maxConnections, linePortMarker, clientPortMarker, opticalControlMode, targetOutputPower,
    datastore, resetRunningOnDiscovery, powerRange, fiberSwitch⟩

end Config

end Lightpath
