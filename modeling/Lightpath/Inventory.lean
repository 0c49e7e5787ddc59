import Lightpath.Encoding.Yaml
import Lightpath.Port.Naming

/-!
# Inventories of ports

The controller knows the ports of its devices from an inventory: a table that it is given, or a
file that describes the ports of one device. Ports in a file that have no number are numbered by
their names.
-/

namespace Lightpath

/-- A port as a file describes it. -/
structure PortEntry where
  number : Option UInt64
  name : String
  connectionPoint : String
  circuitPack : String
deriving DecidableEq, Repr, Inhabited

namespace PortEntry

/-- The entry as a document. -/
def encode (e : PortEntry) : Document :=
  .object [("circuit-pack", .text e.circuitPack),
    ("logical-connection-point", .text e.connectionPoint),
    ("number", match e.number with
      | some n => .word n
      | none => .null),
    ("port-name", .text e.name)]

/-- The fields in their order. -/
def fieldNames : List String :=
  ["number", "port-name", "logical-connection-point", "circuit-pack"]

/-- The entry that a node gives. -/
def decode? {α : Type} [Encoded α] (node : α) : Option PortEntry := do
  let fields ← Encoded.fields? fieldNames 0 node
  let number ← Encoded.fieldOr fields "number" none (Encoded.optional? Encoded.word64?)
  let name ← Encoded.field? fields "port-name" Encoded.text?
  let connectionPoint ← Encoded.field? fields "logical-connection-point" Encoded.text?
  let circuitPack ← Encoded.field? fields "circuit-pack" Encoded.text?
  return ⟨number, name, connectionPoint, circuitPack⟩

/-- The port of an entry. It carries the whole C-band. -/
def port (e : PortEntry) : Except Error Port := do
  let number ← match e.number with
    | some n => .ok ⟨n⟩
    | none => PortNumber.ofName e.name
  return (Port.mk number .cBand true .empty).annotate Port.nameKey e.name
    |>.annotate Port.connectionPointKey e.connectionPoint
    |>.annotate Port.circuitPackKey e.circuitPack

end PortEntry

/-- The ports of one device. -/
structure PortFile where
  device : DeviceId
  ports : List Port
deriving DecidableEq, Inhabited

namespace PortFile

/-- The field under which a refused file is reported. -/
def field : String := "inventory"

/-- The device and the entries that a node gives. -/
def decode? {α : Type} [Encoded α] (node : α) : Option (DeviceId × List PortEntry) := do
  let fields ← Encoded.fields? ["device", "ports"] 0 node
  let device ← Encoded.field? fields "device" Encoded.text?
  let entries ← Encoded.fieldOr fields "ports" [] (Encoded.list? PortEntry.decode?)
  return (⟨device⟩, entries)

/-- The aliases that are followed in a file. -/
def follows : Yaml.Follows :=
  .record [("device", .leaf),
    ("ports", .list (.record (PortEntry.fieldNames.map (·, .leaf))))]

/-- Reads a file. -/
def read (text : String) : Except Error PortFile :=
  match Yaml.Tree.read? follows decode? text with
  | none => .error (.invalidConfig field "malformed inventory")
  | some (device, entries) => (entries.mapM PortEntry.port).map (⟨device, ·⟩)

end PortFile

/-- What the controller knows of the ports of its devices. -/
inductive Inventory where
  | table (ports : Table (List Port))
  | file (known : PortFile)
deriving Inhabited

namespace Inventory

/-- The ports of a device. -/
def portsOf (i : Inventory) (d : DeviceId) : List Port :=
  match i with
  | .table ports => (ports.get? d.name).getD []
  | .file known => if d = known.device then known.ports else []

/-- A port of a device. -/
def port? (i : Inventory) (d : DeviceId) (number : PortNumber) : Option Port :=
  Port.find? (i.portsOf d) number

/-- Replaces the ports of a device in a table; a file stays as it was read. -/
def setPorts (i : Inventory) (d : DeviceId) (ports : List Port) : Inventory :=
  match i with
  | .table known => .table (known.insert d.name ports)
  | .file known => .file known

end Inventory

end Lightpath
