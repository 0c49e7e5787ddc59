import Lightpath.Circuit.Edit
import Lightpath.FlowRule

/-!
# A sample network

A node with three degrees and two client ports, a fiber switch, rules for both, and what such
devices answer. Examples and trials start from these.
-/

namespace Lightpath.Sample

/-- The node. -/
def roadm : DeviceId := ⟨"netconf:10.0.0.1:830"⟩

/-- The fiber switch. -/
def fiberSwitch : DeviceId := ⟨"rest:10.0.0.2:8008"⟩

/-- A port that carries the whole C-band. -/
def port (number : UInt64) (label circuitPack name : String) : Port :=
  (Port.mk ⟨number⟩ .cBand true .empty).annotate Port.connectionPointKey label
    |>.annotate Port.circuitPackKey circuitPack
    |>.annotate Port.nameKey name

theorem ofPort_port (number : UInt64) (label circuitPack name : String) :
    PortLabels.ofPort (port number label circuitPack name) = .ok ⟨label, circuitPack, name⟩ := rfl

/-- The ports of the node: two for each degree, and two for clients. -/
def ports : List Port :=
  [port 301 "DEG1-TTP-TX" "1/0" "ext-tx1", port 401 "DEG1-TTP-RX" "1/0" "ext-rx1",
   port 302 "DEG2-TTP-TX" "2/0" "ext-tx2", port 402 "DEG2-TTP-RX" "2/0" "ext-rx2",
   port 303 "DEG3-TTP-TX" "3/0" "ext-tx3", port 403 "DEG3-TTP-RX" "3/0" "ext-rx3",
   port 101 "SRG1-PP1-TX" "4/0" "1-1", port 102 "SRG1-PP2-RX" "4/0" "1-2"]

/-- The ports of the node without what the device says about them. -/
def bare : List Port := ports.map fun p => { p with annotations := .empty }

/-- The label of a port of the node. -/
def label? (number : PortNumber) : Option String :=
  (Port.find? ports number).bind Port.connectionPoint?

/-- A rule for a channel of 50 GHz through the node. -/
def crossConnect (inPort outPort : PortNumber) (multiplier : Int32) : FlowRule :=
  (FlowRule.between roadm inPort outPort).onChannel (.dwdm .ghz50 multiplier)

/-- A rule for the switch. -/
def fiberRule (inPort outPort : PortNumber) : FlowRule :=
  { FlowRule.between fiberSwitch inPort outPort with priority := 88 }

/-- An answer of the node. -/
def reply (body : Document) : Document :=
  .object [("data", .object [(CircuitEdit.root, body)])]

/-- The answer with connections of these names. -/
def connections (names : List String) : Document :=
  reply (.object [(CircuitEdit.connectionsKey, .list (names.map fun name =>
    .object [(CircuitEdit.connectionNameKey, .text name), ("opticalControlMode", .text "off"),
      (CircuitEdit.powerKey, .number 0)]))])

/-- The answer in which the node describes itself with these leaves; of two leaves with one name
    the later counts. -/
def info (leaves : List (String × Document)) : Document :=
  (reply (.object [(CircuitEdit.infoKey, .object leaves)])).canonical

/-- The leaves with which the node describes itself. -/
def infoLeaves : List (String × Document) :=
  [("node-type", .text "rdm"), ("vendor", .text "vendorA"), ("model", .text "model-2"),
   ("softwareVersion", .text "7.1"), ("serial-id", .text "SN0001"), ("node-number", .text "42"),
   ("geoLocation", .object [("latitude", .text "41.39"), ("longitude", .text "2.11")])]

/-- A port of a circuit pack, as the node lists it. -/
structure PackPort where
  name : String
  qualifier : String
  label : String
  wavelength : Option String
deriving DecidableEq, Repr, Inhabited

/-- The port as a document. -/
def PackPort.encode (p : PackPort) : Document :=
  .object <|
    [("logical-connection-point", .text p.label), ("port-name", .text p.name),
      ("port-qual", .text p.qualifier)] ++
    (p.wavelength.map fun w => ("port-wavelength-type", Document.text w)).toList

/-- The answer with one circuit pack. -/
def circuitPack (name : String) (ports : List PackPort) : Document :=
  reply (.object [(CircuitEdit.circuitPacksKey, .list
    [.object [("circuit-pack-name", .text name), ("ports", .list (ports.map PackPort.encode))]])])

/-- The answer of a switch with its ports. -/
def switchPorts (inputs outputs : List UInt64) : Document :=
  .object [("input_ports", .list (inputs.map .word)), ("output_ports", .list (outputs.map .word))]

/-- The answer of a switch with its connections; of two for one in-port the later counts. -/
def switchConnections (pairs : List (PortNumber × UInt64)) : Document :=
  (Document.object (pairs.map fun (inPort, out) => (inPort.display, .word out))).canonical

end Lightpath.Sample
