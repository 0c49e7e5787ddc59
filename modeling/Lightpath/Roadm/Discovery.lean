import Lightpath.Port.Naming
import Lightpath.Roadm

/-!
# What a node says about itself

The description of a node, and its ports: those of its circuit packs that lead out of it.
-/

namespace Lightpath.Roadm

/-- What stands for a leaf that the device does not fill. -/
def notLoaded : String := "not loaded"

/-- The description in what the device says about itself. A place needs both coordinates. -/
def describe (reply : Document) : DeviceDescription :=
  let leaf (name : String) : Option String :=
    reply.leafAt? (CircuitEdit.replyPath CircuitEdit.infoKey ++ "." ++ name)
  let filled (name : String) : String := (leaf name).getD notLoaded
  let place : Option (String × String) := do
    let latitude ← leaf "geoLocation.latitude"
    let longitude ← leaf "geoLocation.longitude"
    return (latitude, longitude)
  { deviceType := .roadm
    vendor := filled "vendor"
    hardwareVersion := filled "model"
    softwareVersion := filled "softwareVersion"
    serialNumber := filled "serial-id"
    chassisId := filled "node-number"
    latitude := place.map (·.1)
    longitude := place.map (·.2) }

/-- Asks the device for its description. If that is decided the running configuration is first put
    back to the one for starting up; whether this succeeds makes no difference. -/
def discoverDevice (r : Roadm) : Action DeviceDescription := do
  r.acquire
  if r.config.resetRunningOnDiscovery then
    tryCatch (do let _ ← r.ask (Netconf.Session.copyConfig .running .startup)) fun _ => return
  let reply ← r.ask (Netconf.Session.get CircuitEdit.infoFilter)
  return describe reply

/-- The kind of a port by what the device says of its wavelengths: one, unless it says something
    else. -/
def portKind (wavelengths : Option String) : PortKind :=
  if wavelengths.getD "wavelength" = "wavelength" then .och (.dwdm .ghz50 1) true else .cBand

/-- A port of a circuit pack that leads out of the node and whose name can be numbered. -/
def readPort? (pack : String) (node : Document) : Option Port :=
  let leaf (key : String) : Option String := (node.member? key).bind Document.leaf?
  if leaf "port-qual" = some "roadm-external" then
    let name := (leaf "port-name").getD "unnamed"
    match PortNumber.ofName name with
    | .ok number =>
      some <| ((Port.mk number (portKind (leaf "port-wavelength-type")) true .empty).annotate
          Port.circuitPackKey pack |>.annotate Port.nameKey name |>.annotate
          Port.connectionPointKey ((leaf "logical-connection-point").getD ""))
    | .error _ => none
  else none

/-- The ports of the circuit packs that the device lists. -/
def readPorts (reply : Document) : List Port :=
  (reply.nodesAt (CircuitEdit.replyPath CircuitEdit.circuitPacksKey)).flatMap fun pack =>
    let name := ((pack.member? "circuit-pack-name").bind Document.leaf?).getD ""
    match pack.member? "ports" with
    | some ports => ports.nodes.filterMap (readPort? name)
    | none => []

/-- Asks the device for its ports; none if it cannot be read. -/
def discoverPorts (r : Roadm) : Action (List Port) :=
  tryCatch (do
    r.acquire
    let reply ← r.ask (Netconf.Session.get CircuitEdit.circuitPacksFilter)
    return readPorts reply) fun _ => return []

end Lightpath.Roadm
