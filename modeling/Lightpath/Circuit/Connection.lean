import Lightpath.Channel.Window
import Lightpath.Circuit.Link
import Lightpath.Circuit.Name
import Lightpath.Config

/-!
# Connections

A connection through a node with all that is made for it on the device: a network media channel
at either end and, where an end faces a neighbouring node, the media channel below it.
-/

namespace Lightpath

/-- A window of the spectrum on a line port. -/
structure MediaChannel where
  name : String
  circuitPack : String
  port : String
  /-- The multiplex section that the channel is laid in. -/
  support : String
  window : Window
deriving DecidableEq, Repr, Inhabited

/-- The signal at the end of a connection. -/
structure NetworkMediaChannel where
  name : String
  circuitPack : String
  port : String
  /-- The media channel below; there is none on a client port. -/
  support : Option String
  center : Frequency
  width : Frequency
deriving DecidableEq, Repr, Inhabited

/-- A connection and the channels made for it. -/
structure Connection where
  name : String
  device : DeviceId
  linkType : LinkType
  inPort : PortNumber
  outPort : PortNumber
  channel : Channel
  priority : UInt32
  cookie : UInt64
  opticalControlMode : String
  targetOutputPower : Float
  sourceNetwork : NetworkMediaChannel
  destinationNetwork : NetworkMediaChannel
  sourceMedia : Option MediaChannel
  destinationMedia : Option MediaChannel
deriving Repr, Inhabited

/-- What a port says about itself that goes into the channels on it. -/
structure PortLabels where
  label : String
  circuitPack : String
  name : String
deriving DecidableEq, Repr, Inhabited

namespace PortLabels

/-- An annotation that a port has to have. -/
def require (p : Port) (key : String) : Except Error String :=
  match p.annotation? key with
  | some value => .ok value
  | none => .error (.portMetadata p.number key)

/-- The labels of a port. -/
def ofPort (p : Port) : Except Error PortLabels := do
  let label ← require p Port.connectionPointKey
  let circuitPack ← require p Port.circuitPackKey
  let name ← require p Port.nameKey
  return ⟨label, circuitPack, name⟩

/-- The media channel on a line port. -/
def media (l : PortLabels) (center : Frequency) (window : Window) : MediaChannel :=
  ⟨CircuitName.media l.label center, l.circuitPack, l.name, CircuitName.multiplexSection l.label,
    window⟩

/-- The network media channel on a port, above its media channel if there is one. -/
def network (l : PortLabels) (center width : Frequency) (media : Option MediaChannel) :
    NetworkMediaChannel :=
  ⟨CircuitName.network l.label center media.isSome, l.circuitPack, l.name, media.map (·.name),
    center, width⟩

end PortLabels

namespace Connection

/-- The connection of a checked rule between two ports. The window of the channel has to be one of
    a supported width. -/
def build (xc : CrossConnect) (sourcePort destinationPort : Port) (config : Config) :
    Except Error Connection := do
  let center := xc.channel.center
  let width := xc.channel.width
  let window := Window.around center width
  let _ ← window.channel
  let source ← PortLabels.ofPort sourcePort
  let destination ← PortLabels.ofPort destinationPort
  let mediaAt (side : Side) (labels : PortLabels) : Option MediaChannel :=
    if xc.linkType.isLineSide side then some (labels.media center window) else none
  let sourceMedia := mediaAt .source source
  let destinationMedia := mediaAt .destination destination
  let sourceNetwork := source.network center width sourceMedia
  let destinationNetwork := destination.network center width destinationMedia
  return {
    name := CircuitName.connection sourceNetwork.name destinationNetwork.name
    device := xc.rule.device
    linkType := xc.linkType
    inPort := xc.inPort
    outPort := xc.outPort
    channel := xc.channel
    priority := xc.rule.priority
    cookie := xc.rule.cookie
    opticalControlMode := config.opticalControlMode
    targetOutputPower := config.targetOutputPower
    sourceNetwork, destinationNetwork, sourceMedia, destinationMedia }

/-- The network media channel at a side. -/
def network (c : Connection) : Side → NetworkMediaChannel
  | .source => c.sourceNetwork
  | .destination => c.destinationNetwork

/-- The media channel at a side. -/
def media (c : Connection) : Side → Option MediaChannel
  | .source => c.sourceMedia
  | .destination => c.destinationMedia

/-- The media channels of the connection, the source first. -/
def medias (c : Connection) : List MediaChannel := c.linkType.lineSides.filterMap c.media

/-- The names of all objects of the connection. -/
def names (c : Connection) : CircuitNames :=
  ⟨c.name, c.sourceNetwork.name, c.destinationNetwork.name, c.sourceMedia.map (·.name),
    c.destinationMedia.map (·.name)⟩

end Connection

/-- The connections remembered for a device, by their names. -/
abbrev ConnectionCache := Table Connection

namespace ConnectionCache

/-- Remembers a connection under its name. -/
def add (cache : ConnectionCache) (c : Connection) : ConnectionCache := cache.insert c.name c

/-- The target power of the connection of a name is changed. -/
def setPower (cache : ConnectionCache) (name : String) (dbm : Float) : ConnectionCache :=
  cache.modify name fun c => { c with targetOutputPower := dbm }

end ConnectionCache

/-- The connections remembered for each device. A device gets its cache when it is first asked
    for one. -/
abbrev Caches := Table ConnectionCache

namespace Caches

/-- The cache of a device, made if need be. -/
def cacheFor (caches : Caches) (d : DeviceId) : ConnectionCache :=
  (caches.get? d.name).getD .empty

/-- The number of connections remembered for a device. -/
def sizeOf (caches : Caches) (d : DeviceId) : Nat := (caches.cacheFor d).size

end Caches

end Lightpath
