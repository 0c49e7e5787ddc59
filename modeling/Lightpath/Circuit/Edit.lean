import Lightpath.Circuit.Connection
import Lightpath.Document

/-!
# The documents that configure a circuit

Every document has the root `org-openroadm-device`. Interfaces and connections are made by giving
all their leaves, and taken away by the operation `delete` on their names.
-/

namespace Lightpath.CircuitEdit

/-- The root of every document about a device. -/
def root : String := "org-openroadm-device"

/-- The member that names the operation on a node. -/
def operationKey : String := "@operation"

/-- The operation that takes a node away. -/
def deleteOperation : String := "delete"

/-- The member with the interfaces of the device. -/
def interfaceKey : String := "interface"

/-- The member with the connections of the device. -/
def connectionsKey : String := "roadm-connections"

/-- The member with what the device says about itself. -/
def infoKey : String := "info"

/-- The member with the circuit packs of the device. -/
def circuitPacksKey : String := "circuit-packs"

/-- The member with the name of a connection. -/
def connectionNameKey : String := "connection-name"

/-- The member with the target power of a connection. -/
def powerKey : String := "target-output-power"

/-- A document about one member of the device. -/
def device (key : String) (body : Document) : Document :=
  .object [(root, .object [(key, body)])]

/-- The path of a member of the device in what the device answers. -/
def replyPath (key : String) : String := "data." ++ root ++ "." ++ key

/-- A media channel as an interface. -/
def mediaInterface (m : MediaChannel) : Document :=
  .object [("administrative-state", .text "inService"), ("description", .text "Media-Channel"),
    ("mc-ttp", .object
      [("max-freq", .text m.window.max.thz), ("min-freq", .text m.window.min.thz)]),
    ("name", .text m.name), ("supporting-circuit-pack-name", .text m.circuitPack),
    ("supporting-interface", .text m.support), ("supporting-port", .text m.port),
    ("type", .text "openROADM-if:mediaChannelTrailTerminationPoint")]

/-- A network media channel as an interface. -/
def networkInterface (n : NetworkMediaChannel) : Document :=
  .object <|
    [("administrative-state", .text "inService"), ("description", .text "Network-Media-Channel"),
      ("name", .text n.name),
      ("nmc-ctp", .object [("frequency", .text n.center.thz), ("width", .text n.width.ghz)]),
      ("supporting-circuit-pack-name", .text n.circuitPack)] ++
    (match n.support with
      | some support => [("supporting-interface", .text support)]
      | none => []) ++
    [("supporting-port", .text n.port),
      ("type", .text "openROADM-if:networkMediaChannelConnectionTerminationPoint")]

/-- Makes the media channels of a connection. -/
def createMedias (c : Connection) : Document :=
  device interfaceKey (.list (c.medias.map mediaInterface))

/-- Makes the network media channels of a connection. -/
def createNetworks (c : Connection) : Document :=
  device interfaceKey (.list ([c.sourceNetwork, c.destinationNetwork].map networkInterface))

/-- Makes a connection between its network media channels. -/
def createConnection (c : Connection) : Document :=
  device connectionsKey (.object
    [(connectionNameKey, .text c.name),
      ("destination", .object [("dst-if", .text c.destinationNetwork.name)]),
      ("opticalControlMode", .text c.opticalControlMode),
      ("source", .object [("src-if", .text c.sourceNetwork.name)]),
      (powerKey, .number c.targetOutputPower)])

/-- Takes a connection away. -/
def deleteConnection (name : String) : Document :=
  device connectionsKey (.object
    [(operationKey, .text deleteOperation), (connectionNameKey, .text name)])

/-- Takes interfaces away. -/
def deleteInterfaces (names : List String) : Document :=
  device interfaceKey (.list (names.map fun name =>
    .object [(operationKey, .text deleteOperation), ("name", .text name)]))

/-- Sets the target power of a connection. -/
def setPower (name : String) (dbm : Float) : Document :=
  device connectionsKey (.object [(connectionNameKey, .text name), (powerKey, .number dbm)])

/-- Asks for the connections. -/
def connectionsFilter : Document := device connectionsKey .empty

/-- Asks for what the device says about itself. -/
def infoFilter : Document := device infoKey .empty

/-- Asks for the circuit packs. -/
def circuitPacksFilter : Document := device circuitPacksKey .empty

/-- A document to be sent, under the name that the work has for people. -/
structure Step where
  label : String
  body : Document
deriving Inhabited

/-- The steps that take interfaces away, if there are any. -/
def deletionSteps (label : String) (names : List String) : List Step :=
  if names.isEmpty then [] else [⟨label, deleteInterfaces names⟩]

/-- The steps that make a connection, from below. -/
def creation (c : Connection) : List Step :=
  [⟨"create media-channel", createMedias c⟩,
    ⟨"create network-media-channel", createNetworks c⟩,
    ⟨"create connection", createConnection c⟩]

/-- The step that takes a connection away. -/
def deletion (name : String) : Step := ⟨"delete connection", deleteConnection name⟩

/-- The steps that take away the channels below a connection that is gone. -/
def clearance (networks medias : List String) : List Step :=
  ⟨"delete network-media-channel", deleteInterfaces networks⟩ ::
    deletionSteps "delete media-channel" medias

end Lightpath.CircuitEdit
