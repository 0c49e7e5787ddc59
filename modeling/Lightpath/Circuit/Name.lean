import Lightpath.Frequency

/-!
# The names of a circuit

Every object of a circuit is named after the label of its port and the center of its channel. The
name of a connection joins the names of the network media channels at its ends, so that the other
names of the circuit can be read off it.
-/

namespace Lightpath.CircuitName

/-- What the name of a network media channel on a line port begins with. -/
def networkHead : String := "NMC-CTP-"

/-- What the name of a media channel begins with. -/
def mediaHead : String := "MC-TTP-"

/-- What the name of a multiplex section begins with. -/
def sectionHead : String := "OMS-"

/-- What stands between the names that make up the name of a connection. -/
def join : String := "-to-"

/-- The media channel of a label and a center. -/
def media (label : String) (center : Frequency) : String :=
  mediaHead ++ label ++ "-" ++ center.thz

/-- The network media channel of a label and a center; only on a line port it has a head. -/
def network (label : String) (center : Frequency) (onLine : Bool) : String :=
  (if onLine then networkHead else "") ++ label ++ "-" ++ center.thz

/-- The connection between two network media channels. -/
def connection (source destination : String) : String := source ++ join ++ destination

/-- The multiplex section of a label. -/
def multiplexSection (label : String) : String := sectionHead ++ label

end Lightpath.CircuitName

namespace Lightpath

/-- The names of all objects of a circuit. There is no media channel on the side of a client. -/
structure CircuitNames where
  connection : String
  sourceNetwork : String
  destinationNetwork : String
  sourceMedia : Option String
  destinationMedia : Option String
deriving DecidableEq, Repr, Inhabited

namespace CircuitNames

/-- The media channel that a network media channel on a line port is laid in. -/
def mediaOf? (network : String) : Option String :=
  (Text.dropHead? CircuitName.networkHead.toList network.toList).map fun rest =>
    CircuitName.mediaHead ++ String.ofList rest

/-- Reads the names of a circuit off the name of its connection, which is cut where the joint
    first stands. Both parts have to say something. -/
def ofConnection? (name : String) : Option CircuitNames :=
  match Text.cutAt? CircuitName.join.toList name.toList with
  | none => none
  | some (source, destination) =>
    if source.isEmpty ∨ destination.isEmpty then none
    else
      let source := String.ofList source
      let destination := String.ofList destination
      some ⟨name, source, destination, mediaOf? source, mediaOf? destination⟩

/-- The network media channels, the source first. -/
def networks (n : CircuitNames) : List String := [n.sourceNetwork, n.destinationNetwork]

/-- The media channels, the source first. -/
def medias (n : CircuitNames) : List String := n.sourceMedia.toList ++ n.destinationMedia.toList

end CircuitNames

end Lightpath
