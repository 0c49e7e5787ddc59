import Lightpath.Channel.Band
import Lightpath.Table

/-!
# Ports

A port is known by its number. What else the device says about it, the labels of the interfaces
on it above all, is kept as annotations.
-/

namespace Lightpath

/-- The number of a port. -/
structure PortNumber where
  value : UInt64
deriving DecidableEq, Repr, Inhabited

namespace PortNumber

/-- The number as it is shown to people. -/
def display (p : PortNumber) : String := toString p.value.toNat

/-- Reads a port number, white space around it allowed. -/
def read (text : String) : Except ParseError PortNumber :=
  match Text.word? (Text.trimChars text.toList) with
  | some n => .ok ⟨n⟩
  | none => .error (.invalidPortNumber text)

/-- Whether a number comes before another or is the same. -/
def le (a b : PortNumber) : Bool := a.value.toNat ≤ b.value.toNat

/-- The different numbers of a list in ascending order. -/
def sortDistinct (ps : List PortNumber) : List PortNumber := (ps.mergeSort le).eraseReps

end PortNumber

/-- What a port carries. -/
inductive PortKind where
  /-- An optical multiplex section: every channel of a band. -/
  | oms (minFrequency maxFrequency grid : Frequency)
  /-- One optical channel, which a tunable port can change. -/
  | och (signal : Channel) (tunable : Bool)
deriving DecidableEq, Repr, Inhabited

/-- The kind of a port that carries the whole C-band. -/
def PortKind.cBand : PortKind := .oms CBand.start CBand.stop CBand.spacing.frequency

/-- A port of a device. -/
structure Port where
  number : PortNumber
  kind : PortKind
  enabled : Bool := true
  annotations : Table String := .empty
deriving DecidableEq, Inhabited

namespace Port

/-- The annotation with the name that the device gives to the port. -/
def nameKey : String := "port-name"

/-- The annotation with the label of the interfaces on the port. -/
def connectionPointKey : String := "logical-connection-point"

/-- The annotation with the circuit pack that the port is on. -/
def circuitPackKey : String := "circuit-pack"

/-- What an annotation says. -/
def annotation? (p : Port) (key : String) : Option String := p.annotations.get? key

/-- The port with one annotation more, or changed. -/
def annotate (p : Port) (key value : String) : Port :=
  { p with annotations := p.annotations.insert key value }

/-- The name that the device gives to the port. -/
def name? (p : Port) : Option String := p.annotation? nameKey

/-- The label of the interfaces on the port. -/
def connectionPoint? (p : Port) : Option String := p.annotation? connectionPointKey

/-- The circuit pack that the port is on. -/
def circuitPack? (p : Port) : Option String := p.annotation? circuitPackKey

/-- Whether the label of the port is known and contains a text. -/
def labelContains (p : Port) (marker : String) : Bool :=
  match p.connectionPoint? with
  | some label => Text.contains label marker
  | none => false

/-- Whether the port sends. -/
def isTransmitter (p : Port) : Bool := p.labelContains "TX"

/-- Whether the port receives. -/
def isReceiver (p : Port) : Bool := p.labelContains "RX"

/-- The numbers of the ports that face a neighbouring node: those whose label contains the
    marker of line ports. -/
def lineNumbers (ports : List Port) (marker : String) : List PortNumber :=
  (ports.filter (·.labelContains marker)).map (·.number)

/-- The first port of a list with a number. -/
def find? (ports : List Port) (number : PortNumber) : Option Port :=
  ports.find? (·.number = number)

end Port

end Lightpath
