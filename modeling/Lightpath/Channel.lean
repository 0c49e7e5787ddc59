import Lightpath.Frequency

/-!
# Optical channels

A channel is named by its place on a frequency grid: the grid, the spacing between neighbouring
channels, how many spacings the channel lies away from 193.1 THz, and its width in slots of
12.5 GHz.
-/

namespace Lightpath

/-- The grids of the ITU recommendations. -/
inductive Grid where
  | dwdm
  | cwdm
  | flex
deriving DecidableEq, Repr, Inhabited

/-- The spacings between neighbouring channels, the widest first. -/
inductive Spacing where
  | ghz100
  | ghz50
  | ghz25
  | ghz12Half
  | ghz6Quarter
deriving DecidableEq, Repr, Inhabited

/-- Whether a signal keeps to a fixed grid. -/
inductive SignalType where
  | fixedGrid
  | flexGrid
deriving DecidableEq, Repr, Inhabited

namespace Grid

/-- Every grid, in order. -/
def all : List Grid := [.dwdm, .cwdm, .flex]

/-- The place of the grid in the order of grids. -/
def rank : Grid → Nat
  | .dwdm => 0
  | .cwdm => 1
  | .flex => 2

/-- The grid as it is shown to people. -/
def display : Grid → String
  | .dwdm => "Dwdm"
  | .cwdm => "Cwdm"
  | .flex => "Flex"

end Grid

namespace Spacing

/-- Every spacing, in order. -/
def all : List Spacing := [.ghz100, .ghz50, .ghz25, .ghz12Half, .ghz6Quarter]

/-- The place of the spacing in the order of spacings. -/
def rank : Spacing → Nat
  | .ghz100 => 0
  | .ghz50 => 1
  | .ghz25 => 2
  | .ghz12Half => 3
  | .ghz6Quarter => 4

/-- The width of the spacing. -/
def frequency : Spacing → Frequency
  | .ghz100 => ⟨100000000000⟩
  | .ghz50 => ⟨50000000000⟩
  | .ghz25 => ⟨25000000000⟩
  | .ghz12Half => ⟨12500000000⟩
  | .ghz6Quarter => ⟨6250000000⟩

/-- The spacing of exactly this width. -/
def ofFrequency? (f : Frequency) : Option Spacing := all.find? fun s => s.frequency = f

theorem ofFrequency?_frequency (s : Spacing) : ofFrequency? s.frequency = some s := by
  cases s <;> rfl

/-- The spacing as it is shown to people. -/
def display (s : Spacing) : String := s.frequency.ghz ++ " GHz"

/-- Backward characters without the unit in front of them, however often it stands there. -/
def dropUnitBackward : List Char → List Char
  | 'z' :: 'H' :: 'G' :: rest => dropUnitBackward rest
  | cs => cs

/-- Characters without the unit behind them, however often it stands there. -/
def dropUnit (cs : List Char) : List Char := (dropUnitBackward cs.reverse).reverse

/-- Reads a spacing in gigahertz, the unit behind it allowed. -/
def read (text : String) : Except ParseError Spacing :=
  let number := Text.trimChars (dropUnit (Text.trimChars text.toList))
  match Frequency.read .gigahertz (String.ofList number) with
  | .ok f => match ofFrequency? f with
    | some s => .ok s
    | none => .error (.invalidChannelSpacing text)
  | .error _ => .error (.invalidChannelSpacing text)

end Spacing

/-- The frequency from which channels are counted: 193.1 THz. -/
def anchorFrequency : Frequency := ⟨193100000000000⟩

/-- The width of one slot: 12.5 GHz. -/
def slotWidth : Frequency := Spacing.frequency .ghz12Half

/-- A place on a frequency grid. -/
structure Channel where
  grid : Grid
  spacing : Spacing
  multiplier : Int32
  slots : UInt32
deriving DecidableEq, Repr, Inhabited

namespace Channel

/-- The slots that a channel as wide as the spacing takes; one at least. -/
def slotsOf (s : Spacing) : Nat := max (s.frequency.toNat / slotWidth.toNat) 1

/-- The channel of the DWDM grid that is as wide as its spacing. -/
def dwdm (s : Spacing) (multiplier : Int32) : Channel :=
  ⟨.dwdm, s, multiplier, UInt32.ofNat (slotsOf s)⟩

/-- The center in hertz, however far the channel lies from the anchor. -/
def centerHertz (c : Channel) : Int :=
  anchorFrequency.toNat + c.multiplier.toInt * c.spacing.frequency.toNat

/-- The center; no hertz if the channel lies below the axis or beyond a word. -/
def center (c : Channel) : Frequency :=
  if 0 ≤ c.centerHertz ∧ c.centerHertz < UInt64.size then ⟨UInt64.ofNat c.centerHertz.toNat⟩
  else .zero

/-- The width that the spacing leaves to the channel. -/
def width (c : Channel) : Frequency := c.spacing.frequency

/-- The width of the channel's slots together. -/
def slotsWidth (c : Channel) : Frequency := ⟨c.slots.toUInt64 * slotWidth.hz⟩

/-- The channel as it is shown to people. -/
def display (c : Channel) : String :=
  c.grid.display ++ "/" ++ c.center.display ++ "/" ++ c.spacing.display ++ "x" ++
    toString c.slots.toNat

/-- The order of channels: by grid, spacing, multiplier and slots, the first difference deciding. -/
def le (a b : Channel) : Bool :=
  if a.grid.rank ≠ b.grid.rank then a.grid.rank < b.grid.rank
  else if a.spacing.rank ≠ b.spacing.rank then a.spacing.rank < b.spacing.rank
  else if a.multiplier ≠ b.multiplier then a.multiplier.toInt < b.multiplier.toInt
  else a.slots.toNat ≤ b.slots.toNat

/-- Channels in ascending order. -/
def sort (cs : List Channel) : List Channel := cs.mergeSort le

/-- How many of the channels lie on each grid, grids without a channel left out. -/
def countByGrid (cs : List Channel) : List (Grid × Nat) :=
  (Grid.all.map fun g => (g, cs.countP (·.grid = g))).filter (·.2 ≠ 0)

end Channel

end Lightpath
