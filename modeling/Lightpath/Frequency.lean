import Lightpath.ParseError
import Lightpath.Text.Blank
import Lightpath.Text.Digits
import Lightpath.Text.Search

/-!
# Frequencies

A frequency is a whole number of hertz in a 64-bit word. Its text is a decimal number of terahertz
(twelve places) or of gigahertz (nine places), written with one fraction digit at least and no
zero after that which could be left out.
-/

namespace Lightpath

/-- A whole number of hertz. -/
structure Frequency where
  hz : UInt64
deriving DecidableEq, Repr, Inhabited

/-- A unit in which frequencies are written, by the places that one hertz is away from it. -/
inductive FrequencyUnit where
  | terahertz
  | gigahertz
deriving DecidableEq, Repr

/-- The decimal places between the unit and one hertz. -/
def FrequencyUnit.places : FrequencyUnit → Nat
  | .terahertz => 12
  | .gigahertz => 9

namespace Frequency

/-- No hertz. -/
def zero : Frequency := ⟨0⟩

/-- A whole number of megahertz. -/
def ofMHz (n : UInt64) : Frequency := ⟨n * 1000000⟩

/-- A whole number of gigahertz. -/
def ofGHz (n : UInt64) : Frequency := ⟨n * 1000000000⟩

/-- A whole number of terahertz. -/
def ofTHz (n : UInt64) : Frequency := ⟨n * 1000000000000⟩

/-- The frequency as a number of hertz. -/
def toNat (f : Frequency) : Nat := f.hz.toNat

/-- Half the frequency, half a hertz dropped. -/
def half (f : Frequency) : Frequency := ⟨f.hz / 2⟩

/-- The difference, if the second frequency is not the larger. -/
def sub? (a b : Frequency) : Option Frequency :=
  if b.hz ≤ a.hz then some ⟨a.hz - b.hz⟩ else none

/-- The sum in 64 bits. -/
def add (a b : Frequency) : Frequency := ⟨a.hz + b.hz⟩

instance : Add Frequency := ⟨add⟩

/-- A fraction without the zeros at its end, one digit kept. -/
def trimZeros : List Char → List Char
  | [] => []
  | c :: rest => c :: Text.dropEnd (· = '0') rest

/-- The characters of the frequency as a number of units. -/
def writeChars (f : Frequency) (unit : FrequencyUnit) : List Char :=
  Nat.toDigits 10 (f.toNat / Nat.pow 10 unit.places) ++
    '.' :: trimZeros (Text.fixedDigits unit.places (f.toNat % Nat.pow 10 unit.places))

/-- The frequency as a number of units. -/
def write (f : Frequency) (unit : FrequencyUnit) : String := String.ofList (f.writeChars unit)

/-- The frequency as a number of terahertz. -/
def thz (f : Frequency) : String := f.write .terahertz

/-- The frequency as a number of gigahertz. -/
def ghz (f : Frequency) : String := f.write .gigahertz

/-- The frequency with its unit, as it is shown to people. -/
def display (f : Frequency) : String := f.thz ++ " THz"

/-- The hertz that a decimal number of units writes. The whole part has a digit at least; the
    fraction may be empty and, its closing zeros set aside, ends at a whole hertz. Both the whole
    part and the result have to fit a word. -/
def readChars? (unit : FrequencyUnit) (cs : List Char) : Option Nat :=
  let (whole, fraction) := match Text.cutAt? ['.'] cs with
    | some parts => parts
    | none => (cs, [])
  let fraction := Text.dropEnd (· = '0') fraction
  match Text.natural? whole with
  | none => none
  | some units =>
    if Text.allDigits fraction ∧ fraction.length ≤ unit.places ∧ units < UInt64.size then
      let padding := List.replicate (unit.places - fraction.length) '0'
      let hertz := units * Nat.pow 10 unit.places + Text.digitsValue (fraction ++ padding)
      if hertz < UInt64.size then some hertz else none
    else none

/-- Reads a number of units, white space around it allowed. -/
def read (unit : FrequencyUnit) (text : String) : Except ParseError Frequency :=
  match readChars? unit (Text.trimChars text.toList) with
  | some hertz => .ok ⟨UInt64.ofNat hertz⟩
  | none => .error (.invalidFrequency text)

end Frequency

end Lightpath
