import Lightpath.Channel

/-!
# The C-band

The profile of ports that carry the whole C-band: 96 DWDM channels of 50 GHz from 191.35 THz to
196.1 THz.
-/

namespace Lightpath.CBand

/-- The center of the lowest channel. -/
def start : Frequency := ⟨191350000000000⟩

/-- The center of the highest channel. -/
def stop : Frequency := ⟨196100000000000⟩

/-- The spacing of the band's channels. -/
def spacing : Spacing := .ghz50

/-- The number of channels. -/
def count : Nat := 96

/-- The slots of each channel. -/
def slots : UInt32 := 4

/-- The multiplier of the lowest channel. -/
def firstMultiplier : Int :=
  -(((anchorFrequency.toNat - start.toNat) / spacing.frequency.toNat : Nat) : Int)

/-- The channels of the band in ascending order. -/
def channels : List Channel :=
  (List.range count).map fun (i : Nat) =>
    ⟨.dwdm, spacing, Int32.ofInt (firstMultiplier + i), slots⟩

example : channels.length = 96 := by decide

example : channels.head?.map Channel.center = some start := by decide

example : channels.getLast?.map Channel.center = some stop := by decide

end Lightpath.CBand
