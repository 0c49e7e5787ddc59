import Lightpath.Error

/-!
# Windows on the frequency axis

A channel occupies a window around its center. Windows of exactly 50 or 100 GHz are the ones that
have a place on the grid; it is found from the middle of the window.
-/

namespace Lightpath

/-- A stretch of the frequency axis. -/
structure Window where
  min : Frequency
  max : Frequency
deriving DecidableEq, Repr, Inhabited

namespace Window

/-- The window of a width around a center. It does not reach below zero. -/
def around (center width : Frequency) : Window :=
  ⟨(center.sub? width.half).getD .zero, center + width.half⟩

/-- The spacing of a supported width. -/
def spacing? (width : Frequency) : Option Spacing :=
  match Spacing.ofFrequency? width with
  | some .ghz50 => some .ghz50
  | some .ghz100 => some .ghz100
  | _ => none

/-- How many spacings the middle of a window lies away from the anchor; what is beyond the last
    whole spacing, counted from the anchor, is dropped. -/
def multiplier (min width : Frequency) (spacing : Spacing) : Int :=
  ((min.toNat : Int) + width.half.toNat - anchorFrequency.toNat).tdiv spacing.frequency.toNat

/-- The channel that a window makes up. -/
def channel (w : Window) : Except Error Channel :=
  match w.max.sub? w.min with
  | none => .error (.unsupportedChannelWidth .zero)
  | some width =>
    match spacing? width with
    | none => .error (.unsupportedChannelWidth width)
    | some spacing =>
      .ok ⟨.dwdm, spacing, Int32.ofInt (multiplier w.min width spacing),
        UInt32.ofNat (width.toNat / slotWidth.toNat)⟩

end Window

/-- The channel of a width around a center. -/
def Channel.around (center width : Frequency) : Except Error Channel :=
  (Window.around center width).channel

end Lightpath
