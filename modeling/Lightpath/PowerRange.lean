import Lightpath.Decimal.Layout

/-!
# Ranges of optical power

Powers are given in dBm.
-/

namespace Lightpath

/-- The powers from `min` to `max`. -/
structure PowerRange where
  min : Float
  max : Float
deriving Repr, Inhabited

namespace PowerRange

/-- Whether a power is in the range, its ends included. -/
def contains (r : PowerRange) (dbm : Float) : Bool := r.min ≤ dbm && dbm ≤ r.max

/-- The range as it is shown to people. -/
def display (r : PowerRange) : String :=
  "[" ++ Decimal.display r.min ++ ", " ++ Decimal.display r.max ++ "] dBm"

end PowerRange

end Lightpath
