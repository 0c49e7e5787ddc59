import Lightpath.Text.Digits

/-!
# Numerals

A numeral is the writing of a number with digits before and behind a point and a power of ten.
Two ways lead from it to a floating point number: the nearest one, and the one reached by reading
as many leading digits as fit a word and scaling them once by the power of ten that is left.
-/

namespace Lightpath.Decimal

/-- Digits before and behind the point, and the power of ten by which they are multiplied. -/
structure Numeral where
  negative : Bool
  whole : List Char
  fraction : List Char
  power : Int
deriving DecidableEq, Repr, Inhabited

namespace Numeral

/-- A number with the numeral's sign. -/
def signed (n : Numeral) (x : Float) : Float := if n.negative then -x else x

/-- The nearest floating point number; none if the numeral is beyond the largest one. -/
def nearest? (n : Numeral) : Option Float :=
  let digits := (n.whole ++ n.fraction).dropWhile (· = '0')
  let power := n.power - n.fraction.length
  let magnitude := digits.length + power
  if digits.isEmpty ∨ magnitude < -400 then some (n.signed 0)
  else if 400 < magnitude then none
  else
    let value := Text.digitsValue digits
    let x := if power < 0 then Float.ofScientific value true (-power).toNat
      else Float.ofScientific value false power.toNat
    if x.isFinite then some (n.signed x) else none

/-- Reads digits into a word for as long as they fit: the value so far and the digits left. -/
def takeWord : Nat → List Char → Nat × List Char
  | n, [] => (n, [])
  | n, c :: rest =>
    let next := 10 * n + Text.digitValue c
    if next < UInt64.size then takeWord next rest else (n, c :: rest)

/-- The leading digits that fit a word, and the power of ten that is left for them. Digits of the
    whole part that did not fit still move the point; those of the fraction do not. -/
def leading (n : Numeral) : Nat × Int :=
  let (whole, cut) := takeWord 0 n.whole
  let (value, unread) := takeWord whole n.fraction
  (value, n.power + cut.length - ((n.fraction.length : Int) - unread.length))

/-- Ten to a power up to 308, the nearest floating point number to it. -/
def tenTo (k : Nat) : Float := Float.ofScientific 1 false k

/-- Divides by ten to the power of `k`, by at most 308 places at once. -/
def divideDown : (fuel : Nat) → Float → Nat → Float
  | 0, x, _ => x
  | fuel + 1, x, k =>
    if k ≤ 308 then x / tenTo k
    else if x == 0 then x
    else divideDown fuel (x / tenTo 308) (k - 308)

/-- The leading digits scaled by the power of ten; none if that is beyond the largest number. -/
def scaled? (n : Numeral) : Option Float :=
  let (value, power) := n.leading
  let x := Float.ofNat value
  if power < 0 then some (n.signed (divideDown 4 x (-power).toNat))
  else if power ≤ 308 then
    let y := x * tenTo power.toNat
    if y.isFinite then some (n.signed y) else none
  else if value = 0 then some (n.signed 0)
  else none

end Numeral

end Lightpath.Decimal
