import Lightpath.Decimal.Shortest

/-!
# Decimal layouts

How the digits of a number are set out as text: where the decimal point may stand, whether a
whole number keeps a zero behind the point, and how ties between digits are resolved.
-/

namespace Lightpath.Decimal

/-- The decisions of a format about numbers. -/
structure Layout where
  tie : Tie
  /-- The places of the decimal point, counted from the first digit, for which no exponent is
      written; `none` if an exponent is never written. -/
  positional : Option (Int × Int)
  /-- Whether a whole number ends in `.0`. -/
  wholeMark : Bool
deriving DecidableEq, Repr

/-- In documents a number between `0.00001` and `10 ^ 16` is written without an exponent, a whole
    number ends in `.0`, and ties go to the even digit. -/
def Layout.document : Layout := ⟨.even, some (-4, 16), true⟩

/-- In messages a number never has an exponent, a whole number has no point, and ties go up. -/
def Layout.message : Layout := ⟨.up, none, false⟩

namespace Layout

/-- Digits with the decimal point among them. -/
def point (l : Layout) (ds : Digits) : List Char :=
  let whole := if l.wholeMark then ['.', '0'] else []
  if ds.digits.isEmpty then '0' :: whole
  else if ds.point ≤ 0 then
    '0' :: '.' :: List.replicate (-ds.point).toNat '0' ++ ds.digits
  else if ds.digits.length ≤ ds.point.toNat then
    ds.digits ++ List.replicate (ds.point.toNat - ds.digits.length) '0' ++ whole
  else
    ds.digits.take ds.point.toNat ++ '.' :: ds.digits.drop ds.point.toNat

/-- Digits with the point behind the first, and the power of ten that makes up for it. -/
def exponent (ds : Digits) : List Char :=
  let power := ds.point - 1
  let sign := if power < 0 then '-' else '+'
  let first := ds.digits.take 1
  let rest := ds.digits.drop 1
  first ++ (if rest.isEmpty then [] else '.' :: rest) ++
    'e' :: sign :: Nat.toDigits 10 power.natAbs

/-- Digits in the form that the layout has for them. -/
def setOut (l : Layout) (ds : Digits) : List Char :=
  match l.positional with
  | none => l.point ds
  | some (low, high) =>
    if ds.digits.isEmpty ∨ (low ≤ ds.point ∧ ds.point ≤ high) then l.point ds else exponent ds

/-- The text of a finite number. -/
def write? (l : Layout) (x : Float) : Option String :=
  (Binary.ofFloat? x).map fun b =>
    let digits := l.setOut (b.shortest l.tie)
    String.ofList (if b.negative then '-' :: digits else digits)

end Layout

/-- The text of any number in a message. -/
def display (x : Float) : String :=
  match Layout.message.write? x with
  | some text => text
  | none => if x.isNaN then "NaN" else if x < 0 then "-inf" else "inf"

end Lightpath.Decimal
