/-!
# The shortest decimal of a floating point number

A finite binary number stands for every real that rounds to it. Among the decimals in that
interval the ones with the fewest digits are looked for, and of those the nearest to the number.
The search is exact: on the grid of decimals with `n` digits only the two neighbours of the number
can be the nearest, and both are tested in natural numbers.
-/

namespace Lightpath.Decimal

/-- The size `significand · 2 ^ exponent` of a finite number, and its sign. -/
structure Binary where
  negative : Bool
  significand : Nat
  exponent : Int
deriving DecidableEq, Repr, Inhabited

/-- Takes a floating point number apart; infinities and what is no number have no parts. -/
def Binary.ofFloat? (x : Float) : Option Binary :=
  let bits := x.toBits.toNat
  let negative := bits / Nat.pow 2 63 = 1
  let biased : Nat := bits / Nat.pow 2 52 % Nat.pow 2 11
  let fraction : Nat := bits % Nat.pow 2 52
  if biased = 2047 then none
  else if biased = 0 then some ⟨negative, fraction, -1074⟩
  else some ⟨negative, Nat.pow 2 52 + fraction, (biased : Int) - 1075⟩

/-- What to do when two decimals of one length are equally near. -/
inductive Tie where
  /-- Take the one with the even last digit. -/
  | even
  /-- Take the larger one. -/
  | up
deriving DecidableEq, Repr

/-- Digits `d₁d₂…` behind a decimal point, which is then moved `point` places to the right. -/
structure Digits where
  digits : List Char
  point : Int
deriving DecidableEq, Repr, Inhabited

/-- The numerator of `base ^ e`. -/
def numerator (base : Nat) (e : Int) : Nat := Nat.pow base e.toNat

/-- The denominator of `base ^ e`. -/
def denominator (base : Nat) (e : Int) : Nat := Nat.pow base (-e).toNat

/-- The place of the decimal point: `10 ^ (k - 1) ≤ significand · 2 ^ exponent < 10 ^ k`. No
    finite double is below `10 ^ (-400)`. -/
def Binary.point (b : Binary) : Int :=
  let shifted := b.significand * numerator 2 b.exponent * Nat.pow 10 400 / denominator 2 b.exponent
  ((Nat.toDigits 10 shifted).length : Int) - 400

/-- The ends and the middle of the interval that rounds to the number, in quarters of the weight
    of its last bit. Below a power of two the next number is only half as far away. -/
def Binary.interval (b : Binary) : Nat × Nat × Nat :=
  let below := if b.significand = Nat.pow 2 52 ∧ b.exponent > -1074 then 1 else 2
  (4 * b.significand - below, 4 * b.significand, 4 * b.significand + 2)

/-- The decimal with `n` digits that stands for the number, if there is one: its digits as a
    number and the weight of the last one as a power of ten. -/
def Binary.withDigits? (b : Binary) (tie : Tie) (n : Nat) : Option (Nat × Int) :=
  let place := b.point - n
  let (low, middle, high) := b.interval
  let weight := numerator 2 (b.exponent - 2) * denominator 10 place
  let grid := numerator 10 place * denominator 2 (b.exponent - 2)
  let inside (c : Nat) : Bool :=
    if b.significand % 2 = 0 then low * weight ≤ c * grid ∧ c * grid ≤ high * weight
    else low * weight < c * grid ∧ c * grid < high * weight
  let under := middle * weight / grid
  match inside under, inside (under + 1) with
  | false, false => none
  | true, false => some (under, place)
  | false, true => some (under + 1, place)
  | true, true =>
    let doubled := 2 * (middle * weight)
    let sum := (2 * under + 1) * grid
    if doubled < sum then some (under, place)
    else if sum < doubled then some (under + 1, place)
    else match tie with
      | .up => some (under + 1, place)
      | .even => some (if under % 2 = 0 then under else under + 1, place)

/-- Tries `n`, `n + 1`, … digits, `fuel` times. -/
def Binary.search (b : Binary) (tie : Tie) : (fuel n : Nat) → Option (Nat × Int)
  | 0, _ => none
  | fuel + 1, n =>
    match b.withDigits? tie n with
    | some found => some found
    | none => b.search tie fuel (n + 1)

/-- Digits without the zeros at their end. -/
def dropZeros (ds : List Char) : List Char := (ds.reverse.dropWhile (· = '0')).reverse

/-- The shortest decimal of a number; zero has no digits. Seventeen digits always tell doubles
    apart, and the value itself is the answer if no shorter decimal is found. -/
def Binary.shortest (b : Binary) (tie : Tie) : Digits :=
  if b.significand = 0 then ⟨[], 0⟩
  else
    let (value, place) := match b.search tie 17 1 with
      | some found => found
      | none => (b.significand * numerator 2 b.exponent * Nat.pow 5 (-b.exponent).toNat,
          min b.exponent 0)
    let digits := Nat.toDigits 10 value
    ⟨dropZeros digits, digits.length + place⟩

end Lightpath.Decimal
