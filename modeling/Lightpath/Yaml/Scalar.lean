import Lightpath.Decimal.Numeral

/-!
# What plain scalars say

Plain scalars are texts that may also say something else: a truth value, a number, or nothing.
Numbers with a needless zero in front are texts only.
-/

namespace Lightpath.Yaml.Scalar

/-- Whether a scalar says that there is nothing. -/
def isNull (s : String) : Bool := ["null", "Null", "NULL", "~"].contains s

/-- The truth value that a scalar says. -/
def bool? (s : String) : Option Bool :=
  if ["true", "True", "TRUE"].contains s then some true
  else if ["false", "False", "FALSE"].contains s then some false
  else none

/-- The value of a digit in a base of at most sixteen. -/
def digit? (base : Nat) (c : Char) : Option Nat :=
  let value :=
    if c.isDigit then some (c.toNat - '0'.toNat)
    else if 'a' ≤ c ∧ c ≤ 'f' then some (c.toNat - 'a'.toNat + 10)
    else if 'A' ≤ c ∧ c ≤ 'F' then some (c.toNat - 'A'.toNat + 10)
    else none
  value.filter (· < base)

/-- The number that digits in a base write. -/
def inBase? (base : Nat) (cs : List Char) : Option Nat :=
  if cs.isEmpty then none
  else cs.foldl (fun n c =>
    match n, digit? base c with
    | some n, some d => some (base * n + d)
    | _, _ => none) (some 0)

/-- Whether digits begin with a needless zero. -/
def hasNeedlessZero (cs : List Char) : Bool := cs.head? = some '0' && 1 < cs.length

/-- The characters behind a plus sign, if there is one. -/
def withoutPlus : List Char → List Char
  | '+' :: cs => cs
  | cs => cs

/-- The integer without a minus sign that a scalar says: decimal, or in base sixteen, eight or two
    behind `0x`, `0o` or `0b`. -/
def natural? (s : String) : Option Nat :=
  match withoutPlus s.toList with
  | '0' :: 'x' :: cs => inBase? 16 cs
  | '0' :: 'o' :: cs => inBase? 8 cs
  | '0' :: 'b' :: cs => inBase? 2 cs
  | cs => if hasNeedlessZero cs then none else inBase? 10 cs

/-- The power of ten behind the digits; zero if nothing is written. -/
def power? : List Char → Option Int
  | [] => some 0
  | c :: cs =>
    if c = 'e' ∨ c = 'E' then
      match cs with
      | '-' :: digits => (inBase? 10 digits).map fun n => -(n : Int)
      | '+' :: digits => (inBase? 10 digits).map fun n => (n : Int)
      | digits => (inBase? 10 digits).map fun n => (n : Int)
    else none

/-- The numeral that characters behind a sign write. There has to be a digit before or behind the
    point. -/
def numeral? (negative : Bool) (cs : List Char) : Option Decimal.Numeral :=
  let whole := cs.takeWhile Char.isDigit
  let rest := cs.dropWhile Char.isDigit
  let (fraction, rest) := match rest with
    | '.' :: rest => (rest.takeWhile Char.isDigit, rest.dropWhile Char.isDigit)
    | rest => ([], rest)
  if whole.isEmpty ∧ fraction.isEmpty then none
  else (power? rest).map fun power => ⟨negative, whole, fraction, power⟩

/-- The floating point number that a scalar says: the nearest to what is written, if there is one,
    or one of the words for infinities and for what is no number. -/
def float? (s : String) : Option Float :=
  if [".inf", ".Inf", ".INF", "+.inf", "+.Inf", "+.INF"].contains s then some (1.0 / 0.0)
  else if ["-.inf", "-.Inf", "-.INF"].contains s then some (-1.0 / 0.0)
  else if [".nan", ".NaN", ".NAN"].contains s then some (0.0 / 0.0)
  else
    let numeral := match s.toList with
      | '-' :: cs => numeral? true cs
      | '+' :: cs => numeral? false cs
      | cs => numeral? false cs
    numeral.bind Decimal.Numeral.nearest?

end Lightpath.Yaml.Scalar
