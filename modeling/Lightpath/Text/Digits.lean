/-!
# Decimal digits

Numbers as runs of ASCII digits: the value of a run, the digits of a number, and the digits of
a number at a fixed count of places.
-/

namespace Lightpath.Text

/-- The value of a digit; of other characters it says nothing. -/
def digitValue (c : Char) : Nat := c.toNat - '0'.toNat

/-- The digit of a value below ten. -/
def digitChar (d : Nat) : Char := Char.ofNat ('0'.toNat + d)

/-- The value of a run of digits. -/
def digitsValue (cs : List Char) : Nat := cs.foldl (fun n c => 10 * n + digitValue c) 0

/-- Whether a run is made of ASCII digits only; the empty run is. -/
def allDigits (cs : List Char) : Bool := cs.all Char.isDigit

/-- The last `places` digits of a number, zeros in front included. -/
def fixedDigits : (places : Nat) → Nat → List Char
  | 0, _ => []
  | places + 1, n => fixedDigits places (n / 10) ++ [digitChar (n % 10)]

/-- The number that a non-empty run of digits writes. -/
def natural? (cs : List Char) : Option Nat :=
  if cs.isEmpty || !allDigits cs then none else some (digitsValue cs)

/-- The number that a text writes for a 64-bit word: digits, a plus sign before them if wanted. -/
def word? (cs : List Char) : Option UInt64 :=
  let digits := match cs with
    | '+' :: rest => rest
    | _ => cs
  match natural? digits with
  | some n => if n < UInt64.size then some (UInt64.ofNat n) else none
  | none => none

end Lightpath.Text
