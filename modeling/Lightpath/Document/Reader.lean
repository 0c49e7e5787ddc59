import Lightpath.Decimal.Numeral
import Lightpath.Document.Draft

/-!
# Documents read from text

The reader takes the texts of RFC 8259 and no others: nothing stands before or behind the
document but blanks. It reads drafts; of these those are documents whose escapes spell characters
and not halves of them, whose numbers are representable, and that are nested no more than 127 deep.

A reader is given the characters that are left and returns what it read with the characters
behind it.
-/

namespace Lightpath

namespace Document

/-- How deep lists and objects may be nested. -/
def maxDepth : Nat := 127

/-- Characters without the blanks in front of them. -/
def skipBlanks (cs : List Char) : List Char :=
  cs.dropWhile fun c => c = ' ' || c = '\t' || c = '\n' || c = '\r'

/-- The value of a digit in base sixteen. -/
def hexValue? (c : Char) : Option Nat :=
  if '0' ≤ c ∧ c ≤ '9' then some (c.toNat - '0'.toNat)
  else if 'a' ≤ c ∧ c ≤ 'f' then some (c.toNat - 'a'.toNat + 10)
  else if 'A' ≤ c ∧ c ≤ 'F' then some (c.toNat - 'A'.toNat + 10)
  else none

/-- The code written by four digits in base sixteen. -/
def code? (a b c d : Char) : Option Nat :=
  match hexValue? a, hexValue? b, hexValue? c, hexValue? d with
  | some a, some b, some c, some d => some (((a * 16 + b) * 16 + c) * 16 + d)
  | _, _, _, _ => none

/-- Whether a code is the first half of a character beyond `0xffff`. -/
def isHighSurrogate (code : Nat) : Bool := 0xd800 ≤ code && code < 0xdc00

/-- Whether a code is the second half of a character beyond `0xffff`. -/
def isLowSurrogate (code : Nat) : Bool := 0xdc00 ≤ code && code < 0xe000

/-- The character of two halves. -/
def joinSurrogates (high low : Nat) : Char :=
  Char.ofNat (0x10000 + (high - 0xd800) * 0x400 + (low - 0xdc00))

/-- The character of an escape of one letter. -/
def letterEscape? : Char → Option Char
  | '"' => some '"'
  | '\\' => some '\\'
  | '/' => some '/'
  | 'b' => some '\x08'
  | 'f' => some '\x0c'
  | 'n' => some '\n'
  | 'r' => some '\r'
  | 't' => some '\t'
  | _ => none

/-- The codes up to the closing quote, put backward in front of those `seen`. A code is that of a
    character, or of one half of it if it is spelled so. -/
def readQuoted (seen : List Nat) : List Char → Option (List Nat × List Char)
  | '\\' :: 'u' :: a :: b :: c :: d :: rest =>
    match code? a b c d with
    | some code => readQuoted (code :: seen) rest
    | none => none
  | '\\' :: letter :: rest =>
    match letterEscape? letter with
    | some c => readQuoted (c.toNat :: seen) rest
    | none => none
  | c :: rest =>
    if c = '"' then some (seen, rest)
    else if c = '\\' ∨ c.toNat < 0x20 then none
    else readQuoted (c.toNat :: seen) rest
  | [] => none

/-- The characters of codes. A first half has to stand in front of a second one. -/
def charactersOf? : List Nat → Option (List Char)
  | [] => some []
  | code :: codes =>
    if isHighSurrogate code then
      match codes with
      | low :: rest =>
        if isLowSurrogate low then (charactersOf? rest).map (joinSurrogates code low :: ·) else none
      | [] => none
    else if isLowSurrogate code then none
    else (charactersOf? codes).map (Char.ofNat code :: ·)

/-- The text whose opening quote has just been read, `none` inside if it spells half a character. -/
def readText? (cs : List Char) : Option (Option String × List Char) :=
  (readQuoted [] cs).map fun (seen, rest) => ((charactersOf? seen.reverse).map String.ofList, rest)

/-- A run of digits and what is behind it. -/
def readDigits (cs : List Char) : List Char × List Char :=
  (cs.takeWhile Char.isDigit, cs.dropWhile Char.isDigit)

/-- The digits of the whole part: a zero stands alone. -/
def readWhole? (cs : List Char) : Option (List Char × List Char) :=
  match readDigits cs with
  | ([], _) => none
  | (['0'], rest) => some (['0'], rest)
  | ('0' :: _, _) => none
  | found => some found

/-- The digits behind a decimal point, if there is one. -/
def readFraction? : List Char → Option (List Char × List Char)
  | '.' :: rest =>
    match readDigits rest with
    | ([], _) => none
    | found => some found
  | cs => some ([], cs)

/-- The power of ten behind `e`; `none` inside if there is no exponent. -/
def readPower? : List Char → Option (Option Int × List Char)
  | c :: rest =>
    if c = 'e' ∨ c = 'E' then
      let (negative, rest) := match rest with
        | '-' :: rest => (true, rest)
        | '+' :: rest => (false, rest)
        | rest => (false, rest)
      match readDigits rest with
      | ([], _) => none
      | (digits, rest) =>
        let size : Int := Text.digitsValue digits
        some (some (if negative then -size else size), rest)
    else some (none, c :: rest)
  | [] => some (none, [])

/-- The least and the largest integer that stay integers. -/
def intLow : Int := -(Nat.pow 2 63)

/-- The largest integer that stays one. -/
def intHigh : Int := Nat.pow 2 64 - 1

/-- The number of a numeral with no sign of a fraction: an integer if it is in range and is not
    the negative zero. -/
def ofWhole? (n : Decimal.Numeral) : Option Document :=
  let size : Int := Text.digitsValue n.whole
  let value := if n.negative then -size else size
  if intLow ≤ value ∧ value ≤ intHigh ∧ ¬(n.negative ∧ size = 0) then some (.int value)
  else n.scaled?.map .float

/-- A number behind its sign, `none` inside if it is too large; integers have neither a point nor an
    exponent. -/
def readUnsigned? (negative : Bool) (cs : List Char) : Option (Option Document × List Char) :=
  match readWhole? cs with
  | none => none
  | some (whole, rest) =>
    match readFraction? rest with
    | none => none
    | some (fraction, rest) =>
      match readPower? rest with
      | none => none
      | some (none, rest) =>
        if fraction.isEmpty then some (ofWhole? ⟨negative, whole, [], 0⟩, rest)
        else some ((Decimal.Numeral.scaled? ⟨negative, whole, fraction, 0⟩).map .float, rest)
      | some (some power, rest) =>
        some ((Decimal.Numeral.scaled? ⟨negative, whole, fraction, power⟩).map .float, rest)

/-- A number. -/
def readNumber? : List Char → Option (Option Document × List Char)
  | '-' :: rest => readUnsigned? true rest
  | cs => readUnsigned? false cs

end Document

namespace Draft

open Document (skipBlanks readText? readNumber?)

/-- Items separated by commas up to the closing bracket. The fuel bounds their number. -/
def readItems (item : List Char → Option (Draft × List Char)) :
    (fuel : Nat) → List Char → Option (List Draft × List Char)
  | 0, _ => none
  | fuel + 1, cs =>
    match item cs with
    | none => none
    | some (first, rest) =>
      match skipBlanks rest with
      | ',' :: rest => (readItems item fuel rest).map fun (items, rest) => (first :: items, rest)
      | ']' :: rest => some ([first], rest)
      | _ => none

/-- One member: a key between quotes, a colon, and the value. -/
def readMember? (item : List Char → Option (Draft × List Char)) (cs : List Char) :
    Option ((Option String × Draft) × List Char) :=
  match skipBlanks cs with
  | '"' :: rest =>
    match readText? rest with
    | none => none
    | some (key, rest) =>
      match skipBlanks rest with
      | ':' :: rest => (item rest).map fun (value, rest) => ((key, value), rest)
      | _ => none
  | _ => none

/-- Members separated by commas up to the closing brace. The fuel bounds their number. -/
def readMembers (item : List Char → Option (Draft × List Char)) :
    (fuel : Nat) → List Char → Option (List (Option String × Draft) × List Char)
  | 0, _ => none
  | fuel + 1, cs =>
    match readMember? item cs with
    | none => none
    | some (first, rest) =>
      match skipBlanks rest with
      | ',' :: rest =>
        (readMembers item fuel rest).map fun (members, rest) => (first :: members, rest)
      | '}' :: rest => some ([first], rest)
      | _ => none

/-- The object of members. It has no value if one of the keys has none. -/
def ofMembers (members : List (Option String × Draft)) : Draft :=
  match members.mapM fun (key, value) => key.map (·, value) with
  | some members => .object members
  | none => .leaf none

/-- What is nested, if it may still be. -/
def nested (depth : Nat) (draft : Draft) : Draft := if depth = 0 then .leaf none else draft

/-- A draft that may hold `depth` more levels of lists and objects with values. The fuel bounds
    the number of levels, and of what stands on one. -/
def readValue : (fuel depth : Nat) → List Char → Option (Draft × List Char)
  | 0, _, _ => none
  | fuel + 1, depth, cs =>
    match skipBlanks cs with
    | 'n' :: 'u' :: 'l' :: 'l' :: rest => some (.leaf (some .null), rest)
    | 't' :: 'r' :: 'u' :: 'e' :: rest => some (.leaf (some (.bool true)), rest)
    | 'f' :: 'a' :: 'l' :: 's' :: 'e' :: rest => some (.leaf (some (.bool false)), rest)
    | '"' :: rest => (readText? rest).map fun (s, rest) => (.leaf (s.map .text), rest)
    | '[' :: rest =>
      match skipBlanks rest with
      | ']' :: rest => some (nested depth (.list []), rest)
      | rest =>
        (readItems (readValue fuel (depth - 1)) fuel rest).map fun (items, rest) =>
          (nested depth (.list items), rest)
    | '{' :: rest =>
      match skipBlanks rest with
      | '}' :: rest => some (nested depth (.object []), rest)
      | rest =>
        (readMembers (readValue fuel (depth - 1)) fuel rest).map fun (members, rest) =>
          (nested depth (ofMembers members), rest)
    | cs => (readNumber? cs).map fun (number, rest) => (.leaf number, rest)

/-- Reads a draft. What is nested deeper than `depth` has no value. -/
def parse? (depth : Nat) (text : String) : Option Draft :=
  let cs := text.toList
  match readValue (cs.length + 1) depth cs with
  | some (draft, rest) => if (skipBlanks rest).isEmpty then some draft else none
  | none => none

end Draft

namespace Document

/-- Reads a document; the members of its objects stay as they are written. -/
def parse? (text : String) : Option Document :=
  (Draft.parse? maxDepth text).bind Draft.document?

/-- Reads a document into its canonical form. -/
def read? (text : String) : Option Document := (parse? text).map canonical

end Document

end Lightpath
