import Lightpath.Document.Reader
import Lightpath.Yaml.Cursor
import Lightpath.Yaml.Token

/-!
# Tags and directives

A tag is written with a handle that stands for its head, or in full between angle brackets.
Directives say what handles stand for.
-/

namespace Lightpath.Yaml.Tag

/-- Whether a character may stand in a tag; inside angle brackets a few more may. All of them take
    one octet. -/
def isTagChar (inBrackets : Bool) (x : Char) : Bool :=
  isWord x || ";/?:@&=+$.!~*'()".toList.contains x || (inBrackets && ",[]".toList.contains x)

/-- The octet of a character that may stand in a tag. -/
def octetOf (x : Char) : UInt8 := UInt8.ofNat x.toNat

/-- The octets of characters that may stand in a tag. -/
def octetsOf (cs : List Char) : TagText := cs.map octetOf

/-- The octet written by a percent sign and two digits. -/
def octet? (c : Cursor) : Option (Nat × Cursor) :=
  match c.rest with
  | '%' :: a :: b :: _ =>
    match Document.hexValue? a, Document.hexValue? b with
    | some a, some b => some (16 * a + b, c.skip 3)
    | _, _ => none
  | _ => none

/-- How many octets follow the first one of a character. -/
def following? (first : Nat) : Option Nat :=
  if first < 0x80 then some 0
  else if first / 32 = 6 then some 1
  else if first / 16 = 14 then some 2
  else if first / 8 = 30 then some 3
  else none

/-- Further octets of a character, put backward in front of those `seen`. -/
def readFollowing : (count : Nat) → TagText → Cursor → Option (TagText × Cursor)
  | 0, seen, c => some (seen, c)
  | count + 1, seen, c =>
    match octet? c with
    | some (n, c) =>
      if n / 64 = 2 then readFollowing count (UInt8.ofNat n :: seen) c else none
    | none => none

/-- The octets that are spelled like one character, put backward in front of those `seen`. Whether
    there is such a character is not asked. -/
def escape? (seen : TagText) (c : Cursor) : Option (TagText × Cursor) :=
  match octet? c with
  | none => none
  | some (first, c) =>
    match following? first with
    | some count => readFollowing count (UInt8.ofNat first :: seen) c
    | none => none

/-- The octets of a tag, put backward in front of those `seen`. The fuel bounds their number. -/
def readOctets (inBrackets : Bool) : (fuel : Nat) → TagText → Cursor → Option (TagText × Cursor)
  | 0, seen, c => some (seen, c)
  | fuel + 1, seen, c =>
    match c.peek? 0 with
    | none => some (seen, c)
    | some x =>
      if x = '%' then
        match escape? seen c with
        | some (seen, c) => readOctets inBrackets fuel seen c
        | none => none
      else if isTagChar inBrackets x then
        readOctets inBrackets fuel (octetOf x :: seen) (c.skip 1)
      else some (seen, c)

/-- The octets of a tag behind those of the characters that are known. -/
def readRest? (inBrackets : Bool) (fuel : Nat) (known : List Char) (c : Cursor) :
    Option (TagText × Cursor) :=
  (readOctets inBrackets fuel (octetsOf known).reverse c).map fun (seen, c) => (seen.reverse, c)

/-- What octets say: those behind an octet zero do not count. -/
def said (octets : TagText) : TagText := octets.takeWhile (· ≠ 0)

/-- What begins like a handle: an exclamation mark, a word, and a second mark if there is one. -/
def readHandle (c : Cursor) : List Char × Cursor :=
  let (word, next) := (c.skip 1).span isWord
  if next.sees 0 '!' then ('!' :: word ++ ['!'], next.skip 1) else ('!' :: word, next)

/-- The handle and the tail of the tag that is next. A lone exclamation mark is a tag. -/
def readParts? (fuel : Nat) (c : Cursor) : Option ((String × TagText) × Cursor) :=
  if c.sees 1 '<' then
    match readRest? true fuel [] (c.skip 2) with
    | some (tail, next) =>
      if !tail.isEmpty && next.sees 0 '>' then some (("", said tail), next.skip 1) else none
    | none => none
  else
    let (handle, next) := readHandle c
    if 2 ≤ handle.length ∧ handle.getLast? = some '!' then
      match readRest? false fuel [] next with
      | some (tail, next) =>
        if tail.isEmpty then none else some ((String.ofList handle, said tail), next)
      | none => none
    else
      (readRest? false fuel (handle.drop 1) next).map fun (tail, next) =>
        (if (said tail).isEmpty then ("", octetsOf ['!']) else ("!", said tail), next)

/-- The tag that is next. White space has to follow, or a comma between brackets. The fuel bounds
    the text that is left. -/
def read? (inFlow : Bool) (fuel : Nat) (c : Cursor) : Option ((String × TagText) × Cursor) :=
  match readParts? fuel c with
  | some (tag, next) =>
    if next.isBlankAt 0 || (inFlow && next.sees 0 ',') then some (tag, next) else none
  | none => none

/-- A number of a version: no more than nine digits. -/
def readNumber? (c : Cursor) : Option (Nat × Cursor) :=
  let (digits, next) := c.span Char.isDigit
  if digits.isEmpty ∨ 9 < digits.length then none else some (Text.digitsValue digits, next)

/-- The two numbers of a version. -/
def readVersion? (c : Cursor) : Option ((Nat × Nat) × Cursor) :=
  match readNumber? (c.skipWhile isGap) with
  | some (major, c) =>
    if c.sees 0 '.' then (readNumber? (c.skip 1)).map fun (minor, c) => ((major, minor), c)
    else none
  | none => none

/-- A handle and the head that it stands for. The fuel bounds the text that is left. -/
def readHead? (fuel : Nat) (c : Cursor) : Option ((String × TagText) × Cursor) :=
  let c := c.skipWhile isGap
  if c.sees 0 '!' then
    let (handle, c) := readHandle c
    if handle.getLast? = some '!' && c.isBlankAt 0 && !c.isLineEnd then
      match readRest? true fuel [] (c.skipWhile isGap) with
      | some (head, c) =>
        if head.isEmpty || !c.isBlankAt 0 then none
        else some ((String.ofList handle, said head), c)
      | none => none
    else none
  else none

end Lightpath.Yaml.Tag
