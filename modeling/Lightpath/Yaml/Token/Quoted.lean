import Lightpath.Document.Reader
import Lightpath.Yaml.Cursor

/-!
# Quoted scalars

Between single quotes only the quote itself is written in another way, twice. Between double
quotes a backslash spells characters, or joins two lines without a space. Line ends are folded.
-/

namespace Lightpath.Yaml.Quoted

/-- The character that a letter behind a backslash stands for. -/
def letterEscape? : Char → Option Char
  | '0' => some '\x00'
  | 'a' => some '\x07'
  | 'b' => some '\x08'
  | 't' => some '\t'
  | '\t' => some '\t'
  | 'n' => some '\n'
  | 'v' => some '\x0b'
  | 'f' => some '\x0c'
  | 'r' => some '\r'
  | 'e' => some '\x1b'
  | ' ' => some ' '
  | '"' => some '"'
  | '/' => some '/'
  | '\\' => some '\\'
  | 'N' => some (Char.ofNat 0x85)
  | '_' => some (Char.ofNat 0xa0)
  | 'L' => some (Char.ofNat 0x2028)
  | 'P' => some (Char.ofNat 0x2029)
  | _ => none

/-- How many digits follow a letter that spells a character by its code. -/
def codeDigits? : Char → Option Nat
  | 'x' => some 2
  | 'u' => some 4
  | 'U' => some 8
  | _ => none

/-- The code that digits in base sixteen write. -/
def code? (digits : List Char) : Option Nat :=
  digits.foldl (fun code digit =>
    match code, Document.hexValue? digit with
    | some code, some value => some (16 * code + value)
    | _, _ => none) (some 0)

/-- The character of a code that has one. -/
def character? (code : Nat) : Option Char :=
  if code < 0xd800 ∨ (0xdfff < code ∧ code < 0x110000) then some (Char.ofNat code) else none

/-- The character spelled behind a backslash. -/
def escape? (c : Cursor) : Option (Char × Cursor) :=
  match c.peek? 0 with
  | none => none
  | some letter =>
    match codeDigits? letter with
    | none => (letterEscape? letter).map (·, c.skip 1)
    | some count =>
      let digits := (c.rest.drop 1).take count
      if digits.length = count then
        ((code? digits).bind character?).map (·, c.skip (count + 1))
      else none

/-- The characters between single quotes, put backward in front of those `seen`. The fuel bounds
    their number. -/
def readSingle : (fuel : Nat) → (seen : List Char) → Cursor → Option (List Char × Cursor)
  | 0, _, _ => none
  | fuel + 1, seen, c =>
    if c.isDocumentMark then none
    else match c.peek? 0 with
      | none => none
      | some x =>
        if x = '\'' then
          if c.sees 1 '\'' then readSingle fuel ('\'' :: seen) (c.skip 2)
          else some (seen, c.skip 1)
        else if isGap x || isBreak x then
          let (gap, c) := Gap.scan 0 fuel {} c
          readSingle fuel (gap.fold ++ seen) c
        else readSingle fuel (x :: seen) (c.skip 1)

/-- The characters between double quotes, put backward in front of those `seen`. The fuel bounds
    their number. -/
def readDouble : (fuel : Nat) → (seen : List Char) → Cursor → Option (List Char × Cursor)
  | 0, _, _ => none
  | fuel + 1, seen, c =>
    if c.isDocumentMark then none
    else match c.peek? 0 with
      | none => none
      | some x =>
        if x = '"' then some (seen, c.skip 1)
        else if x = '\\' then
          match (c.skip 1).lineEnd? with
          | some (_, next) =>
            let (gap, next) := Gap.scan 0 fuel {} next
            readDouble fuel (gap.breaks ++ seen) next
          | none =>
            match escape? (c.skip 1) with
            | some (x, next) => readDouble fuel (x :: seen) next
            | none => none
        else if isGap x || isBreak x then
          let (gap, c) := Gap.scan 0 fuel {} c
          readDouble fuel (gap.fold ++ seen) c
        else readDouble fuel (x :: seen) (c.skip 1)

/-- The scalar whose opening quote is next. The fuel bounds the text that is left. -/
def read? (fuel : Nat) (c : Cursor) : Option (String × Cursor) :=
  let inner := c.skip 1
  let found := if c.sees 0 '"' then readDouble fuel [] inner else readSingle fuel [] inner
  found.map fun (seen, c) => (String.ofList seen.reverse, c)

end Lightpath.Yaml.Quoted
