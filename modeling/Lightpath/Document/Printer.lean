import Lightpath.Document

/-!
# Documents as text

The compact form has no white space; the pretty form puts each member and item on a line of its
own, indented by two spaces a level. Both write members in the order in which they stand.
-/

namespace Lightpath.Document

/-- The four digits of a code below `2 ^ 16` in base sixteen. -/
def hexCode (n : Nat) : List Char :=
  let digits := Nat.toDigits 16 n
  List.replicate (4 - digits.length) '0' ++ digits

/-- A character inside quotes. Quotes, backslashes and the characters below the space are
    escaped, five of them with a letter. -/
def escape (c : Char) : List Char :=
  if c = '"' then ['\\', '"']
  else if c = '\\' then ['\\', '\\']
  else if c = '\x08' then ['\\', 'b']
  else if c = '\x0c' then ['\\', 'f']
  else if c = '\n' then ['\\', 'n']
  else if c = '\r' then ['\\', 'r']
  else if c = '\t' then ['\\', 't']
  else if c.toNat < 0x20 then '\\' :: 'u' :: hexCode c.toNat
  else [c]

/-- A text between quotes. -/
def quote (s : String) : String :=
  String.ofList ('"' :: s.toList.flatMap escape ++ ['"'])

/-- A number that is not whole, or kept as such. -/
def writeFloat (x : Float) : String := (Decimal.Layout.document.write? x).getD "null"

mutual

/-- The compact form. -/
def render : Document → String
  | .null => "null"
  | .bool b => if b then "true" else "false"
  | .int n => toString n
  | .float x => writeFloat x
  | .text s => quote s
  | .list items => "[" ++ ",".intercalate (renderItems items) ++ "]"
  | .object members => "\x7b" ++ ",".intercalate (renderMembers members) ++ "\x7d"

/-- The compact forms of items. -/
def renderItems : List Document → List String
  | [] => []
  | item :: items => item.render :: renderItems items

/-- The compact forms of members. -/
def renderMembers : List (String × Document) → List String
  | [] => []
  | (key, value) :: members => (quote key ++ ":" ++ value.render) :: renderMembers members

end

/-- The start of a line at a level. -/
def indent (level : Nat) : String := "\n" ++ String.ofList (List.replicate (2 * level) ' ')

/-- Lines at the level below `level` between an opening and a closing bracket. -/
def bracket (opening closing : String) (level : Nat) : List String → String
  | [] => opening ++ closing
  | lines =>
    opening ++ indent (level + 1) ++ ("," ++ indent (level + 1)).intercalate lines ++
      indent level ++ closing

mutual

/-- The pretty form of a document that begins at a level. -/
def prettyAt (level : Nat) : Document → String
  | .null => "null"
  | .bool b => if b then "true" else "false"
  | .int n => toString n
  | .float x => writeFloat x
  | .text s => quote s
  | .list items => bracket "[" "]" level (prettyItems (level + 1) items)
  | .object members => bracket "\x7b" "\x7d" level (prettyMembers (level + 1) members)

/-- The pretty forms of items. -/
def prettyItems (level : Nat) : List Document → List String
  | [] => []
  | item :: items => prettyAt level item :: prettyItems level items

/-- The pretty forms of members. -/
def prettyMembers (level : Nat) : List (String × Document) → List String
  | [] => []
  | (key, value) :: members =>
    (quote key ++ ": " ++ prettyAt level value) :: prettyMembers level members

end

/-- The pretty form. -/
def pretty (doc : Document) : String := doc.prettyAt 0

end Lightpath.Document
