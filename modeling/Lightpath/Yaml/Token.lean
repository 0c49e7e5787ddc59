/-!
# Tokens

The words of indented text: scalars, the marks around and between items, and the properties that
stand in front of a node. Blocks are marked by their beginning and their end, as if they had
brackets.
-/

namespace Lightpath.Yaml

/-- How a scalar is written. -/
inductive Style where
  | plain
  /-- The lines of a block as they are. -/
  | literal
  | folded
  | quoted
deriving DecidableEq, Repr, Inhabited

/-- What a tag says. The octets that it spells need not be those of characters. -/
abbrev TagText := List UInt8

/-- A word of the text. -/
inductive Token where
  | version (major minor : Nat)
  /-- What the handle of a tag stands for. -/
  | tagHandle (handle : String) (head : TagText)
  | documentStart
  | documentEnd
  | blockSequenceStart
  | blockMappingStart
  | blockEnd
  | flowSequenceStart
  | flowSequenceEnd
  | flowMappingStart
  | flowMappingEnd
  | blockEntry
  | flowEntry
  | key
  | value
  | alias (name : String)
  | anchor (name : String)
  /-- A tag as it is written; without a handle it says all by itself. -/
  | tag (handle : String) (tail : TagText)
  | scalar (text : String) (style : Style)
deriving DecidableEq, Repr, Inhabited

end Lightpath.Yaml
