import Lightpath.Yaml.Cursor

/-!
# Plain scalars

A scalar without quotes ends where a colon, a comment or, between brackets, one of the marks there
begins. It may go on over several lines, as long as these are indented.
-/

namespace Lightpath.Yaml.Plain

/-- The characters that mark items between brackets. -/
def isFlowMark (x : Char) : Bool := x = ',' || x = '[' || x = ']' || x = '{' || x = '}'

/-- Whether a scalar ends in front of the next character. -/
def endsAt (inFlow : Bool) (c : Cursor) : Bool :=
  (c.sees 0 ':' && c.isBlankAt 1) || (inFlow && (c.peek? 0).any isFlowMark)

/-- Whether a colon stands where it may mean two things. -/
def isDoubtful (inFlow : Bool) (c : Cursor) : Bool :=
  inFlow && c.sees 0 ':' && (c.peek? 1).any fun x => isFlowMark x || x = '?'

/-- A run of characters without white space, put backward in front of those `seen`. The fuel
    bounds its length. -/
def readWord (inFlow : Bool) : (fuel : Nat) → List Char → Cursor → Option (List Char × Cursor)
  | 0, seen, c => some (seen, c)
  | fuel + 1, seen, c =>
    match c.peek? 0 with
    | none => some (seen, c)
    | some x =>
      if isGap x || isBreak x then some (seen, c)
      else if isDoubtful inFlow c then none
      else if endsAt inFlow c then some (seen, c)
      else readWord inFlow fuel (x :: seen) (c.skip 1)

/-- A plain scalar as it was found. -/
structure Found where
  /-- The text, backward. -/
  seen : List Char
  next : Cursor
  /-- Whether the scalar was left on another line than its last word. -/
  crossed : Bool
deriving Inhabited

/-- Words with the gaps between them; a gap is kept only if a word follows. The fuel bounds the
    text that is left. -/
def readWords (inFlow : Bool) (column : Nat) :
    (fuel : Nat) → List Char → Gap → Cursor → Option Found
  | 0, seen, gap, c => some ⟨seen, c, !gap.breaks.isEmpty⟩
  | fuel + 1, seen, gap, c =>
    if c.isDocumentMark || c.sees 0 '#' then some ⟨seen, c, !gap.breaks.isEmpty⟩
    else match readWord inFlow (fuel + 1) [] c with
      | none => none
      | some (word, c) =>
        let (seen, gap) : List Char × Gap :=
          if word.isEmpty then (seen, gap) else (word ++ gap.fold ++ seen, {})
        if c.isBlankAt 0 && !c.rest.isEmpty then
          let (gap, c) := Gap.scan column fuel {} c
          if gap.tabbed then none
          else if !inFlow && c.column < column then some ⟨seen, c, !gap.breaks.isEmpty⟩
          else readWords inFlow column fuel seen gap c
        else some ⟨seen, c, !gap.breaks.isEmpty⟩

/-- The plain scalar that is next, the further lines of which are indented to a column. The fuel
    bounds the text that is left. -/
def read? (inFlow : Bool) (column fuel : Nat) (c : Cursor) : Option Found :=
  readWords inFlow column fuel [] {} c

end Lightpath.Yaml.Plain
