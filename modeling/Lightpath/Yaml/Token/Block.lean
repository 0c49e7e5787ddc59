import Lightpath.Yaml.Token
import Lightpath.Yaml.Cursor

/-!
# Block scalars

A scalar of whole lines: a header says whether line ends are kept or folded, what becomes of those
behind the last line, and how deep the lines are indented.
-/

namespace Lightpath.Yaml.Block

/-- What becomes of the line ends behind the last line. -/
inductive Chomping where
  /-- None stays. -/
  | strip
  /-- One stays. -/
  | clip
  /-- All stay. -/
  | keep
deriving DecidableEq, Repr, Inhabited

/-- What the header of a block scalar says. -/
structure Header where
  chomping : Chomping := .clip
  /-- How much deeper than the block around it the lines are indented, if it is said. -/
  increment : Option Nat := none
deriving DecidableEq, Repr, Inhabited

/-- The chomping that a character stands for. -/
def chomping? (c : Cursor) : Option (Chomping × Cursor) :=
  if c.sees 0 '+' then some (.keep, c.skip 1)
  else if c.sees 0 '-' then some (.strip, c.skip 1)
  else none

/-- The increment that a digit writes; `none` inside if there is no digit. Zero is refused. -/
def increment? (c : Cursor) : Option (Option Nat × Cursor) :=
  match c.peek? 0 with
  | some x =>
    if x.isDigit then if x = '0' then none else some (some (x.toNat - '0'.toNat), c.skip 1)
    else some (none, c)
  | none => some (none, c)

/-- The header, its two parts in either order. -/
def header? (c : Cursor) : Option (Header × Cursor) :=
  match chomping? c with
  | some (chomping, c) => (increment? c).map fun (increment, c) => (⟨chomping, increment⟩, c)
  | none =>
    match increment? c with
    | none => none
    | some (none, c) => some ({}, c)
    | some (some n, c) =>
      match chomping? c with
      | some (chomping, c) => some (⟨chomping, some n⟩, c)
      | none => some (⟨.clip, some n⟩, c)

/-- Goes on by spaces, up to a column if one is given. -/
def skipIndent (column : Option Nat) (c : Cursor) : Cursor :=
  let spaces := (c.rest.takeWhile (· = ' ')).length
  match column with
  | some column => c.skip (min spaces (column - c.column))
  | none => c.skip spaces

/-- Empty lines in front of the next one that says something. -/
structure Empty where
  /-- The ends of the lines, backward. -/
  breaks : List Char := []
  /-- The furthest column that spaces reach. -/
  deepest : Nat := 0
deriving DecidableEq, Repr, Inhabited

/-- Goes on over empty lines, and the indentation of the line behind them. A tab may not stand in
    an indentation. The fuel bounds the number of lines. -/
def skipEmpty (column : Option Nat) : (fuel : Nat) → Empty → Cursor → Option (Empty × Cursor)
  | 0, _, _ => none
  | fuel + 1, e, c =>
    let c := skipIndent column c
    let e := { e with deepest := max e.deepest c.column }
    if c.sees 0 '\t' && column.all (c.column < ·) then none
    else match c.lineEnd? with
      | some (x, c) => skipEmpty column fuel { e with breaks := x :: e.breaks } c
      | none => some (e, c)

/-- What has been read of a block scalar. -/
structure Lines where
  /-- The text, backward, without the end of the last line. -/
  seen : List Char := []
  /-- The end of the last line. -/
  ending : List Char := []
  /-- The ends of the empty lines behind it, backward. -/
  breaks : List Char := []
  /-- Whether the last line begins with white space. -/
  deeper : Bool := false
deriving DecidableEq, Repr, Inhabited

/-- What stands between the last line and the next one, backward. Between two lines that do not
    begin with white space, folding takes away one line end, and leaves a space if there is no
    other. -/
def Lines.glue (l : Lines) (isFolded deeper : Bool) : List Char :=
  if isFolded && l.ending = ['\n'] && !l.deeper && !deeper then
    if l.breaks.isEmpty then [' '] else l.breaks
  else l.breaks ++ l.ending

/-- The lines that begin at a column. The fuel bounds the text that is left. -/
def readLines (isFolded : Bool) (column : Nat) :
    (fuel : Nat) → Lines → Cursor → Option (Lines × Cursor)
  | 0, _, _ => none
  | fuel + 1, l, c =>
    match c.peek? 0 with
    | none => some (l, c)
    | some x =>
      if c.column ≠ column then some (l, c)
      else
        let deeper := isGap x
        let (line, c) := c.span fun _ => true
        let (ending, c) := match c.lineEnd? with
          | some (x, c) => ([x], c)
          | none => ([], c)
        match skipEmpty (some column) (fuel + 1) {} c with
        | none => none
        | some (e, c) =>
          let seen := line.reverse ++ l.glue isFolded deeper ++ l.seen
          readLines isFolded column fuel ⟨seen, ending, e.breaks, deeper⟩ c

/-- The text of the lines. -/
def Lines.text (l : Lines) : Chomping → String
  | .strip => String.ofList l.seen.reverse
  | .clip => String.ofList (l.seen.reverse ++ l.ending)
  | .keep => String.ofList (l.seen.reverse ++ l.ending ++ l.breaks.reverse)

/-- The block scalar whose mark is next, in a block that is indented to `indent`. Without an
    increment the lines begin where the furthest of the first spaces ends, inside the block. The
    fuel bounds the text that is left. -/
def read? (indent : Int) (fuel : Nat) (c : Cursor) : Option ((String × Style) × Cursor) :=
  let isFolded := c.sees 0 '>'
  match header? (c.skip 1) with
  | none => none
  | some (header, c) =>
    match c.finishLine? with
    | none => none
    | some c =>
      let known := header.increment.map fun n => (max indent 0).toNat + n
      match skipEmpty known fuel {} c with
      | none => none
      | some (e, c) =>
        let column := known.getD (max (max e.deepest (indent + 1).toNat) 1)
        let first : Lines := { breaks := e.breaks }
        match readLines isFolded column fuel first c with
        | none => none
        | some (lines, c) =>
          some ((lines.text header.chomping, if isFolded then .folded else .literal), c)

end Lightpath.Yaml.Block
