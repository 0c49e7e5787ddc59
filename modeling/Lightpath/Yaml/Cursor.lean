/-!
# Reading text by lines and columns

In indented text it matters on which line and in which column something stands. A cursor is the
text that is left with the place at which it begins. Lines end in a carriage return, a line feed,
both, or one of three characters of Unicode.
-/

namespace Lightpath.Yaml

/-- Whether a character may stand in the text at all. -/
def isAllowed (c : Char) : Bool :=
  let n := c.toNat
  n = 0x09 || n = 0x0a || n = 0x0d || n = 0x85 || (0x20 ≤ n && n ≤ 0x7e) ||
    (0xa0 ≤ n && n ≤ 0xfffd) || 0x10000 ≤ n

/-- Whether a character ends a line. -/
def isBreak (c : Char) : Bool :=
  c = '\r' || c = '\n' || c.toNat = 0x85 || c.toNat = 0x2028 || c.toNat = 0x2029

/-- Whether a character is white space within a line. -/
def isGap (c : Char) : Bool := c = ' ' || c = '\t'

/-- Whether a character may stand in a name. -/
def isWord (c : Char) : Bool := c.isAlphanum || c = '_' || c = '-'

/-- The character that may stand in front of a text, and also in front of a line of it. -/
def byteOrderMark : Char := Char.ofNat 0xfeff

/-- The octets that characters take. -/
def octets (cs : List Char) : Nat := cs.foldl (fun n c => n + c.utf8Size) 0

/-- Text that is left, with the place at which it begins. -/
structure Cursor where
  rest : List Char
  line : Nat := 0
  column : Nat := 0
  /-- The octets in front of the text. -/
  offset : Nat := 0
deriving DecidableEq, Repr, Inhabited

namespace Cursor

/-- The next character but `n`. -/
def peek? (c : Cursor) (n : Nat) : Option Char := c.rest[n]?

/-- Whether the next character but `n` is a given one. -/
def sees (c : Cursor) (n : Nat) (x : Char) : Bool := c.peek? n = some x

/-- Whether white space, the end of the line or the end of the text stands behind `n`
    characters. -/
def isBlankAt (c : Cursor) (n : Nat) : Bool :=
  match c.peek? n with
  | none => true
  | some x => isGap x || isBreak x

/-- Whether the line ends here. -/
def isLineEnd (c : Cursor) : Bool :=
  match c.peek? 0 with
  | none => true
  | some x => isBreak x

/-- Goes on by characters of the same line. -/
def skip (c : Cursor) (n : Nat) : Cursor :=
  { c with
    rest := c.rest.drop n
    column := c.column + n
    offset := c.offset + octets (c.rest.take n) }

/-- The longest run of characters of the same line that satisfy `p`. -/
def span (c : Cursor) (p : Char → Bool) : List Char × Cursor :=
  let run := c.rest.takeWhile fun x => p x && !isBreak x
  (run, c.skip run.length)

/-- Goes on behind the run of characters that satisfy `p`. -/
def skipWhile (c : Cursor) (p : Char → Bool) : Cursor := (c.span p).2

/-- The end of a line, as it is kept in scalars, and what is on the next line. -/
def lineEnd? (c : Cursor) : Option (Char × Cursor) :=
  match c.rest with
  | '\r' :: '\n' :: rest => some ('\n', ⟨rest, c.line + 1, 0, c.offset + octets ['\r', '\n']⟩)
  | x :: rest =>
    if isBreak x then
      let kept := if x.toNat = 0x2028 ∨ x.toNat = 0x2029 then x else '\n'
      some (kept, ⟨rest, c.line + 1, 0, c.offset + octets [x]⟩)
    else none
  | [] => none

/-- Goes on to the next line if this one ends here. -/
def skipLineEnd (c : Cursor) : Cursor :=
  match c.lineEnd? with
  | some (_, next) => next
  | none => c

/-- Goes on behind the mark that may stand in front of a line. It takes up a column. -/
def skipMark (c : Cursor) : Cursor :=
  if c.column = 0 ∧ c.sees 0 byteOrderMark then c.skip 1 else c

/-- Goes on behind a comment, if one begins here. -/
def skipComment (c : Cursor) : Cursor := if c.sees 0 '#' then c.skipWhile fun _ => true else c

/-- Goes on to the next line if nothing but white space and a comment is left of this one. -/
def finishLine? (c : Cursor) : Option Cursor :=
  let c := (c.skipWhile isGap).skipComment
  if c.isLineEnd then some c.skipLineEnd else none

/-- Whether a line begins here with three equal characters, white space behind them. -/
def isMark (c : Cursor) (x : Char) : Bool :=
  c.column = 0 && c.sees 0 x && c.sees 1 x && c.sees 2 x && c.isBlankAt 3

/-- Whether a line begins here that separates documents. -/
def isDocumentMark (c : Cursor) : Bool := c.isMark '-' || c.isMark '.'

end Cursor

/-- The white space between two words of a scalar. -/
structure Gap where
  /-- What stands on the line of the first word, backward. -/
  blanks : List Char := []
  /-- The ends of lines, backward. -/
  breaks : List Char := []
  /-- Whether a tab stands on a further line in front of the column at which text may begin. -/
  tabbed : Bool := false
deriving DecidableEq, Repr, Inhabited

namespace Gap

/-- The text that the gap stands for, backward. One end of a line becomes a space, further ones
    stay; white space next to them is dropped. -/
def fold (g : Gap) : List Char :=
  match g.breaks.reverse with
  | [] => g.blanks
  | ['\n'] => [' ']
  | '\n' :: more => more.reverse
  | _ => g.breaks

/-- White space up to the next word, where text may begin at a column. The fuel bounds its
    length. -/
def scan (column : Nat) : (fuel : Nat) → Gap → Cursor → Gap × Cursor
  | 0, g, c => (g, c)
  | fuel + 1, g, c =>
    match c.lineEnd? with
    | some (x, next) => scan column fuel { g with breaks := x :: g.breaks } next
    | none =>
      match c.peek? 0 with
      | some x =>
        if isGap x then
          let g :=
            if g.breaks.isEmpty then { g with blanks := x :: g.blanks }
            else if x = '\t' ∧ c.column < column then { g with tabbed := true }
            else g
          scan column fuel g (c.skip 1)
        else (g, c)
      | none => (g, c)

end Gap

end Lightpath.Yaml
