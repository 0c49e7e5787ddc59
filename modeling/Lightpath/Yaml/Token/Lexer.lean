import Lightpath.Yaml.Token
import Lightpath.Yaml.Token.Block
import Lightpath.Yaml.Token.Plain
import Lightpath.Yaml.Token.Quoted
import Lightpath.Yaml.Token.Tag

/-!
# From text to tokens

Blocks are told from their indentation: the lexer keeps the columns in which the open ones begin.
A key is told only by the colon behind it. So the place of every token with which a key may begin
is remembered, and the mark of the key is put there when the colon is found, which has to be on
the same line and no more than 1024 octets on.
-/

namespace Lightpath.Yaml

/-- A place at which a key may begin. -/
structure PossibleKey where
  /-- The tokens in front of it. -/
  place : Nat
  line : Nat
  column : Nat
  offset : Nat
  /-- Whether nothing else can stand there. -/
  required : Bool
deriving DecidableEq, Repr, Inhabited

/-- What the lexer knows in the midst of the text. -/
structure Lexer where
  cursor : Cursor
  /-- The tokens so far, backward. -/
  tokens : List Token := []
  /-- How many they are. -/
  count : Nat := 0
  /-- The column of the innermost block. -/
  indent : Int := -1
  /-- The columns of the blocks around it, the innermost first. -/
  outer : List Int := []
  /-- Whether a key may begin at the next token. -/
  keyAllowed : Bool := true
  /-- Where the last key may begin that is still looked for, within the innermost brackets and
      within those around them. -/
  keys : List (Option PossibleKey) := [none]
deriving Repr, Inhabited

namespace Lexer

/-- How many octets apart the beginning of a key and its colon may be. -/
def keyReach : Nat := 1024

/-- Whether the text is between brackets. -/
def inFlow (l : Lexer) : Bool := 1 < l.keys.length

/-- Adds a token. -/
def emit (t : Token) (l : Lexer) : Lexer :=
  { l with tokens := t :: l.tokens, count := l.count + 1 }

/-- Adds a token behind the first `place` ones. -/
def emitAt (place : Nat) (t : Token) (l : Lexer) : Lexer :=
  let later := l.count - place
  { l with
    tokens := l.tokens.take later ++ t :: l.tokens.drop later
    count := l.count + 1 }

/-- Goes on to a place in the text. -/
def goTo (c : Cursor) (l : Lexer) : Lexer := { l with cursor := c }

/-- Goes on by characters of the line. -/
def skip (n : Nat) (l : Lexer) : Lexer := l.goTo (l.cursor.skip n)

/-- Says whether a key may begin at the next token. -/
def allowKey (allowed : Bool) (l : Lexer) : Lexer := { l with keyAllowed := allowed }

/-- The column of the innermost block that is left and those around it, when the blocks are closed
    that begin behind a column; and how many these are. -/
def closeBlocks (column : Int) (indent : Int) (closed : Nat) :
    List Int → Int × List Int × Nat
  | [] => (indent, [], closed)
  | up :: outer =>
    if column < indent then closeBlocks column up (closed + 1) outer
    else (indent, up :: outer, closed)

/-- Closes the blocks that begin behind a column. -/
def closeTo (column : Int) (l : Lexer) : Lexer :=
  if l.inFlow then l
  else
    let (indent, outer, closed) := closeBlocks column l.indent 0 l.outer
    { l with
      indent
      outer
      tokens := List.replicate closed .blockEnd ++ l.tokens
      count := l.count + closed }

/-- Opens a block at a column unless one is open there; its mark stands behind the first `place`
    tokens. -/
def openAt (column : Nat) (place : Nat) (t : Token) (l : Lexer) : Lexer :=
  if l.inFlow ∨ (column : Int) ≤ l.indent then l
  else emitAt place t { l with indent := column, outer := l.indent :: l.outer }

/-- Opens a block here unless one is open. -/
def openHere (t : Token) (l : Lexer) : Lexer := l.openAt l.cursor.column l.count t

/-- Looks no longer for the colon of a key; fails if the key was needed. -/
def giveUp? : Option PossibleKey → Option Unit
  | some key => if key.required then none else some ()
  | none => some ()

/-- Looks no longer for the colon of the last key. -/
def dropKey? (l : Lexer) : Option Lexer :=
  match l.keys with
  | key :: keys => (giveUp? key).map fun _ => { l with keys := none :: keys }
  | [] => some l

/-- Remembers that a key may begin here. -/
def markKey? (l : Lexer) : Option Lexer :=
  if l.keyAllowed then
    l.dropKey?.map fun l =>
      let c := l.cursor
      let key : PossibleKey :=
        ⟨l.count, c.line, c.column, c.offset, !l.inFlow && l.indent = (c.column : Int)⟩
      { l with keys := some key :: l.keys.drop 1 }
  else some l

/-- A key whose colon can no longer follow is given up. -/
def expire? (c : Cursor) : Option PossibleKey → Option (Option PossibleKey)
  | some key =>
    if key.line < c.line ∨ key.offset + keyReach < c.offset then
      if key.required then none else some none
    else some (some key)
  | none => some none

/-- Gives up the keys whose colons can no longer follow. -/
def expireKeys? (l : Lexer) : Option Lexer :=
  (l.keys.mapM (expire? l.cursor)).map fun keys => { l with keys }

/-- Goes on over white space, comments and line ends, and the marks in front of lines. A tab may
    not stand where a block may begin. The fuel bounds the number of lines. -/
def skipToToken : (fuel : Nat) → Lexer → Lexer
  | 0, l => l
  | fuel + 1, l =>
    let isSpace (x : Char) : Bool := x = ' ' || (x = '\t' && (l.inFlow || !l.keyAllowed))
    let c := (l.cursor.skipMark.skipWhile isSpace).skipComment
    match c.lineEnd? with
    | some (_, next) =>
      skipToToken fuel { l with cursor := next, keyAllowed := l.keyAllowed || !l.inFlow }
    | none => { l with cursor := c }

/-- Ends all blocks and adds the mark of a document. -/
def documentMark? (t : Token) (l : Lexer) : Option Lexer :=
  (l.closeTo (-1)).dropKey?.map fun l => ((l.allowKey false).emit t).skip 3

/-- The token of a directive. The fuel bounds the text that is left. -/
def readDirective? (fuel : Nat) (c : Cursor) : Option (Token × Cursor) :=
  let (name, c) := (c.skip 1).span isWord
  if !c.isBlankAt 0 then none
  else
    let found :=
      if name = "YAML".toList then
        (Tag.readVersion? c).map fun ((major, minor), c) => (Token.version major minor, c)
      else if name = "TAG".toList then
        (Tag.readHead? fuel c).map fun ((handle, head), c) => (Token.tagHandle handle head, c)
      else none
    found.bind fun (t, c) => c.finishLine?.map (t, ·)

/-- Reads a directive. -/
def directive? (fuel : Nat) (l : Lexer) : Option Lexer := do
  let l ← (l.closeTo (-1)).dropKey?
  let (t, c) ← readDirective? fuel l.cursor
  return ((l.allowKey false).emit t).goTo c

/-- Opens brackets. -/
def openFlow? (t : Token) (l : Lexer) : Option Lexer :=
  l.markKey?.map fun l => (({ l with keys := none :: l.keys }.allowKey true).emit t).skip 1

/-- Closes brackets. -/
def closeFlow? (t : Token) (l : Lexer) : Option Lexer :=
  l.dropKey?.map fun l =>
    let l := if l.inFlow then { l with keys := l.keys.drop 1 } else l
    ((l.allowKey false).emit t).skip 1

/-- A comma between brackets. -/
def flowEntry? (l : Lexer) : Option Lexer :=
  l.dropKey?.map fun l => ((l.allowKey true).emit .flowEntry).skip 1

/-- A dash in front of an item. Outside brackets it may only stand where a key may. -/
def blockEntry? (l : Lexer) : Option Lexer :=
  if !l.inFlow && !l.keyAllowed then none
  else (l.openHere .blockSequenceStart).dropKey?.map fun l =>
    ((l.allowKey true).emit .blockEntry).skip 1

/-- A question mark in front of a key. -/
def explicitKey? (l : Lexer) : Option Lexer :=
  if !l.inFlow && !l.keyAllowed then none
  else (l.openHere .blockMappingStart).dropKey?.map fun l =>
    ((l.allowKey (!l.inFlow)).emit .key).skip 1

/-- A colon in front of a value. If a key may begin somewhere in front of it, it does. -/
def value? (l : Lexer) : Option Lexer :=
  match l.keys with
  | some key :: keys =>
    let l := (emitAt key.place .key { l with keys := none :: keys }).openAt key.column key.place
      .blockMappingStart
    some (((l.allowKey false).emit .value).skip 1)
  | _ =>
    if !l.inFlow && !l.keyAllowed then none
    else some ((((l.openHere .blockMappingStart).allowKey (!l.inFlow)).emit .value).skip 1)

/-- The name behind the mark of an anchor or an alias. -/
def name? (l : Lexer) (token : String → Token) : Option Lexer := do
  let l ← l.markKey?
  let (name, c) := (l.cursor.skip 1).span isWord
  if name.isEmpty then none
  else if c.isBlankAt 0 || (c.peek? 0).any ("?:,]\x7d%@\x60".toList.contains ·) then
    some (((l.allowKey false).emit (token (String.ofList name))).goTo c)
  else none

/-- A tag in front of a node. -/
def tag? (fuel : Nat) (l : Lexer) : Option Lexer := do
  let l ← l.markKey?
  let ((handle, tail), c) ← Tag.read? l.inFlow fuel l.cursor
  return ((l.allowKey false).emit (.tag handle tail)).goTo c

/-- A scalar of lines. -/
def block? (fuel : Nat) (l : Lexer) : Option Lexer := do
  let l ← l.dropKey?
  let ((text, style), c) ← Block.read? l.indent fuel l.cursor
  return ((l.allowKey true).emit (.scalar text style)).goTo c

/-- A scalar between quotes. -/
def quoted? (fuel : Nat) (l : Lexer) : Option Lexer := do
  let l ← l.markKey?
  let (text, c) ← Quoted.read? fuel l.cursor
  return ((l.allowKey false).emit (.scalar text .quoted)).goTo c

/-- A scalar without quotes. -/
def plain? (fuel : Nat) (l : Lexer) : Option Lexer := do
  let l ← l.markKey?
  let found ← Plain.read? l.inFlow (l.indent + 1).toNat fuel l.cursor
  let text := String.ofList found.seen.reverse
  return ((l.allowKey found.crossed).emit (.scalar text .plain)).goTo found.next

/-- The characters with which no plain scalar begins, whatever follows them. -/
def isIndicator (x : Char) : Bool := ",[]\x7b\x7d#&*!|>'\"%@\x60".toList.contains x

/-- Whether a plain scalar begins here, given that no other token does. -/
def beginsPlain (l : Lexer) (x : Char) : Bool :=
  if x = '-' then true
  else if x = '?' ∨ x = ':' then !l.inFlow
  else !isIndicator x && !isGap x && !isBreak x

/-- Reads the token that begins with a character. The fuel bounds the text that is left. -/
def token? (fuel : Nat) (l : Lexer) (x : Char) : Option Lexer :=
  let c := l.cursor
  if c.column = 0 ∧ x = '%' then l.directive? fuel
  else if c.isMark '-' then l.documentMark? .documentStart
  else if c.isMark '.' then l.documentMark? .documentEnd
  else if x = '[' then l.openFlow? .flowSequenceStart
  else if x = '{' then l.openFlow? .flowMappingStart
  else if x = ']' then l.closeFlow? .flowSequenceEnd
  else if x = '}' then l.closeFlow? .flowMappingEnd
  else if x = ',' then l.flowEntry?
  else if x = '-' ∧ c.isBlankAt 1 then l.blockEntry?
  else if x = '?' ∧ (l.inFlow ∨ c.isBlankAt 1) then l.explicitKey?
  else if x = ':' ∧ (l.inFlow ∨ c.isBlankAt 1) then l.value?
  else if x = '*' then l.name? .alias
  else if x = '&' then l.name? .anchor
  else if x = '!' then l.tag? fuel
  else if (x = '|' ∨ x = '>') ∧ !l.inFlow then l.block? fuel
  else if x = '\'' ∨ x = '"' then l.quoted? fuel
  else if l.beginsPlain x then l.plain? fuel
  else none

/-- Reads tokens to the end of the text. The fuel bounds the text that is left, and so the number of
    tokens. -/
def run : (fuel : Nat) → Lexer → Option (List Token)
  | 0, _ => none
  | fuel + 1, l =>
    match (skipToToken (fuel + 1) l).expireKeys? with
    | none => none
    | some l =>
      let l := l.closeTo l.cursor.column
      match l.cursor.peek? 0 with
      | none => (l.closeTo (-1)).dropKey?.map (·.tokens.reverse)
      | some x =>
        match l.token? (fuel + 1) x with
        | some l => run fuel l
        | none => none

end Lexer

/-- The tokens of a text. -/
def tokens? (text : String) : Option (List Token) :=
  let cs := text.toList
  if cs.all isAllowed then Lexer.run (cs.length + 1) { cursor := { rest := cs } } else none

end Lightpath.Yaml
