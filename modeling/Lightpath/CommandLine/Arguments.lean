import Lightpath.Table
import Lightpath.Text.Digits

/-!
# Arguments

The words of a command line: options with a value, flags, and plain words. The value of an option
follows as the next word or behind an equals sign. An option is given once at most. Behind `--`
all words are plain. Words are read one after the other, and a wish to be told something ends the
reading: what stands behind it does not matter.
-/

namespace Lightpath.CommandLine

/-- What the value of an option has to be. -/
inductive ValueKind where
  | text
  /-- The path of a file. -/
  | path
  /-- A number that fits a word. -/
  | number
deriving DecidableEq, Repr, Inhabited

/-- Whether a text is a value of a kind. -/
def ValueKind.accepts : ValueKind → String → Bool
  | .text, _ => true
  | .path, s => !s.isEmpty
  | .number, s => (Text.word? s.toList).isSome

/-- An option that takes a value. -/
structure OptionName where
  long : String
  short : Option Char := none
  kind : ValueKind := .text
deriving DecidableEq, Repr, Inhabited

/-- A word by which one wishes to be told something. -/
structure Wish where
  long : String
  short : Char
deriving DecidableEq, Repr, Inhabited

/-- What a command takes. -/
structure Grammar where
  options : List OptionName := []
  flags : List String := []
  wishes : List Wish := []
  /-- How many plain words are taken. A command that takes a subcommand stops at the first. -/
  words : Nat := 0
deriving DecidableEq, Repr, Inhabited

/-- The words of a command line by their roles. -/
structure Arguments where
  values : List (String × String) := []
  flags : List String := []
  words : List String := []
  /-- The wish that ended the reading. -/
  wish : Option Wish := none
deriving DecidableEq, Repr, Inhabited

namespace Arguments

/-- The value of an option. -/
def value? (a : Arguments) (name : String) : Option String := Table.lookup name a.values

/-- Whether a flag is given. -/
def hasFlag (a : Arguments) (name : String) : Bool := a.flags.contains name

/-- Adds the value of an option; fails if it has one, or if the value is not of its kind. -/
def addValue? (a : Arguments) (name : OptionName) (value : String) : Option Arguments :=
  if (a.value? name.long).isSome ∨ !name.kind.accepts value then none
  else some { a with values := a.values ++ [(name.long, value)] }

/-- Adds a flag; fails if it has been given. -/
def addFlag? (a : Arguments) (name : String) : Option Arguments :=
  if a.hasFlag name then none else some { a with flags := a.flags ++ [name] }

/-- Adds plain words; fails if there are then more than `most`. -/
def addWords? (a : Arguments) (most : Nat) (words : List String) : Option Arguments :=
  if a.words.length + words.length ≤ most then some { a with words := a.words ++ words } else none

end Arguments

/-- What a word is by its look. -/
inductive Shape where
  /-- The word behind which all words are plain. -/
  | separator
  /-- A long option with what stands behind its equals sign. -/
  | long (name : String) (value : Option String)
  /-- A short option with what stands behind its letter. -/
  | short (letter : Char) (rest : List Char)
  | plain
deriving DecidableEq, Repr, Inhabited

/-- What stands in front of the first equals sign, and behind it. -/
def splitEquals (cs : List Char) : String × Option String :=
  let name := cs.takeWhile (· ≠ '=')
  match cs.dropWhile (· ≠ '=') with
  | [] => (String.ofList name, none)
  | _ :: value => (String.ofList name, some (String.ofList value))

/-- The shape of a word. -/
def shapeOf (word : String) : Shape :=
  match word.toList with
  | ['-', '-'] => .separator
  | '-' :: '-' :: cs => let (name, value) := splitEquals cs; .long name value
  | '-' :: letter :: rest => .short letter rest
  | _ => .plain

/-- What is found of the value of an option in the word that names it. -/
def attached : List Char → Option String
  | [] => none
  | '=' :: value => some (String.ofList value)
  | value => some (String.ofList value)

namespace Grammar

/-- The option with a short name. -/
def ofShort? (g : Grammar) (letter : Char) : Option OptionName :=
  g.options.find? (·.short = some letter)

/-- The option with a long name. -/
def ofLong? (g : Grammar) (name : String) : Option OptionName := g.options.find? (·.long = name)

/-- The wish with a short name. -/
def wishOfShort? (g : Grammar) (letter : Char) : Option Wish := g.wishes.find? (·.short = letter)

/-- The wish with a long name. -/
def wishOfLong? (g : Grammar) (name : String) : Option Wish := g.wishes.find? (·.long = name)

/-- Reads words one after the other. `pending` is an option that waits for its value. The words
    left are those from the first plain one on, if the command takes none. -/
def read (g : Grammar) (pending : Option OptionName) (a : Arguments) :
    List String → Option (Arguments × List String)
  | [] => if pending.isSome then none else some (a, [])
  | word :: rest =>
    match pending, shapeOf word with
    | some name, .plain =>
      match a.addValue? name word with
      | some a => g.read none a rest
      | none => none
    | some _, _ => none
    | none, .plain =>
      if g.words = 0 then some (a, word :: rest)
      else match a.addWords? g.words [word] with
        | some a => g.read none a rest
        | none => none
    | none, .separator => (a.addWords? g.words rest).map fun a => (a, [])
    | none, .long name value =>
      match g.ofLong? name, value with
      | some name, none => g.read (some name) a rest
      | some name, some value =>
        match a.addValue? name value with
        | some a => g.read none a rest
        | none => none
      | none, none =>
        match g.wishOfLong? name with
        | some wish => some ({ a with wish := some wish }, [])
        | none =>
          if g.flags.contains name then
            match a.addFlag? name with
            | some a => g.read none a rest
            | none => none
          else none
      | none, some _ => none
    | none, .short letter tail =>
      match g.ofShort? letter, attached tail with
      | some name, none => g.read (some name) a rest
      | some name, some value =>
        match a.addValue? name value with
        | some a => g.read none a rest
        | none => none
      | none, _ => (g.wishOfShort? letter).map fun wish => ({ a with wish := some wish }, [])

/-- Reads all words; fails if some are left, or if there are not as many plain ones as are taken. -/
def readAll? (g : Grammar) (words : List String) : Option Arguments :=
  match g.read none {} words with
  | some (a, []) => if a.wish.isSome ∨ a.words.length = g.words then some a else none
  | _ => none

end Grammar

end Lightpath.CommandLine
