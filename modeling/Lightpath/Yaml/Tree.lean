import Lightpath.Yaml.Node
import Lightpath.Yaml.Token.Lexer

/-!
# Trees and their aliases

A reader of a wanted type follows an alias where it comes to one; what it does not want it passes
over, aliases and all. So a tree may hold itself, and a short text may stand for a long one. How
long is limited: a reader may follow no more than a hundred aliases for each mark and leaf of the
text.
-/

namespace Lightpath.Yaml

namespace Tree

/-- A part of the tree. -/
def part (t : Tree) (node : Node) : Tree := { t with root := node }

/-- Whether the tree is an alias of another node. -/
def isAlias (t : Tree) : Bool :=
  match t.root with
  | .alias _ => true
  | _ => false

/-- The node that is meant: of an alias the one that it stands for. -/
def target (t : Tree) : Node :=
  match t.root with
  | .alias number => ((t.declared.find? (·.1 = number)).map (·.2)).getD t.root
  | node => node

/-- The text of a scalar. -/
def text? (t : Tree) : Option String :=
  match t.target with
  | .scalar text _ _ => some text
  | _ => none

/-- The items of a sequence. -/
def items (t : Tree) : List Tree :=
  match t.target with
  | .sequence items => items.map t.part
  | _ => []

/-- The entries of a mapping. -/
def entries (t : Tree) : List (Tree × Tree) :=
  match t.target with
  | .mapping entries => entries.map fun (key, value) => (t.part key, t.part value)
  | _ => []

/-- The tree that a text writes. -/
def parse? (text : String) : Option Tree := (tokens? text).bind Node.treeOfTokens?

end Tree

/-- How many aliases a reader of a type follows in a tree. -/
abbrev Follows := Tree → Nat

namespace Follows

/-- What a reader follows at a leaf. -/
def leaf : Follows := fun t => if t.isAlias then 1 else 0

/-- What a reader of lists follows. -/
def list (item : Follows) : Follows := fun t => t.items.foldl (fun n child => n + item child) (leaf t)

/-- What a reader of records follows: at every key, and at the values of the fields that it
    knows. -/
def record (fields : List (String × Follows)) : Follows := fun t =>
  t.entries.foldl (fun n (key, value) =>
    n + leaf key + match key.text?.bind (Table.lookup · fields) with
      | some field => field value
      | none => 0) (leaf t)

end Follows

namespace Tree

/-- How many aliases may be followed for each mark and leaf of the text. -/
def followLimit : Nat := 100

/-- Reads the value of a text, unless it is repeated too often. -/
def read? {β : Type} (follows : Follows) (decode? : Tree → Option β) (text : String) : Option β :=
  match parse? text with
  | none => none
  | some t => if follows t ≤ followLimit * t.root.size then decode? t else none

end Tree

end Lightpath.Yaml
