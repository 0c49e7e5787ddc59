import Lightpath.Encoding
import Lightpath.Yaml.Scalar
import Lightpath.Yaml.Tree

/-!
# Typed values in indented text

How the nodes of indented text are read as values of a wanted type. A scalar is a text whatever
else it may say; only plain scalars say anything else, and literal ones that are tagged with the
type that is wanted. An empty plain scalar is also a list or a record without anything in it.
-/

namespace Lightpath.Yaml

/-- The tag of a type that every reader knows. -/
def coreTag (name : String) : TagText := Node.coreHead ++ name.toUTF8.toList

namespace Node

/-- What a scalar says as a value of the type with a tag. -/
def saying? {β : Type} (tag : String) (read : String → Option β) : Node → Option β
  | .scalar text .plain _ => read text
  | .scalar text .literal found => if found = some (coreTag tag) then read text else none
  | _ => none

/-- Whether a node is an empty plain scalar. -/
def isEmpty : Node → Bool
  | .scalar text .plain _ => text.isEmpty
  | _ => false

/-- Whether a scalar says nothing. A tag may say so of what is written like nothing, and of no
    other plain scalar. -/
def isAbsent? : Node → Option Bool
  | .scalar text .plain none => some (text.isEmpty || Scalar.isNull text)
  | .scalar text .plain (some tag) =>
    if tag = coreTag "null" then if Scalar.isNull text then some true else none else some false
  | _ => some false

/-- Whether a scalar adds nothing to the tag in front of it. -/
def isUnit : Node → Bool
  | .scalar text .plain _ => text.isEmpty || Scalar.isNull text
  | _ => false

/-- The name in a tag of one's own: what stands behind its exclamation mark, or the mark if nothing
    does. A tag that spells no text has no name. -/
def ownTag? : TagText → Option String
  | [] => none
  | first :: rest =>
    if first = Tag.octetOf '!' then
      String.fromUTF8? (ByteArray.mk (if rest.isEmpty then [first] else rest).toArray)
    else none

/-- The name of an alternative: the text of a scalar, or the tag in front of an empty one. -/
def choice? : Node → Option String
  | .scalar text style tag =>
    match tag.bind ownTag? with
    | some name => if isUnit (.scalar text style tag) then some name else none
    | none => some text
  | _ => none

end Node

namespace Tree

/-- The known fields of a record: the entries of a mapping, whose keys have to be scalars. -/
def fields? (names : List String) (t : Tree) : Option (List (String × Tree)) :=
  match t.target with
  | .mapping _ =>
    match t.entries.mapM fun (key, value) => key.text?.map (·, value) with
    | none => none
    | some members =>
      let known := members.filter fun member => names.contains member.1
      if allDistinct (known.map (·.1)) then some known else none
  | node => if node.isEmpty then some [] else none

/-- The items of a list. -/
def items? (t : Tree) : Option (List Tree) :=
  match t.target with
  | .sequence _ => some t.items
  | node => if node.isEmpty then some [] else none

instance : Encoded Tree where
  natural? limit t := t.target.saying? "int" fun s => (Scalar.natural? s).filter (· ≤ limit)
  float? t := t.target.saying? "float" Scalar.float?
  bool? t := t.target.saying? "bool" Scalar.bool?
  text? := text?
  choice? t := t.target.choice?
  items? := items?
  fields? names _ := fields? names
  present? t := t.target.isAbsent?.map fun absent => if absent then none else some t

end Tree

end Lightpath.Yaml
