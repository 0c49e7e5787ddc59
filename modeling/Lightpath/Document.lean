import Lightpath.Decimal.Layout
import Lightpath.Table
import Lightpath.Text.Search

/-!
# Documents

The trees in which devices are configured and answer. Numbers keep their kind: an integer and a
floating point number of the same value are different documents. The members of an object stand
in the order in which they were written; `canonical` brings them into ascending order and keeps
the last of several with one key.
-/

namespace Lightpath

/-- A tree of objects and lists with texts, numbers and truth values as leaves. -/
inductive Document where
  | null
  | bool (value : Bool)
  | int (value : Int)
  | float (value : Float)
  | text (value : String)
  | list (items : List Document)
  | object (members : List (String × Document))
deriving Inhabited

namespace Document

/-- The object without members. -/
def empty : Document := .object []

/-- A floating point number as a leaf; documents cannot write infinities and what is no number,
    and say `null` instead. -/
def number (x : Float) : Document := if x.isFinite then .float x else .null

/-- A word as a leaf. -/
def word (n : UInt64) : Document := .int n.toNat

/-- A text, or `null` where there is none. -/
def textOrNull : Option String → Document
  | some s => .text s
  | none => .null

/-- A list of texts. -/
def texts (ss : List String) : Document := .list (ss.map .text)

/-- The member of an object with a key. -/
def member? (key : String) : Document → Option Document
  | .object members => Table.lookup key members
  | _ => none

/-- The text of a leaf that is a text. -/
def text? : Document → Option String
  | .text s => some s
  | _ => none

/-- The value of a leaf that is an integer without a sign. -/
def natural? : Document → Option Nat
  | .int n => if 0 ≤ n then some n.toNat else none
  | _ => none

/-- What a leaf says, written as text: texts, numbers and truth values do, the rest does not. -/
def leaf? : Document → Option String
  | .text s => some s
  | .int n => some (toString n)
  | .float x => Decimal.Layout.document.write? x
  | .bool b => some (if b then "true" else "false")
  | _ => none

/-- The node that a sequence of keys leads to. -/
def atKeys? : List String → Document → Option Document
  | [], doc => some doc
  | key :: keys, doc =>
    match doc.member? key with
    | some child => atKeys? keys child
    | none => none

/-- The keys of a path: what stands between its dots. The empty path has no keys. -/
def keysOf (path : String) : List String :=
  if path.isEmpty then [] else (Text.fields '.' path.toList).map String.ofList

/-- The node at a path. -/
def at? (doc : Document) (path : String) : Option Document := atKeys? (keysOf path) doc

/-- What the leaf at a path says. -/
def leafAt? (doc : Document) (path : String) : Option String := (doc.at? path).bind leaf?

/-- The nodes of a list. Devices leave out a list of one: an object stands for itself. -/
def nodes : Document → List Document
  | .list items => items
  | .object members => [.object members]
  | _ => []

/-- The nodes of the list at a path. -/
def nodesAt (doc : Document) (path : String) : List Document :=
  match doc.at? path with
  | some node => node.nodes
  | none => []

mutual

/-- The document with the members of every object in ascending order, of several members with one
    key only the last. -/
def canonical : Document → Document
  | .list items => .list (canonicalItems items)
  | .object members => .object (canonicalMembers members [])
  | doc => doc

/-- The items of a list with the members of every object in ascending order. -/
def canonicalItems : List Document → List Document
  | [] => []
  | item :: items => item.canonical :: canonicalItems items

/-- Puts members one after the other at their places among ordered ones. -/
def canonicalMembers :
    List (String × Document) → List (String × Document) → List (String × Document)
  | [], placed => placed
  | (key, value) :: members, placed =>
    canonicalMembers members (Table.insertEntry key value.canonical placed)

end

end Document

end Lightpath
