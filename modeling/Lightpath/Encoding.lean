import Lightpath.Document.Draft

/-!
# Typed values in a notation

Records, lists and leaves are written in more than one notation: as documents, and as text for
people to edit. `Encoded` says what a notation has to tell about a node so that a typed value can
be read from it; the readers of types are written once, for all notations.

The rules of records are the same everywhere: fields that are not known are ignored, a known field
that is given twice is an error, and a field that is left out takes its default if it has one.
-/

namespace Lightpath

/-- A notation whose nodes can be read as values of a wanted type. -/
class Encoded (α : Type) where
  /-- An integer from zero to `limit`. -/
  natural? (limit : Nat) (node : α) : Option Nat
  float? (node : α) : Option Float
  bool? (node : α) : Option Bool
  text? (node : α) : Option String
  /-- The name of one of several alternatives. -/
  choice? (node : α) : Option String
  /-- The items of a list. -/
  items? (node : α) : Option (List α)
  /-- The known fields of a record, none of them twice. A record may also be written as the list
      of its fields in order, if it has no less than `least` items. -/
  fields? (names : List String) (least : Nat) (node : α) : Option (List (String × α))
  /-- A node that may be absent: `some none` if it is, `some (some node)` if it is not. -/
  present? (node : α) : Option (Option α)

namespace Encoded

variable {α : Type} [Encoded α]

/-- A word of 64 bits. -/
def word64? (node : α) : Option UInt64 := (natural? (UInt64.size - 1) node).map UInt64.ofNat

/-- A word of 32 bits. -/
def word32? (node : α) : Option UInt32 := (natural? (UInt32.size - 1) node).map UInt32.ofNat

/-- A node that may be absent. -/
def optional? {β : Type} (read : α → Option β) (node : α) : Option (Option β) :=
  match present? node with
  | none => none
  | some none => some none
  | some (some node) => (read node).map some

/-- A list whose items are all read. -/
def list? {β : Type} (read : α → Option β) (node : α) : Option (List β) :=
  match items? node with
  | none => none
  | some items => items.mapM read

/-- One of several alternatives, by its name. -/
def alternative? {β : Type} (ofName? : String → Option β) (node : α) : Option β :=
  match choice? node with
  | some name => ofName? name
  | none => none

/-- A field that has to be given. -/
def field? {β : Type} (fields : List (String × α)) (name : String) (read : α → Option β) :
    Option β :=
  match Table.lookup name fields with
  | some node => read node
  | none => none

/-- A field with a default. -/
def fieldOr {β : Type} (fields : List (String × α)) (name : String) (default : β)
    (read : α → Option β) : Option β :=
  match Table.lookup name fields with
  | some node => read node
  | none => some default

end Encoded

/-- Whether no text of a list stands in it twice. -/
def allDistinct : List String → Bool
  | [] => true
  | s :: rest => !rest.contains s && allDistinct rest

/-- The known fields among the members of an object. -/
def knownMembers? {α : Type} (names : List String) (members : List (String × α)) :
    Option (List (String × α)) :=
  let known := members.filter fun member => names.contains member.1
  if allDistinct (known.map (·.1)) then some known else none

/-- The fields that the items of a list give, in order, if it has no less than `least` items. -/
def fieldsInOrder? {α : Type} (names : List String) (least : Nat) (items : List α) :
    Option (List (String × α)) :=
  if least ≤ items.length ∧ items.length ≤ names.length then some (names.zip items) else none

namespace Document

/-- In documents an alternative is named by a text, or by the only member of an object, whose value
    is empty; integers are also floating point numbers; and what is absent is `null`. -/
instance : Encoded Document where
  natural? limit doc :=
    match doc.natural? with
    | some n => if n ≤ limit then some n else none
    | none => none
  float?
    | .int n => some (Float.ofInt n)
    | .float x => some x
    | _ => none
  bool?
    | .bool b => some b
    | _ => none
  text? := Document.text?
  choice?
    | .text s => some s
    | .object [(key, .null)] => some key
    | .object [(key, .object [])] => some key
    | _ => none
  items?
    | .list items => some items
    | _ => none
  fields? names least
    | .object members => knownMembers? names members
    | .list items => fieldsInOrder? names least items
    | _ => none
  present?
    | .null => some none
    | doc => some (some doc)

end Document

namespace Draft

/-- A reader of the leaves of documents reads those of drafts that have a value. -/
def onLeaf {β : Type} (read : Document → Option β) : Draft → Option β
  | .leaf value => value.bind read
  | _ => none

/-- Drafts are read like documents, but for the only member of an object that names an alternative:
    its value is `null`. -/
instance : Encoded Draft where
  natural? limit := onLeaf (Encoded.natural? limit)
  float? := onLeaf Encoded.float?
  bool? := onLeaf Encoded.bool?
  text? := onLeaf Document.text?
  choice?
    | .leaf value => value.bind Document.text?
    | .object [(key, .leaf (some .null))] => some key
    | _ => none
  items?
    | .list items => some items
    | _ => none
  fields? names least
    | .object members => knownMembers? names members
    | .list items => fieldsInOrder? names least items
    | _ => none
  present?
    | .leaf (some .null) => some none
    | draft => some (some draft)

end Draft

/-- A form of documents, in which everything can be said that documents say. -/
class DocumentForm (α : Type) extends Encoded α where
  /-- An integer that fits 32 bits with a sign. -/
  int32? (node : α) : Option Int32
  /-- The members of an object. -/
  members? (node : α) : Option (List (String × α))
  /-- The document, if all of it has a value. -/
  whole? (node : α) : Option Document

namespace Document

/-- An integer that fits 32 bits with a sign. -/
def int32? : Document → Option Int32
  | .int n => if -(Nat.pow 2 31) ≤ n ∧ n < Nat.pow 2 31 then some (Int32.ofInt n) else none
  | _ => none

instance : DocumentForm Document where
  int32? := int32?
  members?
    | .object members => some members
    | _ => none
  whole? := some

end Document

namespace Draft

instance : DocumentForm Draft where
  int32? := onLeaf Document.int32?
  members?
    | .object members => some members
    | _ => none
  whole? := document?

end Draft

end Lightpath
