import Lightpath.Document

/-!
# Drafts

What a text says before it is asked for its values. A text may be written by the rules and yet say
something that no document holds: a number beyond all numbers, half a character, or lists within
lists within lists. Such a place is kept in the draft without a value, and matters to nobody who
does not look there.
-/

namespace Lightpath

/-- A document as it is written. -/
inductive Draft where
  /-- A leaf, or what has no value. -/
  | leaf (value : Option Document)
  | list (items : List Draft)
  | object (members : List (String × Draft))
deriving Inhabited

namespace Draft

mutual

/-- The document that is written, if all of it has a value. -/
def document? : Draft → Option Document
  | .leaf value => value
  | .list items =>
    match documents? items with
    | some items => some (.list items)
    | none => none
  | .object members =>
    match memberDocuments? members with
    | some members => some (.object members)
    | none => none

/-- The items of a list as documents. -/
def documents? : List Draft → Option (List Document)
  | [] => some []
  | item :: items =>
    match item.document?, documents? items with
    | some item, some items => some (item :: items)
    | _, _ => none

/-- The members of an object as documents. -/
def memberDocuments? : List (String × Draft) → Option (List (String × Document))
  | [] => some []
  | (key, value) :: members =>
    match value.document?, memberDocuments? members with
    | some value, some members => some ((key, value) :: members)
    | _, _ => none

end

end Draft

end Lightpath
