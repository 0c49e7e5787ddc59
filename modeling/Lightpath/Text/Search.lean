/-!
# Finding one text in another

Occurrences, the cut at the first occurrence, and the fields between separators.
-/

namespace Lightpath.Text

/-- Whether `needle` stands somewhere in the characters. -/
def occurs (needle : List Char) : List Char → Bool
  | [] => needle.isEmpty
  | c :: rest => needle.isPrefixOf (c :: rest) || occurs needle rest

/-- Whether a text contains another. -/
def contains (s needle : String) : Bool := occurs needle.toList s.toList

/-- The characters after `head`, if they begin with it. -/
def dropHead? (head cs : List Char) : Option (List Char) :=
  if head.isPrefixOf cs then some (cs.drop head.length) else none

/-- The characters before and after the first occurrence of `mark`. -/
def cutAt? (mark : List Char) : List Char → Option (List Char × List Char)
  | [] => if mark.isEmpty then some ([], []) else none
  | c :: rest =>
    match dropHead? mark (c :: rest) with
    | some after => some ([], after)
    | none => (cutAt? mark rest).map fun (before, after) => (c :: before, after)

/-- The pieces between the occurrences of a separator; there is always at least one. -/
def fields (separator : Char) : List Char → List (List Char)
  | [] => [[]]
  | c :: rest =>
    if c = separator then [] :: fields separator rest
    else
      match fields separator rest with
      | [] => [[c]]
      | piece :: pieces => (c :: piece) :: pieces

end Lightpath.Text
