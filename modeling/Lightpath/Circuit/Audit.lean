import Lightpath.Circuit.Edit

/-!
# What a document does to the device

The names that a document deletes or makes, read off the document alone.
-/

namespace Lightpath.CircuitAudit

/-- Whether a node is to be taken away. -/
def isDeletion (node : Document) : Bool :=
  (node.member? CircuitEdit.operationKey).bind Document.text? = some CircuitEdit.deleteOperation

/-- The name of a node that is to be taken away: of a connection, or else of an interface. -/
def deletedName? (node : Document) : Option String :=
  if isDeletion node then
    match node.member? CircuitEdit.connectionNameKey with
    | some name => name.text?
    | none => (node.member? "name").bind Document.text?
  else none

mutual

/-- The names that are taken away anywhere in a document, a node before what is in it. -/
def deletedNames : Document → List String
  | .list items => deletedInItems items
  | .object members => (deletedName? (.object members)).toList ++ deletedInMembers members
  | _ => []

/-- The names that are taken away in items. -/
def deletedInItems : List Document → List String
  | [] => []
  | item :: items => deletedNames item ++ deletedInItems items

/-- The names that are taken away in members. -/
def deletedInMembers : List (String × Document) → List String
  | [] => []
  | (_, value) :: members => deletedNames value ++ deletedInMembers members

end

/-- The node of a document about the device. -/
def body? (doc : Document) (key : String) : Option Document :=
  doc.atKeys? [CircuitEdit.root, key]

/-- The names of the interfaces that a document makes. -/
def createdInterfaces (doc : Document) : List String :=
  let nodes := match body? doc CircuitEdit.interfaceKey with
    | some node => node.nodes
    | none => []
  (nodes.filter fun node => !isDeletion node).filterMap fun node =>
    (node.member? "name").bind Document.text?

/-- The name of the connection that a document makes. -/
def createdConnection? (doc : Document) : Option String :=
  match body? doc CircuitEdit.connectionsKey with
  | some node =>
    if isDeletion node then none
    else (node.member? CircuitEdit.connectionNameKey).bind Document.text?
  | none => none

/-- Whether one of the documents takes something away. -/
def hasDeletions (docs : List Document) : Bool := docs.any fun doc => !(deletedNames doc).isEmpty

end Lightpath.CircuitAudit
