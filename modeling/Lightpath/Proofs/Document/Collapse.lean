import Lightpath.Document

/-!
# Lists of one

Devices leave out a list of one: an object stands for itself. A document in which such a list is
collapsed has the same nodes at the place of the list. Changes at the end of a path are told by
what is found there afterwards.
-/

namespace Lightpath.Document

/-- A list of one object is left out. -/
def collapse : Document → Document
  | .list [.object members] => .object members
  | doc => doc

/-- Changes the members of an object that have a key. -/
def changeMember (key : String) (f : Document → Document) : Document → Document
  | .object members =>
    .object (members.map fun entry => (entry.1, if entry.1 = key then f entry.2 else entry.2))
  | doc => doc

/-- Changes the nodes that a sequence of keys leads to. -/
def changeAt (f : Document → Document) : List String → Document → Document
  | [], doc => f doc
  | key :: keys, doc => doc.changeMember key (changeAt f keys)

/-- Changes the nodes of a list, each by its place in the list. -/
def changeNodes (f : Nat → Document → Document) : Document → Document
  | .list items => .list (items.mapIdx f)
  | .object members => f 0 (.object members)
  | doc => doc

variable (f : Document → Document)

/-- The nodes are the same with and without the list. -/
@[simp] theorem nodes_collapse (doc : Document) : doc.collapse.nodes = doc.nodes := by
  unfold collapse
  split <;> rfl

theorem member?_changeMember (key key' : String) (doc : Document) :
    (doc.changeMember key f).member? key' =
      (doc.member? key').map fun value => if key' = key then f value else value := by
  cases doc with
  | object members =>
    exact Table.lookup_map (fun name value => if name = key then f value else value) key' members
  | _ => rfl

/-- The member with the key is the one that is changed. -/
theorem member?_changeMember_self (key : String) (doc : Document) :
    (doc.changeMember key f).member? key = (doc.member? key).map f := by
  simp [member?_changeMember]

/-- The members with other keys stay as they are. -/
theorem member?_changeMember_of_ne {key key' : String} (other : key' ≠ key) (doc : Document) :
    (doc.changeMember key f).member? key' = doc.member? key' := by
  simp [member?_changeMember, other]

/-- The change is met where it was made. -/
theorem atKeys?_changeAt (keys : List String) (doc : Document) :
    (doc.changeAt f keys).atKeys? keys = (doc.atKeys? keys).map f := by
  induction keys generalizing doc with
  | nil => rfl
  | cons key keys ih =>
    simp only [changeAt, atKeys?, member?_changeMember_self]
    cases doc.member? key with
    | none => rfl
    | some child => exact ih child

/-- What keeps the nodes of every list keeps the nodes of the list at a path. -/
theorem nodesAt_changeAt {f : Document → Document} (kept : ∀ doc, (f doc).nodes = doc.nodes)
    (path : String) (doc : Document) :
    (doc.changeAt f (keysOf path)).nodesAt path = doc.nodesAt path := by
  simp only [nodesAt, at?, atKeys?_changeAt]
  cases doc.atKeys? (keysOf path) with
  | none => rfl
  | some node => exact kept node

end Lightpath.Document
