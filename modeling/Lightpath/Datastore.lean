/-!
# Datastores

The configurations that a device keeps side by side, and how an edit is laid over one of them.
-/

namespace Lightpath

/-- A configuration kept by a device. -/
inductive Datastore where
  | running
  | candidate
  | startup
deriving DecidableEq, Repr, Inhabited

/-- The name of the datastore. -/
def Datastore.name : Datastore → String
  | .running => "running"
  | .candidate => "candidate"
  | .startup => "startup"

/-- What becomes of nodes for which an edit names no operation. -/
inductive DefaultOperation where
  | merge
  | replace
  | none
deriving DecidableEq, Repr, Inhabited

/-- The name of the operation. -/
def DefaultOperation.name : DefaultOperation → String
  | .merge => "merge"
  | .replace => "replace"
  | .none => "none"

end Lightpath
