import Lightpath.Document
import Lightpath.Error

/-!
# Resource sessions

A session with a device that is configured through resources at paths. It keeps every request and
answers with the resources that it was given.
-/

namespace Lightpath.Rest

/-- A session that keeps what it was asked and answers as told. -/
structure Session where
  /-- The resources by their paths. -/
  resources : Table Document := .empty
  /-- The paths that were read, the first one first. -/
  gets : List String := []
  /-- The paths that were patched and with what, the first one first. -/
  patches : List (String × Document) := []
  /-- The status that patches are answered with. -/
  patchStatus : Nat := 200
deriving Inhabited

/-- Whether a status says that the request was carried out. -/
def isSuccess (status : Nat) : Bool := 200 ≤ status && status < 300

namespace Session

/-- Reads the resource at a path. -/
def get (path : String) (s : Session) : Except Error Document × Session :=
  let s := { s with gets := s.gets ++ [path] }
  match s.resources.get? path with
  | some body => (.ok body, s)
  | none => (.error (.transport "GET" ("404 " ++ path)), s)

/-- Patches the resource at a path; the answer is a status. -/
def patch (path : String) (body : Document) (s : Session) : Nat × Session :=
  (s.patchStatus, { s with patches := s.patches ++ [(path, body)] })

end Session

end Lightpath.Rest
