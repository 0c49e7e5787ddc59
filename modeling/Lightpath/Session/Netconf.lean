import Lightpath.Document.Printer
import Lightpath.Error
import Lightpath.Datastore

/-!
# Configuration sessions

A session carries requests to a device and its answers back. Two kinds are modelled. A recorder
keeps every request and answers as it was told to; single edits can be made to fail. A rehearsal
prints what would be sent and answers that all went well.
-/

namespace Lightpath.Netconf

/-- What is asked of a device. -/
inductive Request where
  | get (filter : Document)
  | getConfig (datastore : Datastore) (filter : Document)
  | editConfig (datastore : Datastore) (defaultOperation : DefaultOperation) (body : Document)
  | copyConfig (target source : Datastore)
deriving Inhabited

/-- How an edit fails. -/
inductive EditFailure where
  /-- The device answers and refuses. -/
  | rejected
  /-- There is no answer. -/
  | transport
deriving DecidableEq, Repr, Inhabited

/-- A session that keeps what it was asked and answers as told. -/
structure Recorder where
  /-- The requests, the first one first. -/
  requests : List Request := []
  /-- How many edits there were. -/
  edits : Nat := 0
  getReply : Document := .empty
  configReply : Document := .empty
  /-- The edits that fail, counted from one; for one count the first entry holds. -/
  failures : List (Nat × EditFailure) := []
  readsFail : Bool := false
  copyAccepted : Bool := true
deriving Inhabited

/-- A session that prints. -/
structure Rehearsal where
  /-- What has been printed. -/
  printed : String := ""
  /-- Why nothing can be printed. -/
  fault : Option String := none
deriving DecidableEq, Repr, Inhabited

/-- A session with a device. -/
inductive Session where
  | recorder (state : Recorder)
  | rehearsal (state : Rehearsal)
deriving Inhabited

namespace Recorder

/-- Keeps a request. -/
def record (r : Recorder) (request : Request) : Recorder :=
  { r with requests := r.requests ++ [request] }

/-- The failure of an edit by its count. -/
def failure? (r : Recorder) (nth : Nat) : Option EditFailure :=
  (r.failures.find? (·.1 = nth)).map (·.2)

/-- Answers a reading request with a reply. -/
def read (r : Recorder) (request : Request) (operation : String) (reply : Document) :
    Except Error Document × Recorder :=
  let r := r.record request
  if r.readsFail then (.error (.transport operation "injected failure"), r) else (.ok reply, r)

/-- Answers an edit: whether the device takes it. -/
def edit (r : Recorder) (request : Request) : Except Error Bool × Recorder :=
  let r := { r.record request with edits := r.edits + 1 }
  match r.failure? r.edits with
  | none => (.ok true, r)
  | some .rejected => (.ok false, r)
  | some .transport => (.error (.transport "edit-config" "injected failure"), r)

end Recorder

namespace Rehearsal

/-- Prints a heading line and a document below it. -/
def print (r : Rehearsal) (operation heading : String) (doc : Option Document) :
    Except Error Unit × Rehearsal :=
  match r.fault with
  | some fault => (.error (.transport operation fault), r)
  | none =>
    let body := match doc with
      | some doc => doc.pretty ++ "\n"
      | none => ""
    (.ok (), { r with printed := r.printed ++ "# " ++ heading ++ "\n" ++ body })

end Rehearsal

namespace Session

/-- Prints and, if that is possible, gives an answer. -/
def rehearse {α : Type} (r : Rehearsal) (operation heading : String) (doc : Option Document)
    (answer : α) : Except Error α × Session :=
  match r.print operation heading doc with
  | (.ok (), r) => (.ok answer, .rehearsal r)
  | (.error e, r) => (.error e, .rehearsal r)

/-- Reads the state of the device. -/
def get (filter : Document) : Session → Except Error Document × Session
  | .recorder r =>
    let (answer, r) := r.read (.get filter) "get" r.getReply
    (answer, .recorder r)
  | .rehearsal r => rehearse r "get" "get" (some filter) .empty

/-- Reads a datastore. -/
def getConfig (datastore : Datastore) (filter : Document) :
    Session → Except Error Document × Session
  | .recorder r =>
    let (answer, r) := r.read (.getConfig datastore filter) "get-config" r.configReply
    (answer, .recorder r)
  | .rehearsal r =>
    rehearse r "get-config" ("get-config " ++ datastore.name) (some filter) .empty

/-- Edits a datastore; the answer is whether the device takes the edit. -/
def editConfig (datastore : Datastore) (defaultOperation : DefaultOperation) (body : Document) :
    Session → Except Error Bool × Session
  | .recorder r =>
    let (answer, r) := r.edit (.editConfig datastore defaultOperation body)
    (answer, .recorder r)
  | .rehearsal r =>
    rehearse r "edit-config"
      ("edit-config " ++ datastore.name ++ " default-operation=" ++ defaultOperation.name)
      (some body) true

/-- Copies one datastore over another; the answer is whether the device does so. -/
def copyConfig (target source : Datastore) : Session → Except Error Bool × Session
  | .recorder r => (.ok r.copyAccepted, .recorder (r.record (.copyConfig target source)))
  | .rehearsal r =>
    rehearse r "copy-config" ("copy-config " ++ target.name ++ " <- " ++ source.name) none true

end Session

end Lightpath.Netconf
