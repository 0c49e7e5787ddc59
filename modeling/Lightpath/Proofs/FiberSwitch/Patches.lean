import Lightpath.FiberSwitch
import Lightpath.Proofs.Action

/-!
# What a switch is sent

The patches that an action on a switch sends, and what a switch holds that carries them out. Those
of a reconciliation follow from what it reads and from the rules that are meant to hold; whether
they are accepted makes no difference.
-/

namespace Lightpath

namespace Rest.Session

/-- The session after it has been asked for some more paths and sent some more patches. -/
def hear (session : Session) (gets : List String) (patches : List (String × Document)) : Session :=
  { session with gets := session.gets ++ gets, patches := session.patches ++ patches }

/-- The patches that were sent since the session stood as it did before. -/
def patchesSince (after before : Session) : List (String × Document) :=
  after.patches.drop before.patches.length

variable (session : Session)

@[simp] theorem patchStatus_hear (gets : List String) (patches : List (String × Document)) :
    (session.hear gets patches).patchStatus = session.patchStatus := rfl

theorem hear_nil : session.hear [] [] = session := by
  simp [hear]

theorem hear_hear (gets gets' : List String) (patches patches' : List (String × Document)) :
    (session.hear gets patches).hear gets' patches' =
      session.hear (gets ++ gets') (patches ++ patches') := by
  simp [hear]

@[simp] theorem patchesSince_hear (gets : List String) (patches : List (String × Document)) :
    (session.hear gets patches).patchesSince session = patches := by
  simp [patchesSince, hear]

end Rest.Session

namespace FiberSwitch

/-- The patches that an action sends. -/
def patchesOf {α : Type} (action : Action α) (session : Rest.Session) : List (String × Document) :=
  match (action.run (some session)).2 with
  | some after => after.patchesSince session
  | none => []

/-- The member of a patch that holds what is to be taken out. -/
def removeKey : String := "remove"

/-- What the connections become by a member of a patch: what it holds is taken out if its key is
    `remove`, and else it is set. -/
def patchMember (held : Table Document) (member : String × Document) : Table Document :=
  if member.1 = removeKey then
    match member.2 with
    | .object gone => gone.foldl (fun held e => held.erase e.1) held
    | _ => held
  else held.insert member.1 member.2

/-- What the connections become by a patch that is carried out. -/
def patched (held : Table Document) : Document → Table Document
  | .object members => members.foldl patchMember held
  | _ => held

/-- What the connections become by patches that the switch answers with a status: the patches of
    the connections are carried out if they are accepted. -/
def settled (s : FiberSwitch) (status : Nat) (held : Table Document)
    (sent : List (String × Document)) : Table Document :=
  sent.foldl (fun held request =>
    if request.1 = s.config.connectionsPath ∧ Rest.isSuccess status then patched held request.2
    else held) held

/-- The patch in place of a connection that was read, if it is to be repaired and the rule for that
    can be written. -/
def repairBody? (intents : List FlowRule) (seen : FlowRule) : Option Document :=
  (repair? intents seen).bind fun want => (mapping want).toOption

variable (s : FiberSwitch) (session : Rest.Session)

theorem run_acquire : s.acquire.run (some session) = (.ok (), some session) := rfl

theorem run_patch (label : String) (body : Document) :
    (s.patch label body).run (some session) =
      (if Rest.isSuccess session.patchStatus then .ok ()
        else .error (.transport label ("HTTP " ++ toString session.patchStatus)),
      some (session.hear [] [(s.config.connectionsPath, body)])) := by
  have heard : session.patch s.config.connectionsPath body =
      (session.patchStatus, session.hear [] [(s.config.connectionsPath, body)]) := by
    simp [Rest.Session.patch, Rest.Session.hear]
  unfold patch
  simp only [ExceptT.run, heard]
  cases Rest.isSuccess session.patchStatus <;> rfl

/-- One patch is sent for every connection that is to be repaired, accepted or not. -/
theorem run_repairAll (seen : List FlowRule) :
    (s.repairAll seen).run (some session) =
      (.ok (), some (session.hear []
        ((seen.filterMap (repairBody? s.intents)).map fun body =>
          (s.config.connectionsPath, body)))) := by
  induction seen generalizing session with
  | nil => rw [List.filterMap_nil, List.map_nil, session.hear_nil]; rfl
  | cons rule rest ih =>
    rw [repairAll]
    cases chosen : repair? s.intents rule with
    | none =>
      have nothing : repairBody? s.intents rule = none := by rw [repairBody?, chosen]; rfl
      rw [List.filterMap_cons_none nothing]
      exact ih session
    | some want =>
      dsimp only
      rw [Action.run_bind, Action.run_tryCatch, Action.run_bind, Action.run_lift]
      cases written : mapping want with
      | error e =>
        have nothing : repairBody? s.intents rule = none := by
          rw [repairBody?, chosen, Option.bind_some, written]
          rfl
        rw [List.filterMap_cons_none nothing]
        exact ih session
      | ok body =>
        have repaired : repairBody? s.intents rule = some body := by
          rw [repairBody?, chosen, Option.bind_some, written]
          rfl
        dsimp only
        rw [run_patch, List.filterMap_cons_some repaired, List.map_cons]
        have later := ih (session.hear [] [(s.config.connectionsPath, body)])
        rw [session.hear_hear] at later
        cases Rest.isSuccess session.patchStatus <;> exact later

variable {s session} {members : List (String × Document)}

theorem run_readConnections
    (reads : session.resources.get? s.config.connectionsPath = some (.object members)) :
    s.readConnections.run (some session) =
      (.ok (members.filterMap s.observed?), some (session.hear [s.config.connectionsPath] [])) := by
  have answered : (s.read s.config.connectionsPath).run (some session) =
      (.ok (.object members), some (session.hear [s.config.connectionsPath] [])) := by
    simp [read, ExceptT.run, Rest.Session.get, Rest.Session.hear, reads]
  rw [readConnections, Action.run_bind, run_acquire]
  dsimp only
  rw [Action.run_bind, answered]
  rfl

/-- A reconciliation answers with what it has read and then sends the repairs. -/
theorem run_reconcile
    (reads : session.resources.get? s.config.connectionsPath = some (.object members)) :
    s.reconcile.run (some session) =
      (.ok ((members.filterMap s.observed?).map .added),
        some (session.hear [s.config.connectionsPath]
          (((members.filterMap s.observed?).filterMap (repairBody? s.intents)).map fun body =>
            (s.config.connectionsPath, body)))) := by
  rw [reconcile, Action.run_bind, run_readConnections reads]
  dsimp only
  rw [Action.run_bind, run_repairAll, session.hear_hear]
  rfl

theorem patchesOf_reconcile
    (reads : session.resources.get? s.config.connectionsPath = some (.object members)) :
    patchesOf s.reconcile session =
      ((members.filterMap s.observed?).filterMap (repairBody? s.intents)).map fun body =>
        (s.config.connectionsPath, body) := by
  unfold patchesOf
  rw [run_reconcile reads]
  exact session.patchesSince_hear _ _

/-- Patches that are all accepted are carried out one after the other. -/
theorem settled_of_accepted {status : Nat} (held : Table Document) {bodies : List Document}
    (accepted : ∀ request ∈ bodies.map fun body => (s.config.connectionsPath, body),
      Rest.isSuccess status) :
    s.settled status held (bodies.map fun body => (s.config.connectionsPath, body)) =
      bodies.foldl patched held := by
  induction bodies generalizing held with
  | nil => rfl
  | cons body bodies ih =>
    rw [List.map_cons, List.forall_mem_cons] at accepted
    obtain ⟨first, later⟩ := accepted
    rw [List.map_cons, settled, List.foldl_cons, if_pos ⟨rfl, first⟩]
    exact ih (patched held body) later

end FiberSwitch

end Lightpath
