import Lightpath.Proofs.Controller.Address
import Lightpath.Proofs.Roadm.Writes

/-!
# What is written in an operation

An operation on a device writes to that device alone, and what it writes is what nodes write: what
the documents of nodes say, all edits say that are sent in the course of it.
-/

namespace Lightpath.Controller

/-- The edits that an operation on a device sends to some device. -/
def sentBy (c : Controller) (device : DeviceId) (operation : Operation) (d : DeviceId) :
    List Netconf.Exchange :=
  ((c.step device operation).2.roadmState d).exchangesSince (c.roadmState d)

section Hearing

variable {P : Document → Prop} {c : Controller} {d : DeviceId} {rec : Netconf.Recorder} {α : Type}

theorem reach?_put {σ : Type} {lines : Sessions σ} {session session' : σ}
    (reached : lines.reach? d = some session) : (lines.put d session').reach? d = some session' := by
  unfold Sessions.reach? at *
  rw [Sessions.put, Table.get?_modify, if_pos rfl]
  cases known : lines.get? d.name with
  | none =>
    rw [known] at reached
    cases reached
  | some line =>
    rw [known] at reached
    dsimp only [Option.map_some] at reached ⊢
    split at reached
    · next registered => rw [if_pos registered]
    · cases reached

theorem roadmState_of_reach? (reached : c.netconf.reach? d = some (.recorder rec)) :
    c.roadmState d = .through (c.caches.get? d.name) (some rec) := by
  rw [roadmState, reached]
  rfl

/-- Nothing is written while the sessions stay as they are. -/
theorem heard_of_netconf_eq {c' : Controller} (same : c'.netconf = c.netconf)
    (reached : c.netconf.reach? d = some (.recorder rec)) : (c'.roadmState d).Heard P rec := by
  rw [← same] at reached
  exact Roadm.State.heard_of_session_eq reached

section Dispatch

variable (reached : c.netconf.reach? d = some (.recorder rec))

include reached

theorem heard_runRoadm {action : Roadm.Action α} (writes : action.Writes P)
    (answer : α → Answer) : ((c.runRoadm d action answer).2.roadmState d).Heard P rec := by
  obtain ⟨cache, requests, ended, written⟩ := writes (c.caches.get? d.name) rec
  rw [← roadmState_of_reach? reached] at ended
  have left : (c.runRoadm d action answer).2 = c.keepRoadm d (action.run (c.roadmState d)).2 := rfl
  have met : (c.runRoadm d action answer).2.netconf.reach? d =
      some (.recorder (rec.hear requests)) := by
    rw [left, ended]
    exact reach?_put reached
  exact ⟨_, requests, roadmState_of_reach? met, written⟩

theorem heard_onRoadm {f : Roadm → Roadm.Action α} (writes : (f (c.roadm d)).Writes P)
    (answer : α → Answer) : ((c.onRoadm d f answer).2.roadmState d).Heard P rec := by
  rw [onRoadm]
  split
  · exact heard_of_netconf_eq rfl reached
  · exact heard_runRoadm reached writes answer
  · exact heard_of_netconf_eq rfl reached

theorem heard_onAny {f : Roadm → Roadm.Action α} (writes : (f (c.roadm d)).Writes P)
    (other : FiberSwitch → FiberSwitch.Action α) (answer : α → Answer) :
    ((c.onAny d f other answer).2.roadmState d).Heard P rec := by
  rw [onAny]
  split
  · exact heard_of_netconf_eq rfl reached
  · exact heard_runRoadm reached writes answer
  · exact heard_of_netconf_eq rfl reached

theorem heard_onSwitch (action : FiberSwitch → FiberSwitch.Action α) (answer : α → Answer) :
    ((c.onSwitch d action answer).2.roadmState d).Heard P rec := by
  rw [onSwitch]
  split <;> exact heard_of_netconf_eq rfl reached

theorem heard_bind (tag : String) : ((c.bind d tag).2.roadmState d).Heard P rec := by
  rw [bind]
  split
  · exact heard_of_netconf_eq rfl reached
  · split <;> exact heard_of_netconf_eq rfl reached

/-- What an operation writes to its device is permitted. -/
theorem heard_step (permits : (c.roadm d).Permits P) (operation : Operation) :
    ((c.step d operation).2.roadmState d).Heard P rec := by
  cases operation with
  | bind tag => exact heard_bind reached tag
  | unbind | forget => exact heard_of_netconf_eq rfl reached
  | apply rule => exact heard_onRoadm reached (Roadm.writes_apply permits rule) _
  | release rule => exact heard_onRoadm reached (Roadm.writes_release permits rule) _
  | deleteByName name => exact heard_onRoadm reached (Roadm.writes_deleteByName permits name) _
  | reconcile => exact heard_onAny reached (Roadm.writes_reconcile permits) _ _
  | flowEntries => exact heard_onAny reached (Roadm.writes_flowEntries permits) _ _
  | applyRules rules => exact heard_onAny reached (Roadm.writes_applyAll permits rules) _ _
  | removeRules rules => exact heard_onAny reached (Roadm.writes_releaseAll permits rules) _ _
  | discoverDevice => exact heard_onAny reached (Roadm.writes_discoverDevice _) _ _
  | discoverPorts => exact heard_onAny reached (Roadm.writes_discoverPorts _) _ _
  | channels port =>
    exact heard_onAny (f := fun _ => pure CBand.channels) reached
      (Roadm.Action.writes_pure _) _ _
  | targetPower port channel =>
    exact heard_onRoadm reached (Roadm.Action.writes_of_session_eq fun _ => rfl) _
  | setTargetPower port channel dbm =>
    exact heard_onRoadm reached (Roadm.writes_setTargetPower permits port channel dbm) _
  | powerRanges port =>
    exact heard_onRoadm (f := fun r => pure (r.targetPowerRange port, r.inputPowerRange port))
      reached (Roadm.Action.writes_pure _) _
  | connect rule => exact heard_onSwitch reached _ _
  | disconnect rule => exact heard_onSwitch reached _ _
  | readConnections => exact heard_onSwitch reached _ _

end Dispatch

theorem sentBy_of_ne {device : DeviceId} (other : device ≠ d) (operation : Operation) :
    c.sentBy device operation d = [] := by
  have kept : (c.step device operation).2.netconf.get? d.name = c.netconf.get? d.name :=
    congrArg Belongings.netconf (belongings_step other operation)
  refine Roadm.State.exchangesSince_of_session_eq ?_
  change (c.step device operation).2.netconf.reach? d = c.netconf.reach? d
  rw [Sessions.reach?, Sessions.reach?, kept]

/-- What an operation writes to any device is permitted. -/
theorem permitted_sentBy {device : DeviceId} (permits : (c.roadm device).Permits P)
    (operation : Operation) (d : DeviceId) :
    ∀ e ∈ c.sentBy device operation d, ∀ body ∈ e.request.body?, P body := by
  intro e sent
  by_cases same : device = d
  · subst same
    rw [sentBy] at sent
    cases recorded : (c.roadmState device).recorder? with
    | none =>
      rw [Roadm.State.exchangesSince_of_unrecorded recorded] at sent
      exact absurd sent List.not_mem_nil
    | some rec =>
      have reached := Roadm.State.session_of_recorder? recorded
      rw [roadmState_of_reach? reached] at sent
      exact (heard_step reached permits operation).exchangesSince _ e sent
  · rw [sentBy_of_ne same] at sent
    exact absurd sent List.not_mem_nil

end Hearing

end Lightpath.Controller
