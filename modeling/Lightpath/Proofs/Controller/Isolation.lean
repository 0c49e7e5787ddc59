import Lightpath.Proofs.Controller.Address

/-!
# Operations on other devices

An operation on a device depends on what belongs to the device and on what the controller is given,
and on nothing else. So what a device goes through in a run, and what is kept about it in the end,
stays the same when all operations on other devices are left out.
-/

namespace Lightpath.Controller

instance (d : DeviceId) (event : Event) : Decidable (event.Elsewhere d) :=
  match event with
  | .operate device _ => inferInstanceAs (Decidable (device ≠ d))
  | .surround .. => .isFalse id

/-- The events of a run without the operations on other devices. -/
def Event.own (d : DeviceId) (events : List Event) : List Event :=
  events.filter fun event => ¬ event.Elsewhere d

/-- What each operation on a device answers, and what belongs to the device after it. -/
def account (c : Controller) (d : DeviceId) : List Event → List (Except Refusal Answer × Belongings)
  | [] => []
  | event :: events =>
    match event with
    | .operate device operation =>
      if device = d then
        ((c.step device operation).1, (c.step device operation).2.belongings d) ::
          (c.after event).account d events
      else (c.after event).account d events
    | .surround .. => (c.after event).account d events

/-- Two controllers are the same as far as operations on a device can see. -/
structure Alike (d : DeviceId) (c c' : Controller) : Prop where
  config_eq : c.config = c'.config
  ports_eq : c.inventory.portsOf d = c'.inventory.portsOf d
  intents_eq : c.intentsOf d = c'.intentsOf d
  belongings_eq : c.belongings d = c'.belongings d

/-- Two operations have answered the same and left the same as far as the device can see. -/
structure EndAlike (d : DeviceId) (x y : Except Refusal Answer × Controller) : Prop where
  answer_eq : x.1 = y.1
  alike : x.2.Alike d y.2

variable {d : DeviceId} {c c' c'' : Controller}

theorem account_append (c : Controller) (d : DeviceId) (events later : List Event) :
    c.account d (events ++ later) = c.account d events ++ (events.foldl after c).account d later := by
  induction events generalizing c with
  | nil => rfl
  | cons event events ih =>
    rw [List.cons_append, List.foldl_cons]
    cases event with
    | operate device operation =>
      simp only [account, ih]
      split
      · rw [List.cons_append]
      · rfl
    | surround => exact ih _

theorem Alike.refl (d : DeviceId) (c : Controller) : c.Alike d c := ⟨rfl, rfl, rfl, rfl⟩

theorem Alike.trans (first : c.Alike d c') (second : c'.Alike d c'') : c.Alike d c'' :=
  ⟨first.config_eq.trans second.config_eq, first.ports_eq.trans second.ports_eq,
    first.intents_eq.trans second.intents_eq, first.belongings_eq.trans second.belongings_eq⟩

namespace Alike

variable (alike : c.Alike d c')
include alike

theorem model?_eq : c.model? d = c'.model? d := congrArg Belongings.model alike.belongings_eq

theorem bound_eq : c.bound.get? d.name = c'.bound.get? d.name := alike.model?_eq

theorem cache_eq : c.caches.get? d.name = c'.caches.get? d.name :=
  congrArg Belongings.cache alike.belongings_eq

theorem netconf_eq : c.netconf.get? d.name = c'.netconf.get? d.name :=
  congrArg Belongings.netconf alike.belongings_eq

theorem rest_eq : c.rest.get? d.name = c'.rest.get? d.name :=
  congrArg Belongings.rest alike.belongings_eq

theorem roadm_eq : c.roadm d = c'.roadm d := by
  rw [roadm, roadm, alike.config_eq, alike.ports_eq]

theorem fiberSwitch_eq : c.fiberSwitch d = c'.fiberSwitch d := by
  rw [fiberSwitch, fiberSwitch, alike.config_eq, alike.intents_eq]

theorem roadmState_eq : c.roadmState d = c'.roadmState d := by
  rw [roadmState, roadmState, Sessions.reach?, Sessions.reach?, alike.cache_eq, alike.netconf_eq]

theorem reach_rest_eq : c.rest.reach? d = c'.rest.reach? d := by
  rw [Sessions.reach?, Sessions.reach?, alike.rest_eq]

theorem keepRoadm (state : Roadm.State) : (c.keepRoadm d state).Alike d (c'.keepRoadm d state) := by
  refine ⟨alike.config_eq, alike.ports_eq, alike.intents_eq, ?_⟩
  obtain ⟨cache, session⟩ := state
  cases cache <;> cases session <;>
    simp [belongings, Controller.keepRoadm, model?, Sessions.put, Table.get?_modify,
      alike.bound_eq, alike.cache_eq, alike.netconf_eq, alike.rest_eq]

theorem keepSwitch (session : Option Rest.Session) :
    (c.keepSwitch d session).Alike d (c'.keepSwitch d session) := by
  refine ⟨alike.config_eq, alike.ports_eq, alike.intents_eq, ?_⟩
  cases session <;>
    simp [belongings, Controller.keepSwitch, model?, Sessions.put, Table.get?_modify,
      alike.bound_eq, alike.cache_eq, alike.netconf_eq, alike.rest_eq]

section Dispatch

variable {α : Type} (answer : α → Answer)

theorem runRoadm (action : Roadm.Action α) :
    EndAlike d (c.runRoadm d action answer) (c'.runRoadm d action answer) := by
  rw [Controller.runRoadm, Controller.runRoadm, alike.roadmState_eq]
  exact ⟨rfl, alike.keepRoadm _⟩

theorem runSwitch (action : FiberSwitch.Action α) :
    EndAlike d (c.runSwitch d action answer) (c'.runSwitch d action answer) := by
  rw [Controller.runSwitch, Controller.runSwitch, alike.reach_rest_eq]
  exact ⟨rfl, alike.keepSwitch _⟩

theorem onRoadm (action : Roadm → Roadm.Action α) :
    EndAlike d (c.onRoadm d action answer) (c'.onRoadm d action answer) := by
  rw [Controller.onRoadm, Controller.onRoadm, alike.model?_eq, alike.roadm_eq]
  split
  · exact ⟨rfl, alike⟩
  · exact alike.runRoadm answer _
  · exact ⟨rfl, alike⟩

theorem onSwitch (action : FiberSwitch → FiberSwitch.Action α) :
    EndAlike d (c.onSwitch d action answer) (c'.onSwitch d action answer) := by
  rw [Controller.onSwitch, Controller.onSwitch, alike.model?_eq, alike.fiberSwitch_eq]
  split
  · exact ⟨rfl, alike⟩
  · exact ⟨rfl, alike⟩
  · exact alike.runSwitch answer _

theorem onAny (onNode : Roadm → Roadm.Action α) (onSwitch : FiberSwitch → FiberSwitch.Action α) :
    EndAlike d (c.onAny d onNode onSwitch answer) (c'.onAny d onNode onSwitch answer) := by
  rw [Controller.onAny, Controller.onAny, alike.model?_eq, alike.roadm_eq, alike.fiberSwitch_eq]
  split
  · exact ⟨rfl, alike⟩
  · exact alike.runRoadm answer _
  · exact alike.runSwitch answer _

end Dispatch

theorem bind (tag : String) : EndAlike d (c.bind d tag) (c'.bind d tag) := by
  rw [Controller.bind, Controller.bind, alike.model?_eq]
  split
  · exact ⟨rfl, alike⟩
  · split
    · refine ⟨rfl, alike.config_eq, alike.ports_eq, alike.intents_eq, ?_⟩
      simp [belongings, model?, alike.cache_eq, alike.netconf_eq, alike.rest_eq]
    · exact ⟨rfl, alike⟩

/-- An operation on the device answers the same and leaves the same. -/
theorem step (operation : Operation) : EndAlike d (c.step d operation) (c'.step d operation) := by
  cases operation with
  | bind tag => exact alike.bind tag
  | unbind =>
    refine ⟨by rw [Controller.step, Controller.step, alike.model?_eq], alike.config_eq,
      alike.ports_eq, alike.intents_eq, ?_⟩
    simp [Controller.step, belongings, model?, alike.cache_eq, alike.netconf_eq, alike.rest_eq]
  | forget =>
    refine ⟨?_, alike.config_eq, alike.ports_eq, alike.intents_eq, ?_⟩
    · rw [Controller.step, Controller.step, Table.contains, Table.contains, alike.cache_eq]
    · simp [Controller.step, belongings, model?, alike.bound_eq, alike.netconf_eq, alike.rest_eq]
  | apply | release | deleteByName | targetPower | setTargetPower | powerRanges =>
    rw [Controller.step, Controller.step]
    exact alike.onRoadm _ _
  | reconcile | flowEntries | applyRules | removeRules | discoverDevice | discoverPorts
  | channels =>
    rw [Controller.step, Controller.step]
    exact alike.onAny _ _ _
  | connect | disconnect | readConnections =>
    rw [Controller.step, Controller.step]
    exact alike.onSwitch _ _

theorem surround (inventory : Inventory) (intents : Table (List FlowRule))
    (netconf : Sessions Netconf.Session) (rest : Sessions Rest.Session) :
    (c.after (.surround inventory intents netconf rest)).Alike d
      (c'.after (.surround inventory intents netconf rest)) := by
  refine ⟨alike.config_eq, rfl, rfl, ?_⟩
  simp [Controller.after, belongings, model?, alike.bound_eq, alike.cache_eq]

end Alike

/-- An operation on another device cannot be seen. -/
theorem alike_step_of_ne {device : DeviceId} (other : device ≠ d) (c : Controller)
    (operation : Operation) : c.Alike d (c.step device operation).2 := by
  obtain ⟨config_eq, inventory_eq, intents_eq⟩ := (leaves_step c device operation).given_eq
  refine ⟨config_eq.symm, by rw [inventory_eq], ?_, (belongings_step other operation).symm⟩
  rw [intentsOf, intentsOf, intents_eq]

/-- Controllers that are alike to a device stay so, and account for it in the same way, when one of
    them goes without the operations on other devices. -/
theorem Alike.own (alike : c.Alike d c') (events : List Event) :
    c.account d (Event.own d events) = c'.account d events ∧
      ((Event.own d events).foldl after c).Alike d (events.foldl after c') := by
  induction events generalizing c c' with
  | nil => exact ⟨rfl, alike⟩
  | cons event events ih =>
    cases event with
    | operate device operation =>
      by_cases here : device = d
      · subst here
        obtain ⟨answer_eq, alike'⟩ := alike.step operation
        obtain ⟨accounts, ends⟩ := ih alike'
        have kept : Event.own device (.operate device operation :: events) =
            .operate device operation :: Event.own device events :=
          List.filter_cons_of_pos (by simp [Event.Elsewhere])
        rw [kept]
        refine ⟨?_, ends⟩
        simp only [account, if_true, after]
        rw [answer_eq, alike'.belongings_eq, accounts]
      · -- only the run with all events takes this step
        have left : Event.own d (.operate device operation :: events) = Event.own d events :=
          List.filter_cons_of_neg (by simpa [Event.Elsewhere] using here)
        rw [left, account, if_neg here]
        exact ih (alike.trans (alike_step_of_ne here c' operation))
    | surround inventory intents netconf rest =>
      exact ih (alike.surround inventory intents netconf rest)

/-- Whatever has happened before: without the operations on other devices, every operation on a
    device answers the same, and the device's model, its cache and all that its sessions have been
    asked are the same after it and in the end. -/
theorem isolated_run (c : Controller) (d : DeviceId) (events : List Event) :
    c.account d (Event.own d events) = c.account d events ∧
      ((Event.own d events).foldl after c).belongings d = (events.foldl after c).belongings d :=
  ⟨((Alike.refl d c).own events).1, ((Alike.refl d c).own events).2.belongings_eq⟩

end Lightpath.Controller
