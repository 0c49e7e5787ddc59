import Lightpath.Controller

/-!
# What an operation changes

An operation on a device leaves the controller as it was or changes what it keeps about that device:
its model, its cache or its session. What the controller is given besides stays as it is.
-/

namespace Lightpath.Controller

/-- The controllers that an operation on a device may leave behind. -/
inductive Leaves (c : Controller) (d : DeviceId) : Operation → Controller → Prop where
  | same (operation : Operation) : c.Leaves d operation c
  | bound (tag : String) (model : DeviceModel) :
      c.Leaves d (.bind tag) { c with bound := c.bound.insert d.name model }
  | unbound : c.Leaves d .unbind { c with bound := c.bound.erase d.name }
  | forgotten : c.Leaves d .forget { c with caches := c.caches.erase d.name }
  | node (operation : Operation) (state : Roadm.State) :
      c.Leaves d operation (c.keepRoadm d state)
  | switch (operation : Operation) (session : Option Rest.Session) :
      c.Leaves d operation (c.keepSwitch d session)

variable (c : Controller) (d : DeviceId) (operation : Operation)

section Dispatch

variable {α : Type} (answer : α → Answer)

theorem leaves_onRoadm (action : Roadm → Roadm.Action α) :
    c.Leaves d operation (c.onRoadm d action answer).2 := by
  rw [onRoadm]
  split
  · exact .same operation
  · exact .node operation _
  · exact .same operation

theorem leaves_onSwitch (action : FiberSwitch → FiberSwitch.Action α) :
    c.Leaves d operation (c.onSwitch d action answer).2 := by
  rw [onSwitch]
  split
  · exact .same operation
  · exact .same operation
  · exact .switch operation _

theorem leaves_onAny (onNode : Roadm → Roadm.Action α)
    (onSwitch : FiberSwitch → FiberSwitch.Action α) :
    c.Leaves d operation (c.onAny d onNode onSwitch answer).2 := by
  rw [onAny]
  split
  · exact .same operation
  · exact .node operation _
  · exact .switch operation _

end Dispatch

theorem leaves_bind (tag : String) : c.Leaves d (.bind tag) (c.bind d tag).2 := by
  rw [bind]
  split
  · exact .same _
  · split
    · exact .bound tag _
    · exact .same _

theorem leaves_step : c.Leaves d operation (c.step d operation).2 := by
  cases operation with
  | bind tag => exact leaves_bind c d tag
  | unbind => exact .unbound
  | forget => exact .forgotten
  | apply | release | deleteByName | targetPower | setTargetPower | powerRanges =>
    exact leaves_onRoadm c d _ _ _
  | reconcile | flowEntries | applyRules | removeRules | discoverDevice | discoverPorts
  | channels => exact leaves_onAny c d _ _ _ _
  | connect | disconnect | readConnections => exact leaves_onSwitch c d _ _ _

variable {c d operation} {c' : Controller}

/-- What the controller is given stays as it is. -/
theorem Leaves.given_eq (leaves : c.Leaves d operation c') :
    c'.config = c.config ∧ c'.inventory = c.inventory ∧ c'.intents = c.intents := by
  cases leaves <;> exact ⟨rfl, rfl, rfl⟩

/-- What devices are bound to changes when one is bound or unbound. -/
theorem Leaves.bound_eq (leaves : c.Leaves d operation c') (keeps : ∀ tag, operation ≠ .bind tag)
    (stays : operation ≠ .unbind) : c'.bound = c.bound := by
  cases leaves with
  | bound tag model => exact absurd rfl (keeps tag)
  | unbound => exact absurd rfl stays
  | same | forgotten | node | switch => rfl

end Lightpath.Controller
