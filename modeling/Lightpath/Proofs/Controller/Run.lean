import Lightpath.Proofs.Controller.Step
import Lightpath.Proofs.Roadm.Remembered
import Lightpath.Sample

/-!
# Runs of the controller

Operations on devices follow each other in any order. Between them whatever the controller does not
decide may become something else: the inventory, the rules that devices are meant to hold, and the
sessions. What is remembered for a device changes by operations on it alone.
-/

namespace Lightpath.Controller

/-- What happens to a controller. -/
inductive Event where
  | operate (device : DeviceId) (operation : Operation)
  | surround (inventory : Inventory) (intents : Table (List FlowRule))
      (netconf : Sessions Netconf.Session) (rest : Sessions Rest.Session)
deriving Inhabited

/-- The controller gets to know the sample node, which answers through a recorder. -/
def Event.sample : Event :=
  .surround (.table (Table.empty.insert Sample.roadm.name Sample.ports)) .empty
    (Table.empty.insert Sample.roadm.name ⟨.recorder {}, true⟩) .empty

/-- The sample node is bound, and a rule is applied to it. -/
def Event.sampleRun (rule : FlowRule) : List Event :=
  [.sample, .operate Sample.roadm (.bind "openroadm"), .operate Sample.roadm (.apply rule)]

/-- An event lets a device have certain ports only, if it says anything about them. -/
def Event.Gives (known : DeviceId → List Port → Prop) : Event → Prop
  | .operate .. => True
  | .surround inventory .. => ∀ d, known d (inventory.portsOf d)

theorem Event.gives_of_forall {known : DeviceId → List Port → Prop}
    (all : ∀ d ports, known d ports) (event : Event) : event.Gives known := by
  cases event with
  | operate => trivial
  | surround inventory => exact fun d => all d _

theorem Event.Gives.mono {known more : DeviceId → List Port → Prop} {event : Event}
    (gives : event.Gives known) (allowed : ∀ d ports, known d ports → more d ports) :
    event.Gives more := by
  cases event with
  | operate => trivial
  | surround inventory => exact fun d => allowed d _ (gives d)

/-- Wherever an event says anything about the ports of a device, it says these. -/
def Event.GivesPorts (d : DeviceId) (ports : List Port) : Event → Prop :=
  Gives fun device given => device = d → given = ports

/-- The controller after an event. -/
def after (c : Controller) : Event → Controller
  | .operate device operation => (c.step device operation).2
  | .surround inventory intents netconf rest => { c with inventory, intents, netconf, rest }

/-- The controller after events, when it starts with a configuration and nothing else. -/
def run (config : Config) (events : List Event) : Controller := events.foldl after { config }

/-- Something holds of the connections remembered for every device. -/
def Remembers (c : Controller) (I : DeviceId → ConnectionCache → Prop) : Prop :=
  ∀ d cache, c.caches.get? d.name = some cache → I d cache

variable {c : Controller} {I : DeviceId → ConnectionCache → Prop} {α : Type}

theorem Remembers.getD (remembers : c.Remembers I) {d : DeviceId} (empty : I d .empty) :
    I d ((c.caches.get? d.name).getD .empty) := by
  cases known : c.caches.get? d.name with
  | none => exact empty
  | some cache => exact remembers d cache known

theorem Remembers.roadmState (remembers : c.Remembers I) {d : DeviceId} (empty : I d .empty) :
    I d (c.roadmState d).connections :=
  remembers.getD empty

/-- Keeping what an operation on a device has changed changes what is remembered for it alone. -/
theorem Remembers.keepRoadm (remembers : c.Remembers I) {d : DeviceId} {state : Roadm.State}
    (holds : I d state.connections) : (c.keepRoadm d state).Remembers I := by
  intro d' cache' found
  rw [Controller.keepRoadm] at found
  dsimp only at found
  cases kept : state.cache with
  | none =>
    rw [kept] at found
    exact remembers d' cache' found
  | some cache =>
    rw [Roadm.State.connections, kept] at holds
    rw [kept] at found
    dsimp only at found
    rw [Table.get?_insert] at found
    split at found
    · next same =>
      obtain rfl : d = d' := congrArg DeviceId.mk same
      obtain rfl : cache = cache' := Option.some.inj found
      exact holds
    · exact remembers d' cache' found

section Step

variable (remembers : c.Remembers I) (d : DeviceId) (empty : I d .empty)
include remembers empty

theorem remembers_runRoadm {action : Roadm.Action α} (keeps : action.Keeps (I d))
    (answer : α → Answer) : (c.runRoadm d action answer).2.Remembers I :=
  remembers.keepRoadm (keeps _ (remembers.roadmState empty))

theorem remembers_onRoadm (action : Roadm → Roadm.Action α)
    (keeps : (action (c.roadm d)).Keeps (I d)) (answer : α → Answer) :
    (c.onRoadm d action answer).2.Remembers I := by
  rw [onRoadm]
  split
  · exact remembers
  · exact remembers_runRoadm remembers d empty keeps answer
  · exact remembers

theorem remembers_onAny (action : Roadm → Roadm.Action α)
    (keeps : (action (c.roadm d)).Keeps (I d)) (other : FiberSwitch → FiberSwitch.Action α)
    (answer : α → Answer) : (c.onAny d action other answer).2.Remembers I := by
  rw [onAny]
  split
  · exact remembers
  · exact remembers_runRoadm remembers d empty keeps answer
  · exact remembers

omit empty in
theorem remembers_onSwitch (action : FiberSwitch → FiberSwitch.Action α) (answer : α → Answer) :
    (c.onSwitch d action answer).2.Remembers I := by
  rw [onSwitch]
  split
  · exact remembers
  · exact remembers
  · exact remembers

omit empty in
theorem remembers_bind (tag : String) : (c.bind d tag).2.Remembers I := by
  rw [bind]
  split
  · exact remembers
  · split
    · exact remembers
    · exact remembers

omit empty in
theorem remembers_forget : Remembers { c with caches := c.caches.erase d.name } I := by
  intro d' cache found
  dsimp only at found
  rw [Table.get?_erase] at found
  split at found
  · cases found
  · exact remembers d' cache found

end Step

/-- An operation keeps what is kept when connections are forgotten and when powers are changed, if
    it keeps it where it applies rules. -/
theorem Remembers.step_of_wanes (remembers : c.Remembers I) (d : DeviceId) (empty : I d .empty)
    (wanes : Roadm.Wanes (c.roadm d) (I d)) (operation : Operation)
    (applies : ∀ rule, operation = .apply rule → ((c.roadm d).apply rule).Keeps (I d))
    (appliesAll : ∀ rules, operation = .applyRules rules →
      ((c.roadm d).applyAll rules).Keeps (I d)) :
    (c.step d operation).2.Remembers I := by
  cases operation with
  | bind tag => exact remembers_bind remembers d tag
  | unbind => exact remembers
  | apply rule => exact remembers_onRoadm remembers d empty _ (applies rule rfl) _
  | release rule => exact remembers_onRoadm remembers d empty _ (Roadm.keeps_release wanes rule) _
  | deleteByName name =>
    exact remembers_onRoadm remembers d empty _ (Roadm.keeps_deleteByName wanes name) _
  | reconcile => exact remembers_onAny remembers d empty _ Roadm.keeps_reconcile _ _
  | flowEntries => exact remembers_onAny remembers d empty _ Roadm.keeps_flowEntries _ _
  | applyRules rules => exact remembers_onAny remembers d empty _ (appliesAll rules rfl) _ _
  | removeRules rules =>
    exact remembers_onAny remembers d empty _ (Roadm.keeps_releaseAll wanes rules) _ _
  | discoverDevice => exact remembers_onAny remembers d empty _ Roadm.keeps_discoverDevice _ _
  | discoverPorts => exact remembers_onAny remembers d empty _ Roadm.keeps_discoverPorts _ _
  | channels port =>
    exact remembers_onAny remembers d empty (fun _ => pure CBand.channels)
      (Roadm.Action.keeps_pure _) _ _
  | targetPower port channel =>
    exact remembers_onRoadm remembers d empty (fun _ => Roadm.targetPower port channel)
      Roadm.leavesCache_targetPower.keeps _
  | setTargetPower port channel dbm =>
    exact remembers_onRoadm remembers d empty _
      (Roadm.keeps_setTargetPower wanes port channel dbm) _
  | powerRanges port =>
    exact remembers_onRoadm remembers d empty
      (fun r => pure (r.targetPowerRange port, r.inputPowerRange port)) (Roadm.Action.keeps_pure _) _
  | connect rule => exact remembers_onSwitch remembers d _ _
  | disconnect rule => exact remembers_onSwitch remembers d _ _
  | readConnections => exact remembers_onSwitch remembers d _ _
  | forget => exact remembers_forget remembers d

/-- An operation keeps what all operations on nodes keep. -/
theorem Remembers.step (remembers : c.Remembers I) (d : DeviceId)
    (kept : Roadm.Kept (c.roadm d) (I d)) (operation : Operation) :
    (c.step d operation).2.Remembers I :=
  remembers.step_of_wanes d kept.empty kept.wanes operation
    (fun rule _ => Roadm.keeps_apply kept rule) fun rules _ => Roadm.keeps_applyAll kept rules

theorem config_after (c : Controller) (event : Event) : (c.after event).config = c.config := by
  cases event with
  | operate d operation => exact (leaves_step c d operation).given_eq.1
  | surround => rfl

/-- Nothing that happens changes the configuration. -/
theorem config_run (config : Config) (events : List Event) : (run config events).config = config := by
  refine List.foldlRecOn (motive := fun c : Controller => c.config = config) events after rfl ?_
  intro c same event _
  rw [config_after, same]

/-- What all operations on nodes keep, as long as devices have certain ports, holds of everything
    remembered after a run in which they have had no others. -/
theorem remembers_run_of_gives {config : Config} (known : DeviceId → List Port → Prop)
    (unknown : ∀ d, known d [])
    (kept : ∀ d ports, known d ports → Roadm.Kept ⟨d, config, ports⟩ (I d)) {events : List Event}
    (given : ∀ event ∈ events, event.Gives known) : (run config events).Remembers I := by
  suffices all : (run config events).config = config ∧
      (∀ d, known d ((run config events).inventory.portsOf d)) ∧
        (run config events).Remembers I from all.2.2
  refine List.foldlRecOn (motive := fun c : Controller =>
      c.config = config ∧ (∀ d, known d (c.inventory.portsOf d)) ∧ c.Remembers I)
    events after ⟨rfl, unknown, fun _ _ found => nomatch found⟩ ?_
  rintro c ⟨rfl, said, remembers⟩ event member
  refine ⟨config_after c event, ?_⟩
  cases event with
  | operate d operation =>
    have same : (c.step d operation).2.inventory = c.inventory :=
      (leaves_step c d operation).given_eq.2.1
    refine ⟨fun device => ?_, remembers.step d (kept d _ (said d)) operation⟩
    exact same ▸ said device
  | surround => exact ⟨given _ member, remembers⟩

/-- What all operations on nodes keep holds of everything remembered after a run. -/
theorem remembers_run {config : Config}
    (kept : ∀ d ports, Roadm.Kept ⟨d, config, ports⟩ (I d)) (events : List Event) :
    (run config events).Remembers I :=
  remembers_run_of_gives (fun _ _ => True) (fun _ => trivial) (fun d ports _ => kept d ports)
    fun event _ => event.gives_of_forall fun _ _ => trivial

end Lightpath.Controller
