import Lightpath.Proofs.Controller.Recovery

/-!
# Rules for other devices

A rule says which device it is for. The device that is asked to apply it does not look at that: it
makes the connection on itself, and remembers it with what the rule says. So what is remembered for
a device is marked with the device if the rules last applied to it were. What belongs to any other
device is left alone.
-/

namespace Lightpath

/-- The rule for another device. -/
def FlowRule.addressedTo (rule : FlowRule) (d : DeviceId) : FlowRule := { rule with device := d }

/-- The connection with another device in its mark. -/
def Connection.markedWith (c : Connection) (d : DeviceId) : Connection := { c with device := d }

/-- The documents that make a connection do not tell its mark. -/
theorem creation_markedWith (conn : Connection) (d : DeviceId) :
    CircuitEdit.creation (conn.markedWith d) = CircuitEdit.creation conn := rfl

namespace Roadm

/-- A rule is applied in the same way when it is for another device: the same is sent, and only
    the mark of the connection that is remembered is another one. -/
structure Heedless (r : Roadm) (s : State) (rule : FlowRule) (d : DeviceId) : Prop where
  applied : ∀ conn, ((r.apply rule).run s).1 = .ok conn →
    (r.apply (rule.addressedTo d)).run s =
      (.ok (conn.markedWith d),
        { ((r.apply rule).run s).2 with cache := some (s.connections.add (conn.markedWith d)) })
  refused : ∀ e, ((r.apply rule).run s).1 = .error e →
    ∃ e', (r.apply (rule.addressedTo d)).run s = (.error e', ((r.apply rule).run s).2)

variable {r : Roadm} {rule : FlowRule} {lines : List PortNumber} {xc : CrossConnect}

theorem ofRule_addressedTo_of_ok (checked : CrossConnect.ofRule rule lines = .ok xc)
    (d : DeviceId) :
    CrossConnect.ofRule (rule.addressedTo d) lines =
      .ok { xc with rule := rule.addressedTo d } := by
  obtain ⟨-, sameIn, sameOut, sameChannel, resolved⟩ := CrossConnect.ofRule_eq_ok_iff.1 checked
  exact CrossConnect.ofRule_eq_ok_iff.2 ⟨rfl, sameIn, sameOut, sameChannel, resolved⟩

theorem ofRule_addressedTo_of_error {e : Error} (checked : CrossConnect.ofRule rule lines = .error e)
    (d : DeviceId) : ∃ e', CrossConnect.ofRule (rule.addressedTo d) lines = .error e' := by
  cases again : CrossConnect.ofRule (rule.addressedTo d) lines with
  | error e' => exact ⟨e', rfl⟩
  | ok xc =>
    -- addressed back to its own device, the rule would pass the check that it has failed
    have back := ofRule_addressedTo_of_ok again rule.device
    simp [FlowRule.addressedTo, checked] at back

theorem connection_addressedTo (xc : CrossConnect) (d : DeviceId) :
    r.connection { xc with rule := xc.rule.addressedTo d } =
      (r.connection xc).map (·.markedWith d) := by
  simp only [connection]
  cases r.port xc.inPort with
  | error e => rfl
  | ok p =>
    cases r.port xc.outPort with
    | error e => rfl
    | ok q =>
      simp only [bind, Except.bind, Connection.build]
      cases (Window.around xc.channel.center xc.channel.width).channel with
      | error e => rfl
      | ok window =>
        cases PortLabels.ofPort p with
        | error e => rfl
        | ok source => cases PortLabels.ofPort q <;> rfl

theorem heedless_of_refused {s s' : State} {d : DeviceId} {e e' : Error}
    (here : (r.apply rule).run s = (.error e, s'))
    (there : (r.apply (rule.addressedTo d)).run s = (.error e', s')) : r.Heedless s rule d where
  applied conn ok := by simp [here] at ok
  refused _ _ := ⟨e', by rw [there, here]⟩

/-- What a rule says about its device only shows in the mark of the connection, or in why the rule
    is refused. -/
theorem heedless (r : Roadm) (s : State) (rule : FlowRule) (d : DeviceId) : r.Heedless s rule d := by
  have here := run_apply r s rule
  have there := run_apply r s (rule.addressedTo d)
  cases checked : CrossConnect.ofRule rule r.lineNumbers with
  | error e =>
    obtain ⟨e', again⟩ := ofRule_addressedTo_of_error checked d
    rw [checked] at here
    rw [again] at there
    exact heedless_of_refused here there
  | ok xc =>
    obtain rfl := (CrossConnect.ofRule_eq_ok_iff.1 checked).1
    rw [checked] at here
    rw [ofRule_addressedTo_of_ok checked d] at there
    dsimp only at here there
    by_cases full : r.config.maxConnections.toNat ≤ s.connections.size
    · rw [if_pos full] at here there
      exact heedless_of_refused here there
    rw [if_neg full] at here there
    rw [connection_addressedTo] at there
    cases built : r.connection xc with
    | error e =>
      rw [built] at here there
      exact heedless_of_refused here there
    | ok conn =>
      rw [built] at here there
      dsimp only [Except.map] at here there
      by_cases unreached : s.session.isNone
      · rw [if_pos unreached] at here there
        exact heedless_of_refused here there
      rw [if_neg unreached] at here there
      rw [creation_markedWith] at there
      rcases ended : (r.program (CircuitEdit.creation conn)).run s.opened with ⟨e | _, s'⟩
      · rw [ended] at here there
        exact heedless_of_refused here there
      · have opened := (r.leavesCache_program _).cache_of_run ended
        rw [ended] at here there
        dsimp only at here there
        constructor
        · intro made ok
          rw [here] at ok
          obtain rfl : conn = made := Except.ok.inj ok
          rw [there, here, opened]
          rfl
        · intro e failed
          simp [here] at failed

end Roadm

namespace Controller

/-- All that the controller keeps about a device: what it is bound to, the connections remembered
    for it, and its sessions with all that they have been asked. -/
structure Belongings where
  model : Option DeviceModel
  cache : Option ConnectionCache
  netconf : Option (Line Netconf.Session)
  rest : Option (Line Rest.Session)

/-- What belongs to a device. -/
def belongings (c : Controller) (d : DeviceId) : Belongings :=
  ⟨c.model? d, c.caches.get? d.name, c.netconf.get? d.name, c.rest.get? d.name⟩

/-- An operation on another device. -/
def Event.Elsewhere (d : DeviceId) : Event → Prop
  | .operate device _ => device ≠ d
  | .surround .. => False

/-- How the devices that rules are for show in what is kept about a device, when these are the
    rules that were last applied to it under each name. -/
structure Marks (c : Controller) (d : DeviceId) (last : Table FlowRule) : Prop where
  marked : ∀ name conn, ((c.caches.get? d.name).getD .empty).get? name = some conn →
    ∃ rule, last.get? name = some rule ∧ conn.device = rule.device
  own_iff :
    (∀ name conn, ((c.caches.get? d.name).getD .empty).get? name = some conn → conn.device = d) ↔
      ∀ name rule, ((c.caches.get? d.name).getD .empty).contains name →
        last.get? name = some rule → rule.device = d
  heedless : ∀ state rule other, (c.roadm d).Heedless state rule other
  apart : ∀ events : List Event, (∀ event ∈ events, event.Elsewhere d) →
    (events.foldl after c).belongings d = c.belongings d

variable {c : Controller} {d device : DeviceId}

theorem name_ne_of_ne (other : device ≠ d) : device.name ≠ d.name :=
  fun same => other (congrArg DeviceId.mk same)

theorem get?_put_of_ne {σ : Type} (lines : Sessions σ) (other : device ≠ d) (session : σ) :
    (lines.put device session).get? d.name = lines.get? d.name := by
  rw [Sessions.put, Table.get?_modify, if_neg (name_ne_of_ne other)]

section Frame

variable (other : device ≠ d)
include other

theorem belongings_keepRoadm (state : Roadm.State) :
    (c.keepRoadm device state).belongings d = c.belongings d := by
  have names := name_ne_of_ne other
  obtain ⟨cache, session⟩ := state
  cases cache <;> cases session <;>
    simp [belongings, keepRoadm, model?, Table.get?_insert_of_ne, names, get?_put_of_ne, other]

theorem belongings_keepSwitch (session : Option Rest.Session) :
    (c.keepSwitch device session).belongings d = c.belongings d := by
  cases session <;> simp [belongings, keepSwitch, model?, get?_put_of_ne, other]

/-- An operation changes nothing of what belongs to another device. -/
theorem belongings_step (operation : Operation) :
    (c.step device operation).2.belongings d = c.belongings d := by
  have names := name_ne_of_ne other
  have leaves := leaves_step c device operation
  generalize (c.step device operation).2 = c' at leaves ⊢
  cases leaves with
  | same => rfl
  | bound tag model => simp [belongings, model?, Table.get?_insert_of_ne, names]
  | unbound => simp [belongings, model?, Table.get?_erase_of_ne, names]
  | forgotten => simp [belongings, model?, Table.get?_erase_of_ne, names]
  | node _ state => exact belongings_keepRoadm other state
  | switch _ session => exact belongings_keepSwitch other session

end Frame

theorem belongings_foldl {events : List Event} (elsewhere : ∀ event ∈ events, event.Elsewhere d) :
    (events.foldl after c).belongings d = c.belongings d := by
  refine List.foldlRecOn (motive := fun later : Controller => later.belongings d = c.belongings d)
    events after rfl ?_
  intro later same event member
  have away := elsewhere event member
  cases event with
  | operate device operation => rw [← same]; exact belongings_step away operation
  | surround => exact absurd away id

/-- After every run, a connection that is remembered for a device is marked with the device that
    the rule last applied under its name was for. -/
theorem marks_run (config : Config) (events : List Event) (d : DeviceId) :
    (run config events).Marks d (lastRules config d events) := by
  have marked name conn
      (found : (((run config events).caches.get? d.name).getD .empty).get? name = some conn) :
      ∃ rule, (lastRules config d events).get? name = some rule ∧ conn.device = rule.device := by
    have traced : Roadm.Traced (lastRules config d events)
        (((run config events).caches.get? d.name).getD .empty) :=
      Remembers.getD (tracesTo_lastRules config d events) (fun _ => ConnectionCache.all_empty) rfl
    obtain ⟨rule, last, realizes⟩ := traced name conn found
    exact ⟨rule, last, realizes.device_eq⟩
  refine ⟨marked, ⟨fun own name rule known last => ?_, fun own name conn found => ?_⟩,
    Roadm.heedless _, fun _ elsewhere => belongings_foldl elsewhere⟩
  · obtain ⟨conn, found⟩ := Option.isSome_iff_exists.1 known
    obtain ⟨noted, same, mark⟩ := marked name conn found
    obtain rfl : rule = noted := Option.some.inj (last.symm.trans same)
    rw [← mark]
    exact own name conn found
  · obtain ⟨rule, last, mark⟩ := marked name conn found
    rw [mark]
    exact own name rule (Option.isSome_iff_exists.2 ⟨conn, found⟩) last

/-- A rule for a second node is programmed on the first one, which was asked to apply it, and is
    remembered there. -/
theorem foreign_rule_marked :
    let second : DeviceId := ⟨"netconf:10.0.0.2:830"⟩
    let rule := (Sample.crossConnect ⟨401⟩ ⟨302⟩ 0).addressedTo second
    let name := "NMC-CTP-DEG1-TTP-RX-193.1-to-NMC-CTP-DEG2-TTP-TX-193.1"
    let c := run {} (Event.sampleRun rule)
    ((((c.caches.get? Sample.roadm.name).getD .empty).get? name).map (·.device) = some second ∧
      second ≠ Sample.roadm) ∧
    (c.roadmState Sample.roadm).recorder?.map (·.edits) = some 3 := by
  decide +kernel

end Controller

end Lightpath
