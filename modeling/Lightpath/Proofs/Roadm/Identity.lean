import Lightpath.Proofs.Circuit.Naming
import Lightpath.Proofs.Roadm.Planned
import Lightpath.Proofs.Roadm.Run
import Lightpath.Proofs.Roadm.Sequence
import Mathlib.Data.List.Pairwise

/-!
# The circuit that a name stands for

The name of a connection tells its ports and its center, and nothing else: rules that differ in the
width of the channel alone have connections of one name. As long as the inventory of a node stays as
it is, the connections that are remembered are told by their names too, and those of other ports or
of another center are left alone when a rule is applied or released.
-/

namespace Lightpath

/-- Two ports have different labels, if both have one. -/
def Port.LabelsDiffer (p q : Port) : Prop :=
  p.connectionPoint? = q.connectionPoint? → p.connectionPoint? = none

instance : DecidableRel Port.LabelsDiffer := fun p q =>
  inferInstanceAs (Decidable (p.connectionPoint? = q.connectionPoint? → p.connectionPoint? = none))

instance : Std.Symm Port.LabelsDiffer where
  symm _ _ differ same := same.trans (differ same.symm)

/-- The ports have different labels, which can be told apart within a name. -/
structure Port.LabelsApart (ports : List Port) : Prop where
  different : ports.Pairwise LabelsDiffer
  plain : ∀ p ∈ ports, ∀ label ∈ p.connectionPoint?, CircuitName.Plain label

instance (ports : List Port) : Decidable (Port.LabelsApart ports) :=
  decidable_of_iff (ports.Pairwise Port.LabelsDiffer ∧
      ∀ p ∈ ports, ∀ label ∈ p.connectionPoint?, CircuitName.Plain label)
    ⟨fun ⟨different, plain⟩ => ⟨different, plain⟩, fun apart => ⟨apart.different, apart.plain⟩⟩

/-- Two rules ask for circuits between the same ports and around the same center. -/
def FlowRule.SameCircuit (a b : FlowRule) : Prop :=
  a.inPort = b.inPort ∧ a.outPort = b.outPort ∧
    a.channel.map Channel.center = b.channel.map Channel.center

/-- A rule asks for the circuit of a connection: its ports, and a channel around its center. -/
def Connection.IsCircuitOf (c : Connection) (rule : FlowRule) : Prop :=
  c.inPort = rule.inPort ∧ some c.outPort = rule.outPort ∧
    some c.channel.center = rule.channel.map Channel.center

theorem Connection.Realizes.isCircuitOf_iff {c : Connection} {rule other : FlowRule}
    (realizes : c.Realizes rule) : c.IsCircuitOf other ↔ other.SameCircuit rule := by
  rw [IsCircuitOf, FlowRule.SameCircuit, ← realizes.inPort_eq, ← realizes.outPort_eq,
    ← realizes.channel_eq, Option.map_some]
  exact and_congr eq_comm (and_congr eq_comm eq_comm)

theorem CircuitEdit.device_inj {key key' : String} {body body' : Document}
    (same : device key body = device key' body') : key = key' ∧ body = body' := by
  simpa [device] using same

theorem Port.number_of_find? {ports : List Port} {number : PortNumber} {p : Port}
    (found : find? ports number = some p) : p.number = number := by
  simpa using List.find?_some found

/-- Ports of one label are the same. -/
theorem Port.eq_of_label {ports : List Port} (different : ports.Pairwise LabelsDiffer) {p q : Port}
    (member : p ∈ ports) (member' : q ∈ ports) {label : String}
    (labelled : p.connectionPoint? = some label) (labelled' : q.connectionPoint? = some label) :
    p = q := by
  by_contra other
  have missing := different.forall member member' other (labelled.trans labelled'.symm)
  rw [labelled] at missing
  cases missing

theorem PortLabels.ofPort_eq_ok_iff {p : Port} {labels : PortLabels} :
    ofPort p = .ok labels ↔
      require p Port.connectionPointKey = .ok labels.label ∧
        require p Port.circuitPackKey = .ok labels.circuitPack ∧
        require p Port.nameKey = .ok labels.name := by
  simp only [ofPort, Action.bind_eq_ok_iff, Action.pure_eq_ok_iff]
  constructor
  · rintro ⟨label, foundLabel, circuitPack, foundPack, name, foundName, rfl⟩
    exact ⟨foundLabel, foundPack, foundName⟩
  · rintro ⟨foundLabel, foundPack, foundName⟩
    exact ⟨_, foundLabel, _, foundPack, _, foundName, rfl⟩

theorem PortLabels.connectionPoint?_of_ofPort {p : Port} {labels : PortLabels}
    (known : ofPort p = .ok labels) : p.connectionPoint? = some labels.label := by
  have required := (ofPort_eq_ok_iff.1 known).1
  rw [require] at required
  rw [Port.connectionPoint?]
  cases found : p.annotation? Port.connectionPointKey with
  | none =>
    rw [found] at required
    cases required
  | some label =>
    rw [found] at required
    exact congrArg some (Except.ok.inj required)

theorem Connection.name_joining (xc : CrossConnect) (config : Config)
    (source destination : PortLabels) :
    (joining xc config source destination).name =
      CircuitName.connection
        (CircuitName.network source.label xc.channel.center (xc.linkType.isLineSide .source))
        (CircuitName.network destination.label xc.channel.center
          (xc.linkType.isLineSide .destination)) := by
  have shaped : (joining xc config source destination).Shaped := shaped_joining source destination
  have sourceLine := shaped.media_isSome .source
  have destinationLine := shaped.media_isSome .destination
  rw [shaped.name_eq]
  change CircuitName.connection (CircuitName.network source.label xc.channel.center
    ((joining xc config source destination).media .source).isSome)
    (CircuitName.network destination.label xc.channel.center
      ((joining xc config source destination).media .destination).isSome) = _
  rw [sourceLine, destinationLine]
  rfl

namespace Roadm

variable {r : Roadm} {rule rule' : FlowRule} {conn conn' : Connection}

/-- Rules for one circuit have connections of one name. -/
theorem name_eq_of_sameCircuit (planned_eq : r.planned rule = .ok conn)
    (planned_eq' : r.planned rule' = .ok conn') (same : rule.SameCircuit rule') :
    conn.name = conn'.name := by
  obtain ⟨xc, source, destination, asks, rfl⟩ := planned_eq_ok_iff_asks.1 planned_eq
  obtain ⟨xc', source', destination', asks', rfl⟩ := planned_eq_ok_iff_asks.1 planned_eq'
  obtain ⟨-, inPort, outPort, channel, resolved⟩ := CrossConnect.ofRule_eq_ok_iff.1 asks.checked
  obtain ⟨-, inPort', outPort', channel', resolved'⟩ := CrossConnect.ofRule_eq_ok_iff.1 asks'.checked
  obtain ⟨sameIn, sameOut, sameCenter⟩ := same
  rw [← inPort, ← inPort'] at sameIn
  rw [← outPort, ← outPort', Option.some.injEq] at sameOut
  rw [← channel, ← channel', Option.map_some, Option.map_some, Option.some.injEq] at sameCenter
  have sameType : xc.linkType = xc'.linkType := by
    rw [sameIn, sameOut, resolved'] at resolved
    exact (Except.ok.inj resolved).symm
  have sameSource : source = source' := by
    obtain ⟨p, found, labels⟩ := asks.source_known
    obtain ⟨p', found', labels'⟩ := asks'.source_known
    rw [sameIn, found', Option.some.injEq] at found
    rw [← found, labels'] at labels
    exact (Except.ok.inj labels).symm
  have sameDestination : destination = destination' := by
    obtain ⟨p, found, labels⟩ := asks.destination_known
    obtain ⟨p', found', labels'⟩ := asks'.destination_known
    rw [sameOut, found', Option.some.injEq] at found
    rw [← found, labels'] at labels
    exact (Except.ok.inj labels).symm
  rw [Connection.name_joining, Connection.name_joining, sameType, sameSource, sameDestination,
    sameCenter]

section Known

variable {ports : List Port} {number number' : PortNumber} {labels labels' : PortLabels}

theorem plain_of_known (apart : Port.LabelsApart ports)
    (known : ∃ p, Port.find? ports number = some p ∧ PortLabels.ofPort p = .ok labels) :
    CircuitName.Plain labels.label := by
  obtain ⟨p, found, given⟩ := known
  exact apart.plain p (List.mem_of_find?_eq_some found) _
    (PortLabels.connectionPoint?_of_ofPort given)

theorem number_eq_of_known (different : ports.Pairwise Port.LabelsDiffer)
    (known : ∃ p, Port.find? ports number = some p ∧ PortLabels.ofPort p = .ok labels)
    (known' : ∃ p, Port.find? ports number' = some p ∧ PortLabels.ofPort p = .ok labels')
    (same : labels.label = labels'.label) : number = number' := by
  obtain ⟨p, found, given⟩ := known
  obtain ⟨p', found', given'⟩ := known'
  have labelled := PortLabels.connectionPoint?_of_ofPort given
  have labelled' := PortLabels.connectionPoint?_of_ofPort given'
  obtain rfl : p = p' := Port.eq_of_label different (List.mem_of_find?_eq_some found)
    (List.mem_of_find?_eq_some found') labelled (same ▸ labelled')
  exact (Port.number_of_find? found).symm.trans (Port.number_of_find? found')

end Known

/-- Connections of one name are asked for by rules for one circuit. -/
theorem sameCircuit_of_name_eq (apart : Port.LabelsApart r.ports)
    (planned_eq : r.planned rule = .ok conn) (planned_eq' : r.planned rule' = .ok conn')
    (same : conn.name = conn'.name) : rule.SameCircuit rule' := by
  obtain ⟨xc, source, destination, asks, rfl⟩ := planned_eq_ok_iff_asks.1 planned_eq
  obtain ⟨xc', source', destination', asks', rfl⟩ := planned_eq_ok_iff_asks.1 planned_eq'
  rw [Connection.name_joining, Connection.name_joining] at same
  obtain ⟨sameSource, sameDestination, sameCenter⟩ := CircuitName.connection_network_inj
    (plain_of_known apart asks.source_known) (plain_of_known apart asks'.source_known)
    (plain_of_known apart asks.destination_known) (plain_of_known apart asks'.destination_known) same
  have sameIn :=
    number_eq_of_known apart.different asks.source_known asks'.source_known sameSource
  have sameOut :=
    number_eq_of_known apart.different asks.destination_known asks'.destination_known sameDestination
  obtain ⟨-, inPort, outPort, channel, -⟩ := CrossConnect.ofRule_eq_ok_iff.1 asks.checked
  obtain ⟨-, inPort', outPort', channel', -⟩ := CrossConnect.ofRule_eq_ok_iff.1 asks'.checked
  refine ⟨?_, ?_, ?_⟩
  · rw [← inPort, ← inPort', sameIn]
  · rw [← outPort, ← outPort', sameOut]
  · rw [← channel, ← channel', Option.map_some, Option.map_some, sameCenter]

/-- An operation for one connection leaves another one alone: what is remembered under its name
    stays, and no edit takes it from the device. -/
structure Spares (r : Roadm) (name : String) (before after : State) : Prop where
  remembered : after.connections.get? name = before.connections.get? name
  not_deleted : ∀ e ∈ after.exchangesSince before,
    e.request ≠ Netconf.stepRequest r.config.datastore (CircuitEdit.deletion name)

theorem Declined.spares {α : Type} {before : State} {ended : Except Error α × State}
    (declined : Declined before ended) (name : String) : r.Spares name before ended.2 := by
  refine ⟨by rw [declined.connections_eq], fun e member => ?_⟩
  rw [State.exchangesSince_of_session_eq declined.session_eq] at member
  exact absurd member List.not_mem_nil

theorem request_of_follows {plan : List Netconf.Request} {answer : Except Error Connection}
    {sent : List Netconf.Exchange} (follows : Follows plan conn answer sent) {e : Netconf.Exchange}
    (member : e ∈ sent) : e.request ∈ plan :=
  follows.followsPlan.isPrefix.subset (List.mem_map_of_mem member)

theorem not_mem_creationPlan (datastore : Datastore) (conn : Connection) (name : String) :
    Netconf.stepRequest datastore (CircuitEdit.deletion name) ∉ creationPlan datastore conn := by
  intro planned
  simp only [creationPlan, List.map_cons, List.map_nil, List.mem_cons, List.not_mem_nil, or_false,
    Netconf.stepRequest, Netconf.Request.editConfig.injEq, true_and] at planned
  rcases planned with medias | networks | connection
  · exact absurd (CircuitEdit.device_inj medias).1 (by decide)
  · exact absurd (CircuitEdit.device_inj networks).1 (by decide)
  · -- only the deletion begins with an operation
    have members := Document.object.inj (CircuitEdit.device_inj connection).2
    have keys : CircuitEdit.operationKey = CircuitEdit.connectionNameKey :=
      congrArg Prod.fst (List.cons.inj members).1
    exact absurd keys (by decide)

theorem mem_withdrawalPlan {datastore : Datastore} {name : String}
    (planned : Netconf.stepRequest datastore (CircuitEdit.deletion name) ∈
      withdrawalPlan datastore conn) : conn.name = name := by
  simp only [withdrawalPlan, List.map_cons, List.map_nil, List.mem_cons, List.not_mem_nil, or_false,
    Netconf.stepRequest, Netconf.Request.editConfig.injEq, true_and] at planned
  rcases planned with deletion | networks | medias
  · have members := Document.object.inj (CircuitEdit.device_inj deletion).2
    have leaves := (List.cons.inj (List.cons.inj members).2).1
    exact (Document.text.inj (congrArg Prod.snd leaves)).symm
  · exact absurd (CircuitEdit.device_inj networks).1 (by decide)
  · exact absurd (CircuitEdit.device_inj medias).1 (by decide)

section Other

variable {cache : Option ConnectionCache} {session : Option Netconf.Recorder} {name : String}

/-- Applying a rule spares the connections that it does not ask for. -/
theorem spares_apply (other : ∀ conn, r.planned rule = .ok conn → conn.name ≠ name) :
    r.Spares name (.through cache session) ((r.apply rule).run (.through cache session)).2 := by
  have applies : r.Applies (.through cache session) rule
      ((r.apply rule).run (.through cache session)) := applies_apply
  by_cases able : ∃ made, r.Admits (.through cache session) rule made
  · obtain ⟨made, admits⟩ := able
    constructor
    · rw [applies.remembered made admits]
      split
      · exact Table.get?_insert_of_ne _ _ (other made admits.planned_eq)
      · rfl
    · intro e member same
      have planned := request_of_follows (applies.follows made admits) member
      exact not_mem_creationPlan _ made name (same ▸ planned)
  · exact (applies.declined (not_exists.1 able)).1.spares name

/-- Releasing a rule spares the connections that it does not ask for. -/
theorem spares_release (sound : (cache.getD .empty).Sound)
    (other : ∀ conn, r.planned rule = .ok conn → conn.name ≠ name) :
    r.Spares name (.through cache session) ((r.release rule).run (.through cache session)).2 := by
  have releases : r.Releases (.through cache session) rule
      ((r.release rule).run (.through cache session)) := releases_release sound
  by_cases able : ∃ gone, r.Finds (.through cache session) rule gone
  · obtain ⟨gone, finds⟩ := able
    obtain ⟨built, planned, found⟩ := finds.remembered
    have named : gone.name ≠ name := (sound _ gone found).1 ▸ other built planned
    constructor
    · rw [releases.remembered gone finds]
      split
      · exact Table.get?_erase_of_ne _ named
      · rfl
    · intro e member same
      have planned := request_of_follows (releases.follows gone finds) member
      exact named (mem_withdrawalPlan (same ▸ planned))
  · exact (releases.declined (not_exists.1 able)).1.spares name

end Other

/-- All that is remembered has been asked for by rules of the node, and is remembered under the
    names that they have. -/
def Named (r : Roadm) : ConnectionCache → Prop :=
  ConnectionCache.All fun name live =>
    ∃ rule conn, r.planned rule = .ok conn ∧ conn.name = name ∧ live.Realizes rule

theorem not_planned_of_no_ports {d : DeviceId} {config : Config} (rule : FlowRule)
    (conn : Connection) : planned ⟨d, config, []⟩ rule ≠ .ok conn := by
  intro planned_eq
  obtain ⟨xc, source, destination, asks, -⟩ := planned_eq_ok_iff_asks.1 planned_eq
  obtain ⟨p, found, -⟩ := asks.source_known
  cases found

/-- A node without ports remembers nothing else than the node does. -/
theorem kept_named {ports : List Port} (same : ports = [] ∨ ports = r.ports) :
    Kept ⟨r.device, r.config, ports⟩ r.Named := by
  refine kept_all (fun rule conn planned_eq => ?_) ?_
  · rcases same with rfl | rfl
    · exact absurd planned_eq (not_planned_of_no_ports rule conn)
    · exact ⟨rule, conn, planned_eq, rfl, realizes_of_planned planned_eq⟩
  · rintro name live dbm ⟨rule, conn, planned_eq, named, realizes⟩
    exact ⟨rule, conn, planned_eq, named, realizes.tuned dbm⟩

/-- As long as the inventory says the same about a node, what it remembers has the names that rules
    for the node have. -/
theorem named_run (config : Config) (events : List Controller.Event) (d : DeviceId) :
    let c := Controller.run config events
    (∀ event ∈ events, event.GivesPorts d (c.roadm d).ports) →
      (c.roadm d).Named ((c.caches.get? d.name).getD .empty) := by
  intro c given
  have config_eq : c.config = config := Controller.config_run config events
  have kept {ports : List Port} (same : ports = [] ∨ ports = (c.roadm d).ports) :
      Kept ⟨d, config, ports⟩ (c.roadm d).Named := config_eq ▸ kept_named same
  have remembers : c.Remembers fun device cache => device = d → (c.roadm d).Named cache := by
    refine Controller.remembers_run_of_gives
      (fun device ports => device = d → ports = [] ∨ ports = (c.roadm d).ports)
      (fun _ _ => .inl rfl) (fun device ports said => .imp fun here => ?_)
      fun event member => (given event member).mono fun _ _ said here => .inr (said here)
    exact here ▸ kept (said here)
  exact remembers.getD (fun _ => ConnectionCache.all_empty) rfl

/-- Whatever has happened to the controller, and whatever the node answers: on a node the labels of
    which can be told apart, two rules have connections of one name exactly if they ask for the
    same ports and the same center. As long as its inventory has stayed as it is, a rule has the name
    of a connection that is remembered exactly if it asks for its circuit, and else neither applying
    nor releasing it touches that connection. -/
theorem names_tell_circuits (config : Config) (events : List Controller.Event) (d : DeviceId)
    (session : Option Netconf.Recorder) :
    let c := Controller.run config events
    let r := c.roadm d
    let before := State.through (c.caches.get? d.name) session
    Port.LabelsApart r.ports →
      (∀ rule rule' conn conn', r.planned rule = .ok conn → r.planned rule' = .ok conn' →
        (conn.name = conn'.name ↔ rule.SameCircuit rule')) ∧
      ((∀ event ∈ events, event.GivesPorts d r.ports) →
        ∀ name live, before.connections.get? name = some live → ∀ rule,
          (∀ conn, r.planned rule = .ok conn → (conn.name = name ↔ live.IsCircuitOf rule)) ∧
            (¬ live.IsCircuitOf rule →
              r.Spares name before ((r.apply rule).run before).2 ∧
                r.Spares name before ((r.release rule).run before).2)) := by
  intro c r before apart
  have names (rule rule' : FlowRule) (conn conn' : Connection)
      (planned_eq : r.planned rule = .ok conn) (planned_eq' : r.planned rule' = .ok conn') :
      conn.name = conn'.name ↔ rule.SameCircuit rule' :=
    ⟨sameCircuit_of_name_eq apart planned_eq planned_eq',
      name_eq_of_sameCircuit planned_eq planned_eq'⟩
  refine ⟨names, fun given name live found rule => ?_⟩
  obtain ⟨asked, made, made_eq, rfl, realizes⟩ := named_run config events d given name live found
  have told (conn : Connection) (planned_eq : r.planned rule = .ok conn) :
      conn.name = made.name ↔ live.IsCircuitOf rule :=
    (names rule asked conn made planned_eq made_eq).trans realizes.isCircuitOf_iff.symm
  refine ⟨told, fun different => ?_⟩
  have other (conn : Connection) (planned_eq : r.planned rule = .ok conn) :
      conn.name ≠ made.name := fun same => different ((told conn planned_eq).1 same)
  have sound : ((c.caches.get? d.name).getD .empty).Sound :=
    (Controller.remembers_run (fun d ports => kept_sound ⟨d, config, ports⟩) events).getD
      ConnectionCache.all_empty
  exact ⟨spares_apply other, spares_release sound other⟩

/-- Whatever rule is applied to the sample node, the node is known as before. -/
theorem roadm_sampleRun (rule : FlowRule) :
    (Controller.run {} (Controller.Event.sampleRun rule)).roadm Sample.roadm = sample := by
  let start : Controller := Controller.after {} .sample
  let bound := (start.step Sample.roadm (.bind "openroadm")).2
  have given := (Controller.leaves_step start Sample.roadm (.bind "openroadm")).given_eq
  have given' := (Controller.leaves_step bound Sample.roadm (.apply rule)).given_eq
  change Controller.roadm (bound.step Sample.roadm (.apply rule)).2 Sample.roadm = sample
  rw [Controller.roadm, given'.1, given'.2.1, given.1, given.2.1]
  rfl

theorem givesPorts_sampleRun (rule : FlowRule) :
    ∀ event ∈ Controller.Event.sampleRun rule, event.GivesPorts Sample.roadm Sample.ports := by
  refine List.forall_mem_cons.2 ⟨?_, List.forall_mem_cons.2 ⟨trivial, List.forall_mem_cons.2
    ⟨trivial, List.forall_mem_nil _⟩⟩⟩
  rintro device rfl
  rfl

theorem remembered_sampleRun :
    let c := Controller.run {} (Controller.Event.sampleRun (Sample.crossConnect ⟨401⟩ ⟨302⟩ 0))
    let before := State.through (c.caches.get? Sample.roadm.name) (some {})
    (before.connections.get? "NMC-CTP-DEG1-TTP-RX-193.1-to-NMC-CTP-DEG2-TTP-TX-193.1").map
      (·.outPort.value.toNat) = some 302 := by
  decide +kernel

/-- A circuit is live, and a rule for another destination is applied or released. -/
theorem names_tell_circuits_of_two_destinations :
    let first := Sample.crossConnect ⟨401⟩ ⟨302⟩ 0
    let second := Sample.crossConnect ⟨401⟩ ⟨303⟩ 0
    let events := Controller.Event.sampleRun first
    let c := Controller.run {} events
    let before := State.through (c.caches.get? Sample.roadm.name) (some {})
    let name := "NMC-CTP-DEG1-TTP-RX-193.1-to-NMC-CTP-DEG2-TTP-TX-193.1"
    c.roadm Sample.roadm = sample ∧ Port.LabelsApart sample.ports ∧
      (∀ event ∈ events, event.GivesPorts Sample.roadm sample.ports) ∧
      (∃ conn, sample.planned second = .ok conn ∧ conn.name ≠ name) ∧
      ∃ live, before.connections.get? name = some live ∧ ¬ live.IsCircuitOf second ∧
        sample.Spares name before ((sample.apply second).run before).2 ∧
          sample.Spares name before ((sample.release second).run before).2 := by
  -- without its abbreviations, or the states behind them are carried out to be compared
  dsimp only
  have tells := names_tell_circuits {}
    (Controller.Event.sampleRun (Sample.crossConnect ⟨401⟩ ⟨302⟩ 0)) Sample.roadm (some {})
  dsimp only at tells
  rw [roadm_sampleRun] at tells
  have apart : Port.LabelsApart sample.ports := by decide +kernel
  have given := givesPorts_sampleRun (Sample.crossConnect ⟨401⟩ ⟨302⟩ 0)
  have possible : (sample.planned (Sample.crossConnect ⟨401⟩ ⟨303⟩ 0)).isOk := by decide +kernel
  obtain ⟨conn, planned_eq⟩ := exists_of_isOk possible
  obtain ⟨live, found, out⟩ := Option.map_eq_some_iff.1 remembered_sampleRun
  have different : ¬ live.IsCircuitOf (Sample.crossConnect ⟨401⟩ ⟨303⟩ 0) := by
    rintro ⟨-, same, -⟩
    rw [Option.some.inj same] at out
    exact absurd out (by decide)
  obtain ⟨told, spares⟩ := (tells apart).2 given _ live found (Sample.crossConnect ⟨401⟩ ⟨303⟩ 0)
  exact ⟨roadm_sampleRun _, apart, given,
    ⟨conn, planned_eq, fun same => different ((told conn planned_eq).1 same)⟩, live, found,
    different, spares different⟩

/-- Two channels of different widths around one center: their connections have one name, and the
    second takes the place of the first among what is remembered. -/
theorem one_name_for_two_widths :
    let narrow := Sample.crossConnect ⟨401⟩ ⟨302⟩ 0
    let wide := { narrow with channel := some (.dwdm .ghz100 0) }
    Port.LabelsApart sample.ports ∧ (sample.ports.map (·.number)).Nodup ∧
      narrow.channel.map Channel.width ≠ wide.channel.map Channel.width ∧
        (∃ conn conn', sample.planned narrow = .ok conn ∧ sample.planned wide = .ok conn' ∧
          conn.name = conn'.name) ∧
        (Standing.run sample [.sample (.apply narrow) {}, .sample (.apply wide) {}]).connections.values.map
          (·.channel) = wide.channel.toList := by
  intro narrow wide
  obtain ⟨conn, planned_eq⟩ : ∃ conn, sample.planned narrow = .ok conn :=
    exists_of_isOk (by decide +kernel)
  obtain ⟨conn', planned_eq'⟩ : ∃ conn, sample.planned wide = .ok conn :=
    exists_of_isOk (by decide +kernel)
  have same : narrow.SameCircuit wide := ⟨rfl, rfl, by decide⟩
  refine ⟨by decide +kernel, by decide, by decide, ?_, by decide +kernel⟩
  exact ⟨conn, conn', planned_eq, planned_eq', name_eq_of_sameCircuit planned_eq planned_eq' same⟩

end Roadm

end Lightpath
