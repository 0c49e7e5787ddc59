import Lightpath.Proofs.Roadm.Remembered

/-!
# What a rule asks for

A rule asks for a connection if its ports are known with all their labels, one of them faces a
neighbouring node, and its channel has a window that is supported. What is remembered is what rules
have asked for, powers apart.
-/

namespace Lightpath

theorem CrossConnect.ofRule_eq_ok_iff {rule : FlowRule} {lines : List PortNumber}
    {xc : CrossConnect} :
    ofRule rule lines = .ok xc ↔
      xc.rule = rule ∧ xc.inPort = rule.inPort ∧ some xc.outPort = rule.outPort ∧
        some xc.channel = rule.channel ∧
        LinkType.resolve xc.inPort xc.outPort lines = .ok xc.linkType := by
  obtain ⟨asked, linkType, inPort, outPort, channel⟩ := xc
  rw [ofRule]
  dsimp only
  cases rule.outPort with
  | none => simp
  | some out =>
    cases rule.channel with
    | none => simp
    | some ch =>
      dsimp only
      constructor
      · intro checked
        cases resolved : LinkType.resolve rule.inPort out lines with
        | error e =>
          rw [resolved] at checked
          cases checked
        | ok t =>
          rw [resolved] at checked
          obtain ⟨⟩ := checked
          exact ⟨rfl, rfl, rfl, rfl, resolved⟩
      · rintro ⟨rfl, rfl, sameOut, sameChannel, resolved⟩
        obtain rfl := Option.some.inj sameOut
        obtain rfl := Option.some.inj sameChannel
        rw [resolved]

/-- A connection is what a rule asks for, its power apart. -/
structure Connection.Realizes (c : Connection) (rule : FlowRule) : Prop where
  device_eq : c.device = rule.device
  inPort_eq : c.inPort = rule.inPort
  outPort_eq : some c.outPort = rule.outPort
  channel_eq : some c.channel = rule.channel
  priority_eq : c.priority = rule.priority
  cookie_eq : c.cookie = rule.cookie
  center_eq : c.sourceNetwork.center = c.channel.center
  width_eq : c.sourceNetwork.width = c.channel.width
  supported : ∃ channel, Channel.around c.channel.center c.channel.width = .ok channel

theorem Connection.Realizes.tuned {c : Connection} {rule : FlowRule} (realizes : c.Realizes rule)
    (dbm : Float) : Realizes { c with targetOutputPower := dbm } rule :=
  ⟨realizes.device_eq, realizes.inPort_eq, realizes.outPort_eq, realizes.channel_eq,
    realizes.priority_eq, realizes.cookie_eq, realizes.center_eq, realizes.width_eq,
    realizes.supported⟩

namespace Roadm

/-- A rule is checked and asks for a connection between ports with these labels. -/
structure Asks (r : Roadm) (rule : FlowRule) (xc : CrossConnect)
    (source destination : PortLabels) : Prop where
  checked : CrossConnect.ofRule rule r.lineNumbers = .ok xc
  source_known : ∃ p, Port.find? r.ports xc.inPort = some p ∧ PortLabels.ofPort p = .ok source
  destination_known :
    ∃ p, Port.find? r.ports xc.outPort = some p ∧ PortLabels.ofPort p = .ok destination
  supported : ∃ channel, Channel.around xc.channel.center xc.channel.width = .ok channel

variable {r : Roadm} {rule : FlowRule} {xc : CrossConnect} {conn : Connection}

theorem exists_of_isOk {α : Type} {answer : Except Error α} (given : answer.isOk) :
    ∃ x, answer = .ok x := by
  cases answer with
  | error e => cases given
  | ok x => exact ⟨x, rfl⟩

theorem port_eq_ok_iff {number : PortNumber} {p : Port} :
    r.port number = .ok p ↔ Port.find? r.ports number = some p := by
  rw [port]
  cases Port.find? r.ports number <;> simp

theorem connection_eq_ok_iff :
    r.connection xc = .ok conn ↔
      ∃ p q, r.port xc.inPort = .ok p ∧ r.port xc.outPort = .ok q ∧
        Connection.build xc p q r.config = .ok conn := by
  simp only [connection, Action.bind_eq_ok_iff, exists_and_left]

/-- A rule is planned for by joining the ports that it asks for. -/
theorem planned_eq_ok_iff_asks :
    r.planned rule = .ok conn ↔
      ∃ xc source destination, r.Asks rule xc source destination ∧
        Connection.joining xc r.config source destination = conn := by
  rw [planned_eq_ok_iff]
  constructor
  · rintro ⟨xc, checked, built⟩
    obtain ⟨p, q, foundSource, foundDestination, built⟩ := connection_eq_ok_iff.1 built
    obtain ⟨supported, source, destination, labelsSource, labelsDestination, same⟩ :=
      Connection.build_eq_ok_iff.1 built
    exact ⟨xc, source, destination, ⟨checked, ⟨p, port_eq_ok_iff.1 foundSource, labelsSource⟩,
      ⟨q, port_eq_ok_iff.1 foundDestination, labelsDestination⟩, supported⟩, same⟩
  · rintro ⟨xc, source, destination, ⟨checked, ⟨p, foundSource, labelsSource⟩,
      ⟨q, foundDestination, labelsDestination⟩, supported⟩, same⟩
    refine ⟨xc, checked, connection_eq_ok_iff.2 ⟨p, q, port_eq_ok_iff.2 foundSource,
      port_eq_ok_iff.2 foundDestination, ?_⟩⟩
    exact Connection.build_eq_ok_iff.2
      ⟨supported, source, destination, labelsSource, labelsDestination, same⟩

theorem realizes_of_planned (planned_eq : r.planned rule = .ok conn) : conn.Realizes rule := by
  obtain ⟨xc, source, destination, asks, rfl⟩ := planned_eq_ok_iff_asks.1 planned_eq
  obtain ⟨rfl, inPort_eq, outPort_eq, channel_eq, -⟩ := CrossConnect.ofRule_eq_ok_iff.1 asks.checked
  exact ⟨rfl, inPort_eq, outPort_eq, channel_eq, rfl, rfl, rfl, rfl, asks.supported⟩

/-- A connection that a rule has asked for has a rule again, the channel of which is the one found
    in its window. -/
theorem rebuild_of_realizes (realizes : conn.Realizes rule) :
    ∃ found, Channel.around conn.channel.center conn.channel.width = .ok found ∧
      r.rebuild conn = .ok
        { device := r.device, inPort := conn.inPort, outPort := some conn.outPort
          channel := some found, signalType := some .fixedGrid, priority := conn.priority
          cookie := conn.cookie } := by
  obtain ⟨found, supported⟩ := realizes.supported
  refine ⟨found, supported, ?_⟩
  rw [rebuild, realizes.center_eq, realizes.width_eq, supported]
  rfl

/-- All that is remembered has been asked for by some rule. -/
theorem kept_realized (r : Roadm) :
    Kept r (ConnectionCache.All fun _ c => ∃ rule, c.Realizes rule) :=
  kept_all (fun rule _ planned_eq => ⟨rule, realizes_of_planned planned_eq⟩)
    fun _ _ dbm ⟨rule, realizes⟩ => ⟨rule, realizes.tuned dbm⟩

/-- The rules by the names of their connections, with a further rule. -/
def note (r : Roadm) (rules : Table FlowRule) (rule : FlowRule) : Table FlowRule :=
  match r.planned rule with
  | .ok conn => rules.insert conn.name rule
  | .error _ => rules

/-- Every connection is what the rule of its name asks for. -/
def Traced (rules : Table FlowRule) (cache : ConnectionCache) : Prop :=
  cache.All fun name conn => ∃ rule, rules.get? name = some rule ∧ conn.Realizes rule

/-- A state with connections that rules ask for. It comes after one in which there was no cache if
    there is none. -/
structure Traces (rules : Table FlowRule) (before after : State) : Prop where
  traced : Traced rules after.connections
  unopened : after.cache = none → before.cache = none

variable {rules : Table FlowRule} {cache : ConnectionCache}

/-- Forgetting connections and changing powers changes nothing of what was asked for. -/
theorem wanes_traced (r : Roadm) (rules : Table FlowRule) : Wanes r (Traced rules) where
  erase _ name traced := ConnectionCache.All.erase traced name
  setPower _ name dbm _ traced :=
    ConnectionCache.All.setPower traced
      (fun _ _ ⟨rule, known, realizes⟩ => ⟨rule, known, realizes.tuned dbm⟩) name

theorem Traced.add (traced : Traced rules cache) (planned_eq : r.planned rule = .ok conn) :
    Traced (r.note rules rule) (cache.add conn) := by
  intro name other found
  have noted : r.note rules rule = rules.insert conn.name rule := by rw [note, planned_eq]
  rw [ConnectionCache.get?_add] at found
  rw [noted, Table.get?_insert]
  split at found
  · next same =>
    obtain rfl : conn = other := Option.some.inj found
    rw [if_pos same]
    exact ⟨rule, rfl, realizes_of_planned planned_eq⟩
  · next different =>
    rw [if_neg different]
    exact traced name other found

/-- What is remembered after a rule is applied is asked for by it or by the rules before. -/
theorem traces_apply {s : State} (traced : Traced rules s.connections) (rule : FlowRule) :
    Traces (if ((r.apply rule).run s).1.isOk then r.note rules rule else rules) s
      ((r.apply rule).run s).2 := by
  rw [run_apply]
  cases checked : CrossConnect.ofRule rule r.lineNumbers with
  | error e => exact ⟨traced, id⟩
  | ok xc =>
    dsimp only
    split
    · exact ⟨traced, fun missing => nomatch missing⟩
    · cases built : r.connection xc with
      | error e => exact ⟨traced, fun missing => nomatch missing⟩
      | ok conn =>
        dsimp only
        split
        · exact ⟨traced, fun missing => nomatch missing⟩
        · have planned_eq := (r.planned_eq_ok_iff rule).2 ⟨xc, checked, built⟩
          rcases ended : (r.program (CircuitEdit.creation conn)).run s.opened with ⟨_ | _, s'⟩
          · have opened := (r.leavesCache_program _).cache_of_run ended
            refine ⟨?_, fun missing => nomatch opened.symm.trans missing⟩
            dsimp only [State.connections]
            rw [opened]
            exact traced
          · have opened := (r.leavesCache_program _).cache_of_run ended
            dsimp only
            rw [opened]
            exact ⟨traced.add planned_eq, fun missing => nomatch missing⟩

theorem run_applyAll_cons (s : State) (rule : FlowRule) (asked : List FlowRule) :
    let tried := (r.apply rule).run s
    let rest := (r.applyAll asked).run tried.2
    (r.applyAll (rule :: asked)).run s =
      (rest.1.map fun done => if tried.1.isOk then rule :: done else done, rest.2) := by
  intro tried rest
  have attempted : (tryCatch (do let _ ← r.apply rule; pure true) fun _ => pure false :
      Action Bool).run s = (.ok tried.1.isOk, tried.2) := by
    rw [Action.run_tryCatch, Action.run_bind]
    dsimp only [tried]
    rcases (r.apply rule).run s with ⟨_ | _, _⟩ <;> rfl
  rw [applyAll, Action.run_bind, attempted]
  dsimp only
  rw [Action.run_bind]
  dsimp only [rest]
  rcases (r.applyAll asked).run tried.2 with ⟨_ | _, _⟩ <;> rfl

/-- What is remembered after rules are applied is asked for by those that were, or by the rules
    before. -/
theorem traces_applyAll {s : State} (traced : Traced rules s.connections) (asked : List FlowRule) :
    ∃ done, ((r.applyAll asked).run s).1 = .ok done ∧
      Traces (done.foldl r.note rules) s ((r.applyAll asked).run s).2 := by
  induction asked generalizing rules s with
  | nil => exact ⟨[], rfl, traced, id⟩
  | cons rule asked ih =>
    have first : Traces _ s ((r.apply rule).run s).2 := traces_apply traced rule
    obtain ⟨done, returned, last⟩ := ih first.traced
    rw [run_applyAll_cons]
    refine ⟨if ((r.apply rule).run s).1.isOk then rule :: done else done, ?_, ?_, ?_⟩
    · rw [returned]
      rfl
    · have later := last.traced
      split at later
      · next applied =>
        rw [if_pos applied]
        exact later
      · next refused =>
        rw [if_neg refused]
        exact later
    · exact fun missing => first.unopened (last.unopened missing)

end Roadm

end Lightpath
