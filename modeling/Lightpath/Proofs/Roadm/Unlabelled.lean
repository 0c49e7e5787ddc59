import Lightpath.Proofs.Channel.Width
import Lightpath.Proofs.Roadm.Discovery
import Lightpath.Proofs.Roadm.Roles

/-!
# Ports without a label

A port that a node lists without the label of the interfaces on it is read as a port whose label is
empty, and is never found wanting. A rule is turned away for its ports only if neither is on a line.
Else a port without a label serves as one with a label does, and the channels on it get names
without a label, the same ones for all such ports.
-/

namespace Lightpath

/-- Whether the ports of a rule are at fault: one lacks what names are made from, or neither is on a
    line. -/
def Error.blamesPorts : Error → Bool
  | portMetadata .. => true
  | invalidTopology .. => true
  | _ => false

/-- Carrying steps out fails for the device or on the way to it. -/
theorem Netconf.Recorder.transport_of_verdict {rec : Recorder} {count : Nat}
    {steps : List CircuitEdit.Step} {e : Error} (failed : rec.verdict count steps = .error e) :
    ∃ operation message, e = .transport operation message := by
  induction steps generalizing count with
  | nil => cases failed
  | cons step steps ih =>
    rw [verdict] at failed
    split at failed
    · exact ih failed
    · cases failed
      exact ⟨_, _, rfl⟩
    · cases failed
      exact ⟨_, _, rfl⟩

namespace Roadm

/-- A node with the ports that are read off an answer. -/
abbrev discovered (device : DeviceId) (config : Config) (reply : Document) : Roadm :=
  ⟨device, config, readPorts reply⟩

/-- The node of the port with a number has no label. -/
def Unlabelled (reply : Document) (number : PortNumber) : Prop :=
  ∃ entry ∈ portNode? reply number, labelLeaf? entry.2 = none

instance (reply : Document) (number : PortNumber) : Decidable (Unlabelled reply number) :=
  inferInstanceAs (Decidable (∃ entry ∈ portNode? reply number, labelLeaf? entry.2 = none))

/-- A rule is refused for its ports, before anything is sent. -/
structure TurnedAway {α : Type} (before : State) (ended : Except Error α × State) : Prop where
  failed : ∃ e, ended.1 = .error e ∧ e.blamesPorts
  session_eq : ended.2.session = before.session

/-- A rule says all that it has to, its ports are known, one of them is on a line, and its channel is
    supported. Labels are not asked for. -/
structure Suits (r : Roadm) (rule : FlowRule) (out : PortNumber) (channel : Channel) : Prop where
  outPort_eq : rule.outPort = some out
  channel_eq : rule.channel = some channel
  onLine : rule.inPort ∈ r.lineNumbers ∨ out ∈ r.lineNumbers
  source_known : (Port.find? r.ports rule.inPort).isSome
  destination_known : (Port.find? r.ports out).isSome
  supported : ∃ found, Channel.around channel.center channel.width = .ok found

/-- The names at a side of a connection have no label in them. -/
structure NamelessAt (conn : Connection) (side : Side) : Prop where
  network_eq : (conn.network side).name =
    CircuitName.network "" conn.channel.center (conn.linkType.isLineSide side)
  media_eq : ∀ m ∈ conn.media side, m.name = CircuitName.media "" conn.channel.center

theorem resolve_eq_error_iff {inPort out : PortNumber} {lines : List PortNumber} {e : Error} :
    LinkType.resolve inPort out lines = .error e ↔
      inPort ∉ lines ∧ out ∉ lines ∧ e = .invalidTopology inPort out := by
  rw [← List.contains_iff_mem, ← List.contains_iff_mem]
  unfold LinkType.resolve
  cases lines.contains inPort <;> cases lines.contains out <;> simp [eq_comm]

theorem exists_resolve_iff {inPort out : PortNumber} {lines : List PortNumber} :
    (∃ linkType, LinkType.resolve inPort out lines = .ok linkType) ↔
      inPort ∈ lines ∨ out ∈ lines := by
  rw [← List.contains_iff_mem, ← List.contains_iff_mem]
  unfold LinkType.resolve
  cases lines.contains inPort <;> cases lines.contains out <;> simp

/-- A rule is refused for its ports when it is checked if neither of them is on a line. -/
theorem ofRule_blamesPorts_iff {rule : FlowRule} {lines : List PortNumber} :
    (∃ e, CrossConnect.ofRule rule lines = .error e ∧ e.blamesPorts) ↔
      ∃ out channel, rule.outPort = some out ∧ rule.channel = some channel ∧
        rule.inPort ∉ lines ∧ out ∉ lines := by
  unfold CrossConnect.ofRule
  cases rule.outPort with
  | none => simp [Error.blamesPorts]
  | some out =>
    cases rule.channel with
    | none => simp [Error.blamesPorts]
    | some channel =>
      cases resolved : LinkType.resolve rule.inPort out lines with
      | error e =>
        obtain ⟨inside, outside, rfl⟩ := resolve_eq_error_iff.1 resolved
        simp [resolved, inside, outside, Error.blamesPorts]
      | ok linkType =>
        have faces := exists_resolve_iff.1 ⟨linkType, resolved⟩
        simp only [resolved, reduceCtorEq, false_and, exists_false, Option.some.injEq, false_iff]
        rintro ⟨_, _, rfl, -, inside, outside⟩
        exact faces.elim inside outside

section Discovered

variable {device : DeviceId} {config : Config} {reply : Document} {rule : FlowRule}
variable {xc : CrossConnect} {conn : Connection}

/-- No port that is read is found wanting. -/
theorem not_blamesPorts_of_connection {e : Error}
    (failed : (discovered device config reply).connection xc = .error e) :
    e.blamesPorts = false := by
  have unknown {number : PortNumber} {e : Error}
      (missing : (discovered device config reply).port number = .error e) :
      e.blamesPorts = false := by
    rw [port] at missing
    split at missing <;> cases missing
    rfl
  have labelled {number : PortNumber} {p : Port} {e : Error}
      (found : (discovered device config reply).port number = .ok p) :
      PortLabels.ofPort p ≠ .error e := by
    obtain ⟨_, _, _, -, known⟩ := ofPort_of_find? (port_eq_ok_iff.1 found)
    intro bare
    rw [known] at bare
    cases bare
  rw [connection] at failed
  rcases Action.bind_eq_error_iff.1 failed with missing | ⟨source, found, failed⟩
  · exact unknown missing
  rcases Action.bind_eq_error_iff.1 failed with missing | ⟨destination, found', failed⟩
  · exact unknown missing
  rw [Connection.build] at failed
  rcases Action.bind_eq_error_iff.1 failed with wide | ⟨channel, fits, failed⟩
  · obtain ⟨reported, rfl⟩ := Channel.unsupported_of_around wide
    rfl
  rcases Action.bind_eq_error_iff.1 failed with bare | ⟨labels, known, failed⟩
  · exact absurd bare (labelled found)
  rcases Action.bind_eq_error_iff.1 failed with bare | ⟨labels', known', failed⟩
  · exact absurd bare (labelled found')
  · cases failed

/-- On a node whose ports are read, a rule that suits has a connection planned. -/
theorem exists_planned_iff :
    (∃ conn, (discovered device config reply).planned rule = .ok conn) ↔
      ∃ out channel, Suits (discovered device config reply) rule out channel := by
  constructor
  · rintro ⟨conn, planned_eq⟩
    obtain ⟨xc, source, destination, asks, -⟩ := planned_eq_ok_iff_asks.1 planned_eq
    obtain ⟨-, inPort_eq, outPort_eq, channel_eq, resolved⟩ :=
      CrossConnect.ofRule_eq_ok_iff.1 asks.checked
    obtain ⟨p, found, -⟩ := asks.source_known
    obtain ⟨q, found', -⟩ := asks.destination_known
    rw [inPort_eq] at resolved found
    exact ⟨xc.outPort, xc.channel, outPort_eq.symm, channel_eq.symm,
      exists_resolve_iff.1 ⟨_, resolved⟩, Option.isSome_iff_exists.2 ⟨p, found⟩,
      Option.isSome_iff_exists.2 ⟨q, found'⟩, asks.supported⟩
  · rintro ⟨out, channel, suits⟩
    obtain ⟨linkType, resolved⟩ := exists_resolve_iff.2 suits.onLine
    obtain ⟨p, found⟩ := Option.isSome_iff_exists.1 suits.source_known
    obtain ⟨q, found'⟩ := Option.isSome_iff_exists.1 suits.destination_known
    obtain ⟨_, _, _, -, known⟩ := ofPort_of_find? found
    obtain ⟨_, _, _, -, known'⟩ := ofPort_of_find? found'
    have checked : CrossConnect.ofRule rule _ = .ok ⟨rule, linkType, rule.inPort, out, channel⟩ :=
      CrossConnect.ofRule_eq_ok_iff.2
        ⟨rfl, rfl, suits.outPort_eq.symm, suits.channel_eq.symm, resolved⟩
    exact ⟨_, planned_eq_ok_iff_asks.2 ⟨_, _, _,
      ⟨checked, ⟨p, found, known⟩, ⟨q, found', known'⟩, suits.supported⟩, rfl⟩⟩

/-- Once a connection is planned, nothing fails for the ports. -/
theorem not_blamesPorts_of_planned {r : Roadm} {cache : Option ConnectionCache}
    {session : Option Netconf.Recorder} {e : Error} (planned_eq : r.planned rule = .ok conn)
    (failed : ((r.apply rule).run (.through cache session)).1 = .error e) :
    e.blamesPorts = false := by
  obtain ⟨xc, checked, -⟩ := (r.planned_eq_ok_iff rule).1 planned_eq
  by_cases full : r.config.maxConnections.toNat ≤ (State.through cache session).connections.size
  · rw [run_apply_of_full checked full] at failed
    cases failed
    rfl
  have room := Nat.lt_of_not_le full
  cases session with
  | none =>
    rw [run_apply_of_unreached planned_eq room rfl] at failed
    cases failed
    rfl
  | some rec =>
    rw [r.run_apply_of_admits ⟨planned_eq, room, rfl⟩] at failed
    cases ended : rec.verdict rec.edits (CircuitEdit.creation conn) with
    | ok done =>
      rw [ended] at failed
      cases failed
    | error e' =>
      obtain ⟨operation, message, rfl⟩ := Netconf.Recorder.transport_of_verdict ended
      rw [ended] at failed
      cases failed
      rfl

/-- A rule that is refused for its ports is refused when it is checked. -/
theorem refused_of_blamesPorts {cache : Option ConnectionCache}
    {session : Option Netconf.Recorder} {e : Error}
    (failed : (((discovered device config reply).apply rule).run
      (.through cache session)).1 = .error e) (blames : e.blamesPorts) :
    CrossConnect.ofRule rule (discovered device config reply).lineNumbers = .error e := by
  cases checked : CrossConnect.ofRule rule _ with
  | error e' =>
    rw [run_apply, checked] at failed
    cases failed
    rfl
  | ok xc =>
    -- all later causes are others
    refine absurd blames (Bool.eq_false_iff.1 ?_)
    cases built : (discovered device config reply).connection xc with
    | error e' =>
      rw [run_apply, checked] at failed
      dsimp only at failed
      split at failed
      · cases failed
        rfl
      · rw [built] at failed
        cases failed
        exact not_blamesPorts_of_connection built
    | ok conn =>
      exact not_blamesPorts_of_planned ((planned_eq_ok_iff _ rule).2 ⟨xc, checked, built⟩) failed

/-- Channels on a port without a label have names without one. -/
theorem namelessAt_of_planned
    (planned_eq : (discovered device config reply).planned rule = .ok conn) {side : Side}
    (bare : Unlabelled reply (conn.port side)) : NamelessAt conn side := by
  obtain ⟨p, labels, found, known, laid, -⟩ := laidOn_of_planned planned_eq side
  obtain ⟨pack, node, name, read, known'⟩ := ofPort_of_find? found
  obtain ⟨entry, read', missing⟩ := bare
  obtain rfl : (pack, node) = entry := Option.some.inj (read.symm.trans read')
  obtain rfl := Except.ok.inj (known.symm.trans known')
  obtain ⟨xc, checked, built⟩ := (planned_eq_ok_iff _ rule).1 planned_eq
  have shaped : conn.Shaped := shaped_connection built
  dsimp only at missing
  rw [missing] at laid
  constructor
  · rw [← shaped.media_isSome]
    exact laid.name_network
  · exact laid.name_media

end Discovered

/-- A rule that can be applied is not refused: the first edit is sent. -/
theorem declined_apply_iff (r : Roadm) (cache : Option ConnectionCache)
    (session : Option Netconf.Recorder) (rule : FlowRule) :
    Declined (.through cache session) ((r.apply rule).run (.through cache session)) ↔
      ∀ conn, ¬ r.Admits (.through cache session) rule conn := by
  constructor
  · intro declined conn admits
    cases session with
    | none => exact absurd admits.reached Bool.false_ne_true
    | some rec =>
      have same := declined.session_eq
      rw [r.run_apply_of_admits admits] at same
      have heard := congrArg Netconf.Recorder.requests
        (Netconf.Session.recorder.inj (Option.some.inj same))
      -- the device was asked for more than nothing
      simp [Netconf.Recorder.hear, CircuitEdit.creation, Netconf.Recorder.attempt] at heard
  · exact r.declined_apply _ rule

/-- Whatever a node tells about its circuit packs, whatever is decided and remembered, and whatever
    rule is applied: the rule is turned away for its ports exactly if it names two ports that are not
    on a line, with and without labels; it is refused before anything is sent exactly if it does not
    suit, there is no room or no session; and where a connection is made, the names at a port without
    a label have no label. -/
theorem turned_away_iff (device : DeviceId) (config : Config) (reply : Document) (rule : FlowRule)
    (cache : Option ConnectionCache) (session : Option Netconf.Recorder) :
    let r := discovered device config reply
    let s := State.through cache session
    let ended := (r.apply rule).run s
    (TurnedAway s ended ↔
      ∃ out channel, rule.outPort = some out ∧ rule.channel = some channel ∧
        rule.inPort ∉ r.lineNumbers ∧ out ∉ r.lineNumbers) ∧
    (Declined s ended ↔
      ¬ ((∃ out channel, r.Suits rule out channel) ∧
        s.connections.size < config.maxConnections.toNat ∧ s.session.isSome)) ∧
    ∀ conn, ended.1 = .ok conn → ∀ side, Unlabelled reply (conn.port side) →
      NamelessAt conn side := by
  intro r s ended
  refine ⟨?_, ?_, ?_⟩
  · rw [← ofRule_blamesPorts_iff]
    constructor
    · rintro ⟨⟨e, failed, blames⟩, quiet⟩
      exact ⟨e, refused_of_blamesPorts failed blames, blames⟩
    · rintro ⟨e, refused, blames⟩
      have run : ended = (.error e, s) := by
        change (r.apply rule).run s = _
        rw [run_apply, refused]
      rw [run]
      exact ⟨⟨e, rfl, blames⟩, rfl⟩
  · change Declined s ((r.apply rule).run s) ↔ _
    rw [declined_apply_iff, ← exists_planned_iff, ← not_exists, not_iff_not]
    constructor
    · rintro ⟨conn, planned_eq, room, reached⟩
      exact ⟨⟨conn, planned_eq⟩, room, reached⟩
    · rintro ⟨⟨conn, planned_eq⟩, room, reached⟩
      exact ⟨conn, planned_eq, room, reached⟩
  · intro conn applied side bare
    exact namelessAt_of_planned (r.planned_of_apply s rule applied) bare

/-- What a node tells that has two ports for clients without labels, and one port on a line. -/
def unlabelledClients : Document :=
  let external (name : String) : List (String × Document) :=
    [("port-name", .text name), ("port-qual", .text "roadm-external")]
  Sample.reply (.object [(CircuitEdit.circuitPacksKey, .list
    [.object [("circuit-pack-name", .text "4/0"),
      ("ports", .list [.object (external "1-1"), .object (external "1-2")])],
    .object [("circuit-pack-name", .text "2/0"),
      ("ports", .list [.object
        (("logical-connection-point", .text "DEG2-TTP-TX") :: external "ext-tx2")])]])])

/-- Channels are added at both ports without labels: the interfaces of the one are those of the
    other, and their names have no label. -/
theorem nameless_client_ports :
    let r := discovered Sample.roadm {} unlabelledClients
    let s := State.through none (some {})
    Unlabelled unlabelledClients ⟨101⟩ ∧ Unlabelled unlabelledClients ⟨102⟩ ∧
      ∃ conn conn', ((r.apply (Sample.crossConnect ⟨101⟩ ⟨302⟩ 0)).run s).1 = .ok conn ∧
        ((r.apply (Sample.crossConnect ⟨102⟩ ⟨302⟩ 0)).run s).1 = .ok conn' ∧
          conn.sourceNetwork.name = "-193.1" ∧ conn'.interfaces = conn.interfaces := by
  intro r s
  have made (client : PortNumber) (either : client = ⟨101⟩ ∨ client = ⟨102⟩) :
      ∃ conn, ((r.apply (Sample.crossConnect client ⟨302⟩ 0)).run s).1 = .ok conn ∧
        conn.interfaces = ["-193.1", "NMC-CTP-DEG2-TTP-TX-193.1", "MC-TTP-DEG2-TTP-TX-193.1"] := by
    obtain ⟨conn, applied⟩ :
        ∃ conn, ((r.apply (Sample.crossConnect client ⟨302⟩ 0)).run s).1 = .ok conn :=
      exists_of_isOk (by rcases either with rfl | rfl <;> decide +kernel)
    have told : (r.planned (Sample.crossConnect client ⟨302⟩ 0)).toOption.map Connection.interfaces =
        some ["-193.1", "NMC-CTP-DEG2-TTP-TX-193.1", "MC-TTP-DEG2-TTP-TX-193.1"] := by
      rcases either with rfl | rfl <;> decide +kernel
    rw [r.planned_of_apply s _ applied] at told
    exact ⟨conn, applied, Option.some.inj told⟩
  obtain ⟨conn, applied, listed⟩ := made ⟨101⟩ (.inl rfl)
  obtain ⟨conn', applied', listed'⟩ := made ⟨102⟩ (.inr rfl)
  have named : conn.sourceNetwork.name = "-193.1" := (List.cons.inj listed).1
  exact ⟨by decide +kernel, by decide +kernel, conn, conn', applied, applied', named,
    listed'.trans listed.symm⟩

end Roadm

end Lightpath
