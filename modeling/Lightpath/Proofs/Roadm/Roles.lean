import Lightpath.Proofs.Roadm.Identity
import Mathlib.Data.List.Nodup

/-!
# Ports on a line and their labels

Which sides of a connection face a neighbouring node is told by the numbers of the ports alone, and
the channels there are named after the first port with the number. The two agree as long as that
port has the marker of line ports whenever some port with its number has it.
-/

namespace Lightpath

theorem Port.mem_lineNumbers_iff {ports : List Port} {marker : String} {number : PortNumber} :
    number ∈ lineNumbers ports marker ↔
      ∃ p ∈ ports, p.number = number ∧ p.labelContains marker := by
  unfold lineNumbers
  rw [List.mem_map]
  constructor
  · rintro ⟨p, listed, numbered⟩
    obtain ⟨member, marked⟩ := List.mem_filter.1 listed
    exact ⟨p, member, numbered, marked⟩
  · rintro ⟨p, member, numbered, marked⟩
    exact ⟨p, List.mem_filter.2 ⟨member, marked⟩, numbered⟩

/-- The first port with a number is the only one if the numbers are different. -/
theorem Port.eq_of_find? {ports : List Port} (distinct : (ports.map (·.number)).Nodup)
    {number : PortNumber} {p q : Port} (found : find? ports number = some p) (member : q ∈ ports)
    (numbered : q.number = number) : q = p := by
  have same : p.number = number := number_of_find? found
  exact List.inj_on_of_nodup_map distinct member (List.mem_of_find?_eq_some found)
    (numbered.trans same.symm)

/-- A side faces a neighbouring node if the number of its port is among those of line ports. -/
theorem LinkType.isLineSide_of_resolve {inPort outPort : PortNumber} {lines : List PortNumber}
    {t : LinkType} (resolved : resolve inPort outPort lines = .ok t) :
    (t.isLineSide .source ↔ inPort ∈ lines) ∧ (t.isLineSide .destination ↔ outPort ∈ lines) := by
  unfold resolve at resolved
  rw [← List.contains_iff_mem, ← List.contains_iff_mem]
  cases entering : lines.contains inPort <;> cases leaving : lines.contains outPort <;>
    simp only [entering, leaving] at resolved <;> cases resolved <;> decide

namespace Connection

/-- The number of the port at a side. -/
def port (c : Connection) : Side → PortNumber
  | .source => c.inPort
  | .destination => c.outPort

/-- A side is on a line: there is a media channel, and in it a network media channel with the name
    of one on a line. -/
def OnLine (c : Connection) (side : Side) : Prop :=
  ∃ m, c.media side = some m ∧
    CircuitName.networkHead.toList <+: (c.network side).name.toList ∧
      (c.network side).support = some m.name

/-- The channels at a side are named and placed as the labels of a port tell. -/
structure LaidOn (c : Connection) (side : Side) (labels : PortLabels) : Prop where
  network_eq : c.network side =
    labels.network c.channel.center c.channel.width (c.media side)
  media_eq : ∀ m ∈ c.media side,
    m = labels.media c.channel.center (.around c.channel.center c.channel.width)

variable {c : Connection} {side : Side} {labels : PortLabels}

theorem LaidOn.onLine_iff (laid : c.LaidOn side labels) :
    c.OnLine side ↔ (c.media side).isSome := by
  constructor
  · rintro ⟨m, carried, -⟩
    rw [carried]
    rfl
  · intro carries
    obtain ⟨m, carried⟩ := Option.isSome_iff_exists.1 carries
    refine ⟨m, carried, ?_, ?_⟩
    · rw [laid.network_eq, carried]
      unfold PortLabels.network CircuitName.network
      simp only [Option.isSome_some, if_true, String.toList_append, List.append_assoc]
      exact List.prefix_append _ _
    · rw [laid.network_eq, carried]
      rfl

/-- The names at a side are made from the label of its port. -/
theorem LaidOn.name_network (laid : c.LaidOn side labels) :
    (c.network side).name =
      CircuitName.network labels.label c.channel.center (c.media side).isSome := by
  rw [laid.network_eq]
  rfl

theorem LaidOn.name_media (laid : c.LaidOn side labels) :
    ∀ m ∈ c.media side, m.name = CircuitName.media labels.label c.channel.center := by
  intro m carried
  rw [laid.media_eq m carried]
  rfl

theorem laidOn_joining (xc : CrossConnect) (config : Config) (source destination : PortLabels) :
    (joining xc config source destination).LaidOn .source source ∧
      (joining xc config source destination).LaidOn .destination destination := by
  have media_eq (onLine : Bool) (labels : PortLabels) (m : MediaChannel)
      (carried : m ∈ if onLine then
        some (labels.media xc.channel.center (.around xc.channel.center xc.channel.width))
      else none) :
      m = labels.media xc.channel.center (.around xc.channel.center xc.channel.width) := by
    cases onLine with
    | true => exact (Option.some.inj carried).symm
    | false => cases carried
  exact ⟨⟨rfl, media_eq _ source⟩, ⟨rfl, media_eq _ destination⟩⟩

end Connection

namespace Roadm

variable {r : Roadm} {rule : FlowRule} {conn : Connection}

/-- A side of a connection is laid on the first port with its number, and it is on a line if any
    port with that number has the marker. -/
theorem laidOn_of_planned (planned_eq : r.planned rule = .ok conn) (side : Side) :
    ∃ p labels, Port.find? r.ports (conn.port side) = some p ∧ PortLabels.ofPort p = .ok labels ∧
      conn.LaidOn side labels ∧
        (conn.OnLine side ↔ ∃ q ∈ r.ports, q.number = conn.port side ∧
          q.labelContains r.config.linePortMarker) := by
  obtain ⟨xc, source, destination, asks, rfl⟩ := planned_eq_ok_iff_asks.1 planned_eq
  have shaped : (Connection.joining xc r.config source destination).Shaped :=
    Connection.shaped_joining source destination
  obtain ⟨laidSource, laidDestination⟩ :=
    Connection.laidOn_joining xc r.config source destination
  obtain ⟨-, -, -, -, resolved⟩ := CrossConnect.ofRule_eq_ok_iff.1 asks.checked
  obtain ⟨facesSource, facesDestination⟩ := LinkType.isLineSide_of_resolve resolved
  cases side with
  | source =>
    obtain ⟨p, found, known⟩ := asks.source_known
    refine ⟨p, source, found, known, laidSource, ?_⟩
    rw [laidSource.onLine_iff, shaped.media_isSome]
    exact facesSource.trans Port.mem_lineNumbers_iff
  | destination =>
    obtain ⟨p, found, known⟩ := asks.destination_known
    refine ⟨p, destination, found, known, laidDestination, ?_⟩
    rw [laidDestination.onLine_iff, shaped.media_isSome]
    exact facesDestination.trans Port.mem_lineNumbers_iff

theorem labelContains_of_ofPort {p : Port} {labels : PortLabels}
    (known : PortLabels.ofPort p = .ok labels) (marker : String) :
    p.labelContains marker = Text.contains labels.label marker := by
  rw [Port.labelContains, PortLabels.connectionPoint?_of_ofPort known]

/-- Whatever ports a node has, also several with one number, and whatever rule is applied: either
    side of the connection that is made is laid on the first port with its number. That the side is
    on a line exactly if the label in its names contains the marker comes down to this: if any port
    with the number has the marker then the first one has it. -/
theorem onLine_iff_marked_iff (r : Roadm) (s : State) (rule : FlowRule) (conn : Connection)
    (applied : ((r.apply rule).run s).1 = .ok conn) (side : Side) :
    ∃ p labels, Port.find? r.ports (conn.port side) = some p ∧ PortLabels.ofPort p = .ok labels ∧
      conn.LaidOn side labels ∧
        ((conn.OnLine side ↔ Text.contains labels.label r.config.linePortMarker) ↔
          ∀ q ∈ r.ports, q.number = conn.port side → q.labelContains r.config.linePortMarker →
            p.labelContains r.config.linePortMarker) := by
  obtain ⟨p, labels, found, known, laid, onLine⟩ :=
    laidOn_of_planned (r.planned_of_apply s rule applied) side
  refine ⟨p, labels, found, known, laid, ?_⟩
  rw [onLine, ← labelContains_of_ofPort known]
  constructor
  · intro agrees q member same marked
    exact agrees.1 ⟨q, member, same, marked⟩
  · intro first
    constructor
    · rintro ⟨q, member, same, marked⟩
      exact first q member same marked
    · intro marked
      exact ⟨p, List.mem_of_find?_eq_some found, Port.number_of_find? found, marked⟩

/-- A channel that is dropped to a client port, all ports having different numbers. -/
theorem onLine_iff_marked_iff_of_drop :
    let rule := Sample.crossConnect ⟨403⟩ ⟨102⟩ 4
    let s := State.through none (some {})
    let marker := sample.config.linePortMarker
    ∃ conn, ((sample.apply rule).run s).1 = .ok conn ∧
      ∃ p labels, Port.find? sample.ports (conn.port .destination) = some p ∧
        PortLabels.ofPort p = .ok labels ∧ conn.LaidOn .destination labels ∧
          ((conn.OnLine .destination ↔ Text.contains labels.label marker) ↔
            ∀ q ∈ sample.ports, q.number = conn.port .destination → q.labelContains marker →
              p.labelContains marker) := by
  intro rule s marker
  obtain ⟨conn, applied⟩ : ∃ conn, ((sample.apply rule).run s).1 = .ok conn :=
    exists_of_isOk (by decide +kernel)
  exact ⟨conn, applied, onLine_iff_marked_iff sample s rule conn applied .destination⟩

/-- Port `3-1` for clients and port `ext-tx1` on a line are both numbered 301. The client port is
    listed first: a channel is laid on it as if it were on a line. -/
theorem client_port_on_line :
    let marker := sample.config.linePortMarker
    let r : Roadm := { sample with ports :=
      [Sample.port 301 "SRG3-PP1-TX" "3/0" "3-1", Sample.port 301 "DEG1-TTP-TX" "1/0" "ext-tx1",
        Sample.port 401 "DEG1-TTP-RX" "1/0" "ext-rx1"] }
    let s := State.through none (some {})
    (["3-1", "ext-tx1"].map fun name => (PortNumber.ofName name).toOption) =
        [some ⟨301⟩, some ⟨301⟩] ∧
      ∃ conn labels, ((r.apply (Sample.crossConnect ⟨401⟩ ⟨301⟩ 0)).run s).1 = .ok conn ∧
        conn.LaidOn .destination labels ∧ labels.label = "SRG3-PP1-TX" ∧
          conn.OnLine .destination ∧ ¬ Text.contains labels.label marker := by
  intro marker r s
  refine ⟨by decide +kernel, ?_⟩
  obtain ⟨conn, applied⟩ :
      ∃ conn, ((r.apply (Sample.crossConnect ⟨401⟩ ⟨301⟩ 0)).run s).1 = .ok conn :=
    exists_of_isOk (by decide +kernel)
  have planned_eq := r.planned_of_apply s _ applied
  have number : conn.port .destination = ⟨301⟩ :=
    Option.some.inj (realizes_of_planned planned_eq).outPort_eq
  obtain ⟨p, labels, found, known, laid, onLine⟩ := laidOn_of_planned planned_eq .destination
  have first : Sample.port 301 "SRG3-PP1-TX" "3/0" "3-1" = p := by
    rw [number] at found
    exact Option.some.inj found
  have told : labels = ⟨"SRG3-PP1-TX", "3/0", "3-1"⟩ := by
    rw [← first] at known
    exact (Except.ok.inj known).symm
  have marked : conn.OnLine .destination := by
    rw [onLine, number]
    exact ⟨Sample.port 301 "DEG1-TTP-TX" "1/0" "ext-tx1", by simp [r], rfl, by decide +kernel⟩
  subst told
  exact ⟨conn, _, applied, laid, rfl, marked, by decide +kernel⟩

/-- On a node with different numbers the sides on a line are those with the marker. -/
theorem onLine_iff_marked_of_distinct (distinct : (r.ports.map (·.number)).Nodup)
    (planned_eq : r.planned rule = .ok conn) (side : Side) :
    ∃ labels, conn.LaidOn side labels ∧
      (conn.OnLine side ↔ Text.contains labels.label r.config.linePortMarker) := by
  obtain ⟨p, labels, found, known, laid, onLine⟩ := laidOn_of_planned planned_eq side
  refine ⟨labels, laid, ?_⟩
  rw [onLine, ← labelContains_of_ofPort known]
  constructor
  · rintro ⟨q, member, numbered, marked⟩
    rwa [← Port.eq_of_find? distinct found member numbered]
  · intro marked
    exact ⟨p, List.mem_of_find?_eq_some found, Port.number_of_find? found, marked⟩

end Roadm

end Lightpath
