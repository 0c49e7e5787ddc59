import Lightpath.Proofs.Circuit.Documents
import Lightpath.Proofs.Controller.Writes
import Lightpath.Proofs.PowerRange

/-!
# Powers in the range that may be asked for

A power that is asked for is checked against the range of powers, the power with which connections
start is not. All powers that are remembered and all that are written lie in the range exactly if
the one with which connections start does.
-/

namespace Lightpath

/-- All powers that a document says are in a range. -/
def PowerRange.Covers (range : PowerRange) (body : Document) : Prop :=
  ∀ said ∈ body.under CircuitEdit.powerKey, ∃ dbm, range.Tells said dbm

namespace CircuitEdit

theorem under_powerKey_creation (c : Connection) :
    ∀ step ∈ creation c, ∀ said ∈ step.body.under powerKey, said = .number c.targetOutputPower := by
  have media (m : MediaChannel) : (mediaInterface m).under powerKey = [] := by
    simp [mediaInterface, powerKey]
  have network (n : NetworkMediaChannel) : (networkInterface n).under powerKey = [] := by
    cases laid : n.support <;> simp [networkInterface, laid, powerKey]
  have medias : (createMedias c).under powerKey = [] := by
    rw [createMedias, under_device (by decide) (by decide)]
    simp [Document.underItems_map, media]
  have networks : (createNetworks c).under powerKey = [] := by
    rw [createNetworks, under_device (by decide) (by decide)]
    simp [network]
  have connection : (createConnection c).under powerKey = [.number c.targetOutputPower] := by
    rw [createConnection, under_device (by decide) (by decide)]
    simp [powerKey, connectionNameKey]
  simp [creation, medias, networks, connection]

theorem under_powerKey_setPower (name : String) (dbm : Float) :
    (setPower name dbm).under powerKey = [.number dbm] := by
  rw [setPower, under_device (by decide) (by decide)]
  simp [powerKey, connectionNameKey]

end CircuitEdit

namespace Roadm

variable {r : Roadm}

theorem targetOutputPower_of_planned {rule : FlowRule} {conn : Connection}
    (planned_eq : r.planned rule = .ok conn) :
    conn.targetOutputPower = r.config.targetOutputPower := by
  obtain ⟨xc, source, destination, -, rfl⟩ := planned_eq_ok_iff_asks.1 planned_eq
  rfl

section Within

variable (within : r.config.powerRange.contains r.config.targetOutputPower)

include within

/-- All powers remembered are in the range if connections start with one that is. -/
theorem kept_powers :
    Kept r (ConnectionCache.All fun _ c => r.config.powerRange.contains c.targetOutputPower) where
  empty := ConnectionCache.all_empty
  add rule conn _ planned_eq _ all := by
    refine ConnectionCache.All.add all ?_
    rw [targetOutputPower_of_planned planned_eq]
    exact within
  erase _ name all := ConnectionCache.All.erase all name
  setPower _ name _ inRange all := ConnectionCache.All.setPower all (fun _ _ _ => inRange) name

/-- All powers written are in the range if connections start with one that is. -/
theorem permits_powers : r.Permits r.config.powerRange.Covers where
  creation rule conn planned_eq step listed said given := by
    rw [CircuitEdit.under_powerKey_creation conn step listed said given,
      targetOutputPower_of_planned planned_eq]
    exact ⟨_, PowerRange.tells_of_contains within⟩
  withdrawal name networks medias step listed said given := by
    have silent : CircuitEdit.under CircuitEdit.powerKey
        (CircuitEdit.withdrawal name networks medias) = [] :=
      CircuitEdit.under_withdrawal (by decide) name networks medias
    rw [List.flatMap_eq_nil_iff.1 silent step listed] at given
    exact absurd given List.not_mem_nil
  setPower name dbm inRange said given := by
    rw [CircuitEdit.under_powerKey_setPower] at given
    rw [List.mem_singleton.1 given]
    exact ⟨dbm, PowerRange.tells_of_contains inRange⟩

end Within

end Roadm

namespace Controller

/-- All powers that are remembered are in a range, and so are all that are written next, whatever is
    asked of whichever device. -/
structure PowersWithin (c : Controller) (range : PowerRange) : Prop where
  remembered : ∀ d name conn, (c.caches.cacheFor d).get? name = some conn →
    range.contains conn.targetOutputPower
  written : ∀ device operation d, ∀ e ∈ c.sentBy device operation d, ∀ body ∈ e.request.body?,
    range.Covers body

/-- The controller gets to know the ports of the sample node, which answers through a recorder. -/
def Event.known (ports : List Port) : Event :=
  .surround (.table (Table.empty.insert Sample.roadm.name ports)) .empty
    (Table.empty.insert Sample.roadm.name ⟨.recorder {}, true⟩) .empty

/-- Two ports, both on a line for a marker. -/
def linePorts (marker : String) : List Port :=
  [Sample.port 401 marker "1/0" "ext-rx1", Sample.port 302 marker "2/0" "ext-tx2"]

section Starting

variable (config : Config)

theorem powersWithin_run (within : config.powerRange.contains config.targetOutputPower)
    (events : List Event) : (run config events).PowersWithin config.powerRange := by
  have same : (run config events).config = config := config_run config events
  have kept : (run config events).Remembers fun _ => ConnectionCache.All
      fun _ c => config.powerRange.contains c.targetOutputPower :=
    remembers_run (fun d ports => Roadm.kept_powers (r := ⟨d, config, ports⟩) within) events
  constructor
  · intro d name conn found
    exact kept.getD (d := d) ConnectionCache.all_empty name conn found
  · intro device operation d
    have permits : ((run config events).roadm device).Permits config.powerRange.Covers := by
      have starts : ((run config events).roadm device).config = config := same
      have all := Roadm.permits_powers (r := (run config events).roadm device)
        (by rw [starts]; exact within)
      rwa [starts] at all
    exact permitted_sentBy permits operation d

/-- The rule for a channel between the two ports on a line asks for a connection. -/
theorem exists_planned_linePorts :
    ∃ conn, (⟨Sample.roadm, config, linePorts config.linePortMarker⟩ : Roadm).planned
      (Sample.crossConnect ⟨401⟩ ⟨302⟩ 0) = .ok conn := by
  let m := config.linePortMarker
  have marked (number : UInt64) (pack name : String) :
      (Sample.port number m pack name).labelContains m :=
    (Text.contains_iff_infix _ _).2 List.infix_rfl
  have lines : Port.lineNumbers (linePorts m) m = [⟨401⟩, ⟨302⟩] := by
    simp only [Port.lineNumbers, linePorts, List.filter_cons, marked, if_true]
    rfl
  have resolved : LinkType.resolve ⟨401⟩ ⟨302⟩ (Port.lineNumbers (linePorts m) m) = .ok .express := by
    rw [lines]
    rfl
  let xc : CrossConnect :=
    ⟨Sample.crossConnect ⟨401⟩ ⟨302⟩ 0, .express, ⟨401⟩, ⟨302⟩, .dwdm .ghz50 0⟩
  have asks : Roadm.Asks ⟨Sample.roadm, config, linePorts m⟩ xc.rule xc ⟨m, "1/0", "ext-rx1"⟩
      ⟨m, "2/0", "ext-tx2"⟩ :=
    ⟨CrossConnect.ofRule_eq_ok_iff.2 ⟨rfl, rfl, rfl, rfl, resolved⟩,
      ⟨_, rfl, Sample.ofPort_port ..⟩, ⟨_, rfl, Sample.ofPort_port ..⟩,
      ⟨_, Channel.around_dwdm (.inl rfl) (by decide)⟩⟩
  exact ⟨_, Roadm.planned_eq_ok_iff_asks.2 ⟨_, _, _, asks, rfl⟩⟩

/-- The node is bound and can be asked for connections. -/
theorem run_known (ports : List Port) :
    let c := run config [.known ports, .operate Sample.roadm (.bind "openroadm")]
    c.model? Sample.roadm = some .openRoadm ∧ c.roadm Sample.roadm = ⟨Sample.roadm, config, ports⟩ ∧
      c.roadmState Sample.roadm = .through none (some {}) := by
  intro c
  let known := run config [.known ports]
  have read : DeviceModel.read "openroadm" = .ok .openRoadm := by decide +kernel
  have bound : c = { known with bound := known.bound.insert Sample.roadm.name .openRoadm } := by
    change (known.bind Sample.roadm "openroadm").2 = _
    have unbound : known.model? Sample.roadm = none := rfl
    rw [bind, unbound, read]
  rw [bound]
  refine ⟨Table.get?_insert_self .., ?_, ?_⟩
  · change (⟨Sample.roadm, config, ((Table.empty.insert Sample.roadm.name ports).get?
      Sample.roadm.name).getD []⟩ : Roadm) = _
    rw [Table.get?_insert_self]
    rfl
  · rfl

theorem cacheFor_step_apply {c : Controller} {d : DeviceId} {rule : FlowRule}
    {cache : ConnectionCache} (bound : c.model? d = some .openRoadm)
    (kept : (((c.roadm d).apply rule).run (c.roadmState d)).2.cache = some cache) :
    (c.step d (.apply rule)).2.caches.cacheFor d = cache := by
  have left : (c.step d (.apply rule)).2 =
      c.keepRoadm d (((c.roadm d).apply rule).run (c.roadmState d)).2 := by
    rw [step, onRoadm, bound]
    rfl
  rw [left, keepRoadm, kept, Caches.cacheFor]
  dsimp only
  rw [Table.get?_insert_self]
  rfl

/-- A connection is remembered with the power with which connections start. -/
theorem exists_remembered (room : config.maxConnections ≠ 0) :
    ∃ events d name conn, ((run config events).caches.cacheFor d).get? name = some conn ∧
      conn.targetOutputPower = config.targetOutputPower := by
  obtain ⟨conn, planned_eq⟩ := exists_planned_linePorts config
  let ports := linePorts config.linePortMarker
  let rule := Sample.crossConnect ⟨401⟩ ⟨302⟩ 0
  let before : List Event := [.known ports, .operate Sample.roadm (.bind "openroadm")]
  obtain ⟨model, node, state⟩ := run_known config ports
  have positive : 0 < config.maxConnections.toNat :=
    Nat.pos_of_ne_zero fun none => room (UInt64.toNat_inj.1 none)
  have admits : Roadm.Admits ⟨Sample.roadm, config, ports⟩ (.through none (some {})) rule conn :=
    ⟨planned_eq, positive, rfl⟩
  have done : (((⟨Sample.roadm, config, ports⟩ : Roadm).apply rule).run
      (.through none (some {}))).2.cache = some (ConnectionCache.add .empty conn) := by
    rw [Roadm.run_apply_of_admits _ admits, Netconf.Recorder.verdict_of_taken _ _ fun _ => rfl]
    rfl
  refine ⟨before ++ [.operate Sample.roadm (.apply rule)], Sample.roadm, conn.name, conn, ?_,
    Roadm.targetOutputPower_of_planned planned_eq⟩
  rw [run, List.foldl_append]
  change (((run config before).step Sample.roadm (.apply rule)).2.caches.cacheFor _).get? _ = _
  rw [← node, ← state] at done
  rw [cacheFor_step_apply model done]
  exact Table.get?_insert_self ..

/-- With any configuration that is accepted: all powers that are remembered and all that are written
    are in the range that may be asked for, whatever happens, exactly if the power with which
    connections start is. -/
theorem powersWithin_run_iff (valid : config.validate = .ok ()) :
    (∀ events, (run config events).PowersWithin config.powerRange) ↔
      config.powerRange.contains config.targetOutputPower := by
  constructor
  · intro within
    have room : config.maxConnections ≠ 0 := by
      intro none
      rw [Config.validate, if_pos none] at valid
      cases valid
    obtain ⟨events, d, name, conn, found, starts⟩ := exists_remembered config room
    rw [← starts]
    exact (within events).remembered d name conn found
  · exact powersWithin_run config

end Starting

/-- The configuration that holds without a decision. -/
theorem powersWithin_run_iff_of_defaults :
    ({} : Config).validate = .ok () ∧
      ((∀ events, (run {} events).PowersWithin ({} : Config).powerRange) ↔
        ({} : Config).powerRange.contains ({} : Config).targetOutputPower) := by
  have valid : ({} : Config).validate = .ok () := by decide +kernel
  exact ⟨valid, powersWithin_run_iff {} valid⟩

/-- A configuration is accepted with which connections start with 100 dBm, though no more than 60 may
    be asked for. -/
theorem power_out_of_range :
    let config : Config := { targetOutputPower := 100 }
    let c := run config (Event.sampleRun (Sample.crossConnect ⟨401⟩ ⟨302⟩ 0))
    config.validate = .ok () ∧ ¬ c.PowersWithin config.powerRange ∧
      ∃ conn, (c.caches.cacheFor Sample.roadm).get?
          "NMC-CTP-DEG1-TTP-RX-193.1-to-NMC-CTP-DEG2-TTP-TX-193.1" = some conn ∧
        config.powerRange.contains conn.targetOutputPower = false := by
  intro config c
  have said : ((c.caches.cacheFor Sample.roadm).get?
      "NMC-CTP-DEG1-TTP-RX-193.1-to-NMC-CTP-DEG2-TTP-TX-193.1").map
        (fun conn => config.powerRange.contains conn.targetOutputPower) = some false := by
    decide +kernel
  obtain ⟨conn, found, outside⟩ := Option.map_eq_some_iff.1 said
  refine ⟨by decide +kernel, ?_, conn, found, outside⟩
  intro within
  have inside := within.remembered Sample.roadm _ conn found
  rw [outside] at inside
  cases inside

end Controller

end Lightpath
