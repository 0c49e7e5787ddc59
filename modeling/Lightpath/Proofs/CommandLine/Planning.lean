import Lightpath.CommandLine
import Lightpath.Proofs.Plan
import Lightpath.Sample

/-!
# The channel that is planned

A command line that plans a connection and succeeds prints the edits of the plan that its words and
files stand for, and their documents are found again in what it prints. Of every channel that it
plans the width is kept, and the center is kept if it is a place of the grid; a center between two
places is moved toward the anchor.
-/

namespace Lightpath.CommandLine

/-- What the words of a plan name can be read. -/
structure Reading (files : Files) (path : Option String) (inventory center width : String)
    (config : Config) (file : PortFile) (c w : Frequency) : Prop where
  config_eq : loadConfig files path = .ok config
  file_eq : loadPorts files inventory = .ok file
  center_eq : Frequency.read .terahertz center = .ok c
  width_eq : Frequency.read .gigahertz width = .ok w

variable {files : Files} {words : List String} {path : Option String}
  {inventory center width : String} {inPort outPort : PortNumber} {release : Bool}

theorem readFrequency_eq_ok_iff {unit : FrequencyUnit} {option text : String} {f : Frequency} :
    readFrequency unit option text = .ok f ↔ Frequency.read unit text = .ok f := by
  rw [readFrequency]
  cases Frequency.read unit text <;> simp [Except.mapError]

theorem readChannel_eq_ok_iff {c w : Frequency} :
    readChannel center width = .ok (c, w) ↔
      Frequency.read .terahertz center = .ok c ∧ Frequency.read .gigahertz width = .ok w := by
  simp only [readChannel, Action.bind_eq_ok_iff, Action.pure_eq_ok_iff, readFrequency_eq_ok_iff]
  constructor
  · rintro ⟨_, center_eq, _, width_eq, same⟩
    cases same
    exact ⟨center_eq, width_eq⟩
  · rintro ⟨center_eq, width_eq⟩
    exact ⟨c, center_eq, w, width_eq, rfl⟩

theorem run_plan {config : Config} {file : PortFile} {c w : Frequency}
    (reading : Reading files path inventory center width config file c w) :
    (Command.plan path inventory inPort outPort center width release).run files =
      report ((Plan.mk inPort outPort c w release).rehearse config file) := by
  have channel := readChannel_eq_ok_iff.2 ⟨reading.center_eq, reading.width_eq⟩
  rw [Command.run, reading.config_eq, channel, reading.file_eq]
  rfl

theorem exists_reading
    (succeeded :
      ((Command.plan path inventory inPort outPort center width release).run files).status = 0) :
    ∃ config file c w, Reading files path inventory center width config file c w := by
  rw [Command.run] at succeeded
  cases configured : loadConfig files path with
  | error e =>
    rw [configured] at succeeded
    cases succeeded
  | ok config =>
    rw [configured] at succeeded
    cases channel : readChannel center width with
    | error e =>
      rw [channel] at succeeded
      cases succeeded
    | ok pair =>
      rw [channel] at succeeded
      cases known : loadPorts files inventory with
      | error e =>
        rw [known] at succeeded
        cases succeeded
      | ok file =>
        obtain ⟨center_eq, width_eq⟩ := readChannel_eq_ok_iff.1 channel
        exact ⟨config, file, pair.1, pair.2, configured, known, center_eq, width_eq⟩

theorem exists_printed {config : Config} {file : PortFile} {p : Plan}
    (succeeded : (report (p.rehearse config file)).status = 0) :
    ∃ conn, p.connection ⟨file.device, config, file.ports⟩ = .ok conn ∧
      (report (p.rehearse config file)).output =
        CircuitEdit.sheets config.datastore (p.steps conn) := by
  rcases rehearsed : p.rehearse config file with ⟨_ | _, printed⟩
  · rw [rehearsed] at succeeded
    cases succeeded
  · obtain ⟨-, conn, planned, rfl⟩ := Plan.rehearse_eq_ok_iff.1 rehearsed
    exact ⟨conn, planned, rfl⟩

theorem run_of_connection {config : Config} {file : PortFile} {p : Plan} {conn : Connection}
    (asked : read? words = some (.plan path inventory p.inPort p.outPort center width p.release))
    (reading : Reading files path inventory center width config file p.center p.width)
    (room : 0 < config.maxConnections.toNat)
    (planned : p.connection ⟨file.device, config, file.ports⟩ = .ok conn) :
    (run files words).status = 0 ∧
      (run files words).output = CircuitEdit.sheets config.datastore (p.steps conn) := by
  have rehearsed := Plan.rehearse_eq_ok_iff.2 ⟨room, conn, planned, rfl⟩
  rw [run, asked]
  dsimp only
  rw [run_plan reading, rehearsed]
  exact ⟨rfl, rfl⟩

/-- The sheets of a plan. -/
def sheetsOf (p : Plan) (datastore : Datastore) (conn : Connection) : List (String × Draft) :=
  (CircuitEdit.told (p.steps conn)).map fun draft => (CircuitEdit.heading datastore, draft)

theorem readSheets?_steps (p : Plan) (datastore : Datastore) (conn : Connection) :
    CircuitEdit.readSheets? (CircuitEdit.sheets datastore (p.steps conn)) =
      some (sheetsOf p datastore conn) :=
  CircuitEdit.readSheets?_sheets datastore (p.levels_steps conn)

theorem map_snd_sheetsOf (p : Plan) (datastore : Datastore) (conn : Connection) :
    (sheetsOf p datastore conn).map Prod.snd = CircuitEdit.told (p.steps conn) := by
  rw [sheetsOf, List.map_map]
  exact List.map_id _

/-- What a plan that succeeds prints are the edits for a connection of the width that was asked for,
    which is 50 or 100 GHz. Their center is the last place of the grid on the way from the anchor to
    the center that was asked for. All this is read off the printed text. -/
theorem configure_of_run
    (asked : read? words = some (.plan path inventory inPort outPort center width release))
    (succeeded : (run files words).status = 0) :
    ∃ config file c w conn sheets,
      let p : Plan := ⟨inPort, outPort, c, w, release⟩
      Reading files path inventory center width config file c w ∧
        p.connection ⟨file.device, config, file.ports⟩ = .ok conn ∧
        (run files words).output = CircuitEdit.sheets config.datastore (p.steps conn) ∧
        CircuitEdit.readSheets? (run files words).output = some sheets ∧
        sheets = sheetsOf p config.datastore conn ∧
        (p.Whole → (w = .ofGHz 50 ∨ w = .ofGHz 100) ∧
          ∃ landed, Landing c w landed ∧
            (landed = c ↔ (w.toNat : Int) ∣ c.toNat - anchorFrequency.toNat) ∧
              CircuitEdit.Configure (sheets.map Prod.snd) landed w) := by
  have carried : run files words =
      (Command.plan path inventory inPort outPort center width release).run files := by
    rw [run, asked]
  rw [carried] at succeeded ⊢
  obtain ⟨config, file, c, w, reading⟩ := exists_reading succeeded
  rw [run_plan reading] at succeeded ⊢
  obtain ⟨conn, planned, printed⟩ := exists_printed succeeded
  refine ⟨config, file, c, w, conn, _, reading, planned, printed, ?_, rfl, fun whole => ?_⟩
  · rw [printed]
    exact readSheets?_steps _ _ conn
  · obtain ⟨wide, landed, landing, configured⟩ := Plan.configure_steps whole planned
    rw [map_snd_sheetsOf]
    exact ⟨wide, landed, landing, landing.eq_iff, configured⟩

/-- An inventory of two ports that face neighbouring nodes. -/
def twoLines : String :=
  "device: netconf:10.0.0.1:830\nports:\n" ++
  "- \x7bport-name: ext-rx1, logical-connection-point: DEG1-TTP-RX, circuit-pack: 1/0\x7d\n" ++
  "- \x7bport-name: ext-tx2, logical-connection-point: DEG2-TTP-TX, circuit-pack: 2/0\x7d\n"

/-- The ports of the inventory. -/
def twoLinePorts : PortFile :=
  ⟨Sample.roadm, [Sample.port 401 "DEG1-TTP-RX" "1/0" "ext-rx1",
    Sample.port 302 "DEG2-TTP-TX" "2/0" "ext-tx2"]⟩

/-- The inventory is the only file. -/
def onlyInventory : Files := fun path =>
  if path = "ports.yaml" then .ok twoLines else .error "not found"

/-- The words that ask for a plan between the two ports. -/
def planWords (center : String) : List String :=
  ["plan", "--inventory", "ports.yaml", "--in", "401", "--out", "302", "--center-thz", center]

theorem loadPorts_onlyInventory : loadPorts onlyInventory "ports.yaml" = .ok twoLinePorts := by
  have read : (PortFile.read twoLines).toOption = some twoLinePorts := by decide +kernel
  have content : onlyInventory "ports.yaml" = .ok twoLines := rfl
  rw [loadPorts, content]
  dsimp only
  cases found : PortFile.read twoLines with
  | error e =>
    rw [found] at read
    cases read
  | ok file =>
    rw [found] at read
    exact congrArg Except.ok (Option.some.inj read)

/-- A channel on the grid is planned as it is asked for. -/
theorem configure_of_run_on_grid :
    let p : Plan := ⟨⟨401⟩, ⟨302⟩, ⟨193150000000000⟩, ⟨50000000000⟩, false⟩
    let words := planWords "193.15"
    read? words = some (.plan none "ports.yaml" p.inPort p.outPort "193.15" "50" p.release) ∧
      (run onlyInventory words).status = 0 ∧ p.Whole ∧
      ∃ sheets, CircuitEdit.readSheets? (run onlyInventory words).output = some sheets ∧
        CircuitEdit.Configure (sheets.map Prod.snd) p.center p.width := by
  intro p words
  have asked : read? words =
      some (.plan none "ports.yaml" p.inPort p.outPort "193.15" "50" p.release) := rfl
  have center : Frequency.read .terahertz "193.15" = .ok p.center := by decide +kernel
  have width : Frequency.read .gigahertz "50" = .ok p.width := by decide +kernel
  have possible : (p.connection ⟨twoLinePorts.device, {}, twoLinePorts.ports⟩).isOk := by
    decide +kernel
  have whole : p.Whole := ⟨by decide, by decide⟩
  obtain ⟨made, planned⟩ := Roadm.exists_of_isOk possible
  have reading : Reading onlyInventory none "ports.yaml" "193.15" "50" {} twoLinePorts p.center
      p.width := ⟨rfl, loadPorts_onlyInventory, center, width⟩
  have succeeded := (run_of_connection asked reading (by decide) planned).1
  obtain ⟨config, file, c, w, conn, sheets, reading, -, -, read, -, configured⟩ :=
    configure_of_run asked succeeded
  obtain rfl : p.center = c := Except.ok.inj (center.symm.trans reading.center_eq)
  obtain rfl : p.width = w := Except.ok.inj (width.symm.trans reading.width_eq)
  obtain ⟨-, landed, -, kept, said⟩ := configured whole
  obtain rfl : landed = p.center := kept.2 (by decide)
  exact ⟨asked, succeeded, whole, sheets, read, said⟩

/-- A channel half-way between two places of the grid is planned, but at the lower of them. -/
theorem not_configure_off_grid :
    let p : Plan := ⟨⟨401⟩, ⟨302⟩, ⟨193125000000000⟩, ⟨50000000000⟩, false⟩
    let words := planWords "193.125"
    read? words = some (.plan none "ports.yaml" p.inPort p.outPort "193.125" "50" p.release) ∧
      Reading onlyInventory none "ports.yaml" "193.125" "50" {} twoLinePorts p.center p.width ∧
      (run onlyInventory words).status = 0 ∧
      ∃ sheets, CircuitEdit.readSheets? (run onlyInventory words).output = some sheets ∧
        CircuitEdit.Configure (sheets.map Prod.snd) anchorFrequency p.width ∧
        ¬ CircuitEdit.Configure (sheets.map Prod.snd) p.center p.width := by
  intro p words
  have asked : read? words =
      some (.plan none "ports.yaml" p.inPort p.outPort "193.125" "50" p.release) := rfl
  have reading : Reading onlyInventory none "ports.yaml" "193.125" "50" {} twoLinePorts p.center
      p.width :=
    ⟨rfl, loadPorts_onlyInventory, by decide +kernel, by decide +kernel⟩
  have possible : (p.connection ⟨twoLinePorts.device, {}, twoLinePorts.ports⟩).isOk := by
    decide +kernel
  obtain ⟨conn, planned⟩ := Roadm.exists_of_isOk possible
  obtain ⟨-, landed, landing, said⟩ := Plan.configure_steps ⟨by decide, by decide⟩ planned
  obtain rfl : landed = anchorFrequency := by
    obtain ⟨on_grid, below, above, -⟩ := landing
    change (50000000000 : Int) ∣ landed.toNat - 193100000000000 at on_grid
    change min 193100000000000 193125000000000 ≤ landed.toNat at below
    change landed.toNat ≤ max 193100000000000 193125000000000 at above
    apply Frequency.toNat_inj
    change landed.toNat = 193100000000000
    omega
  obtain ⟨succeeded, printed⟩ := run_of_connection asked reading (by decide) planned
  have read := readSheets?_steps p ({} : Config).datastore conn
  rw [← printed] at read
  rw [← map_snd_sheetsOf p ({} : Config).datastore conn] at said
  refine ⟨asked, reading, succeeded, _, read, said, fun kept => ?_⟩
  exact absurd (said.unique kept).1 (by decide)

end Lightpath.CommandLine
