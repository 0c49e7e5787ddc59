import Lightpath.Proofs.Controller.Run
import Lightpath.Proofs.Roadm.Planned
import Mathlib.Data.List.Forall2

/-!
# Listed connections

A reconciliation answers with one entry for every listed connection that is remembered. Every other
listed connection is taken away if its name can be split, as far as the device lets it and whatever
becomes of the ones before.
-/

namespace Lightpath.Roadm

/-- The edits that take away a circuit of which only the names are known. -/
def clearingPlan (datastore : Datastore) (names : CircuitNames) : List Netconf.Request :=
  (CircuitEdit.deleteConnection names.connection :: CircuitEdit.deleteInterfaces names.networks ::
    if names.medias = [] then [] else [CircuitEdit.deleteInterfaces names.medias]).map
      (.editConfig datastore .merge)

/-- The circuits that are listed and not remembered, as their names tell them. -/
def strays (known : ConnectionCache) (nodes : List Document) : List CircuitNames :=
  (orphans known nodes).filterMap CircuitNames.ofConnection?

/-- What a reconciliation with these listed connections comes to. -/
structure Reconciles (r : Roadm) (nodes : List Document) (before : State)
    (ended : Except Error (List FlowEntry) × State) : Prop where
  answered : ∃ entries, ended.1 = .ok entries ∧
    List.Forall₂ (fun name entry => ∃ conn rule, before.connections.get? name = some conn ∧
        r.rebuild conn = .ok rule ∧ entry = .added rule)
      ((listedNames nodes).filter before.connections.contains) entries
  remembered : ended.2.connections = before.connections
  cleared : ∃ works, ended.2.exchangesSince before = works.flatten ∧
    List.Forall₂ (fun names sent => Netconf.FollowsPlan (clearingPlan r.config.datastore names) sent)
      (strays before.connections nodes) works

theorem connection_of_splits {name : String} {names : CircuitNames}
    (splits : CircuitNames.ofConnection? name = some names) : names.connection = name := by
  rw [CircuitNames.ofConnection?] at splits
  split at splits
  · cases splits
  · split at splits
    · cases splits
    · cases splits
      rfl

theorem map_stepRequest_withdrawalOf (datastore : Datastore) {name : String} {names : CircuitNames}
    (splits : CircuitNames.ofConnection? name = some names) :
    (withdrawalOf name).map (Netconf.stepRequest datastore) = clearingPlan datastore names := by
  rw [withdrawalOf, splits, clearingPlan, connection_of_splits splits]
  dsimp only
  rw [CircuitEdit.withdrawal, CircuitEdit.clearance, CircuitEdit.deletionSteps]
  cases names.medias <;> rfl

variable {r : Roadm} {known : ConnectionCache}

/-- All that is remembered becomes an entry, name by name. -/
theorem forall₂_entry (rebuilds : known.All fun _ conn => ∃ rule, r.rebuild conn = .ok rule)
    (names : List String) :
    List.Forall₂ (fun name entry => ∃ conn rule, known.get? name = some conn ∧
        r.rebuild conn = .ok rule ∧ entry = .added rule)
      (names.filter known.contains) (names.filterMap fun name => (known.get? name).bind r.entry?) := by
  induction names with
  | nil => exact .nil
  | cons name names ih =>
    cases found : known.get? name with
    | none =>
      have unknown : ¬ known.contains name := by simp [Table.contains, found]
      have skipped : (known.get? name).bind r.entry? = none := by rw [found, Option.bind_none]
      rw [List.filter_cons_of_neg unknown, List.filterMap_cons, skipped]
      exact ih
    | some conn =>
      obtain ⟨rule, rebuilt⟩ := rebuilds name conn found
      have here : known.contains name := by simp [Table.contains, found]
      have entered : (known.get? name).bind r.entry? = some (.added rule) := by
        rw [found, Option.bind_some, entry?, rebuilt]
      rw [List.filter_cons_of_pos here, List.filterMap_cons, entered]
      exact .cons ⟨conn, rule, found, rebuilt, rfl⟩ ih

/-- Every name that can be split has its own piece of work, which ends with its first edit that is
    not taken. -/
theorem forall₂_attempt (rec : Netconf.Recorder) (datastore : Datastore) (count : Nat)
    (names : List String) :
    ∃ works, rec.attempts datastore count (names.map withdrawalOf) = works.flatten ∧
      List.Forall₂ (fun names sent => Netconf.FollowsPlan (clearingPlan datastore names) sent)
        (names.filterMap CircuitNames.ofConnection?) works := by
  induction names generalizing count with
  | nil => exact ⟨[], rfl, .nil⟩
  | cons name names ih =>
    rw [List.map_cons, Netconf.Recorder.attempts]
    cases splits : CircuitNames.ofConnection? name with
    | none =>
      have nothing : withdrawalOf name = [] := by rw [withdrawalOf, splits]
      obtain ⟨works, same, follow⟩ := ih count
      rw [nothing, List.filterMap_cons_none splits]
      exact ⟨works, same, follow⟩
    | some split =>
      have first := rec.followsPlan_attempt datastore count (withdrawalOf name)
      rw [map_stepRequest_withdrawalOf datastore splits] at first
      obtain ⟨works, same, follow⟩ :=
        ih (count + (rec.attempt datastore count (withdrawalOf name)).length)
      rw [same, List.filterMap_cons_some splits]
      exact ⟨_ :: works, rfl, .cons first follow⟩

theorem reconciles_reconcile (cache : Option ConnectionCache) (rec : Netconf.Recorder)
    (rebuilds : (cache.getD .empty).All fun _ conn => ∃ rule, r.rebuild conn = .ok rule)
    (reads : rec.readsFail = false) :
    r.Reconciles (listed rec.configReply) (.through cache (some rec))
      (r.reconcile.run (.through cache (some rec))) := by
  refine ⟨?_, ?_, ?_⟩
  · refine ⟨r.entries (cache.getD .empty) (listed rec.configReply), ?_, forall₂_entry rebuilds _⟩
    rw [run_reconcile_of_reads r cache reads]
  · exact keeps_reconcile (I := fun kept => kept = cache.getD .empty) _ rfl
  · rw [exchangesSince_reconcile r cache reads]
    exact forall₂_attempt rec r.config.datastore rec.edits _

/-- Whatever has happened to the controller, whatever a node lists and whatever edits it takes: a
    reconciliation that can read the node returns, and answers for what is remembered and takes away
    what is not, name by name. -/
theorem reconciles_after_run (config : Config) (events : List Controller.Event) (d : DeviceId)
    (rec : Netconf.Recorder) (reads : rec.readsFail = false) :
    let c := Controller.run config events
    let before := State.through (c.caches.get? d.name) (some rec)
    (c.roadm d).Reconciles (listed rec.configReply) before
      ((c.roadm d).reconcile.run before) := by
  intro c before
  have asked : ((c.caches.get? d.name).getD .empty).All fun _ conn => ∃ rule, conn.Realizes rule :=
    (Controller.remembers_run (fun d ports => kept_realized ⟨d, config, ports⟩) events).getD
      ConnectionCache.all_empty
  refine reconciles_reconcile _ rec (fun name conn found => ?_) reads
  obtain ⟨rule, realizes⟩ := asked name conn found
  obtain ⟨_, -, rebuilt⟩ := rebuild_of_realizes realizes
  exact ⟨_, rebuilt⟩

/-- Of two listed connections one is remembered, and the other one is taken away as far as its
    interfaces, the removal of which is refused. -/
theorem reconciles_after_run_of_stray :
    let known := "NMC-CTP-DEG1-TTP-RX-193.1-to-NMC-CTP-DEG2-TTP-TX-193.1"
    let stray := "NMC-CTP-DEG1-TTP-RX-193.2-to-NMC-CTP-DEG3-TTP-TX-193.2"
    let c := Controller.run {} (Controller.Event.sampleRun (Sample.crossConnect ⟨401⟩ ⟨302⟩ 0))
    let lister : Netconf.Recorder :=
      { configReply := Sample.connections [known, "patch", stray], failures := [(2, .rejected)] }
    let before := State.through (c.caches.get? Sample.roadm.name) (some lister)
    lister.readsFail = false ∧
      (strays before.connections (listed lister.configReply)).map (·.connection) = [stray] ∧
        (c.roadm Sample.roadm).Reconciles (listed lister.configReply) before
          ((c.roadm Sample.roadm).reconcile.run before) :=
  ⟨rfl, by decide +kernel, reconciles_after_run {} _ Sample.roadm _ rfl⟩

end Lightpath.Roadm
