import Lightpath.Proofs.Circuit.Legible
import Lightpath.Proofs.Roadm.Cleanup
import Lightpath.Proofs.Roadm.Mirror
import Lightpath.Proofs.Roadm.Sharing

/-!
# Cleaning up after all is forgotten

When what is remembered for a node is lost, the names on the device are all that is left of its
circuits. If the names can be read, a reconciliation takes away all connections that the device
holds, with their channels.
-/

namespace Lightpath

/-- The steps that take away a circuit of which only the names are known. -/
def CircuitNames.withdrawal (names : CircuitNames) : List CircuitEdit.Step :=
  CircuitEdit.withdrawal names.connection names.networks names.medias

/-- Names are worked through as far as they can be read. -/
theorem Roadm.flatten_map_withdrawalOf (names : List String) :
    (names.map withdrawalOf).flatten =
      (names.filterMap CircuitNames.ofConnection?).flatMap CircuitNames.withdrawal := by
  induction names with
  | nil => rfl
  | cons name names ih =>
    rw [List.map_cons, List.flatten_cons, ih, withdrawalOf]
    cases splits : CircuitNames.ofConnection? name with
    | none =>
      rw [List.filterMap_cons_none splits]
      rfl
    | some split =>
      rw [List.filterMap_cons_some splits, List.flatMap_cons, CircuitNames.withdrawal,
        connection_of_splits splits]

namespace Holdings

variable (h : Holdings)

/-- Circuits that are taken away take their connections with them, and no others. -/
theorem get?_connections_carry_withdrawals (circuits : List CircuitNames) (key : String) :
    (h.carry (circuits.flatMap CircuitNames.withdrawal)).connections.get? key =
      if key ∈ circuits.map (·.connection) then none else h.connections.get? key := by
  induction circuits generalizing h with
  | nil => rfl
  | cons names circuits ih =>
    rw [List.flatMap_cons, carry_append, ih, CircuitNames.withdrawal, carry_withdrawal,
      List.map_cons, Table.get?_erase]
    by_cases same : names.connection = key
    · rw [if_pos same, ite_self, if_pos (same ▸ List.mem_cons_self)]
    · rw [if_neg same]
      exact (if_congr (List.mem_cons.trans (or_iff_right (Ne.symm same))) rfl rfl).symm

/-- They take their channels with them, and no other interfaces. -/
theorem get?_interfaces_carry_withdrawals (circuits : List CircuitNames) (key : String) :
    (h.carry (circuits.flatMap CircuitNames.withdrawal)).interfaces.get? key =
      if key ∈ circuits.flatMap fun names => names.networks ++ names.medias then none
      else h.interfaces.get? key := by
  induction circuits generalizing h with
  | nil => rfl
  | cons names circuits ih =>
    rw [List.flatMap_cons, carry_append, ih, CircuitNames.withdrawal,
      get?_interfaces_carry_withdrawal, List.flatMap_cons]
    by_cases used : key ∈ names.networks ++ names.medias
    · rw [if_pos used, ite_self, if_pos (List.mem_append_left _ used)]
    · rw [if_neg used]
      exact (if_congr (List.mem_append.trans (or_iff_right used)) rfl rfl).symm

end Holdings

namespace Roadm

/-- All that is remembered is named after the ports and the center that it was built for. -/
theorem kept_labelled (r : Roadm) : Kept r (ConnectionCache.All fun _ c => c.Labelled) := by
  refine kept_all (fun rule conn planned_eq => ?_) fun _ _ dbm labelled => labelled.tuned dbm
  obtain ⟨xc, source, destination, -, rfl⟩ := planned_eq_ok_iff_asks.1 planned_eq
  exact Connection.labelled_joining xc r.config source destination

/-- Nothing that is listed is known when nothing is remembered. -/
theorem orphans_empty (nodes : List Document) : orphans .empty nodes = listedNames nodes :=
  List.filter_eq_self.2 fun _ _ => rfl

theorem entries_empty (r : Roadm) (nodes : List Document) : r.entries .empty nodes = [] :=
  List.filterMap_eq_nil_iff.2 fun _ _ => rfl

namespace Standing

/-- The node after all that is remembered for it is lost, as by `Controller.Operation.forget`. -/
def forgotten (s : Standing) : Standing := { s with cache := none }

variable {r : Roadm} {s : Standing} {t : Turn}

theorem Idle.mirrors (idle : s.Idle r t) (mirrors : s.Mirrors) : (s.after r t).Mirrors := by
  obtain ⟨names, keyed, powers⟩ := mirrors
  refine ⟨?_, ?_, ?_⟩
  · rw [idle.connections_eq, idle.held_eq]
    exact names
  · rw [idle.connections_eq]
    exact keyed
  · rw [idle.connections_eq, idle.held_eq]
    exact powers

/-- A rule of which all edits are taken is refused before the first of them, or all goes well. -/
theorem Provisions.idle_or_returns (provisions : s.Provisions r t) :
    s.Idle r t ∨ s.Returns r t := by
  obtain ⟨ports, session, call⟩ := t
  obtain ⟨⟨rule, called⟩, taken⟩ := provisions
  rcases called with called | called
  · obtain rfl : call = .apply rule := called
    obtain idle | ⟨conn, -, works⟩ := idle_or_works_apply r s ports session rule
    · exact .inl idle
    · exact .inr (works.returned_iff.2 taken)
  · obtain rfl : call = .release rule := called
    obtain idle | ⟨conn, -, works⟩ := idle_or_works_release r s ports session rule
    · exact .inl idle
    · exact .inr (works.returned_iff.2 taken)

theorem Mirrors.after_of_provisions (mirrors : s.Mirrors) (provisions : s.Provisions r t) :
    (s.after r t).Mirrors := by
  rcases provisions.idle_or_returns with idle | returned
  · exact idle.mirrors mirrors
  · exact mirrors.after returned

/-- A reconciliation of which all edits are taken, when nothing is remembered, carries out what
    takes away all that is listed. -/
theorem reconcile_forgotten (r : Roadm) (s : Standing) (ports : List Port) {rec : Netconf.Recorder}
    (reads : rec.readsFail = false) :
    let t : Turn := ⟨ports, some rec, .reconcile⟩
    (∀ e ∈ s.forgotten.sent r t, e.taken) →
      ((t.node r).reconcile.run (s.forgotten.before t)).1 = .ok [] ∧
        (s.forgotten.after r t).held =
          s.held.carry (((listedNames (listed rec.configReply)).filterMap
            CircuitNames.ofConnection?).flatMap CircuitNames.withdrawal) := by
  intro t taken
  have ran := run_discard (t.node r).reconcile (s.forgotten.before t)
  have sent_eq : s.forgotten.sent r t = rec.attempts r.config.datastore rec.edits
      ((listedNames (listed rec.configReply)).map withdrawalOf) := by
    rw [← orphans_empty, sent]
    change s.forgotten.ended r t = _ at ran
    rw [ran]
    exact exchangesSince_reconcile (t.node r) none reads
  constructor
  · have answered := run_reconcile_of_reads (t.node r) none reads
    rw [before, forgotten, answered, Option.getD_none, entries_empty]
  · rw [sent_eq] at taken
    rw [after, sent_eq, rec.attempts_of_taken r.config.datastore rec.edits taken,
      ← flatten_map_withdrawalOf]
    exact s.held.replay_of_taken ..

/-- However rules have been applied and released, as long as the device has taken every edit and the
    names of all remembered connections can be read: if all that is remembered is lost, then a
    reconciliation that is told the connections on the device and of which every edit is taken
    answers with no entry, and the device is left with no connection and with none of their
    interfaces. -/
theorem cleared_after_loss (r : Roadm) (turns : List Turn) (ports : List Port)
    (rec : Netconf.Recorder) (provisions : Along r (fun s t => s.Provisions r t) turns)
    (legible : ∀ conn ∈ (run r turns).connections.values, conn.Legible)
    (reads : rec.readsFail = false)
    (lists : ∀ name, name ∈ listedNames (listed rec.configReply) ↔
      name ∈ (run r turns).held.connections.keys) :
    let s := run r turns
    let t : Turn := ⟨ports, some rec, .reconcile⟩
    (∀ e ∈ s.forgotten.sent r t, e.taken) →
      ((t.node r).reconcile.run (s.forgotten.before t)).1 = .ok [] ∧
        (s.forgotten.after r t).held.connections.keys = [] ∧
          ∀ conn ∈ s.connections.values, ∀ name ∈ conn.interfaces,
            name ∉ (s.forgotten.after r t).held.interfaces.keys := by
  intro s t taken
  have mirrors : s.Mirrors :=
    run_invariant mirrors_start (fun _ _ mirrors => mirrors.after_of_provisions) provisions
  have sound : s.connections.Sound := kept_run (fun ports => kept_sound { r with ports }) turns
  have labelled : s.connections.All fun _ c => c.Labelled :=
    kept_run (fun ports => kept_labelled { r with ports }) turns
  have read (name : String) (conn : Connection) (known : s.connections.get? name = some conn) :
      conn.names ∈
        (listedNames (listed rec.configReply)).filterMap CircuitNames.ofConnection? := by
    have listed : name ∈ listedNames (listed rec.configReply) := by
      rw [lists, mirrors.names, Table.mem_keys_iff, known]
      rfl
    obtain ⟨rfl, shaped⟩ := sound name conn known
    have readable := legible conn ((Table.mem_values_iff _).2 ⟨_, known⟩)
    exact List.mem_filterMap.2
      ⟨conn.name, listed, (labelled _ conn known).ofConnection?_name shaped readable⟩
  obtain ⟨answered, held_eq⟩ := reconcile_forgotten r s ports reads taken
  refine ⟨answered, List.eq_nil_iff_forall_not_mem.2 fun name left => ?_, ?_⟩
  · rw [Table.mem_keys_iff, held_eq, Holdings.get?_connections_carry_withdrawals] at left
    split at left
    · cases left
    · next unread =>
      obtain ⟨conn, known⟩ := Option.isSome_iff_exists.1 ((mirrors.isSome_iff name).1 left)
      have named : conn.names.connection = name := (sound name conn known).1
      exact unread (List.mem_map.2 ⟨conn.names, read name conn known, named⟩)
  · intro conn remembered name used left
    obtain ⟨key, known⟩ := (Table.mem_values_iff _).1 remembered
    rw [Table.mem_keys_iff, held_eq, Holdings.get?_interfaces_carry_withdrawals,
      if_pos (List.mem_flatMap.2 ⟨conn.names, read key conn known, used⟩)] at left
    cases left

/-- A connection of every link type is made, and all of them are lost. -/
theorem cleared_after_loss_of_three_links :
    let turns : List Turn :=
      [.sample (.apply (Sample.crossConnect ⟨401⟩ ⟨302⟩ 0)) {},
        .sample (.apply (Sample.crossConnect ⟨101⟩ ⟨303⟩ 2)) {},
        .sample (.apply (Sample.crossConnect ⟨403⟩ ⟨102⟩ 4)) {}]
    let s := run sample turns
    let t : Turn :=
      .sample .reconcile { configReply := Sample.connections s.held.connections.keys }
    s.held.connections.keys.length = 3 ∧ s.held.interfaces.keys.length = 10 ∧
      (s.forgotten.after sample t).held.connections.keys = [] ∧
        ∀ conn ∈ s.connections.values, ∀ name ∈ conn.interfaces,
          name ∉ (s.forgotten.after sample t).held.interfaces.keys := by
  intro turns s t
  have provisions : Along sample (fun s t => s.Provisions sample t) turns :=
    ((along_nil.concat ⟨⟨_, .inl rfl⟩, by decide +kernel⟩).concat
      ⟨⟨_, .inl rfl⟩, by decide +kernel⟩).concat ⟨⟨_, .inl rfl⟩, by decide +kernel⟩
  have legible : ∀ conn ∈ s.connections.values, conn.Legible := by decide +kernel
  have all : listedNames (listed (Sample.connections s.held.connections.keys)) =
      s.held.connections.keys := by decide +kernel
  have taken : ∀ e ∈ s.forgotten.sent sample t, e.taken := by decide +kernel
  obtain ⟨-, gone⟩ := cleared_after_loss sample turns Sample.ports
    { configReply := Sample.connections s.held.connections.keys } provisions legible rfl
    (fun name => by rw [all]) taken
  exact ⟨by decide +kernel, by decide +kernel, gone⟩

end Standing

end Roadm

end Lightpath
