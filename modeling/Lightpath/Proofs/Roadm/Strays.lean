import Lightpath.Proofs.Roadm.Cleanup
import Lightpath.Proofs.Roadm.Run

/-!
# Strays with interfaces of remembered connections

The interfaces that a reconciliation takes away are told by the names of the strays alone. They are
never those of a remembered connection exactly if no stray has an interface in common with one.
-/

namespace Lightpath

/-- The names of the interfaces that a document takes away. -/
def CircuitAudit.deletedInterfaces (doc : Document) : List String :=
  let nodes := ((body? doc CircuitEdit.interfaceKey).map Document.nodes).getD []
  (nodes.filter isDeletion).filterMap fun node => (node.member? "name").bind Document.text?

/-- The names of the interfaces that a request takes away. -/
def Netconf.Request.deletedInterfaces : Request → List String
  | .editConfig _ _ body => CircuitAudit.deletedInterfaces body
  | _ => []

theorem CircuitAudit.deletedInterfaces_deleteInterfaces (names : List String) :
    deletedInterfaces (CircuitEdit.deleteInterfaces names) = names := by
  rw [deletedInterfaces, CircuitEdit.deleteInterfaces, Holdings.body?_device, if_pos rfl]
  dsimp only [Option.map_some, Option.getD_some, Document.nodes]
  induction names with
  | nil => rfl
  | cons name names ih => exact congrArg (name :: ·) ih

theorem CircuitAudit.deletedInterfaces_deleteConnection (name : String) :
    deletedInterfaces (CircuitEdit.deleteConnection name) = [] := by
  rw [deletedInterfaces, CircuitEdit.deleteConnection, Holdings.body?_device, if_neg (by decide)]
  rfl

namespace Roadm

/-- Something that is sent takes away an interface of a remembered connection. -/
def Bereaves (known : ConnectionCache) (sent : List Netconf.Exchange) : Prop :=
  ∃ e ∈ sent, ∃ name ∈ e.request.deletedInterfaces, ∃ conn ∈ known.values, name ∈ conn.interfaces

instance (known : ConnectionCache) (sent : List Netconf.Exchange) :
    Decidable (Bereaves known sent) :=
  inferInstanceAs (Decidable (∃ e ∈ sent, ∃ name ∈ e.request.deletedInterfaces,
    ∃ conn ∈ known.values, name ∈ conn.interfaces))

variable {names : CircuitNames} {name : String}

/-- What is planned for a stray takes away the interfaces that its name tells. -/
theorem exists_deletedInterfaces_iff (datastore : Datastore) :
    (∃ request ∈ clearingPlan datastore names, name ∈ request.deletedInterfaces) ↔
      name ∈ names.networks ++ names.medias := by
  rw [clearingPlan]
  by_cases bare : names.medias = []
  · simp [bare, Netconf.Request.deletedInterfaces, CircuitAudit.deletedInterfaces_deleteInterfaces,
      CircuitAudit.deletedInterfaces_deleteConnection]
  · simp [bare, Netconf.Request.deletedInterfaces, CircuitAudit.deletedInterfaces_deleteInterfaces,
      CircuitAudit.deletedInterfaces_deleteConnection]

theorem mem_strays_iff {known : ConnectionCache} {nodes : List Document} :
    names ∈ strays known nodes ↔
      ∃ name ∈ orphans known nodes, CircuitNames.ofConnection? name = some names :=
  List.mem_filterMap

/-- Nothing is taken from a remembered connection if it is not an interface of a stray. -/
theorem not_bereaves_attempts {known : ConnectionCache} {nodes : List Document}
    (apart : ∀ names ∈ strays known nodes, ∀ name ∈ names.networks ++ names.medias,
      ∀ conn ∈ known.values, name ∉ conn.interfaces)
    (rec : Netconf.Recorder) (datastore : Datastore) (count : Nat) :
    ¬ Bereaves known (rec.attempts datastore count ((orphans known nodes).map withdrawalOf)) := by
  rintro ⟨e, sent, name, gone, conn, remembered, used⟩
  obtain ⟨steps, work, planned⟩ := rec.mem_attempts _ _ sent
  obtain ⟨stray, orphan, rfl⟩ := List.mem_map.1 work
  cases splits : CircuitNames.ofConnection? stray with
  | none =>
    rw [withdrawalOf, splits] at planned
    exact absurd planned List.not_mem_nil
  | some names =>
    rw [map_stepRequest_withdrawalOf datastore splits] at planned
    have told := (exists_deletedInterfaces_iff datastore).1 ⟨_, planned, gone⟩
    exact apart names (mem_strays_iff.2 ⟨stray, orphan, splits⟩) name told conn remembered used

/-- Whatever is remembered for a node and whatever it lists: a reconciliation takes no interface
    from a remembered connection, whatever the node answers to its edits, exactly if no stray has an
    interface in common with one. -/
theorem not_bereaves_reconcile_iff (r : Roadm) (cache : Option ConnectionCache) (reply : Document) :
    let known : ConnectionCache := cache.getD .empty
    (∀ rec : Netconf.Recorder, rec.configReply = reply →
      ¬ Bereaves known ((r.reconcile.run (.through cache (some rec))).2.exchangesSince
        (.through cache (some rec)))) ↔
        ∀ names ∈ strays known (listed reply), ∀ name ∈ names.networks ++ names.medias,
          ∀ conn ∈ known.values, name ∉ conn.interfaces := by
  intro known
  constructor
  · intro spares names stray name told conn remembered used
    -- a node that takes every edit is asked for all that is planned
    let lister : Netconf.Recorder := { configReply := reply }
    obtain ⟨text, orphan, splits⟩ := mem_strays_iff.1 stray
    obtain ⟨request, planned, gone⟩ :=
      (exists_deletedInterfaces_iff r.config.datastore).2 told
    rw [← map_stepRequest_withdrawalOf r.config.datastore splits] at planned
    obtain ⟨e, sent, rfl⟩ := lister.mem_attempts_of_taken _ 0 (fun _ => rfl)
      (List.mem_map_of_mem orphan) planned
    refine spares lister rfl ?_
    rw [exchangesSince_reconcile r cache rfl]
    exact ⟨e, sent, name, gone, conn, remembered, used⟩
  · rintro apart rec rfl
    cases reads : rec.readsFail with
    | false =>
      rw [exchangesSince_reconcile r cache reads]
      exact not_bereaves_attempts apart rec _ _
    | true =>
      rw [run_reconcile]
      simp only [reads, if_true]
      rw [State.exchangesSince_through]
      rintro ⟨e, sent, -⟩
      exact absurd sent List.not_mem_nil

/-- A stray comes in at the port of a remembered connection on the same channel: what lies below it
    is taken from the connection. -/
theorem bereaves_of_shared_port :
    let s := Standing.run sample [.sample (.apply (Sample.crossConnect ⟨401⟩ ⟨302⟩ 0)) {}]
    let t : Turn := .sample .reconcile
      { configReply := Sample.connections ["NMC-CTP-DEG1-TTP-RX-193.1-to-NMC-CTP-DEG3-TTP-TX-193.1"] }
    Bereaves s.connections (s.sent sample t) := by
  decide +kernel

end Roadm

end Lightpath
