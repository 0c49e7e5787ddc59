import Lightpath.Proofs.Roadm.Provision
import Lightpath.Roadm.Reconcile

/-!
# What a reconciliation does

A reconciliation reads the connections of the device and takes away those that are not remembered,
each of them as far as the device lets it. What is remembered stays as it is.
-/

namespace Lightpath.Roadm

/-- The steps that take away a connection of which only the name is known; none if the names of its
    channels cannot be told. -/
def withdrawalOf (name : String) : List CircuitEdit.Step :=
  match CircuitNames.ofConnection? name with
  | none => []
  | some names => CircuitEdit.withdrawal name names.networks names.medias

/-- The names of the connections that a device lists. -/
def listedNames (nodes : List Document) : List String := nodes.filterMap listedName?

/-- The names that a device lists and that are not remembered. -/
def orphans (known : ConnectionCache) (nodes : List Document) : List String :=
  (listedNames nodes).filter fun name => !known.contains name

theorem get?_of_mem_orphans {known : ConnectionCache} {nodes : List Document} {name : String}
    (orphan : name ∈ orphans known nodes) : known.get? name = none := by
  have unknown := (List.mem_filter.1 orphan).2
  rwa [Table.contains, Bool.not_eq_true', Option.isSome_eq_false_iff, Option.isNone_iff_eq_none]
    at unknown

/-- The flow entry of a remembered connection, if a rule can be told for it. -/
def entry? (r : Roadm) (conn : Connection) : Option FlowEntry :=
  match r.rebuild conn with
  | .ok rule => some (.added rule)
  | .error _ => none

/-- The flow entries of the connections that a device lists and that are remembered. -/
def entries (r : Roadm) (known : ConnectionCache) (nodes : List Document) : List FlowEntry :=
  (listedNames nodes).filterMap fun name => (known.get? name).bind r.entry?

/-- The connections in what a device answers. -/
def listed (reply : Document) : List Document :=
  reply.nodesAt (CircuitEdit.replyPath CircuitEdit.connectionsKey)

variable (r : Roadm) (cache : Option ConnectionCache) (rec : Netconf.Recorder)

/-- A connection of which only the name is known is taken away as far as that goes. -/
theorem run_deleteNamed (name : String) :
    ((r.deleteNamed name).run (.through cache (some rec))).2 =
      .through cache (some (rec.hear
        ((rec.attempt r.config.datastore rec.edits (withdrawalOf name)).map (·.request)))) := by
  rw [deleteNamed, withdrawalOf]
  cases CircuitNames.ofConnection? name with
  | none =>
    rw [Netconf.Recorder.attempt, List.map_nil, rec.hear_nil]
    rfl
  | some names => exact congrArg Prod.snd (r.run_program cache rec _)

/-- The connections that are not remembered are taken away in the order in which they are listed;
    how each of them ends does not show in the answer. -/
theorem run_reconcileNodes (known : ConnectionCache) (nodes : List Document) :
    (r.reconcileNodes known nodes).run (.through cache (some rec)) =
      (.ok (r.entries known nodes),
        .through cache (some (rec.hear ((rec.attempts r.config.datastore rec.edits
          ((orphans known nodes).map withdrawalOf)).map (·.request))))) := by
  induction nodes generalizing rec with
  | nil =>
    rw [orphans, listedNames, List.filterMap_nil, List.filter_nil, List.map_nil,
      Netconf.Recorder.attempts, List.map_nil, rec.hear_nil]
    rfl
  | cons node nodes ih =>
    rw [reconcileNodes]
    cases named : listedName? node with
    | none =>
      have skipped : listedNames (node :: nodes) = listedNames nodes := List.filterMap_cons_none named
      rw [orphans, entries, skipped]
      exact ih rec
    | some name =>
      have met : listedNames (node :: nodes) = name :: listedNames nodes :=
        List.filterMap_cons_some named
      cases found : known.get? name with
      | some conn =>
        have kept : orphans known (node :: nodes) = orphans known nodes := by
          rw [orphans, met, List.filter_cons_of_neg (by simp [Table.contains, found])]
          rfl
        have more : r.entries known (node :: nodes) =
            (r.entry? conn).toList ++ r.entries known nodes := by
          rw [entries, met, List.filterMap_cons, found, Option.bind_some]
          cases r.entry? conn <;> rfl
        dsimp only
        rw [found]
        dsimp only
        rw [Action.run_bind, ih, kept, more, entry?]
        cases r.rebuild conn <;> rfl
      | none =>
        have lost : orphans known (node :: nodes) = name :: orphans known nodes := by
          rw [orphans, met, List.filter_cons_of_pos (by simp [Table.contains, found])]
          rfl
        have same : r.entries known (node :: nodes) = r.entries known nodes := by
          rw [entries, met, List.filterMap_cons_none (by rw [found]; rfl)]
          rfl
        have swallowed : (tryCatch (r.deleteNamed name) fun _ => return).run
            (.through cache (some rec)) = (.ok (), ((r.deleteNamed name).run
              (.through cache (some rec))).2) := by
          rw [Action.run_tryCatch]
          rcases (r.deleteNamed name).run (.through cache (some rec)) with ⟨_ | _, _⟩ <;> rfl
        dsimp only
        rw [found]
        dsimp only
        rw [Action.run_bind, swallowed, run_deleteNamed]
        dsimp only
        rw [ih, lost, same, List.map_cons, Netconf.Recorder.attempts, List.map_append,
          rec.attempts_hear, rec.edits_hear, rec.countP_attempt, rec.hear_hear]

/-- A reconciliation that can read the device sends what takes the connections away that are not
    remembered. -/
theorem run_reconcile :
    let known := cache.getD .empty
    let asked := Netconf.Request.getConfig r.config.datastore CircuitEdit.connectionsFilter
    r.reconcile.run (.through cache (some rec)) =
      if rec.readsFail then
        (.error (.transport "get-config" "injected failure"),
          .through (some known) (some (rec.hear [asked])))
      else
        (.ok (r.entries known (listed rec.configReply)),
          .through (some known) (some (rec.hear (asked :: (rec.attempts r.config.datastore rec.edits
            ((orphans known (listed rec.configReply)).map withdrawalOf)).map (·.request))))) := by
  intro known asked
  have answered : Netconf.Session.getConfig r.config.datastore CircuitEdit.connectionsFilter
      (.recorder rec) =
        (if rec.readsFail then .error (.transport "get-config" "injected failure")
          else .ok rec.configReply, .recorder (rec.hear [asked])) := by
    have heard : rec.record asked = rec.hear [asked] := rfl
    have kept : (rec.hear [asked]).readsFail = rec.readsFail := rfl
    rw [Netconf.Session.getConfig, Netconf.Recorder.read, heard, kept]
    cases rec.readsFail <;> rfl
  have read : (r.ask (Netconf.Session.getConfig r.config.datastore
      CircuitEdit.connectionsFilter)).run (.through (some known) (some rec)) =
        (if rec.readsFail then .error (.transport "get-config" "injected failure")
          else .ok rec.configReply, .through (some known) (some (rec.hear [asked]))) :=
    congrArg (fun given : Except Error Document × Netconf.Session =>
      (given.1, (⟨some known, some given.2⟩ : State))) answered
  rw [reconcile, Action.run_bind, run_acquire, if_neg (by simp [State.through])]
  dsimp only
  rw [Action.run_bind, run_openCache]
  dsimp only
  rw [State.opened_through, Action.run_bind, read]
  cases rec.readsFail with
  | true => rfl
  | false =>
    simp only [Bool.false_eq_true, if_false]
    rw [run_reconcileNodes, rec.attempts_hear, rec.edits_hear, rec.hear_hear]
    rfl

variable {rec}

theorem run_reconcile_of_reads (reads : rec.readsFail = false) :
    let known := cache.getD .empty
    r.reconcile.run (.through cache (some rec)) =
      (.ok (r.entries known (listed rec.configReply)),
        .through (some known) (some (rec.hear
          (.getConfig r.config.datastore CircuitEdit.connectionsFilter ::
            (rec.attempts r.config.datastore rec.edits
              ((orphans known (listed rec.configReply)).map withdrawalOf)).map (·.request))))) := by
  intro known
  rw [run_reconcile]
  simp only [reads, Bool.false_eq_true, if_false]
  rfl

/-- The edits of a reconciliation are those that take away what is not remembered. -/
theorem exchangesSince_reconcile (reads : rec.readsFail = false) :
    (r.reconcile.run (.through cache (some rec))).2.exchangesSince (.through cache (some rec)) =
      rec.attempts r.config.datastore rec.edits
        ((orphans (cache.getD .empty) (listed rec.configReply)).map withdrawalOf) := by
  rw [run_reconcile_of_reads r cache reads, State.exchangesSince_through]
  -- asking for the connections is no edit
  exact rec.answers_attempts _ _ _

end Lightpath.Roadm
