import Lightpath.Proofs.Channel.Window
import Lightpath.Proofs.Controller.Run
import Lightpath.Proofs.Roadm.Planned

/-!
# Rules recovered from the device

The rule of a remembered connection that the device lists is put together again from what was
programmed. It asks for the same as the rule that was last applied under the name, except where the
channel cannot be found again from its window.
-/

namespace Lightpath

/-- An entry for the connection of a rule, with the channel found in its window. -/
structure FlowRule.Recovered (rule : FlowRule) (entry : FlowEntry) : Prop where
  state_eq : entry.state = .added
  inPort_eq : entry.rule.inPort = rule.inPort
  outPort_eq : entry.rule.outPort = rule.outPort
  priority_eq : entry.rule.priority = rule.priority
  cookie_eq : entry.rule.cookie = rule.cookie
  sameIntent_iff : entry.rule.sameIntent rule ↔ ∃ c ∈ rule.channel, c.Recoverable

theorem Roadm.recovered_of_realizes {r : Roadm} {conn : Connection} {rule : FlowRule}
    (realizes : conn.Realizes rule) : ∃ entry, r.entry? conn = some entry ∧ rule.Recovered entry := by
  obtain ⟨found, supported, rebuilt⟩ := rebuild_of_realizes (r := r) realizes
  have again := Channel.around_eq_self_iff supported
  refine ⟨_, by rw [ entry?, rebuilt], rfl, realizes.inPort_eq, realizes.outPort_eq,
    realizes.priority_eq, realizes.cookie_eq, ?_⟩
  simp only [FlowEntry.added, FlowRule.sameIntent, realizes.inPort_eq, realizes.outPort_eq,
    realizes.priority_eq, decide_true, Bool.true_and, Bool.and_true, decide_eq_true_eq]
  rw [← realizes.channel_eq, Option.some.injEq, again]
  simp

theorem Roadm.entries_nil (r : Roadm) (known : ConnectionCache) : r.entries known [] = [] := rfl

theorem Roadm.entries_append_cons {r : Roadm} {known : ConnectionCache} {node : Document}
    {name : String} {conn : Connection} {entry : FlowEntry} (named : listedName? node = some name)
    (found : known.get? name = some conn) (entered : r.entry? conn = some entry)
    (front back : List Document) :
    r.entries known (front ++ node :: back) = r.entries known front ++ entry :: r.entries known back := by
  rw [entries, listedNames, List.filterMap_append, List.filterMap_cons_some named,
    List.filterMap_append, List.filterMap_cons, found, Option.bind_some, entered]
  rfl

/-- The rules that an operation on a node has applied, as it answers. -/
def Operation.applied : Operation → Except Refusal Answer → List FlowRule
  | .apply rule, .ok _ => [rule]
  | .applyRules _, .ok (.rules done) => done
  | _, _ => []

namespace Controller

/-- The rules that an event applies to a node, the first one first. -/
def applied (c : Controller) (d : DeviceId) : Event → List FlowRule
  | .operate device operation =>
    if device = d ∧ c.model? d = some .openRoadm then operation.applied (c.step d operation).1
    else []
  | .surround .. => []

/-- The rules that are applied to a node under each name, the last one counting. -/
def rulesAfter (c : Controller) (d : DeviceId) (rules : Table FlowRule) :
    List Event → Table FlowRule
  | [] => rules
  | event :: events =>
    (c.after event).rulesAfter d ((c.applied d event).foldl (c.roadm d).note rules) events

/-- The rule that was last applied to a node under each name. -/
def lastRules (config : Config) (d : DeviceId) (events : List Event) : Table FlowRule :=
  rulesAfter { config } d .empty events

/-- What is remembered for a node is what rules ask for. -/
def TracesTo (c : Controller) (d : DeviceId) (rules : Table FlowRule) : Prop :=
  c.Remembers fun device cache => device = d → Roadm.Traced rules cache

variable {c : Controller} {d : DeviceId} {rules : Table FlowRule}

theorem TracesTo.roadmState (traces : c.TracesTo d rules) :
    Roadm.Traced rules (c.roadmState d).connections :=
  Remembers.roadmState traces (fun _ => ConnectionCache.all_empty) rfl

theorem tracesTo_runRoadm {α : Type} {action : Roadm.Action α} (answer : α → Answer)
    (traces : Roadm.Traces rules (c.roadmState d) (action.run (c.roadmState d)).2) :
    (c.runRoadm d action answer).2.TracesTo d rules := by
  rintro device cache found rfl
  change (c.keepRoadm device (action.run (c.roadmState device)).2).caches.get? device.name = _
    at found
  rw [keepRoadm] at found
  dsimp only at found
  cases kept : (action.run (c.roadmState device)).2.cache with
  | none =>
    have missing : c.caches.get? device.name = none := traces.unopened kept
    rw [kept, missing] at found
    cases found
  | some opened =>
    rw [kept] at found
    dsimp only at found
    rw [Table.get?_insert_self, Option.some.injEq] at found
    have traced := traces.traced
    rw [Roadm.State.connections, kept] at traced
    exact found ▸ traced

/-- Where no rule is applied, what was asked for stays as it is. -/
theorem TracesTo.step (traces : c.TracesTo d rules) (operation : Operation)
    (apart : ∀ rule, operation ≠ .apply rule) (apartAll : ∀ asked, operation ≠ .applyRules asked) :
    (c.step d operation).2.TracesTo d rules := by
  refine traces.step_of_wanes d (fun _ => ConnectionCache.all_empty) ?_ operation ?_ ?_
  · have wanes := Roadm.wanes_traced (c.roadm d) rules
    exact ⟨fun cache name traced same => wanes.erase cache name (traced same),
      fun cache name dbm inRange traced same => wanes.setPower cache name dbm inRange (traced same)⟩
  · exact fun rule same => absurd same (apart rule)
  · exact fun asked same => absurd same (apartAll asked)

/-- Operations on other devices are of no concern. -/
theorem TracesTo.step_of_ne (traces : c.TracesTo d rules) {device : DeviceId} (other : device ≠ d)
    (operation : Operation) : (c.step device operation).2.TracesTo d rules := by
  have kept (s : Roadm.State) : device = d → Roadm.Traced rules s.connections :=
    fun same => absurd same other
  refine traces.step_of_wanes device (fun same => absurd same other) ?_ operation ?_ ?_
  · exact ⟨fun _ _ _ same => absurd same other, fun _ _ _ _ _ same => absurd same other⟩
  · exact fun rule _ _ _ => kept _
  · exact fun rules _ _ _ => kept _

/-- A device that is not bound as a node is not touched. -/
theorem TracesTo.step_of_unbound (traces : c.TracesTo d rules)
    (unbound : c.model? d ≠ some .openRoadm) (operation : Operation) :
    (c.step d operation).2.TracesTo d rules := by
  cases operation with
  | apply rule =>
    rw [Controller.step, onRoadm]
    split
    · exact traces
    · next bound => exact absurd bound unbound
    · exact traces
  | applyRules asked =>
    rw [Controller.step, onAny]
    split
    · exact traces
    · next bound => exact absurd bound unbound
    · exact traces
  | _ => exact traces.step _ (by simp) (by simp)

theorem TracesTo.step_apply (traces : c.TracesTo d rules) (bound : c.model? d = some .openRoadm)
    (rule : FlowRule) :
    (c.step d (.apply rule)).2.TracesTo d
      ((Operation.applied (.apply rule) (c.step d (.apply rule)).1).foldl (c.roadm d).note rules) := by
  have stepped : c.step d (.apply rule) = c.runRoadm d ((c.roadm d).apply rule) .connection := by
    rw [Controller.step, onRoadm, bound]
  have done := Roadm.traces_apply (r := c.roadm d) traces.roadmState rule
  rw [stepped]
  refine tracesTo_runRoadm .connection ?_
  change Roadm.Traces ((Operation.applied (.apply rule)
    (answerOf .connection (((c.roadm d).apply rule).run (c.roadmState d)).1)).foldl _ rules) _ _
  cases answered : (((c.roadm d).apply rule).run (c.roadmState d)).1 with
  | error e =>
    rw [answered] at done
    exact done
  | ok conn =>
    rw [answered] at done
    exact done

theorem TracesTo.step_applyRules (traces : c.TracesTo d rules)
    (bound : c.model? d = some .openRoadm) (asked : List FlowRule) :
    (c.step d (.applyRules asked)).2.TracesTo d
      ((Operation.applied (.applyRules asked) (c.step d (.applyRules asked)).1).foldl
        (c.roadm d).note rules) := by
  have stepped : c.step d (.applyRules asked) =
      c.runRoadm d ((c.roadm d).applyAll asked) .rules := by
    rw [Controller.step, onAny, bound]
  obtain ⟨done, answered, last⟩ :=
    Roadm.traces_applyAll (r := c.roadm d) traces.roadmState asked
  rw [stepped]
  refine tracesTo_runRoadm .rules ?_
  change Roadm.Traces ((Operation.applied (.applyRules asked)
    (answerOf .rules (((c.roadm d).applyAll asked).run (c.roadmState d)).1)).foldl _ rules) _ _
  rw [answered]
  exact last

theorem TracesTo.after (traces : c.TracesTo d rules) (event : Event) :
    (c.after event).TracesTo d ((c.applied d event).foldl (c.roadm d).note rules) := by
  cases event with
  | surround => exact traces
  | operate device operation =>
    rw [applied]
    by_cases here : device = d
    · subst here
      by_cases bound : c.model? device = some .openRoadm
      · rw [if_pos ⟨rfl, bound⟩]
        cases operation with
        | apply rule => exact traces.step_apply bound rule
        | applyRules asked => exact traces.step_applyRules bound asked
        | _ => exact traces.step _ (by simp) (by simp)
      · rw [if_neg fun both => bound both.2]
        exact traces.step_of_unbound bound operation
    · rw [if_neg fun both => here both.1]
      exact traces.step_of_ne here operation

/-- After every run, what is remembered for a node is what the rules ask for that were last applied
    under its names. -/
theorem tracesTo_lastRules (config : Config) (d : DeviceId) (events : List Event) :
    (run config events).TracesTo d (lastRules config d events) := by
  have later (c : Controller) (rules : Table FlowRule) (traces : c.TracesTo d rules) :
      (events.foldl Controller.after c).TracesTo d (c.rulesAfter d rules events) := by
    induction events generalizing c rules with
    | nil => exact traces
    | cons event events ih => exact ih _ _ (traces.after event)
  exact later _ _ fun _ _ found => nomatch found

/-- Whatever has happened to the controller and whatever a node lists: each time it lists a
    remembered connection, a reconciliation that can read it answers there with an entry for what
    was last asked for under the name. -/
theorem recovers_last_rule (config : Config) (events : List Event) (d : DeviceId) (name : String)
    (conn : Connection) :
    let c := run config events
    let r := c.roadm d
    let known : ConnectionCache := (c.caches.get? d.name).getD .empty
    known.get? name = some conn →
      ∃ rule, (lastRules config d events).get? name = some rule ∧
        ∀ (rec : Netconf.Recorder) (front back : List Document) (node : Document),
          rec.readsFail = false → Roadm.listed rec.configReply = front ++ node :: back →
          Roadm.listedName? node = some name →
            ∃ entry, rule.Recovered entry ∧
              (r.reconcile.run (.through (c.caches.get? d.name) (some rec))).1 =
                .ok (r.entries known front ++ entry :: r.entries known back) := by
  intro c r known found
  have traced : Roadm.Traced (lastRules config d events) known :=
    Remembers.getD (tracesTo_lastRules config d events) (fun _ => ConnectionCache.all_empty) rfl
  obtain ⟨rule, last, realizes⟩ := traced name conn found
  refine ⟨rule, last, fun rec front back node reads lists named => ?_⟩
  obtain ⟨entry, entered, recovered⟩ := Roadm.recovered_of_realizes (r := r) realizes
  refine ⟨entry, recovered, ?_⟩
  rw [Roadm.run_reconcile_of_reads _ _ reads, lists]
  dsimp only
  rw [Roadm.entries_append_cons named found entered]

/-- A channel of 50 GHz is recovered from what is listed. -/
theorem recovers_last_rule_of_crossConnect :
    let rule := Sample.crossConnect ⟨401⟩ ⟨302⟩ 0
    let name := "NMC-CTP-DEG1-TTP-RX-193.1-to-NMC-CTP-DEG2-TTP-TX-193.1"
    let lister : Netconf.Recorder := { configReply := Sample.connections [name] }
    ∃ entry, rule.Recovered entry ∧ entry.rule.sameIntent rule ∧
      (((run {} (Event.sampleRun rule)).roadm Sample.roadm).reconcile.run
        (.through ((run {} (Event.sampleRun rule)).caches.get? Sample.roadm.name)
          (some lister))).1 = .ok [entry] := by
  intro rule name lister
  have remembered : ((((run {} (Event.sampleRun rule)).caches.get? Sample.roadm.name).getD
      .empty).get? name).isSome := by decide +kernel
  have applied : (lastRules {} Sample.roadm (Event.sampleRun rule)).get? name = some rule := by
    decide +kernel
  obtain ⟨conn, found⟩ := Option.isSome_iff_exists.1 remembered
  obtain ⟨last, noted, recovers⟩ :=
    recovers_last_rule {} (Event.sampleRun rule) Sample.roadm name conn found
  obtain rfl : rule = last := Option.some.inj (applied.symm.trans noted)
  let node : Document := .object [(CircuitEdit.connectionNameKey, .text name),
    ("opticalControlMode", .text "off"), (CircuitEdit.powerKey, .number 0)]
  have lists : Roadm.listed lister.configReply = [] ++ node :: [] := by
    have keys : Document.keysOf (CircuitEdit.replyPath CircuitEdit.connectionsKey) =
        ["data", CircuitEdit.root, CircuitEdit.connectionsKey] := by decide +kernel
    rw [Roadm.listed, Document.nodesAt, Document.at?, keys]
    rfl
  obtain ⟨entry, recovered, answered⟩ := recovers lister [] [] node rfl lists rfl
  rw [Roadm.entries_nil, List.nil_append] at answered
  refine ⟨entry, recovered, recovered.sameIntent_iff.2 ?_, answered⟩
  exact ⟨.dwdm .ghz50 0, rfl, rfl, by decide, by decide⟩

end Controller

end Lightpath
