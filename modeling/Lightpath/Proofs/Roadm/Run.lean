import Lightpath.Proofs.Circuit.Holdings
import Lightpath.Proofs.Roadm.Remembered
import Lightpath.Sample
import Mathlib.Data.List.Induction

/-!
# Runs of a node

A node is called again and again. Between two calls its ports may become other ones and so may the
session, so that nothing is assumed of what the device answers from one call to the next. What is
remembered and what the device holds after a run follows from the calls one after the other.
-/

namespace Lightpath.Roadm

/-- What a node is called for. -/
inductive Call where
  | apply (rule : FlowRule)
  | release (rule : FlowRule)
  | reconcile
  | setTargetPower (port : PortNumber) (channel : Option Channel) (dbm : Float)
  | deleteByName (name : String)
deriving Inhabited

/-- What is done for a call. -/
def Call.action (r : Roadm) : Call → Action Unit
  | .apply rule => do let _ ← r.apply rule
  | .release rule => do let _ ← r.release rule
  | .reconcile => do let _ ← r.reconcile
  | .setTargetPower port channel dbm => r.setTargetPower port channel dbm
  | .deleteByName name => r.deleteByName name

theorem Call.keeps_action {r : Roadm} {I : ConnectionCache → Prop} (kept : Kept r I) (call : Call) :
    (call.action r).Keeps I := by
  cases call with
  | apply rule => exact (keeps_apply kept rule).bind fun _ => Action.keeps_pure _
  | release rule => exact (keeps_release kept.wanes rule).bind fun _ => Action.keeps_pure _
  | reconcile => exact keeps_reconcile.bind fun _ => Action.keeps_pure _
  | setTargetPower port channel dbm => exact keeps_setTargetPower kept.wanes port channel dbm
  | deleteByName name => exact keeps_deleteByName kept.wanes name

/-- A call, with the ports that the node has by then and the session through which it is reached,
    if it is. -/
structure Turn where
  ports : List Port
  session : Option Netconf.Recorder
  call : Call
deriving Inhabited

/-- A turn of the sample node that is reached through a recorder. -/
def Turn.sample (call : Call) (rec : Netconf.Recorder) : Turn := ⟨Sample.ports, some rec, call⟩

/-- What is remembered for a node and what the device holds. -/
structure Standing where
  cache : Option ConnectionCache := none
  held : Holdings := {}
deriving Inhabited

/-- The sample node. -/
def sample : Roadm := ⟨Sample.roadm, {}, Sample.ports⟩

/-- The node at the time of a turn. -/
def Turn.node (r : Roadm) (t : Turn) : Roadm := { r with ports := t.ports }

/-- A call whose answer is not looked at ends as the call does. -/
theorem run_discard {α : Type} (x : Action α) (state : State) :
    (do let _ ← x : Action Unit).run state =
      ((x.run state).1.map fun _ => (), (x.run state).2) := by
  rw [Action.run_bind]
  rcases x.run state with ⟨_ | _, _⟩ <;> rfl

theorem Declined.discard {α : Type} {x : Action α} {state : State}
    (declined : Declined state (x.run state)) :
    Declined state ((do let _ ← x : Action Unit).run state) := by
  obtain ⟨⟨e, failed⟩, sameSession, sameConnections⟩ := declined
  rw [run_discard, failed]
  exact ⟨⟨e, rfl⟩, sameSession, sameConnections⟩

namespace Standing

/-- The connections remembered; none without a cache. -/
def connections (s : Standing) : ConnectionCache := s.cache.getD .empty

/-- The state in which a turn is taken. -/
def before (s : Standing) (t : Turn) : State := .through s.cache t.session

/-- How a turn ends. -/
def ended (r : Roadm) (s : Standing) (t : Turn) : Except Error Unit × State :=
  (t.call.action (t.node r)).run (s.before t)

/-- The edits that are sent in a turn. -/
def sent (r : Roadm) (s : Standing) (t : Turn) : List Netconf.Exchange :=
  (s.ended r t).2.exchangesSince (s.before t)

/-- What is remembered and held after a turn. -/
def after (r : Roadm) (s : Standing) (t : Turn) : Standing :=
  ⟨(s.ended r t).2.cache, s.held.replay (s.sent r t)⟩

/-- What is remembered and held after a run, when nothing was so before it. -/
def run (r : Roadm) (turns : List Turn) : Standing := turns.foldl (after r) {}

/-- Every turn of a run is allowed where it is taken. -/
def Along (r : Roadm) (allowed : Standing → Turn → Prop) (turns : List Turn) : Prop :=
  ∀ before t, before ++ [t] <+: turns → allowed (run r before) t

/-- A turn that ends in an error, and all stays as it was. -/
structure Idle (r : Roadm) (s : Standing) (t : Turn) : Prop where
  failed : ∃ e, (s.ended r t).1 = .error e
  sent_eq : s.sent r t = []
  connections_eq : (s.after r t).connections = s.connections
  held_eq : (s.after r t).held = s.held

/-- A turn that works through planned steps. If all that it sends is taken then what is remembered
    is `done`. -/
structure Works (r : Roadm) (s : Standing) (t : Turn) (steps : List CircuitEdit.Step)
    (done : ConnectionCache) : Prop where
  returned_iff : (s.ended r t).1 = .ok () ↔ ∀ e ∈ s.sent r t, e.taken
  after_of_returned : (s.ended r t).1 = .ok () → s.after r t = ⟨some done, s.held.carry steps⟩

variable {r : Roadm} {allowed : Standing → Turn → Prop}

theorem run_concat (before : List Turn) (t : Turn) :
    run r (before ++ [t]) = (run r before).after r t := by
  rw [run, List.foldl_append]
  rfl

theorem Along.of_prefix {turns before : List Turn} (along : Along r allowed turns)
    (earlier : before <+: turns) : Along r allowed before :=
  fun first t within => along first t (within.trans earlier)

theorem along_nil : Along r allowed [] := by
  intro before t within
  exact absurd (List.prefix_nil.1 within) (List.append_ne_nil_of_right_ne_nil _ (by simp))

theorem Along.concat {turns : List Turn} {t : Turn} (along : Along r allowed turns)
    (last : allowed (run r turns) t) : Along r allowed (turns ++ [t]) := by
  intro before t' within
  rcases List.prefix_concat_iff.1 within with whole | earlier
  · obtain ⟨rfl, rfl⟩ := List.append_singleton_inj.1 whole
    exact last
  · exact along before t' earlier

/-- What holds at the start and is kept by every allowed turn holds after every run. -/
theorem run_invariant {P : Standing → Prop} (start : P {})
    (kept : ∀ s t, P s → allowed s t → P (s.after r t)) {turns : List Turn}
    (along : Along r allowed turns) : P (run r turns) := by
  induction turns using List.reverseRecOn with
  | nil => exact start
  | append_singleton before t ih =>
    have earlier : P (run r before) := ih (along.of_prefix (List.prefix_append before [t]))
    rw [run_concat]
    exact kept _ t earlier (along before t List.prefix_rfl)

/-- What every operation keeps holds of the connections remembered after every run. -/
theorem kept_run {I : ConnectionCache → Prop} (kept : ∀ ports, Kept { r with ports } I)
    (turns : List Turn) : I (run r turns).connections := by
  have always : Along r (fun _ _ => True) turns := fun _ _ _ => trivial
  refine run_invariant (P := fun s => I s.connections) (kept []).empty ?_ always
  intro s t holds _
  exact Call.keeps_action (kept t.ports) t.call (s.before t) holds

variable {s : Standing} {ports : List Port} {session : Option Netconf.Recorder}

theorem idle_of_declined {t : Turn} (declined : Declined (s.before t) (s.ended r t)) :
    s.Idle r t := by
  obtain ⟨failed, sameSession, sameConnections⟩ := declined
  have nothing : s.sent r t = [] := State.exchangesSince_of_session_eq sameSession
  refine ⟨failed, nothing, sameConnections, ?_⟩
  rw [after, nothing]
  rfl

theorem sent_of_attempt {t : Turn} {rec : Netconf.Recorder} {steps : List CircuitEdit.Step}
    {answer : Except Error Unit} {cache : Option ConnectionCache} (reached : t.session = some rec)
    (ran : s.ended r t = (answer, .through cache (some (rec.hear
      ((rec.attempt r.config.datastore rec.edits steps).map (·.request)))))) :
    s.sent r t = rec.attempt r.config.datastore rec.edits steps := by
  rw [sent, ran, before, reached, State.exchangesSince_through, rec.answers_attempt]

/-- A turn over a recorder that attempts planned steps works through them. -/
theorem works_of_attempt {t : Turn} {rec : Netconf.Recorder} {steps : List CircuitEdit.Step}
    {cache done : ConnectionCache} (reached : t.session = some rec)
    (ran : s.ended r t = (rec.verdict rec.edits steps, .through (some cache) (some (rec.hear
      ((rec.attempt r.config.datastore rec.edits steps).map (·.request))))))
    (kept : rec.verdict rec.edits steps = .ok () → cache = done) : s.Works r t steps done := by
  have all := sent_of_attempt reached ran
  constructor
  · rw [ran, all]
    exact rec.verdict_eq_ok_iff r.config.datastore rec.edits steps
  · intro returned
    rw [ran] at returned
    rw [after, all, ran, s.held.replay_attempt_of_verdict r.config.datastore returned,
      kept returned]
    rfl

section Calls

variable (r s ports session)

/-- A rule that can be applied is so by working through the steps that make its connection. -/
theorem works_apply {rule : FlowRule} {conn : Connection}
    (admits : (Turn.node r ⟨ports, session, .apply rule⟩).Admits
      (s.before ⟨ports, session, .apply rule⟩) rule conn) :
    s.Works r ⟨ports, session, .apply rule⟩ (CircuitEdit.creation conn)
      (s.connections.add conn) := by
  cases session with
  | none => exact absurd admits.reached Bool.false_ne_true
  | some rec =>
    have ran : s.ended r ⟨ports, some rec, .apply rule⟩ =
        (rec.verdict rec.edits (CircuitEdit.creation conn),
          .through
            (some (if (rec.verdict rec.edits (CircuitEdit.creation conn)).isOk then
                s.connections.add conn
              else s.connections))
            (some (rec.hear ((rec.attempt r.config.datastore rec.edits
              (CircuitEdit.creation conn)).map (·.request))))) := by
      refine (run_discard (Roadm.apply _ rule) (s.before _)).trans ?_
      rw [before, run_apply_of_admits _ admits]
      cases rec.verdict rec.edits (CircuitEdit.creation conn) <;> rfl
    exact works_of_attempt rfl ran fun done => by rw [done]; rfl

theorem idle_or_works_apply (rule : FlowRule) :
    let t : Turn := ⟨ports, session, .apply rule⟩
    s.Idle r t ∨ ∃ conn, (t.node r).Admits (s.before t) rule conn ∧
      s.Works r t (CircuitEdit.creation conn) (s.connections.add conn) := by
  intro t
  by_cases able : ∃ conn, (t.node r).Admits (s.before t) rule conn
  · obtain ⟨conn, admits⟩ := able
    exact .inr ⟨conn, admits, works_apply r s ports session admits⟩
  · refine .inl (idle_of_declined ?_)
    exact (declined_apply (t.node r) (s.before t) rule (not_exists.1 able)).discard

/-- A rule that can be released is so by working through the steps that take its connection
    away. -/
theorem works_release {rule : FlowRule} {conn : Connection}
    (finds : (Turn.node r ⟨ports, session, .release rule⟩).Finds
      (s.before ⟨ports, session, .release rule⟩) rule conn) :
    s.Works r ⟨ports, session, .release rule⟩
      (CircuitEdit.withdrawal conn.name conn.names.networks (conn.medias.map (·.name)))
      (s.connections.erase conn.name) := by
  cases session with
  | none => exact absurd finds.reached Bool.false_ne_true
  | some rec =>
    let steps := CircuitEdit.withdrawal conn.name conn.names.networks (conn.medias.map (·.name))
    have ran : s.ended r ⟨ports, some rec, .release rule⟩ =
        (rec.verdict rec.edits steps,
          .through
            (some (if (rec.failure? (rec.edits + 1)).isNone then s.connections.erase conn.name
              else s.connections))
            (some (rec.hear
              ((rec.attempt r.config.datastore rec.edits steps).map (·.request))))) := by
      refine (run_discard (Roadm.release _ rule) (s.before _)).trans ?_
      rw [before, run_release_of_finds _ finds]
      dsimp only [steps]
      cases rec.verdict rec.edits _ <;> rfl
    refine works_of_attempt rfl ran fun done => if_pos ?_
    rw [rec.failure?_of_verdict rec.edits done]
    rfl

theorem idle_or_works_release (rule : FlowRule) :
    let t : Turn := ⟨ports, session, .release rule⟩
    s.Idle r t ∨ ∃ conn, (t.node r).Finds (s.before t) rule conn ∧
      s.Works r t
        (CircuitEdit.withdrawal conn.name conn.names.networks (conn.medias.map (·.name)))
        (s.connections.erase conn.name) := by
  intro t
  by_cases able : ∃ conn, (t.node r).Finds (s.before t) rule conn
  · obtain ⟨conn, finds⟩ := able
    exact .inr ⟨conn, finds, works_release r s ports session finds⟩
  · refine .inl (idle_of_declined ?_)
    exact (declined_release (t.node r) (s.before t) rule (not_exists.1 able)).discard

/-- A power is set by the one step that does so, if it can be. -/
theorem idle_or_works_setTargetPower (port : PortNumber) (channel : Option Channel) (dbm : Float) :
    let t : Turn := ⟨ports, session, .setTargetPower port channel dbm⟩
    s.Idle r t ∨ ∃ conn, (t.node r).Tunes (s.before t) port channel dbm conn ∧
      s.Works r t [powerStep conn.name dbm] (s.connections.setPower conn.name dbm) := by
  intro t
  by_cases able : ∃ conn, (t.node r).Tunes (s.before t) port channel dbm conn
  · obtain ⟨conn, tunes⟩ := able
    refine .inr ⟨conn, tunes, ?_⟩
    cases session with
    | none => exact absurd tunes.reached Bool.false_ne_true
    | some rec =>
      exact works_of_attempt rfl (run_setTargetPower_of_tunes _ tunes) fun done => by rw [done]; rfl
  · exact .inl (idle_of_declined
      (declined_setTargetPower (t.node r) (s.before t) port channel dbm (not_exists.1 able)))

/-- A connection is deleted by its name by working through the steps that take it away, if the
    names of its channels can be told from it. -/
theorem idle_or_works_deleteByName (name : String) :
    let t : Turn := ⟨ports, session, .deleteByName name⟩
    s.Idle r t ∨ ∃ names, CircuitNames.ofConnection? name = some names ∧
      s.Works r t (CircuitEdit.withdrawal name names.networks names.medias)
        (s.connections.erase name) := by
  intro t
  cases splits : CircuitNames.ofConnection? name with
  | none => exact .inl (idle_of_declined (declined_deleteByName (t.node r) (.inl splits)))
  | some names =>
    cases session with
    | none => exact .inl (idle_of_declined (declined_deleteByName (t.node r) (.inr rfl)))
    | some rec =>
      refine .inr ⟨names, rfl, ?_⟩
      exact works_of_attempt rfl (run_deleteByName_of_splits _ splits) fun done => by rw [done]; rfl

/-- A reconciliation that returns has changed nothing that is remembered, and all edits that it has
    sent take away what is not remembered. -/
theorem returned_reconcile :
    let t : Turn := ⟨ports, session, .reconcile⟩
    (s.ended r t).1 = .ok () →
      (s.after r t).connections = s.connections ∧
        ∀ e ∈ s.sent r t, ∃ name, s.connections.get? name = none ∧
          e.request ∈ (withdrawalOf name).map (Netconf.stepRequest r.config.datastore) := by
  intro t returned
  have ran := run_discard (t.node r).reconcile (s.before t)
  change s.ended r t = _ at ran
  cases session with
  | none =>
    have unreached : (t.node r).reconcile.run (s.before t) =
        (.error (.noSession r.device), s.before t) := rfl
    rw [ran, unreached] at returned
    cases returned
  | some rec =>
    cases reads : rec.readsFail with
    | true =>
      rw [ran, before, run_reconcile, reads] at returned
      cases returned
    | false =>
      have edits : s.sent r t = rec.attempts r.config.datastore rec.edits
          ((orphans s.connections (listed rec.configReply)).map withdrawalOf) := by
        rw [sent, ran]
        exact exchangesSince_reconcile (t.node r) s.cache reads
      rw [before, run_reconcile_of_reads (t.node r) s.cache reads] at ran
      refine ⟨by rw [after, ran]; rfl, fun e member => ?_⟩
      rw [edits] at member
      obtain ⟨steps, planned, listed⟩ := rec.mem_attempts _ _ member
      obtain ⟨name, orphan, rfl⟩ := List.mem_map.1 planned
      exact ⟨name, get?_of_mem_orphans orphan, listed⟩

end Calls

end Standing

end Lightpath.Roadm
