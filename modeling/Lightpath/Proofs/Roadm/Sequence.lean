import Lightpath.Proofs.Controller.Run

/-!
# The order of edits

Applying and releasing a rule sends three edits, in an order in which nothing refers to what is not
there, and stops at the first one that is not taken. What is remembered changes at one edit: at the
last one when a connection is made, at the first one when it is taken away.
-/

namespace Lightpath.Roadm

/-- The edits that make a connection. -/
def creationPlan (datastore : Datastore) (conn : Connection) : List Netconf.Request :=
  [CircuitEdit.createMedias conn, CircuitEdit.createNetworks conn,
    CircuitEdit.createConnection conn].map (.editConfig datastore .merge)

/-- The edits that take a connection away. -/
def withdrawalPlan (datastore : Datastore) (conn : Connection) : List Netconf.Request :=
  [CircuitEdit.deleteConnection conn.name, CircuitEdit.deleteInterfaces conn.names.networks,
    CircuitEdit.deleteInterfaces conn.names.medias].map (.editConfig datastore .merge)

/-- An operation on a connection sends what is planned, up to the first edit that is not taken, and
    returns the connection exactly if all is sent and taken. -/
structure Follows (plan : List Netconf.Request) (conn : Connection)
    (answer : Except Error Connection) (sent : List Netconf.Exchange) : Prop where
  followsPlan : Netconf.FollowsPlan plan sent
  returned_iff : ∀ given, answer = .ok given ↔
    given = conn ∧ sent.length = plan.length ∧ ∀ e ∈ sent, e.taken

/-- What applying a rule comes to. -/
structure Applies (r : Roadm) (before : State) (rule : FlowRule)
    (ended : Except Error Connection × State) : Prop where
  /-- What cannot be applied is refused, and nothing is sent. -/
  declined : (∀ conn, ¬ r.Admits before rule conn) →
    Declined before ended ∧ ended.2.exchangesSince before = []
  follows : ∀ conn, r.Admits before rule conn →
    Follows (creationPlan r.config.datastore conn) conn ended.1 (ended.2.exchangesSince before)
  /-- The connection is remembered once it has been made, and else nothing changes. -/
  remembered : ∀ conn, r.Admits before rule conn →
    ended.2.connections =
      if ended.1.isOk then before.connections.insert conn.name conn else before.connections

/-- What releasing a rule comes to. -/
structure Releases (r : Roadm) (before : State) (rule : FlowRule)
    (ended : Except Error Connection × State) : Prop where
  /-- What cannot be released is refused, and nothing is sent. -/
  declined : (∀ conn, ¬ r.Finds before rule conn) →
    Declined before ended ∧ ended.2.exchangesSince before = []
  follows : ∀ conn, r.Finds before rule conn →
    Follows (withdrawalPlan r.config.datastore conn) conn ended.1 (ended.2.exchangesSince before)
  known : ∀ conn, r.Finds before rule conn → before.connections.get? conn.name = some conn
  /-- The connection is forgotten once the device has dropped it, and else nothing changes. -/
  remembered : ∀ conn, r.Finds before rule conn →
    ended.2.connections =
      if (ended.2.exchangesSince before).head?.any (·.taken) then before.connections.erase conn.name
      else before.connections

variable {r : Roadm} {cache : Option ConnectionCache} {session : Option Netconf.Recorder}
  {rule : FlowRule} {conn : Connection}

theorem follows_attempt (rec : Netconf.Recorder) (datastore : Datastore)
    (steps : List CircuitEdit.Step) (conn : Connection) :
    Follows (steps.map (Netconf.stepRequest datastore)) conn
      ((rec.verdict rec.edits steps).map fun _ => conn)
      (rec.attempt datastore rec.edits steps) := by
  refine ⟨rec.followsPlan_attempt datastore rec.edits steps, fun given => ?_⟩
  have done := rec.verdict_eq_ok_iff datastore rec.edits steps
  cases verdict : rec.verdict rec.edits steps with
  | ok =>
    have complete : (rec.attempt datastore rec.edits steps).length =
        (steps.map (Netconf.stepRequest datastore)).length := by
      rw [rec.attempt_of_verdict datastore rec.edits verdict, List.length_map, List.length_map]
    constructor
    · rintro ⟨⟩
      exact ⟨rfl, complete, done.1 verdict⟩
    · rintro ⟨rfl, -⟩
      rfl
  | error e =>
    refine iff_of_false (fun same => nomatch same) ?_
    rintro ⟨-, -, taken⟩
    rw [verdict] at done
    cases done.2 taken

theorem applies_apply :
    r.Applies (.through cache session) rule ((r.apply rule).run (.through cache session)) := by
  refine ⟨fun refused => ?_, fun conn admits => ?_, fun conn admits => ?_⟩
  · have declined := r.declined_apply _ rule refused
    exact ⟨declined, State.exchangesSince_of_session_eq declined.session_eq⟩
  · cases session with
    | none => exact absurd admits.reached Bool.false_ne_true
    | some rec =>
      rw [run_apply_of_admits r admits]
      dsimp only
      rw [State.exchangesSince_through, rec.answers_attempt]
      exact follows_attempt rec r.config.datastore (CircuitEdit.creation conn) conn
  · cases session with
    | none => exact absurd admits.reached Bool.false_ne_true
    | some rec =>
      rw [run_apply_of_admits r admits]
      cases rec.verdict rec.edits (CircuitEdit.creation conn) <;> rfl

/-- A connection with its media channels is taken away in three steps. -/
theorem map_stepRequest_withdrawal (datastore : Datastore) (shaped : conn.Shaped) :
    (CircuitEdit.withdrawal conn.name conn.names.networks (conn.medias.map (·.name))).map
      (Netconf.stepRequest datastore) = withdrawalPlan datastore conn := by
  have some_media : (conn.medias.map (·.name)).isEmpty = false := by
    rw [List.isEmpty_eq_false_iff]
    exact fun none => shaped.medias_ne_nil (List.map_eq_nil_iff.1 none)
  rw [CircuitEdit.withdrawal, CircuitEdit.clearance, CircuitEdit.deletionSteps, some_media,
    shaped.map_name_medias]
  rfl

theorem releases_release (sound : (cache.getD .empty).Sound) :
    r.Releases (.through cache session) rule ((r.release rule).run (.through cache session)) := by
  have known (conn : Connection) (finds : r.Finds (.through cache session) rule conn) :
      (cache.getD .empty).get? conn.name = some conn ∧ conn.Shaped := by
    obtain ⟨built, -, found⟩ := finds.remembered
    obtain ⟨same, shaped⟩ := sound _ conn found
    exact ⟨same ▸ found, shaped⟩
  refine ⟨fun refused => ?_, fun conn finds => ?_, fun conn finds => (known conn finds).1,
    fun conn finds => ?_⟩
  · have declined := r.declined_release _ rule refused
    exact ⟨declined, State.exchangesSince_of_session_eq declined.session_eq⟩
  · cases session with
    | none => exact absurd finds.reached Bool.false_ne_true
    | some rec =>
      rw [run_release_of_finds r finds]
      dsimp only
      rw [State.exchangesSince_through, rec.answers_attempt,
        ← map_stepRequest_withdrawal r.config.datastore (known conn finds).2]
      exact follows_attempt rec r.config.datastore _ conn
  · cases session with
    | none => exact absurd finds.reached Bool.false_ne_true
    | some rec =>
      rw [run_release_of_finds r finds]
      dsimp only
      rw [State.exchangesSince_through, rec.answers_attempt]
      rfl

/-- Whatever has happened to the controller and whatever the device answers, the edits of a rule
    that is applied or released follow their plan, and what is remembered follows the edits. -/
theorem applies_and_releases_after_run (config : Config) (events : List Controller.Event)
    (d : DeviceId) (session : Option Netconf.Recorder) (rule : FlowRule) :
    let c := Controller.run config events
    let before := State.through (c.caches.get? d.name) session
    (c.roadm d).Applies before rule (((c.roadm d).apply rule).run before) ∧
      (c.roadm d).Releases before rule (((c.roadm d).release rule).run before) := by
  intro c before
  have remembers : c.Remembers fun _ => ConnectionCache.Sound :=
    Controller.remembers_run (fun d ports => kept_sound ⟨d, config, ports⟩) events
  have sound : ((c.caches.get? d.name).getD .empty).Sound := by
    cases known : c.caches.get? d.name with
    | none => exact ConnectionCache.all_empty
    | some cache => exact remembers d cache known
  exact ⟨applies_apply, releases_release sound⟩

end Lightpath.Roadm
