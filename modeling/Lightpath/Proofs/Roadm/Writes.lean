import Lightpath.Proofs.Roadm.Power
import Lightpath.Proofs.Roadm.Reconcile
import Lightpath.Roadm.Discovery

/-!
# What is written whatever happens

A node writes documents of three kinds: those that make the connection of a rule, those that take
one away, and those that set a power within the powers that may be asked for. What all of these
say, everything says that is written in the course of any operation, whatever the device answers
and wherever the operation stops.
-/

namespace Lightpath

namespace Netconf

/-- The document that a request writes. -/
def Request.body? : Request → Option Document
  | .editConfig _ _ body => some body
  | _ => none

/-- Everything that is written has a property. -/
def Write (P : Document → Prop) (requests : List Request) : Prop :=
  ∀ request ∈ requests, ∀ body ∈ request.body?, P body

variable {P : Document → Prop}

theorem write_nil : Write P [] := fun _ member => absurd member List.not_mem_nil

theorem Write.append {first second : List Request} (one : Write P first) (other : Write P second) :
    Write P (first ++ second) := by
  intro request member
  rcases List.mem_append.1 member with earlier | later
  · exact one request earlier
  · exact other request later

/-- A request that writes nothing. -/
theorem write_of_no_body {request : Request} (reads : request.body? = none) : Write P [request] := by
  intro request' member body written
  rw [List.mem_singleton.1 member, reads] at written
  cases written

theorem Recorder.write_attempt {steps : List CircuitEdit.Step}
    (written : ∀ step ∈ steps, P step.body) (rec : Recorder) (datastore : Datastore) (count : Nat) :
    Write P ((rec.attempt datastore count steps).map (·.request)) := by
  intro request member body said
  have planned := (rec.followsPlan_attempt datastore count steps).isPrefix.subset member
  obtain ⟨step, listed, rfl⟩ := List.mem_map.1 planned
  obtain rfl : step.body = body := Option.some.inj said
  exact written step listed

theorem Recorder.write_attempts {works : List (List CircuitEdit.Step)}
    (written : ∀ steps ∈ works, ∀ step ∈ steps, P step.body) (rec : Recorder)
    (datastore : Datastore) (count : Nat) :
    Write P ((rec.attempts datastore count works).map (·.request)) := by
  induction works generalizing count with
  | nil => exact write_nil
  | cons steps works ih =>
    rw [attempts, List.map_append]
    refine (rec.write_attempt (written steps List.mem_cons_self) datastore count).append ?_
    exact ih (fun later listed => written later (List.mem_cons_of_mem _ listed)) _

/-- The edits that are answered are among the requests. -/
theorem Recorder.mem_of_mem_answers {rec : Recorder} {count : Nat} {requests : List Request}
    {e : Exchange} (answered : e ∈ rec.answers count requests) : e.request ∈ requests := by
  induction requests generalizing count with
  | nil => exact absurd answered List.not_mem_nil
  | cons request requests ih =>
    rw [answers] at answered
    split at answered
    · rcases List.mem_cons.1 answered with rfl | later
      · exact List.mem_cons_self
      · exact List.mem_cons_of_mem _ (ih later)
    · exact List.mem_cons_of_mem _ (ih answered)

end Netconf

namespace Roadm

/-- What the documents say that a node writes: those that make the connection of a rule, those that
    take a connection away, and those that set a power. -/
structure Permits (r : Roadm) (P : Document → Prop) : Prop where
  creation : ∀ rule conn, r.planned rule = .ok conn → ∀ step ∈ CircuitEdit.creation conn, P step.body
  withdrawal : ∀ name networks medias, ∀ step ∈ CircuitEdit.withdrawal name networks medias,
    P step.body
  setPower : ∀ name dbm, r.config.powerRange.contains dbm → P (CircuitEdit.setPower name dbm)

/-- A recorder has heard some more, and all that was written has a property. -/
def State.Heard (P : Document → Prop) (rec : Netconf.Recorder) (after : State) : Prop :=
  ∃ cache requests, after = .through cache (some (rec.hear requests)) ∧ Netconf.Write P requests

/-- All that is written in an operation over a recorder has a property. -/
def Action.Writes (P : Document → Prop) {α : Type} (x : Action α) : Prop :=
  ∀ cache rec, (x.run (.through cache (some rec))).2.Heard P rec

variable {P : Document → Prop}

/-- The edits that were sent have the property. -/
theorem State.Heard.exchangesSince {rec : Netconf.Recorder} {after : State} (heard : after.Heard P rec)
    (cache : Option ConnectionCache) :
    ∀ e ∈ after.exchangesSince (.through cache (some rec)), ∀ body ∈ e.request.body?, P body := by
  obtain ⟨cache', requests, rfl, written⟩ := heard
  intro e sent
  rw [State.exchangesSince_through] at sent
  exact written e.request (Netconf.Recorder.mem_of_mem_answers sent)

/-- Nothing is written over a session that stays the same. -/
theorem State.heard_of_session_eq {rec : Netconf.Recorder} {after : State}
    (same : after.session = some (.recorder rec)) : after.Heard P rec := by
  obtain ⟨cache, session⟩ := after
  obtain rfl : session = some (.recorder rec) := same
  refine ⟨cache, [], ?_, Netconf.write_nil⟩
  rw [rec.hear_nil]
  rfl

/-- A recorder that has heard some goes on hearing. -/
theorem State.Heard.after {rec : Netconf.Recorder} {requests : List Netconf.Request} {after : State}
    (later : after.Heard P (rec.hear requests)) (written : Netconf.Write P requests) :
    after.Heard P rec := by
  obtain ⟨cache, requests', rfl, written'⟩ := later
  refine ⟨cache, requests ++ requests', ?_, written.append written'⟩
  rw [rec.hear_hear]

namespace Action

variable {α β : Type}

/-- An operation that leaves the session alone writes nothing. -/
theorem writes_of_session_eq {x : Action α} (same : ∀ s, (x.run s).2.session = s.session) :
    x.Writes P := fun _ _ => State.heard_of_session_eq (same _)

theorem writes_pure (x : α) : (pure x : Action α).Writes P := writes_of_session_eq fun _ => rfl

theorem Writes.bind {x : Action α} {f : α → Action β} (first : x.Writes P)
    (rest : ∀ a, (f a).Writes P) : (x >>= f).Writes P := by
  intro cache rec
  have before := first cache rec
  rw [Action.run_bind]
  rcases ended : x.run (.through cache (some rec)) with ⟨e | a, s⟩
  · rwa [ended] at before
  · rw [ended] at before
    obtain ⟨cache', requests, rfl, written⟩ := before
    exact (rest a cache' (rec.hear requests)).after written

theorem Writes.handled {x : Action α} {f : Error → Action α} (first : x.Writes P)
    (rest : ∀ e, (f e).Writes P) : (tryCatch x f).Writes P := by
  intro cache rec
  have before := first cache rec
  rw [Action.run_tryCatch]
  rcases ended : x.run (.through cache (some rec)) with ⟨e | a, s⟩
  · rw [ended] at before
    obtain ⟨cache', requests, rfl, written⟩ := before
    exact (rest e cache' (rec.hear requests)).after written
  · rwa [ended] at before

/-- An operation of which only the outcome is noted. -/
theorem Writes.tried {x : Action α} (writes : x.Writes P) (done failed : β) :
    (tryCatch (do let _ ← x; pure done) fun _ => pure failed : Action β).Writes P :=
  (writes.bind fun _ => writes_pure done).handled fun _ => writes_pure failed

end Action

section Operations

variable (r : Roadm)

theorem writes_acquire : r.acquire.Writes P :=
  Action.writes_of_session_eq fun s => by rw [run_acquire]

/-- A question to the device writes nothing. -/
theorem writes_ask {α : Type} {question : Netconf.Session → Except Error α × Netconf.Session}
    (request : Netconf.Request) (reads : request.body? = none)
    (asked : ∀ rec, (question (.recorder rec)).2 = .recorder (rec.hear [request])) :
    (r.ask question).Writes P := by
  intro cache rec
  refine ⟨cache, [request], ?_, Netconf.write_of_no_body reads⟩
  change (⟨cache, some (question (.recorder rec)).2⟩ : State) = _
  rw [asked]
  rfl

theorem writes_get (filter : Document) : (r.ask (Netconf.Session.get filter)).Writes P := by
  refine writes_ask r (.get filter) rfl fun rec => ?_
  unfold Netconf.Session.get Netconf.Recorder.read
  dsimp only
  split <;> rfl

theorem writes_copyConfig (target source : Datastore) :
    (r.ask (Netconf.Session.copyConfig target source)).Writes P :=
  writes_ask r (.copyConfig target source) rfl fun _ => rfl

theorem writes_discoverDevice : r.discoverDevice.Writes P := by
  refine (writes_acquire r).bind fun _ => ?_
  have described : (do
      let reply ← r.ask (Netconf.Session.get CircuitEdit.infoFilter)
      return describe reply : Action DeviceDescription).Writes P :=
    (writes_get r _).bind fun _ => Action.writes_pure _
  split
  · exact ((writes_copyConfig r .running .startup).tried () ()).bind fun _ => described
  · exact described

theorem writes_discoverPorts : r.discoverPorts.Writes P := by
  refine Action.Writes.handled ?_ fun _ => Action.writes_pure _
  refine (writes_acquire r).bind fun _ => ?_
  exact (writes_get r _).bind fun _ => Action.writes_pure _

variable {r} (permits : r.Permits P)

include permits

theorem writes_apply (rule : FlowRule) : (r.apply rule).Writes P := by
  intro cache rec
  by_cases able : ∃ conn, r.Admits (.through cache (some rec)) rule conn
  · obtain ⟨conn, admits⟩ := able
    rw [r.run_apply_of_admits admits]
    exact ⟨_, _, rfl, rec.write_attempt (permits.creation rule conn admits.planned_eq) _ _⟩
  · exact State.heard_of_session_eq (r.declined_apply _ rule (not_exists.1 able)).session_eq

theorem writes_release (rule : FlowRule) : (r.release rule).Writes P := by
  intro cache rec
  by_cases able : ∃ conn, r.Finds (.through cache (some rec)) rule conn
  · obtain ⟨conn, finds⟩ := able
    rw [r.run_release_of_finds finds]
    exact ⟨_, _, rfl, rec.write_attempt (permits.withdrawal _ _ _) _ _⟩
  · exact State.heard_of_session_eq (r.declined_release _ rule (not_exists.1 able)).session_eq

theorem writes_deleteByName (name : String) : (r.deleteByName name).Writes P := by
  intro cache rec
  cases splits : CircuitNames.ofConnection? name with
  | none => exact State.heard_of_session_eq (r.declined_deleteByName (.inl splits)).session_eq
  | some names =>
    rw [r.run_deleteByName_of_splits splits]
    exact ⟨_, _, rfl, rec.write_attempt (permits.withdrawal _ _ _) _ _⟩

theorem writes_setTargetPower (port : PortNumber) (channel : Option Channel) (dbm : Float) :
    (r.setTargetPower port channel dbm).Writes P := by
  intro cache rec
  by_cases able : ∃ conn, r.Tunes (.through cache (some rec)) port channel dbm conn
  · obtain ⟨conn, tunes⟩ := able
    rw [r.run_setTargetPower_of_tunes tunes]
    have written : ∀ step ∈ [powerStep conn.name dbm], P step.body := by
      intro step listed
      rw [List.mem_singleton.1 listed]
      exact permits.setPower conn.name dbm tunes.inRange
    exact ⟨_, _, rfl, rec.write_attempt written _ _⟩
  · exact State.heard_of_session_eq
      (r.declined_setTargetPower _ port channel dbm (not_exists.1 able)).session_eq

theorem writes_reconcile : r.reconcile.Writes P := by
  intro cache rec
  have asked : Netconf.Write P
      [.getConfig r.config.datastore CircuitEdit.connectionsFilter] :=
    Netconf.write_of_no_body rfl
  rw [run_reconcile]
  split
  · exact ⟨_, _, rfl, asked⟩
  · refine ⟨_, _, rfl, asked.append (rec.write_attempts ?_ _ _)⟩
    intro steps work step listed
    obtain ⟨name, -, rfl⟩ := List.mem_map.1 work
    rw [withdrawalOf] at listed
    split at listed
    · exact absurd listed List.not_mem_nil
    · exact permits.withdrawal _ _ _ step listed

theorem writes_flowEntries : r.flowEntries.Writes P :=
  (writes_reconcile permits).handled fun _ => Action.writes_pure _

theorem writes_applyAll (rules : List FlowRule) : (r.applyAll rules).Writes P := by
  induction rules with
  | nil => exact Action.writes_pure _
  | cons rule rules ih =>
    refine ((writes_apply permits rule).tried true false).bind fun _ => ?_
    exact ih.bind fun _ => Action.writes_pure _

theorem writes_releaseAll (rules : List FlowRule) : (r.releaseAll rules).Writes P := by
  induction rules with
  | nil => exact Action.writes_pure _
  | cons rule rules ih =>
    refine ((writes_release permits rule).tried true false).bind fun _ => ?_
    exact ih.bind fun _ => Action.writes_pure _

end Operations

end Roadm

end Lightpath
