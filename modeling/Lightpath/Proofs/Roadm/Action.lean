import Lightpath.Proofs.Action
import Lightpath.Proofs.Session.Exchange
import Lightpath.Roadm

/-!
# Carrying out actions

What an action over a recorder has sent and how it ends. What is remembered is looked at without
regard to whether there is a cache yet.
-/

namespace Lightpath.Roadm

namespace State

/-- The connections remembered; none without a cache. -/
def connections (s : State) : ConnectionCache := s.cache.getD .empty

/-- The state with a cache. -/
def opened (s : State) : State := { s with cache := some s.connections }

/-- The state in which the node is reached through a recorder, or not at all. -/
def through (cache : Option ConnectionCache) (session : Option Netconf.Recorder) : State :=
  ⟨cache, session.map .recorder⟩

/-- The recorder through which the node is reached. -/
def recorder? (s : State) : Option Netconf.Recorder :=
  match s.session with
  | some (.recorder rec) => some rec
  | _ => none

/-- The edits that were sent since the node stood as it did before. -/
def exchangesSince (after before : State) : List Netconf.Exchange :=
  match after.recorder?, before.recorder? with
  | some after, some before => after.exchangesSince before
  | _, _ => []

@[simp] theorem session_opened (s : State) : s.opened.session = s.session := rfl

@[simp] theorem opened_through (cache : Option ConnectionCache) (session : Option Netconf.Recorder) :
    (through cache session).opened = through (some (cache.getD .empty)) session := rfl

/-- Nothing was sent over a session that has stayed the same. -/
theorem exchangesSince_of_session_eq {before after : State}
    (same : after.session = before.session) : after.exchangesSince before = [] := by
  have met : after.recorder? = before.recorder? := by rw [recorder?, recorder?, same]
  rw [exchangesSince, met]
  cases before.recorder? with
  | none => rfl
  | some rec => exact rec.exchangesSince_self

theorem exchangesSince_of_unrecorded {before after : State} (unrecorded : before.recorder? = none) :
    after.exchangesSince before = [] := by
  rw [exchangesSince, unrecorded]
  cases after.recorder? <;> rfl

theorem session_of_recorder? {s : State} {rec : Netconf.Recorder}
    (recorded : s.recorder? = some rec) : s.session = some (.recorder rec) := by
  unfold recorder? at recorded
  split at recorded
  · next met => rw [met, Option.some.inj recorded]
  · cases recorded

theorem exchangesSince_through (cache cache' : Option ConnectionCache) (rec : Netconf.Recorder)
    (requests : List Netconf.Request) :
    (through cache' (some (rec.hear requests))).exchangesSince (through cache (some rec)) =
      rec.answers rec.edits requests :=
  rec.exchangesSince_hear requests

end State

variable (r : Roadm) (s : State)

theorem run_openCache : openCache.run s = (.ok s.connections, s.opened) := rfl

theorem run_changeCache (f : ConnectionCache → ConnectionCache) :
    (changeCache f).run s = (.ok (), { s with cache := s.cache.map f }) := rfl

theorem run_acquire :
    r.acquire.run s = (if s.session.isNone then .error (.noSession r.device) else .ok (), s) := by
  rw [acquire, Action.run_bind, Action.run_get]
  dsimp only
  split <;> rfl

/-- An action that changes nothing that is remembered. -/
def Action.LeavesCache {α : Type} (x : Action α) : Prop := ∀ s : State, (x.run s).2.cache = s.cache

theorem Action.LeavesCache.bind {α β : Type} {x : Action α} {f : α → Action β}
    (first : x.LeavesCache) (rest : ∀ a, (f a).LeavesCache) : (x >>= f).LeavesCache := by
  intro s
  have before := first s
  rw [Action.run_bind]
  rcases ended : x.run s with ⟨_ | a, s'⟩
  · rwa [ended] at before
  · rw [ended] at before
    exact (rest a s').trans before

theorem Action.LeavesCache.tryCatch {α : Type} {x : Action α} {f : Error → Action α}
    (first : x.LeavesCache) (rest : ∀ e, (f e).LeavesCache) : (tryCatch x f).LeavesCache := by
  intro s
  have before := first s
  rw [Action.run_tryCatch]
  rcases ended : x.run s with ⟨e | a, s'⟩
  · rw [ended] at before
    exact (rest e s').trans before
  · rwa [ended] at before

theorem Action.leavesCache_pure {α : Type} (x : α) : (pure x : Action α).LeavesCache :=
  fun _ => rfl

theorem Action.leavesCache_throw {α : Type} (e : Error) : (throw e : Action α).LeavesCache :=
  fun _ => rfl

theorem leavesCache_acquire : r.acquire.LeavesCache := by
  intro s
  rw [run_acquire]

theorem leavesCache_ask {α : Type}
    (request : Netconf.Session → Except Error α × Netconf.Session) :
    (r.ask request).LeavesCache := by
  intro s
  simp only [ask, ExceptT.run]
  cases s.session <;> rfl

theorem leavesCache_edit (step : CircuitEdit.Step) : (r.edit step).LeavesCache := by
  refine (r.leavesCache_ask _).bind fun taken s => ?_
  cases taken <;> rfl

theorem leavesCache_program (steps : List CircuitEdit.Step) : (r.program steps).LeavesCache := by
  induction steps with
  | nil => exact fun _ => rfl
  | cons step steps ih => exact (r.leavesCache_edit step).bind fun _ => ih

variable (cache : Option ConnectionCache) (rec : Netconf.Recorder)

/-- One edit over a recorder is answered as the recorder's failures tell. -/
theorem run_edit (step : CircuitEdit.Step) :
    (r.edit step).run (.through cache (some rec)) =
      (rec.verdict rec.edits [step],
        .through cache (some (rec.hear [Netconf.stepRequest r.config.datastore step]))) := by
  have asked : (r.ask (Netconf.Session.editConfig r.config.datastore .merge step.body)).run
      (.through cache (some rec)) =
        ((rec.edit (Netconf.stepRequest r.config.datastore step)).1,
          .through cache (some (rec.edit (Netconf.stepRequest r.config.datastore step)).2)) := rfl
  rw [edit, Action.run_bind, asked, rec.edit_eq (Netconf.isEdit_stepRequest _ _)]
  simp only [Netconf.Recorder.verdict]
  cases rec.failure? (rec.edits + 1) with
  | none => rfl
  | some how => cases how <;> rfl

/-- Steps over a recorder are sent up to the first that fails. -/
theorem run_program (steps : List CircuitEdit.Step) :
    (r.program steps).run (.through cache (some rec)) =
      (rec.verdict rec.edits steps,
        .through cache (some (rec.hear
          ((rec.attempt r.config.datastore rec.edits steps).map (·.request))))) := by
  induction steps generalizing rec with
  | nil => rw [Netconf.Recorder.attempt, List.map_nil, rec.hear_nil]; rfl
  | cons step steps ih =>
    rw [program, Action.run_bind, run_edit]
    simp only [Netconf.Recorder.verdict, Netconf.Recorder.attempt, List.map_cons]
    cases failure : rec.failure? (rec.edits + 1) with
    | none =>
      dsimp only
      rw [ih, rec.verdict_hear, rec.attempt_hear, rec.hear_hear]
      rfl
    | some how => cases how <;> rfl

end Lightpath.Roadm
