import Lightpath.Circuit.Edit
import Lightpath.Session.Netconf

/-!
# Edits and their answers

What a recorder has been asked can be read off its requests; how it has answered each edit follows
from the edit's place. Work that is planned as a sequence of edits ends with the first edit that
the device does not take (`Recorder.attempt`, `FollowsPlan`).
-/

namespace Lightpath.Netconf

/-- Whether a request asks for a change of a datastore. -/
def Request.isEdit : Request → Bool
  | .editConfig .. => true
  | _ => false

/-- A request that was sent, and how it failed, if it did. -/
structure Exchange where
  request : Request
  failure : Option EditFailure
deriving Inhabited

/-- Whether the device has done what it was asked. -/
def Exchange.taken (e : Exchange) : Bool := e.failure.isNone

/-- The edit that a step is sent as. -/
def stepRequest (datastore : Datastore) (step : CircuitEdit.Step) : Request :=
  .editConfig datastore .merge step.body

@[simp] theorem isEdit_stepRequest (datastore : Datastore) (step : CircuitEdit.Step) :
    (stepRequest datastore step).isEdit = true := rfl

/-- Planned requests are sent in their order, up to the first that is not taken. -/
structure FollowsPlan (plan : List Request) (sent : List Exchange) : Prop where
  isPrefix : sent.map (·.request) <+: plan
  taken_of_followed : ∀ e ∈ sent.dropLast, e.taken
  complete_or_refused : sent.length = plan.length ∨ ∃ e ∈ sent.getLast?, ¬ e.taken

namespace Recorder

/-- The recorder after some more requests. -/
def hear (r : Recorder) (requests : List Request) : Recorder :=
  { r with requests := r.requests ++ requests, edits := r.edits + requests.countP (·.isEdit) }

/-- The edits among some requests with their answers, the first of them being the edit after the
    first `count`. -/
def answers (r : Recorder) : Nat → List Request → List Exchange
  | _, [] => []
  | count, request :: requests =>
    if request.isEdit then ⟨request, r.failure? (count + 1)⟩ :: r.answers (count + 1) requests
    else r.answers count requests

/-- The edits that were sent since the recorder stood as it did before. -/
def exchangesSince (after before : Recorder) : List Exchange :=
  before.answers before.edits (after.requests.drop before.requests.length)

/-- What becomes of planned steps when `count` edits have been sent. -/
def attempt (r : Recorder) (datastore : Datastore) : Nat → List CircuitEdit.Step → List Exchange
  | _, [] => []
  | count, step :: steps =>
    ⟨stepRequest datastore step, r.failure? (count + 1)⟩ ::
      if (r.failure? (count + 1)).isNone then r.attempt datastore (count + 1) steps else []

/-- How planned steps end when `count` edits have been sent. -/
def verdict (r : Recorder) : Nat → List CircuitEdit.Step → Except Error Unit
  | _, [] => .ok ()
  | count, step :: steps =>
    match r.failure? (count + 1) with
    | none => r.verdict (count + 1) steps
    | some .rejected => .error (.transport step.label "device rejected edit-config")
    | some .transport => .error (.transport "edit-config" "injected failure")

/-- What becomes of pieces of work that are taken up one after the other, however they end. -/
def attempts (r : Recorder) (datastore : Datastore) :
    Nat → List (List CircuitEdit.Step) → List Exchange
  | _, [] => []
  | count, steps :: rest =>
    r.attempt datastore count steps ++
      r.attempts datastore (count + (r.attempt datastore count steps).length) rest

variable (r : Recorder) (datastore : Datastore) (count : Nat)

@[simp] theorem failure?_hear (requests : List Request) (nth : Nat) :
    (r.hear requests).failure? nth = r.failure? nth := rfl

@[simp] theorem edits_hear (requests : List Request) :
    (r.hear requests).edits = r.edits + requests.countP (·.isEdit) := rfl

@[simp] theorem hear_nil : r.hear [] = r := by
  simp [hear]

/-- An edit is heard and then answered as the failures tell. -/
theorem edit_eq {request : Request} (edit : request.isEdit) :
    r.edit request =
      (match r.failure? (r.edits + 1) with
        | none => .ok true
        | some .rejected => .ok false
        | some .transport => .error (.transport "edit-config" "injected failure"),
      r.hear [request]) := by
  have heard : { r.record request with edits := r.edits + 1 } = r.hear [request] := by
    rw [hear, List.countP_cons_of_pos edit]
    rfl
  unfold Recorder.edit
  dsimp only
  rw [heard, failure?_hear]
  cases r.failure? (r.edits + 1) with
  | none => rfl
  | some how => cases how <;> rfl

theorem hear_hear (first second : List Request) :
    (r.hear first).hear second = r.hear (first ++ second) := by
  simp [hear, List.append_assoc, Nat.add_assoc]

section Same

variable {r} {r' : Recorder} (same : r'.failures = r.failures)

include same

theorem failure?_congr (nth : Nat) : r'.failure? nth = r.failure? nth := by
  rw [failure?, failure?, same]

theorem answers_congr (requests : List Request) :
    r'.answers count requests = r.answers count requests := by
  induction requests generalizing count with
  | nil => rfl
  | cons request requests ih => simp only [answers, failure?_congr same, ih]

/-- What becomes of planned steps depends on the failures alone. -/
theorem attempt_congr (steps : List CircuitEdit.Step) :
    r'.attempt datastore count steps = r.attempt datastore count steps := by
  induction steps generalizing count with
  | nil => rfl
  | cons step steps ih => simp only [attempt, failure?_congr same, ih]

theorem attempts_congr (works : List (List CircuitEdit.Step)) :
    r'.attempts datastore count works = r.attempts datastore count works := by
  induction works generalizing count with
  | nil => rfl
  | cons steps works ih => simp only [attempts, attempt_congr datastore count same, ih]

end Same

theorem attempt_hear (heard : List Request) (steps : List CircuitEdit.Step) :
    (r.hear heard).attempt datastore count steps = r.attempt datastore count steps :=
  attempt_congr datastore count (by rfl) steps

theorem verdict_hear (heard : List Request) (steps : List CircuitEdit.Step) :
    (r.hear heard).verdict count steps = r.verdict count steps := by
  induction steps generalizing count with
  | nil => rfl
  | cons step steps ih => simp only [verdict, failure?_hear, ih]

theorem answers_append (first second : List Request) :
    r.answers count (first ++ second) =
      r.answers count first ++ r.answers (count + first.countP (·.isEdit)) second := by
  induction first generalizing count with
  | nil => rfl
  | cons request requests ih =>
    rw [List.cons_append, answers, answers]
    split
    · next edit =>
      rw [ih, List.countP_cons_of_pos edit, List.cons_append, Nat.add_right_comm, Nat.add_assoc]
    · next other => rw [ih, List.countP_cons_of_neg other]

/-- What a recorder was sent is what it heard. -/
@[simp] theorem exchangesSince_hear (requests : List Request) :
    (r.hear requests).exchangesSince r = r.answers r.edits requests := by
  simp [exchangesSince, hear]

@[simp] theorem exchangesSince_self : r.exchangesSince r = [] := by
  rw [exchangesSince, List.drop_length]
  rfl

/-- Attempted steps are edits, so that all of them count. -/
theorem countP_attempt (steps : List CircuitEdit.Step) :
    ((r.attempt datastore count steps).map (·.request)).countP (·.isEdit) =
      (r.attempt datastore count steps).length := by
  induction steps generalizing count with
  | nil => rfl
  | cons step steps ih =>
    rw [attempt, List.map_cons, List.countP_cons_of_pos rfl, List.length_cons]
    split
    · rw [ih]
    · rfl

/-- The answers to attempted steps are those that the attempt met. -/
theorem answers_attempt (steps : List CircuitEdit.Step) :
    r.answers count ((r.attempt datastore count steps).map (·.request)) =
      r.attempt datastore count steps := by
  induction steps generalizing count with
  | nil => rfl
  | cons step steps ih =>
    rw [attempt, List.map_cons, answers, if_pos (isEdit_stepRequest datastore step)]
    split
    · rw [ih]
    · rfl

theorem attempts_hear (heard : List Request) (works : List (List CircuitEdit.Step)) :
    (r.hear heard).attempts datastore count works = r.attempts datastore count works :=
  attempts_congr datastore count (by rfl) works

theorem answers_attempts (works : List (List CircuitEdit.Step)) :
    r.answers count ((r.attempts datastore count works).map (·.request)) =
      r.attempts datastore count works := by
  induction works generalizing count with
  | nil => rfl
  | cons steps works ih =>
    rw [attempts, List.map_append, answers_append, answers_attempt, countP_attempt, ih]

theorem followsPlan_attempt (steps : List CircuitEdit.Step) :
    FollowsPlan (steps.map (stepRequest datastore)) (r.attempt datastore count steps) := by
  induction steps generalizing count with
  | nil => exact ⟨List.prefix_rfl, by simp [attempt], .inl rfl⟩
  | cons step steps ih =>
    rw [attempt, List.map_cons]
    split
    · next taken =>
      obtain ⟨isPrefix, followed, stop⟩ := ih (count + 1)
      refine ⟨?_, ?_, ?_⟩
      · rw [List.map_cons]
        exact (List.prefix_cons_inj _).2 isPrefix
      · intro e member
        cases rest : r.attempt datastore (count + 1) steps with
        | nil => simp [rest] at member
        | cons e' es =>
          rw [rest, List.dropLast_cons_cons, List.mem_cons] at member
          rcases member with rfl | member
          · exact taken
          · exact followed e (rest ▸ member)
      · rcases stop with complete | ⟨e, last, refused⟩
        · exact .inl (by rw [List.length_cons, complete, List.length_cons])
        · refine .inr ⟨e, ?_, refused⟩
          rw [List.getLast?_cons, Option.mem_def.1 last]
          rfl
    · next refused =>
      refine ⟨⟨_, rfl⟩, by simp, .inr ⟨_, rfl, ?_⟩⟩
      exact refused

/-- All that is sent for pieces of work are edits that one of them plans. -/
theorem mem_attempts {works : List (List CircuitEdit.Step)} {e : Exchange}
    (member : e ∈ r.attempts datastore count works) :
    ∃ steps ∈ works, e.request ∈ steps.map (stepRequest datastore) := by
  induction works generalizing count with
  | nil => exact absurd member List.not_mem_nil
  | cons steps works ih =>
    rw [attempts] at member
    rcases List.mem_append.1 member with first | later
    · refine ⟨steps, List.mem_cons_self, ?_⟩
      exact (r.followsPlan_attempt datastore count steps).isPrefix.subset
        (List.mem_map_of_mem first)
    · obtain ⟨steps, listed, planned⟩ := ih _ later
      exact ⟨steps, List.mem_cons_of_mem _ listed, planned⟩

/-- Work is done exactly if all that was sent is taken. -/
theorem verdict_eq_ok_iff (steps : List CircuitEdit.Step) :
    r.verdict count steps = .ok () ↔ ∀ e ∈ r.attempt datastore count steps, e.taken := by
  induction steps generalizing count with
  | nil => simp [verdict, attempt]
  | cons step steps ih =>
    rw [verdict, attempt, List.forall_mem_cons]
    cases failure : r.failure? (count + 1) with
    | none => simpa [Exchange.taken, failure] using ih (count + 1)
    | some how => cases how <;> simp [Exchange.taken]

theorem failure?_of_verdict {step : CircuitEdit.Step} {steps : List CircuitEdit.Step}
    (done : r.verdict count (step :: steps) = .ok ()) : r.failure? (count + 1) = none := by
  rw [verdict] at done
  cases failure : r.failure? (count + 1) with
  | none => rfl
  | some how => cases how <;> simp [failure] at done

/-- Work that is done has sent all that was planned. -/
theorem attempt_of_verdict {steps : List CircuitEdit.Step} (done : r.verdict count steps = .ok ()) :
    r.attempt datastore count steps = steps.map fun step => ⟨stepRequest datastore step, none⟩ := by
  induction steps generalizing count with
  | nil => rfl
  | cons step steps ih =>
    have first := r.failure?_of_verdict count done
    rw [verdict, first] at done
    rw [attempt, List.map_cons, first]
    simp [ih (count + 1) done]

/-- Pieces of work of which all that was sent is taken have sent all that was planned. -/
theorem attempts_of_taken {works : List (List CircuitEdit.Step)}
    (taken : ∀ e ∈ r.attempts datastore count works, e.taken) :
    r.attempts datastore count works =
      works.flatten.map fun step => ⟨stepRequest datastore step, none⟩ := by
  induction works generalizing count with
  | nil => rfl
  | cons steps works ih =>
    rw [attempts, List.forall_mem_append] at taken
    obtain ⟨first, later⟩ := taken
    have done := (r.verdict_eq_ok_iff datastore count steps).2 first
    rw [attempts, ih _ later, r.attempt_of_verdict datastore count done, List.flatten_cons,
      List.map_append]

theorem verdict_of_taken (taken : ∀ nth, r.failure? nth = none) (steps : List CircuitEdit.Step) :
    r.verdict count steps = .ok () := by
  induction steps generalizing count with
  | nil => rfl
  | cons step steps ih =>
    rw [verdict, taken]
    exact ih (count + 1)

/-- A device that takes every edit is sent all that is planned. -/
theorem mem_attempts_of_taken (taken : ∀ nth, r.failure? nth = none)
    {works : List (List CircuitEdit.Step)} {steps : List CircuitEdit.Step} (work : steps ∈ works)
    {request : Request} (planned : request ∈ steps.map (stepRequest datastore)) :
    ∃ e ∈ r.attempts datastore count works, e.request = request := by
  induction works generalizing count with
  | nil => exact absurd work List.not_mem_nil
  | cons first works ih =>
    rw [attempts]
    rcases List.mem_cons.1 work with rfl | later
    · obtain ⟨step, listed, rfl⟩ := List.mem_map.1 planned
      refine ⟨⟨stepRequest datastore step, none⟩, List.mem_append_left _ ?_, rfl⟩
      rw [r.attempt_of_verdict datastore count (r.verdict_of_taken count taken steps)]
      exact List.mem_map_of_mem listed
    · obtain ⟨e, sent, same⟩ := ih (count + (r.attempt datastore count first).length) later
      exact ⟨e, List.mem_append_right _ sent, same⟩

end Recorder

end Lightpath.Netconf
