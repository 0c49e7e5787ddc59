import Lightpath.Proofs.Controller.Isolation
import Mathlib.Data.List.DropRight

/-!
# What a device is bound to

The first tag that can be read binds a device, and it stays bound to that model until it is unbound.
A binding is all that a device loses by being unbound, so that nothing shows that a device was
unbound and bound again.
-/

namespace Lightpath

theorem DeviceModel.read_tag (model : DeviceModel) : read model.tag = .ok model := by
  cases model <;> decide +kernel

/-- A tag that is not known is not supported. -/
theorem DeviceModel.unsupported_of_read {tag : String} {e : Error} (unread : read tag = .error e) :
    ∃ message, e = .unsupported message := by
  rw [read] at unread
  split at unread
  · cases unread
  · exact ⟨_, (Except.error.inj unread).symm⟩

namespace Controller

/-- The model to which an event binds a device that is not bound. -/
def Event.binds? (d : DeviceId) : Event → Option DeviceModel
  | .operate device (.bind tag) => if device = d then (DeviceModel.read tag).toOption else none
  | _ => none

/-- Whether a device is unbound by an event. -/
def Event.unbinds (d : DeviceId) : Event → Bool
  | .operate device .unbind => device = d
  | _ => false

/-- The events since a device was last unbound. -/
def sinceUnbound (d : DeviceId) (events : List Event) : List Event :=
  events.rtakeWhile fun event => !event.unbinds d

/-- A device is unbound and bound by a tag. -/
def rebinding (d : DeviceId) (tag : String) : List Event :=
  [.operate d .unbind, .operate d (.bind tag)]

/-- Events that nothing shows afterwards. -/
structure Unnoticed (c : Controller) (extra : List Event) : Prop where
  ends : ∀ later, (extra ++ later).foldl after c = later.foldl after c
  accounts : ∀ later d, c.account d (extra ++ later) = c.account d extra ++ c.account d later

variable {c : Controller} {d : DeviceId} {tag : String} {model : DeviceModel}

theorem model?_step_of_ne {operation : Operation} (keeps : ∀ tag, operation ≠ .bind tag)
    (stays : operation ≠ .unbind) : (c.step d operation).2.model? d = c.model? d := by
  rw [model?, model?, (leaves_step c d operation).bound_eq keeps stays]

theorem model?_after (c : Controller) (d : DeviceId) (event : Event) :
    (c.after event).model? d =
      if event.unbinds d then none else (c.model? d).or (event.binds? d) := by
  cases event with
  | surround => exact (Option.or_none).symm
  | operate device operation =>
    by_cases here : device = d
    · subst here
      cases operation with
      | unbind =>
        rw [Event.unbinds, decide_eq_true rfl, if_pos rfl]
        exact Table.get?_erase_self ..
      | bind tag =>
        change (c.bind device tag).2.model? device = _
        rw [Event.binds?, if_pos rfl, bind]
        cases bound : c.model? device with
        | some model => exact bound
        | none =>
          cases DeviceModel.read tag with
          | ok model => exact Table.get?_insert_self ..
          | error e => exact bound
      | _ =>
        refine (model?_step_of_ne ?_ ?_).trans Option.or_none.symm
        · simp
        · simp
    · have away : (c.step device operation).2.model? d = c.model? d :=
        congrArg Belongings.model (belongings_step here operation)
      have stays : (Event.operate device operation).unbinds d = false := by
        cases operation <;> simp [Event.unbinds, here]
      have silent : (Event.operate device operation).binds? d = none := by
        cases operation <;> simp [Event.binds?, here]
      rw [after, away, stays, silent, Option.or_none]
      rfl

theorem model?_foldl (unbound : c.model? d = none) (events : List Event) :
    (events.foldl after c).model? d = (sinceUnbound d events).findSome? (Event.binds? d) := by
  induction events using List.reverseRecOn with
  | nil => exact unbound
  | append_singleton events event ih =>
    rw [List.foldl_append, List.foldl_cons, List.foldl_nil, model?_after, ih]
    cases last : event.unbinds d with
    | true =>
      have nothing : sinceUnbound d (events ++ [event]) = [] :=
        List.rtakeWhile_concat_neg _ _ _ (by simp [last])
      rw [nothing]
      rfl
    | false =>
      have more : sinceUnbound d (events ++ [event]) = sinceUnbound d events ++ [event] :=
        List.rtakeWhile_concat_pos _ _ _ (by simp [last])
      rw [more, List.findSome?_append]
      simp

theorem bind_of_unbound (unbound : c.model? d = none)
    (unread : ∀ model, DeviceModel.read tag ≠ .ok model) :
    ∃ message, c.step d (.bind tag) = (.error (.failed (.unsupported message)), c) := by
  cases given : DeviceModel.read tag with
  | ok model => exact absurd given (unread model)
  | error e =>
    obtain ⟨message, rfl⟩ := DeviceModel.unsupported_of_read given
    refine ⟨message, ?_⟩
    rw [step, bind, unbound, given]

/-- A device that is unbound and bound to its model again is as it was. -/
theorem foldl_rebinding (bound : c.model? d = some model) (known : DeviceModel.read tag = .ok model) :
    (rebinding d tag).foldl after c = c := by
  have unbound : (c.after (.operate d .unbind)).model? d = none := Table.get?_erase_self ..
  -- tables do not show in which order they were filled
  have table : (c.bound.erase d.name).insert d.name model = c.bound := by
    refine Table.ext_get? fun name => ?_
    rw [Table.get?_insert, Table.get?_erase]
    split
    · next same => rw [← same]; exact bound.symm
    · rfl
  have rebound : (c.after (.operate d .unbind)).after (.operate d (.bind tag)) =
      { c with bound := (c.bound.erase d.name).insert d.name model } := by
    rw [after, step, bind, unbound, known]
    rfl
  rw [rebinding, List.foldl_cons, List.foldl_cons, List.foldl_nil, rebound, table]

theorem unnoticed_of_foldl {extra : List Event} (restored : extra.foldl after c = c) :
    c.Unnoticed extra where
  ends later := by rw [List.foldl_append, restored]
  accounts later d := by rw [account_append, restored]

/-- After every run, a device is bound to the model of the first tag that could be read since it was
    last unbound. A tag that is not known changes nothing where nothing is bound, and whatever
    happens after it, nothing shows that a device was unbound and bound to its model again. -/
theorem binding_run (config : Config) (events : List Event) (d : DeviceId) :
    let c := run config events
    c.model? d = (sinceUnbound d events).findSome? (Event.binds? d) ∧
      (∀ tag, c.model? d = none → (∀ model, DeviceModel.read tag ≠ .ok model) →
        ∃ message, c.step d (.bind tag) = (.error (.failed (.unsupported message)), c)) ∧
      ∀ tag model, c.model? d = some model → DeviceModel.read tag = .ok model →
        c.Unnoticed (rebinding d tag) := by
  intro c
  refine ⟨model?_foldl rfl events, fun tag => bind_of_unbound, fun tag model bound known => ?_⟩
  exact unnoticed_of_foldl (foldl_rebinding bound known)

/-- A node with a circuit on it is unbound and bound again, by the tag of its model or in other
    letters, and a device that is not bound is given a tag that is not known. -/
theorem binding_run_of_live_circuit :
    ∃ rule c, c = run {} (Event.sampleRun rule) ∧
      c.model? Sample.roadm = some .openRoadm ∧ c.caches.sizeOf Sample.roadm = 1 ∧
      DeviceModel.read " OpenROADM " = .ok .openRoadm ∧
      c.Unnoticed (rebinding Sample.roadm DeviceModel.openRoadm.tag) ∧
      c.Unnoticed (rebinding Sample.roadm " OpenROADM ") ∧
      c.model? Sample.fiberSwitch = none ∧
      ∃ message, c.step Sample.fiberSwitch (.bind "acme") =
        (.error (.failed (.unsupported message)), c) := by
  obtain ⟨rule, chosen⟩ : ∃ rule, rule = Sample.crossConnect ⟨401⟩ ⟨302⟩ 0 := ⟨_, rfl⟩
  obtain ⟨c, reached⟩ : ∃ c, c = run {} (Event.sampleRun rule) := ⟨_, rfl⟩
  have bound : c.model? Sample.roadm = some .openRoadm := by
    rw [reached, chosen]
    decide +kernel
  have live : c.caches.sizeOf Sample.roadm = 1 := by
    rw [reached, chosen]
    decide +kernel
  have unbound : c.model? Sample.fiberSwitch = none := by
    rw [reached, chosen]
    decide +kernel
  have known : DeviceModel.read " OpenROADM " = .ok .openRoadm := by decide +kernel
  have unknown : ∀ model, DeviceModel.read "acme" ≠ .ok model := by
    intro model
    cases model <;> decide +kernel
  obtain ⟨-, -, rebinds⟩ := binding_run {} (Event.sampleRun rule) Sample.roadm
  obtain ⟨-, refuses, -⟩ := binding_run {} (Event.sampleRun rule) Sample.fiberSwitch
  rw [← reached] at rebinds refuses
  exact ⟨rule, c, reached, bound, live, known, rebinds _ _ bound (DeviceModel.read_tag _),
    rebinds _ _ bound known, unbound, refuses "acme" unbound unknown⟩

end Controller

end Lightpath
