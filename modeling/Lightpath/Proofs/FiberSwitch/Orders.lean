import Lightpath.Proofs.FiberSwitch.Patches

/-!
# Orders to a switch

Installing or removing a rule sends at most one patch. Which one is told by the rule alone: what the
switch answers decides only what becomes of it. A batch sends the patches of its rules one after the
other, whatever became of those before.
-/

namespace Lightpath.FiberSwitch

/-- A rule that is to be installed or to be removed. -/
inductive Order where
  | connect (rule : FlowRule)
  | disconnect (rule : FlowRule)
deriving Inhabited

/-- What is done for an order. -/
def Order.action (s : FiberSwitch) : Order → Action Unit
  | .connect rule => do let _ ← s.connect rule
  | .disconnect rule => s.disconnect rule

/-- The body of the patch that an order sends, if it sends one. -/
def Order.body? : Order → Option Document
  | .connect rule => if rule.channel.isSome then none else (mapping rule).toOption
  | .disconnect rule => (mapping rule).toOption.map fun entry => .object [(removeKey, entry)]

/-- Rules that are to be installed or to be removed together. -/
inductive Batch where
  | install (rules : List FlowRule)
  | remove (rules : List FlowRule)
deriving Inhabited

/-- What is done for a batch. -/
def Batch.action (s : FiberSwitch) : Batch → Action (List FlowRule)
  | .install rules => s.connectAll rules
  | .remove rules => s.disconnectAll rules

/-- The orders of a batch, rule by rule. -/
def Batch.orders : Batch → List Order
  | .install rules => rules.map .connect
  | .remove rules => rules.map .disconnect

/-- The session after some more patches of the connections, with these bodies. -/
def told (s : FiberSwitch) (session : Rest.Session) (bodies : List Document) : Rest.Session :=
  session.hear [] (bodies.map fun body => (s.config.connectionsPath, body))

variable (s : FiberSwitch) (session : Rest.Session)

@[simp] theorem told_nil : s.told session [] = session := session.hear_nil

@[simp] theorem told_told (bodies more : List Document) :
    s.told (s.told session bodies) more = s.told session (bodies ++ more) := by
  simp [told, session.hear_hear]

/-- An order sends its patch, if it has one. How it ends depends on the answer. -/
theorem run_connect (rule : FlowRule) :
    ∃ answer, (s.connect rule).run (some session) =
      (answer, some (s.told session (Order.connect rule).body?.toList)) := by
  rw [connect, Order.body?]
  by_cases channel : rule.channel.isSome
  · simp only [channel, if_true, Option.toList_none, told_nil]
    exact ⟨.ok .skipped, rfl⟩
  · rw [if_neg channel, if_neg channel, Action.run_bind, Action.run_lift]
    cases mapping rule with
    | error e => exact ⟨.error e, by simp [Except.toOption]⟩
    | ok body =>
      dsimp only
      rw [Action.run_bind, run_acquire]
      dsimp only
      rw [Action.run_bind, run_patch]
      cases Rest.isSuccess session.patchStatus
      · exact ⟨_, rfl⟩
      · exact ⟨_, rfl⟩

theorem run_disconnect (rule : FlowRule) :
    ∃ answer, (s.disconnect rule).run (some session) =
      (answer, some (s.told session (Order.disconnect rule).body?.toList)) := by
  rw [disconnect, Order.body?, Action.run_bind, Action.run_lift]
  cases mapping rule with
  | error e => exact ⟨.error e, by simp [Except.toOption]⟩
  | ok entry =>
    dsimp only
    rw [Action.run_bind, run_acquire]
    dsimp only
    rw [run_patch]
    exact ⟨_, rfl⟩

theorem run_order (order : Order) :
    ∃ answer, (order.action s).run (some session) =
      (answer, some (s.told session order.body?.toList)) := by
  cases order with
  | connect rule =>
    obtain ⟨answer, ran⟩ := run_connect s session rule
    refine ⟨answer.map fun _ => (), ?_⟩
    rw [Order.action, Action.run_bind, ran]
    cases answer <;> rfl
  | disconnect rule => exact run_disconnect s session rule

theorem told_cons (order : Order) (orders : List Order) :
    s.told (s.told session order.body?.toList) (orders.filterMap Order.body?) =
      s.told session ((order :: orders).filterMap Order.body?) := by
  cases sent : order.body? <;> simp [sent]

/-- A failure that is passed over leaves the session as it was reached. -/
theorem run_passedOver {α : Type} {attempt : Action α} {answer : Except Error α}
    {before after : Option Rest.Session} (ran : attempt.run before = (answer, after)) (other : α) :
    ∃ outcome, (tryCatch attempt fun _ => pure other).run before = (.ok outcome, after) := by
  rw [Action.run_tryCatch, ran]
  cases answer with
  | error e => exact ⟨other, rfl⟩
  | ok outcome => exact ⟨outcome, rfl⟩

theorem run_connectAll (rules : List FlowRule) :
    ∃ done, (s.connectAll rules).run (some session) =
      (.ok done, some (s.told session ((rules.map Order.connect).filterMap Order.body?))) := by
  induction rules generalizing session with
  | nil => exact ⟨[], by simp [connectAll, Action.run_pure]⟩
  | cons rule rules ih =>
    obtain ⟨answer, ran⟩ := run_connect s session rule
    obtain ⟨outcome, tried⟩ := run_passedOver ran .skipped
    obtain ⟨done, rest⟩ := ih (s.told session (Order.connect rule).body?.toList)
    rw [told_cons, ← List.map_cons] at rest
    rw [connectAll, Action.run_bind, tried]
    dsimp only
    rw [Action.run_bind, rest]
    exact ⟨_, rfl⟩

theorem run_disconnectAll (rules : List FlowRule) :
    ∃ done, (s.disconnectAll rules).run (some session) =
      (.ok done, some (s.told session ((rules.map Order.disconnect).filterMap Order.body?))) := by
  induction rules generalizing session with
  | nil => exact ⟨[], by simp [disconnectAll, Action.run_pure]⟩
  | cons rule rules ih =>
    obtain ⟨answer, ran⟩ := run_disconnect s session rule
    have marked : (do s.disconnect rule; return true : Action Bool).run (some session) =
        (answer.map fun _ => true, some (s.told session (Order.disconnect rule).body?.toList)) := by
      rw [Action.run_bind, ran]
      cases answer <;> rfl
    obtain ⟨outcome, tried⟩ := run_passedOver marked false
    obtain ⟨done, rest⟩ := ih (s.told session (Order.disconnect rule).body?.toList)
    rw [told_cons, ← List.map_cons] at rest
    rw [disconnectAll, Action.run_bind, tried]
    dsimp only
    rw [Action.run_bind, rest]
    exact ⟨_, rfl⟩

/-- A batch sends the patches of its orders, whatever is answered to them. -/
theorem run_batch (batch : Batch) :
    ∃ done, (batch.action s).run (some session) =
      (.ok done, some (s.told session (batch.orders.filterMap Order.body?))) := by
  cases batch with
  | install rules => exact run_connectAll s session rules
  | remove rules => exact run_disconnectAll s session rules

end Lightpath.FiberSwitch
