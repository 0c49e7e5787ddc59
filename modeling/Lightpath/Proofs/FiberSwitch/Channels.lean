import Lightpath.Proofs.FiberSwitch.Orders
import Lightpath.Sample
import Mathlib.Data.List.Basic

/-!
# Rules for a channel on a switch

A switch does not know channels. Leaving the rules for a channel out of the batches changes nothing
of what a switch is sent exactly if none of those that are to be removed could be written: installing
passes them over, removing does not.
-/

namespace Lightpath.FiberSwitch

/-- The rule of an order. -/
def Order.rule : Order → FlowRule
  | .connect rule => rule
  | .disconnect rule => rule

/-- The batch without its rules for a channel. -/
def Batch.plain : Batch → Batch
  | .install rules => .install (rules.filter (·.channel.isNone))
  | .remove rules => .remove (rules.filter (·.channel.isNone))

/-- The rules of a batch, each in a batch of its own. -/
def Batch.singles : Batch → List Batch
  | .install rules => rules.map fun rule => .install [rule]
  | .remove rules => rules.map fun rule => .remove [rule]

/-- The session when its next patch is answered as is due: the patches of a session are answered
    with these statuses one after the other. -/
def due (statuses : Nat → Nat) (session : Rest.Session) : Rest.Session :=
  { session with patchStatus := statuses session.patches.length }

/-- The session after a batch, its patches being answered as is due. -/
def served (s : FiberSwitch) (statuses : Nat → Nat) (reached : Option Rest.Session)
    (batch : Batch) : Option Rest.Session :=
  batch.singles.foldl (fun reached one => ((one.action s).run (reached.map (due statuses))).2) reached

/-- The patches that batches send one after the other. -/
def sentFor (s : FiberSwitch) (statuses : Nat → Nat) (session : Rest.Session)
    (batches : List Batch) : List (String × Document) :=
  match batches.foldl (s.served statuses) (some session) with
  | some after => after.patchesSince session
  | none => []

variable (s : FiberSwitch) (session : Rest.Session) (statuses : Nat → Nat)

theorem orders_plain (batch : Batch) :
    batch.plain.orders = batch.orders.filter fun order => order.rule.channel.isNone := by
  cases batch with
  | install rules => simp [Batch.plain, Batch.orders, List.filter_map, Function.comp_def, Order.rule]
  | remove rules => simp [Batch.plain, Batch.orders, List.filter_map, Function.comp_def, Order.rule]

theorem flatMap_orders_singles (batch : Batch) :
    batch.singles.flatMap Batch.orders = batch.orders := by
  cases batch <;> simp [Batch.singles, Batch.orders, List.flatMap_map, ← List.map_eq_flatMap]

@[simp] theorem patches_told (bodies : List Document) :
    (s.told session bodies).patches =
      session.patches ++ bodies.map fun body => (s.config.connectionsPath, body) := rfl

theorem run_due (one : Batch) :
    ((one.action s).run ((some session).map (due statuses))).2 =
      some (s.told (due statuses session) (one.orders.filterMap Order.body?)) := by
  obtain ⟨done, ran⟩ := run_batch s (due statuses session) one
  rw [Option.map_some, ran]

/-- One batch after the other sends the patches of all orders. The status that is left is one of
    those that were due, if any was. -/
theorem foldl_due (batches : List Batch) :
    ∃ status, (status = session.patchStatus ∨ ∃ n, status = statuses n) ∧
      batches.foldl (fun reached one => ((one.action s).run (reached.map (due statuses))).2)
        (some session) =
          some { s.told session ((batches.flatMap Batch.orders).filterMap Order.body?) with
            patchStatus := status } := by
  induction batches generalizing session with
  | nil => exact ⟨session.patchStatus, .inl rfl, by simp⟩
  | cons one batches ih =>
    obtain ⟨status, known, reached⟩ :=
      ih (s.told (due statuses session) (one.orders.filterMap Order.body?))
    refine ⟨status, ?_, ?_⟩
    · rcases known with rfl | later
      · exact .inr ⟨session.patches.length, rfl⟩
      · exact .inr later
    · rw [List.foldl_cons, run_due, reached]
      simp [told, due, Rest.Session.hear]

theorem served_some (batch : Batch) :
    ∃ status, (status = session.patchStatus ∨ ∃ n, status = statuses n) ∧
      s.served statuses (some session) batch =
        some { s.told session (batch.orders.filterMap Order.body?) with patchStatus := status } := by
  have served := foldl_due s session statuses batch.singles
  rwa [flatMap_orders_singles] at served

/-- What batches send is told by their orders, whatever the patches are answered with. -/
theorem sentFor_eq (batches : List Batch) :
    s.sentFor statuses session batches =
      ((batches.flatMap Batch.orders).filterMap Order.body?).map fun body =>
        (s.config.connectionsPath, body) := by
  suffices served : ∃ after, batches.foldl (s.served statuses) (some session) = some after ∧
      after.patches = (s.told session
        ((batches.flatMap Batch.orders).filterMap Order.body?)).patches by
    obtain ⟨after, reached, sent⟩ := served
    simp [sentFor, reached, Rest.Session.patchesSince, sent]
  induction batches generalizing session with
  | nil => exact ⟨session, rfl, by simp⟩
  | cons batch batches ih =>
    obtain ⟨status, -, reached⟩ := served_some s session statuses batch
    obtain ⟨after, later, sent⟩ := ih { s.told session (batch.orders.filterMap Order.body?) with
      patchStatus := status }
    refine ⟨after, ?_, ?_⟩
    · rw [List.foldl_cons, reached, later]
    · simp [sent]

theorem served_eq_run (batch : Batch) :
    s.served (fun _ => session.patchStatus) (some session) batch =
      ((batch.action s).run (some session)).2 := by
  obtain ⟨done, ran⟩ := run_batch s session batch
  obtain ⟨status, known, served⟩ := served_some s session (fun _ => session.patchStatus) batch
  obtain rfl : status = session.patchStatus := by simpa using known
  rw [ran, served]
  rfl

theorem body?_connect_of_channel {rule : FlowRule} (channel : rule.channel.isSome) :
    (Order.connect rule).body? = none := by
  simp [Order.body?, channel]

theorem body?_disconnect_eq_none_iff {rule : FlowRule} :
    (Order.disconnect rule).body? = none ↔ rule.outPort = none := by
  cases led : rule.outPort <;> simp [Order.body?, mapping, led, Except.toOption]

/-- Of the orders for a channel, those that send something remove a rule with an out-port. -/
theorem forall_body?_eq_none_iff {batches : List Batch} :
    (∀ order ∈ batches.flatMap Batch.orders, order.rule.channel.isNone = false →
        order.body? = none) ↔
      ∀ rules, .remove rules ∈ batches → ∀ rule ∈ rules, rule.channel.isSome →
        rule.outPort = none := by
  constructor
  · intro silent rules batch rule listed channel
    have ordered : Order.disconnect rule ∈ batches.flatMap Batch.orders :=
      List.mem_flatMap.2 ⟨.remove rules, batch, List.mem_map_of_mem listed⟩
    exact body?_disconnect_eq_none_iff.1 (silent _ ordered (by simpa [Order.rule] using channel))
  · intro unled order ordered channel
    obtain ⟨batch, given, listed⟩ := List.mem_flatMap.1 ordered
    cases batch with
    | install rules =>
      obtain ⟨rule, -, rfl⟩ := List.mem_map.1 listed
      exact body?_connect_of_channel (by simpa [Order.rule] using channel)
    | remove rules =>
      obtain ⟨rule, inside, rfl⟩ := List.mem_map.1 listed
      have led := unled rules given rule inside (by simpa [Order.rule] using channel)
      exact body?_disconnect_eq_none_iff.2 led

/-- Leaving members out loses nothing that was chosen exactly if nothing was chosen from them. -/
theorem filterMap_filter_eq_iff {α β : Type} {p : α → Bool} {f : α → Option β} (l : List α) :
    (l.filter p).filterMap f = l.filterMap f ↔ ∀ a ∈ l, p a = false → f a = none := by
  constructor
  · intro same
    induction l with
    | nil => simp
    | cons a l ih =>
      have shorter := (List.filter_sublist (l := l) (p := p)).filterMap f |>.length_le
      cases kept : p a
      · cases chosen : f a with
        | some b =>
          have lengths := congrArg List.length same
          simp [kept, chosen] at lengths
          omega
        | none => simp_all
      · cases chosen : f a <;> simp_all
  · intro nothing
    rw [List.filterMap_filter]
    refine List.filterMap_congr fun a listed => ?_
    by_cases kept : p a
    · simp [kept]
    · simp [kept, nothing a listed (by simpa using kept)]

/-- Whatever batches a switch is given and whatever it answers to each patch, be it with or without
    the rules for a channel: leaving these rules out changes nothing of what the switch is sent
    exactly if none of those that are to be removed has an out-port. A batch to which the same is
    answered throughout is served as it runs. -/
theorem sentFor_plain_iff (s : FiberSwitch) (session : Rest.Session) (statuses statuses' : Nat → Nat)
    (batches : List Batch) :
    (s.sentFor statuses' session (batches.map Batch.plain) = s.sentFor statuses session batches ↔
      ∀ rules, .remove rules ∈ batches → ∀ rule ∈ rules, rule.channel.isSome →
        rule.outPort = none) ∧
      ∀ batch : Batch, s.served (fun _ => session.patchStatus) (some session) batch =
        ((batch.action s).run (some session)).2 := by
  refine ⟨?_, served_eq_run s session⟩
  have orders : (batches.map Batch.plain).flatMap Batch.orders =
      (batches.flatMap Batch.orders).filter fun order => order.rule.channel.isNone := by
    rw [List.flatMap_map, List.filter_flatMap]
    simp only [orders_plain]
  have injective (body body' : Document) (same :
      (s.config.connectionsPath, body) = (s.config.connectionsPath, body')) : body = body' :=
    (Prod.mk.inj same).2
  rw [sentFor_eq, sentFor_eq, orders, List.map_inj_right injective, filterMap_filter_eq_iff]
  exact forall_body?_eq_none_iff

/-- A rule for a channel shares its ports with a plain one. It is not installed; removing it takes
    away the connection of the other. -/
theorem disconnected_by_channel_rule :
    let s : FiberSwitch := ⟨Sample.fiberSwitch, {}, []⟩
    let rule := Sample.fiberRule ⟨1⟩ ⟨17⟩
    let batches : List Batch := [.install [rule], .remove [rule.onChannel (.dwdm .ghz50 0)]]
    let sent := s.sentFor (fun _ => 200) {} batches
    let plain := s.sentFor (fun _ => 200) {} (batches.map Batch.plain)
    plain.length = 1 ∧ sent.length = 2 ∧ ((s.settled 200 .empty plain).get? "1").isSome ∧
      ((s.settled 200 .empty sent).get? "1").isNone := by
  decide +kernel

end Lightpath.FiberSwitch
