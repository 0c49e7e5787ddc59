import Lightpath.Proofs.FiberSwitch.Orders
import Lightpath.Proofs.FiberSwitch.Repair
import Mathlib.Data.List.Induction
import Mathlib.Data.List.Pairwise

/-!
# Reading back what was ordered

A switch that carries out the patches it accepts holds, for every in-port, what the last accepted
patch for it has left there. What is read back from it are these connections, in the order of the
texts of their in-ports.
-/

namespace Lightpath.FiberSwitch

/-- An order, with the session through which the switch is reached by then, if it is. -/
structure Turn where
  order : Order
  session : Option Rest.Session
deriving Inhabited

/-- What a patch for an in-port leaves there: the out-port that it leads to, if to any. -/
structure Write where
  inPort : PortNumber
  outPort : Option PortNumber
deriving DecidableEq, Inhabited

/-- What the patch of an order leaves. Orders without a patch leave nothing. -/
def Order.write? : Order → Option Write
  | .connect rule =>
    if rule.channel.isSome then none else rule.outPort.map fun out => ⟨rule.inPort, some out⟩
  | .disconnect rule => rule.outPort.map fun _ => ⟨rule.inPort, none⟩

/-- What a turn leaves: its patch has to reach the switch and to be accepted. -/
def Turn.write? (t : Turn) : Option Write :=
  if t.session.any fun session => Rest.isSuccess session.patchStatus then t.order.write? else none

/-- Where the last accepted patch for an in-port leads it. -/
def lastOut? (turns : List Turn) (inPort : PortNumber) : Option PortNumber :=
  ((turns.filterMap Turn.write?).reverse.find? (·.inPort = inPort)).bind (·.outPort)

/-- What the switch holds after a turn. -/
def after (s : FiberSwitch) (held : Table Document) (t : Turn) : Table Document :=
  match t.session with
  | some session => s.settled session.patchStatus held (patchesOf (t.order.action s) session)
  | none => held

/-- What the switch holds after turns, when it held nothing before. -/
def heldAfter (s : FiberSwitch) (turns : List Turn) : Table Document :=
  turns.foldl s.after .empty

/-- The connections with a patch carried out. -/
def Write.onto (held : Table Document) (w : Write) : Table Document :=
  match w.outPort with
  | some out => held.insert w.inPort.display (.word out.value)
  | none => held.erase w.inPort.display

variable {s : FiberSwitch} {held : Table Document}

theorem patchesOf_order (order : Order) (session : Rest.Session) :
    patchesOf (order.action s) session =
      order.body?.toList.map fun body => (s.config.connectionsPath, body) := by
  obtain ⟨answer, ran⟩ := run_order s session order
  rw [patchesOf, ran]
  exact session.patchesSince_hear ..

theorem settled_of_refused {status : Nat} (refused : Rest.isSuccess status = false)
    (sent : List (String × Document)) : s.settled status held sent = held := by
  induction sent with
  | nil => rfl
  | cons request sent ih => simp_all [settled]

theorem foldl_patched_body? (order : Order) :
    order.body?.toList.foldl patched held = (order.write?.toList).foldl Write.onto held := by
  cases order with
  | connect rule =>
    cases channel : rule.channel <;> cases led : rule.outPort <;>
      simp [Order.body?, Order.write?, mapping, channel, led, Except.toOption, Write.onto,
        patched_display]
  | disconnect rule =>
    cases led : rule.outPort <;>
      simp [Order.body?, Order.write?, mapping, led, Except.toOption, Write.onto, patched,
        patchMember]

/-- A turn changes what the switch holds by what it leaves. -/
theorem after_eq (t : Turn) : s.after held t = t.write?.toList.foldl Write.onto held := by
  obtain ⟨order, session⟩ := t
  cases session with
  | none => rfl
  | some session =>
    change s.settled session.patchStatus held (patchesOf (order.action s) session) = _
    rw [patchesOf_order]
    by_cases accepted : Rest.isSuccess session.patchStatus
    · rw [settled_of_accepted held fun _ _ => accepted, foldl_patched_body?]
      simp [Turn.write?, accepted]
    · have refused : Rest.isSuccess session.patchStatus = false := by simpa using accepted
      rw [settled_of_refused refused]
      simp [Turn.write?, refused]

theorem heldAfter_eq (turns : List Turn) :
    s.heldAfter turns = (turns.filterMap Turn.write?).foldl Write.onto .empty := by
  unfold heldAfter
  generalize Table.empty = held
  induction turns generalizing held with
  | nil => rfl
  | cons t turns ih =>
    rw [List.foldl_cons, after_eq, ih]
    cases left : t.write? <;> simp [left]

theorem get?_onto (w : Write) (inPort : PortNumber) :
    (w.onto held).get? inPort.display =
      if w.inPort = inPort then w.outPort.map fun out => .word out.value
      else held.get? inPort.display := by
  have apart : w.inPort.display = inPort.display ↔ w.inPort = inPort :=
    ⟨PortNumber.display_injective, congrArg _⟩
  cases out : w.outPort <;> simp [Write.onto, out, Table.get?_insert, Table.get?_erase, apart]

/-- Under every in-port is what the last patch for it has left. -/
theorem get?_foldl_onto (writes : List Write) (inPort : PortNumber) :
    (writes.foldl Write.onto .empty).get? inPort.display =
      ((writes.reverse.find? (·.inPort = inPort)).bind (·.outPort)).map fun out =>
        .word out.value := by
  induction writes using List.reverseRecOn with
  | nil => simp
  | append_singleton writes w ih =>
    rw [List.foldl_concat, get?_onto, ih]
    by_cases same : w.inPort = inPort <;> simp [same]

theorem plain_onto (plain : Plain held.entries) (w : Write) : Plain (w.onto held).entries := by
  rintro ⟨key, value⟩ listed
  have found := (w.onto held).get?_eq_some_iff.2 listed
  by_cases same : w.inPort.display = key
  · exact ⟨w.inPort, same.symm⟩
  · have before : held.get? key = some value := by
      cases out : w.outPort <;>
        simpa [Write.onto, out, Table.get?_insert, Table.get?_erase, same] using found
    exact plain _ (held.get?_eq_some_iff.1 before)

theorem plain_heldAfter (turns : List Turn) : Plain (s.heldAfter turns).entries := by
  rw [heldAfter_eq]
  exact List.foldlRecOn _ Write.onto (motive := fun held : Table Document => Plain held.entries)
    (fun _ listed => nomatch listed) fun _ plain w _ => plain_onto plain w

theorem get?_heldAfter (turns : List Turn) (inPort : PortNumber) :
    (s.heldAfter turns).get? inPort.display =
      (lastOut? turns inPort).map fun out => .word out.value := by
  rw [heldAfter_eq, get?_foldl_onto, lastOut?]

/-- What is read of a member of which the key is the text of a port comes from that port. -/
theorem inPort_of_observed? {inPort : PortNumber} {value : Document} {seen : FlowRule}
    (observed : s.observed? (inPort.display, value) = some seen) : seen.inPort = inPort := by
  rw [observed?_display] at observed
  obtain ⟨out, -, rfl⟩ := Option.map_eq_some_iff.1 observed
  rfl

theorem mem_observed_heldAfter_iff {turns : List Turn} {seen : FlowRule} :
    seen ∈ (s.heldAfter turns).entries.filterMap s.observed? ↔
      ∃ inPort outPort, lastOut? turns inPort = some outPort ∧
        seen = { FlowRule.between s.device inPort outPort with
          priority := s.config.defaultPriority } := by
  rw [List.mem_filterMap]
  constructor
  · rintro ⟨⟨key, value⟩, listed, observed⟩
    obtain ⟨inPort, rfl : key = _⟩ := plain_heldAfter turns _ listed
    have found := (s.heldAfter turns).get?_eq_some_iff.2 listed
    rw [get?_heldAfter] at found
    obtain ⟨outPort, last, rfl⟩ := Option.map_eq_some_iff.1 found
    rw [observed?_display, outPort?_word, Option.map_some, Option.some.injEq] at observed
    exact ⟨inPort, outPort, last, observed.symm⟩
  · rintro ⟨inPort, outPort, last, rfl⟩
    have found := get?_heldAfter (s := s) turns inPort
    rw [last, Option.map_some] at found
    refine ⟨_, (s.heldAfter turns).get?_eq_some_iff.1 found, ?_⟩
    rw [observed?_display, outPort?_word]
    rfl

theorem pairwise_observed_heldAfter (turns : List Turn) :
    ((s.heldAfter turns).entries.filterMap s.observed?).Pairwise
      fun a b => a.inPort.display < b.inPort.display := by
  have plain := plain_heldAfter (s := s) turns
  refine List.Pairwise.filterMap s.observed?
    (R := fun a b : String × Document => (∃ p : PortNumber, a.1 = p.display) ∧
      (∃ p : PortNumber, b.1 = p.display) ∧ a.1 < b.1) ?_ ?_
  · rintro ⟨_, value⟩ ⟨_, value'⟩ ⟨⟨p, rfl⟩, ⟨q, rfl⟩, less⟩ seen observed seen' observed'
    rw [inPort_of_observed? observed, inPort_of_observed? observed']
    exact less
  · exact (s.heldAfter turns).sorted.imp_of_mem fun first second less =>
      ⟨plain _ first, plain _ second, less⟩

/-- Turns that leave nothing might as well not have been taken. -/
theorem heldAfter_filter (turns : List Turn) :
    s.heldAfter (turns.filter (·.write?.isSome)) = s.heldAfter turns := by
  rw [heldAfter_eq, heldAfter_eq, List.filterMap_filter]
  congr 1
  refine List.filterMap_congr fun t _ => ?_
  cases t.write? <;> simp

/-- Whatever rules a switch is asked to install and to remove, whatever it answers to each patch and
    whenever it cannot be reached: reading its connections back gives exactly one rule for every
    in-port of which the last accepted patch was one to install, with the out-port of that patch, in
    the order of the texts of the in-ports. Turns in which no patch is accepted make no difference. -/
theorem readConnections_after_turns (s : FiberSwitch) (turns : List Turn) (session : Rest.Session)
    (reads : session.resources.get? s.config.connectionsPath =
      some (.object (s.heldAfter turns).entries)) :
    ∃ rules, (s.readConnections.run (some session)).1 = .ok rules ∧
      (∀ rule, rule ∈ rules ↔ ∃ inPort outPort, lastOut? turns inPort = some outPort ∧
        rule = ⟨s.device, inPort, some outPort, none, none, s.config.defaultPriority, 0⟩) ∧
      rules.Pairwise (fun a b => a.inPort.display < b.inPort.display) ∧
      s.heldAfter (turns.filter (·.write?.isSome)) = s.heldAfter turns := by
  refine ⟨(s.heldAfter turns).entries.filterMap s.observed?, ?_, ?_, ?_, heldAfter_filter turns⟩
  · rw [run_readConnections reads]
  · intro rule
    exact mem_observed_heldAfter_iff
  · exact pairwise_observed_heldAfter turns

/-- Port 1 is led elsewhere, port 2 is refused twice, port 4 is taken out again, and the largest
    number is an out-port like others. In texts 10 comes before 3. -/
theorem readConnections_after_ten_turns :
    let s : FiberSwitch := ⟨Sample.fiberSwitch, {}, []⟩
    let install (inPort outPort : UInt64) (status : Nat) : Turn :=
      ⟨.connect (Sample.fiberRule ⟨inPort⟩ ⟨outPort⟩), some { patchStatus := status }⟩
    let remove (inPort outPort : UInt64) (status : Nat) : Turn :=
      ⟨.disconnect (Sample.fiberRule ⟨inPort⟩ ⟨outPort⟩), some { patchStatus := status }⟩
    let turns : List Turn :=
      [install 1 17 200, install 2 18 500, install 10 18446744073709551615 204, install 3 5 201,
        remove 3 5 404, install 4 6 200, remove 4 9 200, install 1 20 299, install 2 7 300,
        ⟨.connect (Sample.fiberRule ⟨2⟩ ⟨8⟩), none⟩]
    let session : Rest.Session :=
      { resources := .insert .empty "/connections/" (.object (s.heldAfter turns).entries) }
    let expected := [Sample.fiberRule ⟨1⟩ ⟨20⟩, Sample.fiberRule ⟨10⟩ ⟨18446744073709551615⟩,
      Sample.fiberRule ⟨3⟩ ⟨5⟩]
    (s.readConnections.run (some session)).1 = .ok expected ∧
      (∀ rule ∈ expected, lastOut? turns rule.inPort = rule.outPort) ∧
      expected.Pairwise (fun a b => a.inPort.display < b.inPort.display) := by
  intro s install remove turns session expected
  have reads : session.resources.get? s.config.connectionsPath =
      some (.object (s.heldAfter turns).entries) := Table.get?_insert_self ..
  obtain ⟨rules, read, mem_iff, ordered, -⟩ := readConnections_after_turns s turns session reads
  have same : (s.readConnections.run (some session)).1.toOption = some expected := by decide +kernel
  obtain rfl : rules = expected := by simpa [read, Except.toOption] using same
  refine ⟨read, fun rule listed => ?_, ordered⟩
  obtain ⟨inPort, outPort, last, rfl⟩ := (mem_iff rule).1 listed
  exact last

end Lightpath.FiberSwitch
