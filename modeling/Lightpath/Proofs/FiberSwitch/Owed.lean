import Lightpath.Proofs.FiberSwitch.Repair
import Mathlib.Data.List.Forall2

/-!
# Repairs that are owed

A connection on a switch is owed a repair if nobody asks for it and there is a rule for its in-port
that could be installed in its place. A reconciliation looks at the first rule for the in-port
alone: it makes good all that is owed exactly if none of these rules lacks an out-port.
-/

namespace Lightpath.FiberSwitch

/-- No rule without a channel asks for what was read, and one for its in-port could be installed. -/
structure Owed (intents : List FlowRule) (seen : FlowRule) : Prop where
  unasked : ∀ want ∈ intents, want.channel = none → want.inPort = seen.inPort →
    want.outPort ≠ seen.outPort
  wanted : ∃ want ∈ intents, want.channel = none ∧ want.inPort = seen.inPort ∧ want.outPort.isSome

/-- Whether the first rule without a channel for an in-port leads it somewhere. -/
def leads (intents : List FlowRule) (inPort : PortNumber) : Bool :=
  (intents.find? fun want => want.inPort = inPort && want.channel.isNone).any (·.outPort.isSome)

/-- A request that leads the in-port of what was read where a rule without a channel wants it. -/
def Repairs (s : FiberSwitch) (seen : FlowRule) (request : String × Document) : Prop :=
  ∃ want ∈ s.intents, ∃ out, want.channel = none ∧ want.inPort = seen.inPort ∧
    want.outPort = some out ∧
      request = (s.config.connectionsPath, .object [(seen.inPort.display, .word out.value)])

variable {s : FiberSwitch} {intents : List FlowRule} {seen : FlowRule}

theorem owed_iff :
    Owed intents seen ↔
      (∀ want ∈ intents, want.channel = none → want.inPort = seen.inPort →
        want.outPort ≠ seen.outPort) ∧
      ∃ want ∈ intents, want.channel = none ∧ want.inPort = seen.inPort ∧ want.outPort.isSome := by
  constructor
  · intro owed
    exact ⟨owed.unasked, owed.wanted⟩
  · rintro ⟨unasked, wanted⟩
    exact ⟨unasked, wanted⟩

instance : DecidablePred (Owed intents) := fun _ => decidable_of_iff _ owed_iff.symm

theorem mapping_eq_ok_iff {rule : FlowRule} {body : Document} :
    mapping rule = .ok body ↔
      ∃ out, rule.outPort = some out ∧ body = .object [(rule.inPort.display, .word out.value)] := by
  unfold mapping
  cases rule.outPort <;> simp [eq_comm]

theorem repairBody?_eq_some_iff {body : Document} :
    repairBody? intents seen = some body ↔
      ∃ want, repair? intents seen = some want ∧ mapping want = .ok body := by
  unfold repairBody?
  rw [Option.bind_eq_some_iff]
  refine exists_congr fun want => and_congr_right fun _ => ?_
  cases mapping want <;> simp [Except.toOption]

/-- What is sent in place of a connection is a repair. -/
theorem repairs_of_repairBody? {body : Document} (sent : repairBody? s.intents seen = some body) :
    s.Repairs seen (s.config.connectionsPath, body) := by
  obtain ⟨want, chosen, written⟩ := repairBody?_eq_some_iff.1 sent
  obtain ⟨-, first⟩ := repair?_eq_some_iff.1 chosen
  obtain ⟨out, has_out, rfl⟩ := mapping_eq_ok_iff.1 written
  obtain ⟨same, plain⟩ := find?_intent first
  have meant : want ∈ s.intents := List.mem_of_find?_eq_some first
  exact ⟨want, meant, out, plain, same, has_out, by rw [same]⟩

/-- A repair is sent exactly if it is owed and the first rule for the in-port can be installed. -/
theorem isSome_repairBody?_iff :
    (repairBody? intents seen).isSome ↔ Owed intents seen ∧ leads intents seen.inPort := by
  have asks (other : FlowRule) : asksFor other seen ↔
      other.channel = none ∧ other.inPort = seen.inPort ∧ other.outPort = seen.outPort := by
    simp [asksFor, and_assoc]
  constructor
  · intro sent
    obtain ⟨body, sent⟩ := Option.isSome_iff_exists.1 sent
    obtain ⟨want, chosen, written⟩ := repairBody?_eq_some_iff.1 sent
    obtain ⟨unasked, first⟩ := repair?_eq_some_iff.1 chosen
    obtain ⟨out, has_out, -⟩ := mapping_eq_ok_iff.1 written
    obtain ⟨same, plain⟩ := find?_intent first
    refine ⟨⟨?_, want, List.mem_of_find?_eq_some first, plain, same, by simp [has_out]⟩, ?_⟩
    · intro other listed bare from_port there
      exact unasked other listed ((asks other).2 ⟨bare, from_port, there⟩)
    · simp [leads, first, has_out]
  · rintro ⟨owed, led⟩
    unfold leads at led
    cases first : intents.find? fun want => want.inPort = seen.inPort && want.channel.isNone with
    | none => simp [first] at led
    | some want =>
      obtain ⟨out, has_out⟩ : ∃ out, want.outPort = some out := by
        simpa [first, Option.isSome_iff_exists] using led
      have written : mapping want = .ok _ := mapping_eq_ok_iff.2 ⟨out, has_out, rfl⟩
      have chosen : repair? intents seen = some want := by
        refine repair?_eq_some_iff.2 ⟨fun other listed asked => ?_, first⟩
        obtain ⟨bare, from_port, there⟩ := (asks other).1 asked
        exact owed.unasked other listed bare from_port there
      exact Option.isSome_iff_exists.2 ⟨_, repairBody?_eq_some_iff.2 ⟨want, chosen, written⟩⟩

/-- What is sent repairs, one by one, the connections that are owed it and of which the in-port is
    led somewhere. -/
theorem repairs_filterMap (s : FiberSwitch) (observed : List FlowRule) :
    List.Forall₂ s.Repairs
      ((observed.filter (Owed s.intents)).filter fun seen => leads s.intents seen.inPort)
      ((observed.filterMap (repairBody? s.intents)).map fun body =>
        (s.config.connectionsPath, body)) := by
  induction observed with
  | nil => exact .nil
  | cons seen observed ih =>
    have some_iff : (repairBody? s.intents seen).isSome ↔
        Owed s.intents seen ∧ leads s.intents seen.inPort := isSome_repairBody?_iff
    cases sent : repairBody? s.intents seen with
    | some body =>
      obtain ⟨owed, led⟩ : Owed s.intents seen ∧ leads s.intents seen.inPort := by
        simpa [sent] using some_iff
      rw [List.filterMap_cons_some sent, List.filter_cons_of_pos (by simpa using owed),
        List.filter_cons_of_pos (by simpa using led)]
      exact .cons (repairs_of_repairBody? sent) ih
    | none =>
      rw [List.filterMap_cons_none sent]
      by_cases owed : Owed s.intents seen
      · have stuck : leads s.intents seen.inPort = false := by
          simpa [sent, owed] using some_iff
        rw [List.filter_cons_of_pos (by simpa using owed), List.filter_cons_of_neg (by simp [stuck])]
        exact ih
      · rw [List.filter_cons_of_neg (by simpa using owed)]
        exact ih

/-- Whatever rules are meant to hold and whatever connections a switch lists: a reconciliation sends
    a repair for each connection that is owed one, and nothing else, exactly if for none of them the
    first rule for its in-port lacks an out-port. -/
theorem repairs_owed_iff (s : FiberSwitch) (session : Rest.Session)
    (members : List (String × Document))
    (reads : session.resources.get? s.config.connectionsPath = some (.object members)) :
    let observed := members.filterMap s.observed?
    List.Forall₂ s.Repairs (observed.filter (Owed s.intents)) (patchesOf s.reconcile session) ↔
      ∀ seen ∈ observed, Owed s.intents seen → leads s.intents seen.inPort := by
  intro observed
  have sent := repairs_filterMap s observed
  rw [← patchesOf_reconcile reads] at sent
  have all_led_iff : (∀ seen ∈ observed, Owed s.intents seen → leads s.intents seen.inPort) ↔
      ∀ seen ∈ observed.filter (Owed s.intents), leads s.intents seen.inPort := by
    simp [List.mem_filter]
  rw [all_led_iff, ← List.filter_eq_self]
  constructor
  · intro whole
    -- a repair that is not sent makes what is sent too short
    refine List.filter_sublist.eq_of_length ?_
    rw [sent.length_eq, whole.length_eq]
  · intro all
    rwa [all] at sent

/-- The rule without an out-port comes after the one that is installed; what is asked for and what
    nobody wants anything of is not owed a repair. -/
theorem repairs_owed_of_complete_first :
    let s : FiberSwitch := ⟨Sample.fiberSwitch, {},
      [(Sample.fiberRule ⟨1⟩ ⟨18⟩).onChannel (.dwdm .ghz50 0), Sample.fiberRule ⟨1⟩ ⟨17⟩,
        { Sample.fiberRule ⟨1⟩ ⟨19⟩ with outPort := none }, Sample.fiberRule ⟨2⟩ ⟨4⟩]⟩
    let members : List (String × Document) := [("1", .word 18), ("2", .word 4), ("5", .word 9)]
    let session : Rest.Session :=
      { resources := .insert .empty "/connections/" (.object members) }
    (members.filterMap s.observed?).filter (Owed s.intents) =
        [Sample.fiberRule ⟨1⟩ ⟨18⟩] ∧
      List.Forall₂ s.Repairs ((members.filterMap s.observed?).filter (Owed s.intents))
        (patchesOf s.reconcile session) := by
  intro s members session
  have reads : session.resources.get? s.config.connectionsPath = some (.object members) :=
    Table.get?_insert_self ..
  have led : ∀ seen ∈ members.filterMap s.observed?, Owed s.intents seen →
      leads s.intents seen.inPort := by
    decide +kernel
  exact ⟨by decide +kernel, (repairs_owed_iff s session members reads).2 led⟩

/-- A rule without an out-port comes first: the connection is owed what the second rule asks for,
    and nothing is sent. -/
theorem unrepaired_of_incomplete_first :
    let s : FiberSwitch := ⟨Sample.fiberSwitch, {},
      [{ Sample.fiberRule ⟨1⟩ ⟨19⟩ with outPort := none }, Sample.fiberRule ⟨1⟩ ⟨17⟩]⟩
    let members : List (String × Document) := [("1", .word 20)]
    let session : Rest.Session :=
      { resources := .insert .empty "/connections/" (.object members) }
    (∃ seen ∈ members.filterMap s.observed?, Owed s.intents seen) ∧
      (patchesOf s.reconcile session).length = 0 := by
  decide +kernel

end Lightpath.FiberSwitch
