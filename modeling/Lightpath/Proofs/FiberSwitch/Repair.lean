import Lightpath.Proofs.FiberSwitch.Patches
import Lightpath.Proofs.Port.Number
import Lightpath.Sample

/-!
# Repairing the connections of a switch

A reconciliation changes the connections that contradict the rules which are meant to hold, and no
others. When all its patches are accepted the connections agree with the rules as far as they can:
the next reconciliation sends nothing.
-/

namespace Lightpath.FiberSwitch

/-- The rules want an in-port to lead elsewhere: no rule without a channel asks for its out-port,
    and the first one without a channel for the in-port asks for `wanted`. -/
structure Contradicts (intents : List FlowRule) (inPort outPort wanted : PortNumber) : Prop where
  unasked : ∀ want ∈ intents, want.channel = none → want.inPort = inPort →
    want.outPort ≠ some outPort
  first : ∃ want, intents.find? (fun want => want.inPort = inPort && want.channel.isNone) =
    some want ∧ want.outPort = some wanted

/-- What one pass over the connections comes to. -/
structure Repaired (s : FiberSwitch) (before after : Table Document) : Prop where
  keys_eq : after.keys = before.keys
  /-- What contradicts the rules is led to where they want it. -/
  changed : ∀ inPort value outPort wanted, before.get? (PortNumber.display inPort) = some value →
    outPort? value = some outPort → Contradicts s.intents inPort outPort wanted →
      after.get? inPort.display = some (.word wanted.value)
  /-- All else is left as it is. -/
  kept : ∀ key value, before.get? key = some value →
    (∀ inPort outPort wanted, key = PortNumber.display inPort → outPort? value = some outPort →
      ¬ Contradicts s.intents inPort outPort wanted) → after.get? key = some value

/-- The out-port that a member of the connections is given, if it is repaired. -/
def wanted? (s : FiberSwitch) (member : String × Document) : Option PortNumber :=
  (s.observed? member).bind fun seen => (repair? s.intents seen).bind (·.outPort)

/-- A member of the connections as it is left. -/
def mend (s : FiberSwitch) (member : String × Document) : String × Document :=
  match s.wanted? member with
  | some out => (member.1, .word out.value)
  | none => member

variable {s : FiberSwitch} {intents : List FlowRule} {inPort outPort wanted : PortNumber}
  {value : Document}

theorem fst_mend (member : String × Document) : (s.mend member).1 = member.1 := by
  unfold mend
  split <;> rfl

/-- The connections as they are left. -/
def mendAll (s : FiberSwitch) (held : Table Document) : Table Document where
  entries := held.entries.map s.mend
  sorted := by
    refine held.sorted.map _ fun a b less => ?_
    rw [fst_mend, fst_mend]
    exact less

theorem keys_mendAll (held : Table Document) : (s.mendAll held).keys = held.keys := by
  simp [mendAll, Table.keys, fst_mend]

theorem lookup_map_mend (key : String) (members : List (String × Document)) :
    Table.lookup key (members.map s.mend) =
      (Table.lookup key members).map fun value => (s.mend (key, value)).2 := by
  induction members with
  | nil => rfl
  | cons member members ih =>
    rw [List.map_cons, Table.lookup, Table.lookup, fst_mend]
    by_cases same : member.1 = key
    · subst same
      rw [if_pos rfl, if_pos rfl]
      rfl
    · rw [if_neg same, if_neg same, ih]

theorem get?_mendAll (held : Table Document) (key : String) :
    (s.mendAll held).get? key = (held.get? key).map fun value => (s.mend (key, value)).2 :=
  lookup_map_mend key held.entries

theorem outPort?_word (n : UInt64) : outPort? (.word n) = some ⟨n⟩ := by
  have fits : ((n.toNat : Nat) : Int) < UInt64.size := Int.ofNat_lt.2 n.toNat_lt
  rw [Document.word, outPort?, if_pos ⟨Int.natCast_nonneg _, fits⟩, Int.toNat_natCast,
    UInt64.ofNat_toNat]

/-- A member of which the key is the text of a port is read if its value names one. -/
theorem observed?_display (inPort : PortNumber) (value : Document) :
    s.observed? (inPort.display, value) = (outPort? value).map fun outPort =>
      { FlowRule.between s.device inPort outPort with priority := s.config.defaultPriority } := by
  unfold observed?
  dsimp only
  rw [PortNumber.read_display]
  cases outPort? value <;> rfl

theorem find?_intent {want : FlowRule}
    (first : intents.find? (fun want => want.inPort = inPort && want.channel.isNone) = some want) :
    want.inPort = inPort ∧ want.channel = none := by
  simpa using List.find?_some first

theorem repair?_eq_some_iff {seen want : FlowRule} :
    repair? intents seen = some want ↔
      (∀ other ∈ intents, ¬ asksFor other seen) ∧
        intents.find? (fun want => want.inPort = seen.inPort && want.channel.isNone) =
          some want := by
  unfold repair?
  split
  · next asked =>
    obtain ⟨other, member, asks⟩ := List.any_eq_true.1 asked
    refine iff_of_false (by simp) ?_
    rintro ⟨unasked, -⟩
    exact unasked other member asks
  · next unasked =>
    refine (and_iff_right fun other member asks => unasked ?_).symm
    exact List.any_eq_true.2 ⟨other, member, asks⟩

/-- A rule that was read is led elsewhere exactly if the rules that are meant to hold want so. -/
theorem repair?_bind_outPort_iff {seen : FlowRule} (from_port : seen.inPort = inPort)
    (to_port : seen.outPort = some outPort) :
    (repair? intents seen).bind (·.outPort) = some wanted ↔
      Contradicts intents inPort outPort wanted := by
  have asks (other : FlowRule) : asksFor other seen ↔
      other.channel = none ∧ other.inPort = inPort ∧ other.outPort = some outPort := by
    simp [asksFor, from_port, to_port, and_assoc]
  rw [Option.bind_eq_some_iff]
  constructor
  · rintro ⟨want, chosen, out⟩
    obtain ⟨unasked, first⟩ := repair?_eq_some_iff.1 chosen
    rw [from_port] at first
    refine ⟨fun other member plain same there => ?_, want, first, out⟩
    exact unasked other member ((asks other).2 ⟨plain, same, there⟩)
  · rintro ⟨unasked, want, first, out⟩
    rw [← from_port] at first
    refine ⟨want, repair?_eq_some_iff.2 ⟨fun other member asked => ?_, first⟩, out⟩
    obtain ⟨plain, same, there⟩ := (asks other).1 asked
    exact unasked other member plain same there

theorem wanted?_display_iff :
    s.wanted? (inPort.display, value) = some wanted ↔
      ∃ outPort, outPort? value = some outPort ∧ Contradicts s.intents inPort outPort wanted := by
  unfold wanted?
  rw [observed?_display]
  cases outPort? value with
  | none => simp
  | some outPort =>
    rw [Option.map_some, Option.bind_some]
    refine (repair?_bind_outPort_iff rfl rfl).trans ?_
    constructor
    · intro contradicts
      exact ⟨outPort, rfl, contradicts⟩
    · rintro ⟨_, ⟨⟩, contradicts⟩
      exact contradicts

/-- What was given the out-port that the rules want is not repaired again. -/
theorem wanted?_mend (inPort : PortNumber) (value : Document) :
    s.wanted? (s.mend (inPort.display, value)) = none := by
  unfold mend
  split
  · next wanted repaired =>
    obtain ⟨-, -, -, want, first, out⟩ := wanted?_display_iff.1 repaired
    refine Option.eq_none_iff_forall_ne_some.2 fun other again => ?_
    obtain ⟨there, named, unasked, -⟩ := wanted?_display_iff.1 again
    rw [outPort?_word] at named
    obtain rfl : wanted = there := Option.some.inj named
    obtain ⟨same, plain⟩ := find?_intent first
    exact unasked want (List.mem_of_find?_eq_some first) plain same out
  · next left => exact left

/-- All keys are texts of ports. -/
def Plain (members : List (String × Document)) : Prop :=
  ∀ member ∈ members, ∃ inPort : PortNumber, member.1 = inPort.display

/-- The patch that gives a member of the connections its out-port. -/
def mendBody? (s : FiberSwitch) (member : String × Document) : Option Document :=
  (s.wanted? member).map fun out => .object [(member.1, .word out.value)]

/-- The repair of a member that was read is written under the key of the member. -/
theorem bind_repairBody? {member : String × Document} (plain : member.1 = inPort.display) :
    (s.observed? member).bind (repairBody? s.intents) = s.mendBody? member := by
  obtain ⟨key, value⟩ := member
  obtain rfl : key = inPort.display := plain
  unfold mendBody? wanted?
  rw [observed?_display]
  cases outPort? value with
  | none => rfl
  | some outPort =>
    rw [Option.map_some, Option.bind_some, Option.bind_some, repairBody?]
    cases chosen : repair? s.intents _ with
    | none => rfl
    | some want =>
      obtain ⟨-, first⟩ := repair?_eq_some_iff.1 chosen
      have same : want.inPort = inPort := (find?_intent first).1
      rw [Option.bind_some, Option.bind_some, mapping, same]
      cases want.outPort <;> rfl

theorem filterMap_repairBody? {members : List (String × Document)} (plain : Plain members) :
    (members.filterMap s.observed?).filterMap (repairBody? s.intents) =
      members.filterMap s.mendBody? := by
  rw [List.filterMap_filterMap]
  refine List.filterMap_congr fun member listed => ?_
  obtain ⟨inPort, same⟩ := plain member listed
  exact bind_repairBody? same

theorem display_ne_removeKey (inPort : PortNumber) : inPort.display ≠ removeKey := by
  intro same
  have read := congrArg PortNumber.read same
  rw [PortNumber.read_display] at read
  cases read

theorem patched_display (held : Table Document) (inPort : PortNumber) (value : Document) :
    patched held (.object [(inPort.display, value)]) = held.insert inPort.display value :=
  if_neg (display_ne_removeKey inPort)

/-- What is held under a key after the repairs of members with different keys. -/
theorem get?_foldl_patched {members : List (String × Document)} (plain : Plain members)
    (sorted : members.Pairwise fun a b => a.1 < b.1) (held : Table Document) (key : String) :
    ((members.filterMap s.mendBody?).foldl patched held).get? key =
      match (Table.lookup key members).bind fun value => s.wanted? (key, value) with
      | some out => some (.word out.value)
      | none => held.get? key := by
  induction members generalizing held with
  | nil => rfl
  | cons member members ih =>
    obtain ⟨below, sorted⟩ := List.pairwise_cons.1 sorted
    obtain ⟨⟨inPort, named⟩, plain⟩ := List.forall_mem_cons.1 plain
    have once (same : member.1 = key) : Table.lookup key members = none := by
      refine Option.eq_none_iff_forall_ne_some.2 fun value found => ?_
      have listed := (Table.lookup_eq_some_iff sorted).1 found
      exact absurd (below _ listed) (same ▸ String.lt_irrefl member.1)
    rw [Table.lookup]
    cases repaired : s.wanted? member with
    | none =>
      have nothing : s.mendBody? member = none := by rw [mendBody?, repaired]; rfl
      rw [List.filterMap_cons_none nothing, ih plain sorted]
      by_cases same : member.1 = key
      · rw [if_pos same, once same]
        subst same
        rw [Option.bind_some, repaired]
        rfl
      · rw [if_neg same]
    | some out =>
      have body : s.mendBody? member = some (.object [(member.1, .word out.value)]) := by
        rw [mendBody?, repaired]
        rfl
      rw [List.filterMap_cons_some body, List.foldl_cons, ih plain sorted, named, patched_display,
        ← named]
      by_cases same : member.1 = key
      · rw [if_pos same, once same]
        subst same
        rw [Option.bind_some, repaired]
        exact held.get?_insert_self ..
      · rw [if_neg same, Table.get?_insert_of_ne _ _ same]

/-- The repairs that are carried out leave every member as it is mended. -/
theorem foldl_patched_eq {held : Table Document} (plain : Plain held.entries) :
    (held.entries.filterMap s.mendBody?).foldl patched held = s.mendAll held := by
  refine Table.ext_get? fun key => ?_
  rw [get?_foldl_patched plain held.sorted, get?_mendAll]
  change (match (held.get? key).bind fun value => s.wanted? (key, value) with
    | some out => some (Document.word out.value)
    | none => held.get? key) = _
  cases held.get? key with
  | none => rfl
  | some value =>
    rw [Option.bind_some, Option.map_some, mend]
    cases s.wanted? (key, value) <;> rfl

theorem repaired_mendAll {held : Table Document} (plain : Plain held.entries) :
    s.Repaired held (s.mendAll held) := by
  refine ⟨keys_mendAll held, ?_, ?_⟩
  · intro inPort value outPort wanted found named contradicts
    have repaired := wanted?_display_iff.2 ⟨outPort, named, contradicts⟩
    rw [get?_mendAll, found, Option.map_some, mend, repaired]
  · intro key value found agrees
    obtain ⟨inPort, same⟩ := plain (key, value) (held.get?_eq_some_iff.1 found)
    have left : s.wanted? (key, value) = none := by
      refine Option.eq_none_iff_forall_ne_some.2 fun wanted repaired => ?_
      rw [show key = inPort.display from same] at repaired
      obtain ⟨outPort, named, contradicts⟩ := wanted?_display_iff.1 repaired
      exact agrees inPort outPort wanted same named contradicts
    rw [get?_mendAll, found, Option.map_some, mend, left]

theorem plain_mendAll {held : Table Document} (plain : Plain held.entries) :
    Plain (s.mendAll held).entries := by
  intro member listed
  obtain ⟨before, there, rfl⟩ := List.mem_map.1 listed
  rw [fst_mend]
  exact plain before there

theorem mendBody?_mendAll {held : Table Document} (plain : Plain held.entries) :
    (s.mendAll held).entries.filterMap s.mendBody? = [] := by
  refine List.filterMap_eq_nil_iff.2 fun member listed => ?_
  obtain ⟨⟨key, value⟩, there, rfl⟩ := List.mem_map.1 listed
  obtain ⟨inPort, same⟩ := plain _ there
  obtain rfl : key = inPort.display := same
  rw [mendBody?, wanted?_mend]
  rfl

/-- Whatever rules are meant to hold and whatever connections a switch has, their keys being texts
    of ports: a reconciliation of which every patch is accepted answers with what was there before it,
    changes exactly the connections that contradict the rules, and what it leaves is such that
    another one sends nothing. -/
theorem repaired_reconcile (s : FiberSwitch) (session : Rest.Session) (held : Table Document)
    (reads : session.resources.get? s.config.connectionsPath = some (.object held.entries))
    (plain : ∀ key ∈ held.keys, ∃ inPort : PortNumber, key = inPort.display)
    (accepted : ∀ request ∈ patchesOf s.reconcile session, Rest.isSuccess session.patchStatus) :
    let after := s.settled session.patchStatus held (patchesOf s.reconcile session)
    (s.reconcile.run (some session)).1 = .ok ((held.entries.filterMap s.observed?).map .added) ∧
      s.Repaired held after ∧
        ∀ again : Rest.Session,
          again.resources.get? s.config.connectionsPath = some (.object after.entries) →
            patchesOf s.reconcile again = [] := by
  intro after
  have plain : Plain held.entries := by
    intro member listed
    exact plain member.1 (List.mem_map_of_mem listed)
  have after_eq : after = s.mendAll held := by
    rw [patchesOf_reconcile reads] at accepted
    have carried := settled_of_accepted held accepted
    rw [← patchesOf_reconcile reads, filterMap_repairBody? plain, foldl_patched_eq plain] at carried
    exact carried
  refine ⟨by rw [run_reconcile reads], after_eq ▸ repaired_mendAll plain, fun again rereads => ?_⟩
  rw [after_eq] at rereads
  rw [patchesOf_reconcile rereads, filterMap_repairBody? (plain_mendAll plain),
    mendBody?_mendAll plain]
  rfl

/-- Port 1 is led elsewhere by the first rule that is not for a channel; nobody wants anything of
    port 5. -/
theorem repaired_reconcile_of_two_members :
    let s : FiberSwitch := ⟨Sample.fiberSwitch, {},
      [(Sample.fiberRule ⟨1⟩ ⟨18⟩).onChannel (.dwdm .ghz50 0), Sample.fiberRule ⟨1⟩ ⟨17⟩,
        Sample.fiberRule ⟨1⟩ ⟨19⟩]⟩
    let held : Table Document := (Table.empty.insert "1" (.word 20)).insert "5" (.word 9)
    let session : Rest.Session :=
      { resources := .insert .empty "/connections/" (.object held.entries) }
    let after := s.settled 200 held (patchesOf s.reconcile session)
    (patchesOf s.reconcile session).length = 1 ∧ s.Repaired held after ∧
      after.get? "1" = some (.word 17) ∧ after.get? "5" = some (.word 9) := by
  intro s
  have unasked : ∀ want ∈ s.intents, want.channel = none → want.inPort = ⟨1⟩ →
      want.outPort ≠ some ⟨20⟩ := by
    decide +kernel
  have wants : Contradicts s.intents ⟨1⟩ ⟨20⟩ ⟨17⟩ := ⟨unasked, _, rfl, rfl⟩
  intro held session after
  have reads : session.resources.get? s.config.connectionsPath = some (.object held.entries) :=
    Table.get?_insert_self ..
  have keys : held.keys = ["1", "5"] := by decide +kernel
  have plain : ∀ key ∈ held.keys, ∃ inPort : PortNumber, key = inPort.display := by
    rw [keys]
    simp only [List.forall_mem_cons, List.not_mem_nil, false_implies, implies_true, and_true]
    exact ⟨⟨⟨1⟩, by decide⟩, ⟨⟨5⟩, by decide⟩⟩
  obtain ⟨-, repaired, -⟩ := repaired_reconcile s session held reads plain fun _ _ => rfl
  refine ⟨by decide +kernel, repaired, ?_, ?_⟩
  · have one : PortNumber.display ⟨1⟩ = "1" := by decide
    have found : held.get? (PortNumber.display ⟨1⟩) = some (.word 20) := by
      rw [one, Table.get?_insert_of_ne _ _ (by decide), Table.get?_insert_self]
    exact one ▸ repaired.changed ⟨1⟩ (.word 20) ⟨20⟩ ⟨17⟩ found (outPort?_word 20) wants
  · have found : held.get? "5" = some (.word 9) := Table.get?_insert_self ..
    refine repaired.kept "5" (.word 9) found fun inPort outPort wanted same _ contradicts => ?_
    have five : PortNumber.display ⟨5⟩ = "5" := by decide
    obtain rfl : ⟨5⟩ = inPort := PortNumber.display_injective (five.trans same)
    obtain ⟨want, first, -⟩ := contradicts.first
    cases first

end Lightpath.FiberSwitch
