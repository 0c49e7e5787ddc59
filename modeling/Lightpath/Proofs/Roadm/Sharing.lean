import Lightpath.Proofs.Roadm.Run
import Mathlib.Data.List.Infix

/-!
# Interfaces below two connections

The names of interfaces tell a port and a center, so that connections which share an end share the
interfaces there. Releasing one of them takes the interfaces away, whether or not another one is
laid on them. A device has all interfaces that connections refer to as long as this does not
happen.
-/

namespace Lightpath.Roadm.Standing

/-- The device has the interfaces to which remembered connections refer. -/
def Supported (s : Standing) : Prop :=
  ∀ conn ∈ s.connections.values, ∀ name ∈ conn.interfaces, name ∈ s.held.interfaces.keys

instance (s : Standing) : Decidable s.Supported :=
  inferInstanceAs (Decidable (∀ conn ∈ s.connections.values, ∀ name ∈ conn.interfaces,
    name ∈ s.held.interfaces.keys))

/-- A rule is applied or released, and the device takes all that is sent. -/
structure Provisions (r : Roadm) (s : Standing) (t : Turn) : Prop where
  called : ∃ rule, t.call = .apply rule ∨ t.call = .release rule
  taken : ∀ e ∈ s.sent r t, e.taken

/-- A connection is released that has an interface in common with another one that is
    remembered. -/
def Undermines (r : Roadm) (s : Standing) (t : Turn) : Prop :=
  ∃ rule gone, t.call = .release rule ∧ (t.node r).Finds (s.before t) rule gone ∧
    ∃ other ∈ s.connections.values, other.name ≠ gone.name ∧
      ∃ name ∈ gone.interfaces, name ∈ other.interfaces

variable {r : Roadm} {s : Standing} {t : Turn} {conn : Connection}

/-- The interfaces of a remembered connection are those that its release takes away. -/
theorem interfaces_of_finds (sound : s.connections.Sound) {rule : FlowRule}
    (finds : (t.node r).Finds (s.before t) rule conn) :
    conn.names.networks ++ conn.medias.map (·.name) = conn.interfaces := by
  obtain ⟨built, -, found⟩ := finds.remembered
  rw [(sound _ conn found).2.map_name_medias]
  rfl

/-- Making a connection brings its interfaces and takes none away. -/
theorem Supported.creation (supported : s.Supported) (shaped : conn.Shaped) :
    Supported ⟨some (s.connections.add conn), s.held.carry (CircuitEdit.creation conn)⟩ := by
  intro other listed name used
  rw [Table.mem_keys_iff, Holdings.isSome_interfaces_carry_creation, shaped.map_name_medias]
  obtain ⟨key, found⟩ := (Table.mem_values_iff _).1 listed
  change (s.connections.add conn).get? key = some other at found
  rw [ConnectionCache.get?_add] at found
  split at found
  · obtain rfl : conn = other := Option.some.inj found
    exact .inr used
  · have before := supported other ((Table.mem_values_iff _).2 ⟨key, found⟩) name used
    exact .inl ((Table.mem_keys_iff _).1 before)

/-- What stays remembered without a connection. -/
theorem mem_values_erase (sound : s.connections.Sound) {gone : String} {other : Connection} :
    other ∈ (s.connections.erase gone).values ↔
      other ∈ s.connections.values ∧ other.name ≠ gone := by
  rw [Table.mem_values_iff, Table.mem_values_iff]
  constructor
  · rintro ⟨key, found⟩
    rw [Table.get?_erase] at found
    split at found
    · cases found
    · next different =>
      obtain rfl := (sound key other found).1
      exact ⟨⟨_, found⟩, Ne.symm different⟩
  · rintro ⟨⟨key, found⟩, different⟩
    obtain rfl := (sound key other found).1
    exact ⟨other.name, by rw [Table.get?_erase_of_ne _ (Ne.symm different), found]⟩

/-- Taking a connection away leaves the others their interfaces exactly if none of them has one in
    common with it. -/
theorem supported_withdrawal_iff (supported : s.Supported) (sound : s.connections.Sound)
    {networks medias : List String} (all : networks ++ medias = conn.interfaces) :
    Supported ⟨some (Table.erase s.connections conn.name),
        s.held.carry (CircuitEdit.withdrawal conn.name networks medias)⟩ ↔
      ∀ other ∈ s.connections.values, other.name ≠ conn.name →
        ∀ name ∈ conn.interfaces, name ∉ other.interfaces := by
  have held (name : String) :
      name ∈ (s.held.carry (CircuitEdit.withdrawal conn.name networks medias)).interfaces.keys ↔
        name ∉ conn.interfaces ∧ name ∈ s.held.interfaces.keys := by
    rw [Table.mem_keys_iff, Holdings.get?_interfaces_carry_withdrawal, all, Table.mem_keys_iff]
    split
    · next shared => simp [shared]
    · next own => simp [own]
  constructor
  · intro still other listed different name gone used
    have kept := still other ((mem_values_erase sound).2 ⟨listed, different⟩) name used
    exact ((held name).1 kept).1 gone
  · intro apart other listed name used
    obtain ⟨before, different⟩ := (mem_values_erase sound).1 listed
    refine (held name).2 ⟨fun gone => ?_, supported other before name used⟩
    exact apart other before different name gone used

theorem Idle.supported (idle : s.Idle r t) (supported : s.Supported) : (s.after r t).Supported := by
  rw [Supported, idle.connections_eq, idle.held_eq]
  exact supported

/-- Applying and releasing keeps the interfaces of all that is remembered exactly as long as no
    interface is taken from below another connection. -/
theorem Supported.after_iff (supported : s.Supported) (sound : s.connections.Sound)
    (provisions : s.Provisions r t) : (s.after r t).Supported ↔ ¬ s.Undermines r t := by
  obtain ⟨ports, session, call⟩ := t
  obtain ⟨⟨rule, called⟩, taken⟩ := provisions
  rcases called with called | called
  · obtain rfl : call = .apply rule := called
    have harmless : ¬ s.Undermines r ⟨ports, session, .apply rule⟩ := by
      rintro ⟨_, _, released, -⟩
      cases released
    refine iff_of_true ?_ harmless
    obtain idle | ⟨conn, admits, works⟩ := idle_or_works_apply r s ports session rule
    · exact idle.supported supported
    · obtain ⟨xc, -, built⟩ := (Roadm.planned_eq_ok_iff _ rule).1 admits.planned_eq
      rw [works.after_of_returned (works.returned_iff.2 taken)]
      exact supported.creation (shaped_connection built)
  · obtain rfl : call = .release rule := called
    constructor
    · rintro still ⟨asked, gone, same, finds, other, listed, different, name, lost, used⟩
      obtain rfl : rule = asked := Call.release.inj same
      have works := works_release r s ports session finds
      rw [works.after_of_returned (works.returned_iff.2 taken),
        supported_withdrawal_iff supported sound (interfaces_of_finds sound finds)] at still
      exact still other listed different name lost used
    · intro apart
      obtain idle | ⟨gone, finds, works⟩ := idle_or_works_release r s ports session rule
      · exact idle.supported supported
      · rw [works.after_of_returned (works.returned_iff.2 taken),
          supported_withdrawal_iff supported sound (interfaces_of_finds sound finds)]
        intro other listed different name lost used
        exact apart ⟨rule, gone, rfl, finds, other, listed, different, name, lost, used⟩

/-- In a run of applied and released rules of which the device takes every edit, it has after every
    turn the interfaces of all remembered connections exactly if no turn releases a connection that
    has an interface in common with another one. -/
theorem supported_run_iff (r : Roadm) (turns : List Turn)
    (provisions : Along r (fun s t => s.Provisions r t) turns) :
    (∀ before, before <+: turns → (run r before).Supported) ↔
      Along r (fun s t => ¬ s.Undermines r t) turns := by
  have sound (before : List Turn) : (run r before).connections.Sound :=
    kept_run (fun ports => kept_sound { r with ports }) before
  constructor
  · intro always before t within
    have now := always before ((List.prefix_append before [t]).trans within)
    have next := always (before ++ [t]) within
    rw [run_concat] at next
    exact (now.after_iff (sound before) (provisions before t within)).1 next
  · intro apart before earlier
    have both : Along r (fun s t => s.Provisions r t ∧ ¬ s.Undermines r t) before :=
      fun first t within => ⟨provisions first t (within.trans earlier),
        apart first t (within.trans earlier)⟩
    refine (run_invariant (P := fun s => s.Supported ∧ s.connections.Sound) ?_ ?_ both).1
    · exact ⟨fun _ listed => (List.not_mem_nil listed).elim, ConnectionCache.all_empty⟩
    · rintro s t ⟨supported, known⟩ ⟨provided, harmless⟩
      refine ⟨(supported.after_iff known provided).2 harmless, ?_⟩
      exact Call.keeps_action (kept_sound (t.node r)) t.call (s.before t) known

/-- Connections of two channels share nothing, so that one of them can be released. -/
theorem supported_run_of_two_channels :
    let first := Sample.crossConnect ⟨401⟩ ⟨302⟩ 0
    let second := Sample.crossConnect ⟨401⟩ ⟨303⟩ 2
    let turns : List Turn :=
      [.sample (.apply first) {}, .sample (.apply second) {}, .sample (.release first) {}]
    Along sample (fun s t => s.Provisions sample t) turns ∧
      Along sample (fun s t => ¬ s.Undermines sample t) turns := by
  intro first second turns
  have provisions : Along sample (fun s t => s.Provisions sample t) turns :=
    ((along_nil.concat ⟨⟨first, .inl rfl⟩, by decide +kernel⟩).concat
      ⟨⟨second, .inl rfl⟩, by decide +kernel⟩).concat ⟨⟨first, .inr rfl⟩, by decide +kernel⟩
  have supported : ∀ before ∈ turns.inits, (run sample before).Supported := by decide +kernel
  refine ⟨provisions, (supported_run_iff sample turns provisions).1 fun before earlier => ?_⟩
  exact supported before ((List.mem_inits before turns).2 earlier)

/-- Two connections of one channel that come in at the same port: the release of the first takes
    the interfaces at that port from below the second. -/
theorem not_supported_of_shared_port :
    let first := Sample.crossConnect ⟨401⟩ ⟨302⟩ 0
    let second := Sample.crossConnect ⟨401⟩ ⟨303⟩ 0
    let turns : List Turn :=
      [.sample (.apply first) {}, .sample (.apply second) {}, .sample (.release first) {}]
    Along sample (fun s t => s.Provisions sample t) turns ∧ ¬ (run sample turns).Supported := by
  intro first second turns
  have provisions : Along sample (fun s t => s.Provisions sample t) turns :=
    ((along_nil.concat ⟨⟨first, .inl rfl⟩, by decide +kernel⟩).concat
      ⟨⟨second, .inl rfl⟩, by decide +kernel⟩).concat ⟨⟨first, .inr rfl⟩, by decide +kernel⟩
  have undermined : ¬ (run sample turns).Supported := by decide +kernel
  exact ⟨provisions, undermined⟩

end Lightpath.Roadm.Standing
