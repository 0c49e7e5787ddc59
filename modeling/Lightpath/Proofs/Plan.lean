import Lightpath.Plan
import Lightpath.Proofs.Circuit.Documents
import Lightpath.Proofs.Roadm.Planned
import Lightpath.Proofs.Roadm.Rehearsal

/-!
# What a plan prints

A plan succeeds if its channel is found, the rule for it asks for a connection, and there may be
connections at all. It then prints the edits that make this connection and, if that is planned,
those that take it away again. They configure a channel of the width that was asked for; its center
is the place of the grid to which the center that was asked for is moved.
-/

namespace Lightpath.Plan

/-- The connection that is planned on a node. -/
def connection (p : Plan) (r : Roadm) : Except Error Connection := do
  let rule ← p.rule r.device
  r.planned rule

/-- The edits that carry a plan out. -/
def steps (p : Plan) (c : Connection) : List CircuitEdit.Step :=
  CircuitEdit.creation c ++
    if p.release then
      CircuitEdit.withdrawal c.name c.names.networks (c.medias.map (·.name))
    else []

variable {p : Plan} {r : Roadm} {c : Connection}

theorem connection_eq_ok_iff :
    p.connection r = .ok c ↔
      ∃ channel, Channel.around p.center p.width = .ok channel ∧
        r.planned ((FlowRule.between r.device p.inPort p.outPort).onChannel channel) = .ok c := by
  simp only [connection, rule, Action.bind_eq_ok_iff, Action.pure_eq_ok_iff]
  constructor
  · rintro ⟨_, ⟨channel, found, rfl⟩, asked⟩
    exact ⟨channel, found, asked⟩
  · rintro ⟨channel, found, asked⟩
    exact ⟨_, ⟨channel, found, rfl⟩, asked⟩

/-- A connection that is planned is found again when it is to be released, as it is the only one
    that is remembered. -/
theorem run_carryOut (planned : p.connection r = .ok c) (room : 0 < r.config.maxConnections.toNat) :
    ∃ cache, (p.carryOut r).run (.rehearsing none "") =
      (.ok (), .rehearsing cache (CircuitEdit.sheets r.config.datastore (p.steps c))) := by
  obtain ⟨channel, found, asked⟩ := connection_eq_ok_iff.1 planned
  have placed : p.rule r.device =
      .ok ((FlowRule.between r.device p.inPort p.outPort).onChannel channel) := by
    rw [rule, found]
    rfl
  have applied := Roadm.run_apply_rehearsing none "" asked room
  rw [String.empty_append] at applied
  rw [carryOut, Action.run_bind, Action.run_lift, placed]
  dsimp only
  rw [Action.run_bind, applied]
  dsimp only
  rw [steps]
  cases p.release with
  | false =>
    rw [if_neg Bool.false_ne_true, if_neg Bool.false_ne_true, List.append_nil]
    exact ⟨_, rfl⟩
  | true =>
    have remembered : (ConnectionCache.add .empty c).get? c.name = some c := by
      rw [ConnectionCache.get?_add, if_pos rfl]
    have released := Roadm.run_release_rehearsing (some (.add .empty c))
      (CircuitEdit.sheets r.config.datastore (CircuitEdit.creation c)) asked remembered
    rw [if_pos rfl, if_pos rfl, Action.run_bind, CircuitEdit.sheets_append, Option.getD_none,
      released]
    exact ⟨_, rfl⟩

theorem connection_of_carryOut {s : Roadm.State} (done : ((p.carryOut r).run s).1 = .ok ()) :
    s.connections.size < r.config.maxConnections.toNat ∧ ∃ c, p.connection r = .ok c := by
  rw [carryOut, Action.run_bind, Action.run_lift] at done
  rw [connection]
  cases placed : p.rule r.device with
  | error e =>
    rw [placed] at done
    cases done
  | ok asked =>
    rw [placed] at done
    dsimp only at done
    rw [Action.run_bind] at done
    rcases applied : (r.apply asked).run s with ⟨e | c, s'⟩
    · rw [applied] at done
      cases done
    · have planned_eq := r.planned_of_apply s asked (congrArg Prod.fst applied)
      refine ⟨Nat.lt_of_not_le ?_, c, planned_eq⟩
      intro full
      obtain ⟨xc, checked, -⟩ := (r.planned_eq_ok_iff asked).1 planned_eq
      rw [Roadm.run_apply_of_full checked full] at applied
      cases applied

/-- A plan prints the edits for the connection that it asks for, and nothing else keeps it from
    success than that no such connection can be made. -/
theorem rehearse_eq_ok_iff {config : Config} {file : PortFile} {printed : String} :
    p.rehearse config file = (.ok (), printed) ↔
      0 < config.maxConnections.toNat ∧
        ∃ c, p.connection ⟨file.device, config, file.ports⟩ = .ok c ∧
          CircuitEdit.sheets config.datastore (p.steps c) = printed := by
  have start : (⟨none, some (.rehearsal {})⟩ : Roadm.State) = .rehearsing none "" := rfl
  rw [rehearse, start]
  constructor
  · intro done
    have ended : ((p.carryOut ⟨file.device, config, file.ports⟩).run (.rehearsing none "")).1 =
        .ok () := by
      generalize (p.carryOut _).run _ = carried at done ⊢
      obtain ⟨result, state⟩ := carried
      dsimp only at done
      split at done <;> exact congrArg Prod.fst done
    obtain ⟨room, c, planned⟩ := connection_of_carryOut ended
    obtain ⟨cache, carried⟩ := run_carryOut planned room
    rw [carried] at done
    exact ⟨room, c, planned, congrArg Prod.snd done⟩
  · rintro ⟨room, c, planned, rfl⟩
    obtain ⟨cache, carried⟩ := run_carryOut planned room
    rw [carried]
    rfl

theorem levels_steps (p : Plan) (c : Connection) :
    ∀ step ∈ p.steps c, step.body.levels ≤ Document.maxDepth := by
  intro step member
  rcases List.mem_append.1 member with made | withdrawn
  · exact CircuitEdit.levels_creation c step made
  · split at withdrawn
    · exact CircuitEdit.levels_withdrawal _ _ _ step withdrawn
    · cases withdrawn

/-- The window that is asked for ends at whole hertz, and none of it lies below zero. -/
structure Whole (p : Plan) : Prop where
  even : 2 ∣ p.width.toNat
  low : p.width.half.toNat ≤ p.center.toNat

/-- A whole window in which a channel is found has the width of a spacing of the grid. -/
theorem exists_spacing_of_whole {channel : Channel} (whole : p.Whole)
    (found : Channel.around p.center p.width = .ok channel) :
    ∃ s : Spacing, (s = .ghz50 ∨ s = .ghz100) ∧ p.width = s.frequency ∧
      s.Fits p.center.toNat ∧ channel = s.placed p.center := by
  obtain ⟨wide, inside, -⟩ := Channel.around_eq_ok found
  obtain ⟨even, low⟩ := whole
  have half := Frequency.toNat_half p.width
  have width : p.width = channel.spacing.frequency :=
    (Channel.spacing_of_around found (by omega) low).symm
  rw [width] at low inside found
  have fits : channel.spacing.Fits p.center.toNat := ⟨by omega, by omega⟩
  rw [Channel.around_of_fits wide fits] at found
  exact ⟨_, wide, width, fits, (Except.ok.inj found).symm⟩

theorem shaped_and_cutFor {rule : FlowRule} {channel : Channel} (asked : rule.channel = some channel)
    (planned : r.planned rule = .ok c) : c.Shaped ∧ c.CutFor channel := by
  obtain ⟨xc, checked, connected⟩ := (r.planned_eq_ok_iff rule).1 planned
  obtain ⟨-, -, -, same, -⟩ := CrossConnect.ofRule_eq_ok_iff.1 checked
  obtain ⟨_, _, -, -, built⟩ := Roadm.connection_eq_ok_iff.1 connected
  obtain rfl : xc.channel = channel := Option.some.inj (same.trans asked)
  exact ⟨Connection.shaped_build built, Connection.cutFor_build built⟩

/-- The edits of a plan configure a channel of the width that is asked for, at the place of the grid
    to which the center is moved. -/
theorem configure_steps (whole : p.Whole) (planned : p.connection r = .ok c) :
    (p.width = Spacing.frequency .ghz50 ∨ p.width = Spacing.frequency .ghz100) ∧
      ∃ landed, Landing p.center p.width landed ∧
        CircuitEdit.Configure (CircuitEdit.told (p.steps c)) landed p.width := by
  obtain ⟨channel, found, asked⟩ := connection_eq_ok_iff.1 planned
  obtain ⟨s, wide, width, fits, rfl⟩ := exists_spacing_of_whole whole found
  obtain ⟨shaped, cut⟩ := shaped_and_cutFor rfl asked
  obtain ⟨low, high⟩ := Channel.fits_placed wide fits
  have on_axis := Channel.toNat_center_of_within (c := s.placed p.center) (by omega) (by omega)
  have spans : (Window.around (s.placed p.center).center s.frequency).Spans
      (s.placed p.center).center.toNat s.frequency.toNat :=
    Window.spans_around s.two_mul_half (by omega) (by omega)
  rw [width]
  refine ⟨wide.imp (congrArg _) (congrArg _), _, Channel.landing_placed wide fits, ?_⟩
  have made := CircuitEdit.configure_creation shaped cut spans
  rw [steps]
  split
  · exact made.withdrawn ..
  · rw [List.append_nil]
    exact made

end Lightpath.Plan
