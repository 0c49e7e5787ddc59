import Lightpath.Proofs.Roadm.Provision
import Lightpath.Roadm.Power

/-!
# How powers are set

The one edit that sets the power of a connection, and what is remembered afterwards.
-/

namespace Lightpath.Roadm

/-- The step that sets the power of a connection. -/
def powerStep (name : String) (dbm : Float) : CircuitEdit.Step :=
  ⟨"set target-output-power", CircuitEdit.setPower name dbm⟩

/-- A power can be set: it may be asked for, a remembered connection carries the channel at the
    port, and the node can be reached. -/
structure Tunes (r : Roadm) (s : State) (port : PortNumber) (channel : Option Channel)
    (dbm : Float) (conn : Connection) : Prop where
  inRange : r.config.powerRange.contains dbm
  carried : ∃ c, channel = some c ∧ carrier? s.connections port c = some conn
  reached : s.session.isSome

variable (r : Roadm) (s : State) (port : PortNumber) (channel : Option Channel) (dbm : Float)

theorem run_setTargetPower :
    (r.setTargetPower port channel dbm).run s =
      match channel with
      | none => (.error (.unsupported ("port-level target power on port " ++ port.display)), s)
      | some c =>
        if !r.config.powerRange.contains dbm then
          (.error (.invalidConfig "target-output-power"
            (Decimal.display dbm ++ " dBm outside " ++ r.config.powerRange.display)), s)
        else
          match carrier? s.connections port c with
          | none =>
            (.error (.cacheInconsistency r.device
              ("no connection on port " ++ port.display ++ " for " ++ c.display)), s.opened)
          | some conn =>
            if s.session.isNone then (.error (.noSession r.device), s.opened)
            else
              match (r.edit (powerStep conn.name dbm)).run s.opened with
              | (.error e, s') => (.error e, s')
              | (.ok (), s') => (.ok (), { s' with cache := s'.cache.map (·.setPower conn.name dbm) })
    := by
  cases channel with
  | none => rfl
  | some c =>
    rw [setTargetPower]
    dsimp only
    split
    · rfl
    · simp only [Action.run_bind, run_openCache]
      cases carrier? s.connections port c with
      | none => rfl
      | some conn =>
        dsimp only
        rw [Action.run_bind, run_acquire, State.session_opened]
        cases s.session.isNone with
        | true => rfl
        | false =>
          simp only [Bool.false_eq_true, if_false, Action.run_bind, run_changeCache, powerStep]
          generalize (r.edit _).run s.opened = ended
          rcases ended with ⟨_ | _, _⟩ <;> rfl

/-- A power that cannot be set is refused before anything is sent. -/
theorem declined_setTargetPower (refused : ∀ conn, ¬ r.Tunes s port channel dbm conn) :
    Declined s ((r.setTargetPower port channel dbm).run s) := by
  rw [run_setTargetPower]
  cases channel with
  | none => exact ⟨⟨_, rfl⟩, rfl, rfl⟩
  | some c =>
    dsimp only
    split
    · exact ⟨⟨_, rfl⟩, rfl, rfl⟩
    · next inRange =>
      cases carried : carrier? s.connections port c with
      | none => exact ⟨⟨_, rfl⟩, rfl, rfl⟩
      | some conn =>
        dsimp only
        split
        · exact ⟨⟨_, rfl⟩, rfl, rfl⟩
        · next reached =>
          refine absurd ⟨?_, ⟨c, rfl, carried⟩, ?_⟩ (refused conn)
          · simpa using inRange
          · exact Option.isSome_iff_ne_none.2 fun missing => reached (by rw [missing]; rfl)

variable {port channel dbm} {cache : Option ConnectionCache} {rec : Netconf.Recorder}
  {conn : Connection}

/-- Setting a power sends one edit; the power is remembered if the edit is taken. -/
theorem run_setTargetPower_of_tunes
    (tunes : r.Tunes (.through cache (some rec)) port channel dbm conn) :
    (r.setTargetPower port channel dbm).run (.through cache (some rec)) =
      (rec.verdict rec.edits [powerStep conn.name dbm],
      .through
        (some (if (rec.verdict rec.edits [powerStep conn.name dbm]).isOk then
            (cache.getD .empty).setPower conn.name dbm
          else cache.getD .empty))
        (some (rec.hear ((rec.attempt r.config.datastore rec.edits
          [powerStep conn.name dbm]).map (·.request))))) := by
  obtain ⟨inRange, ⟨c, rfl, carried⟩, -⟩ := tunes
  have sent : (r.edit (powerStep conn.name dbm)).run (.through (some (cache.getD .empty)) (some rec)) =
      (r.program [powerStep conn.name dbm]).run (.through (some (cache.getD .empty)) (some rec)) := by
    rw [run_edit, run_program]
    simp only [Netconf.Recorder.attempt, List.map_cons, ite_self, List.map_nil]
  rw [run_setTargetPower]
  simp only [inRange, Bool.not_true, Bool.false_eq_true, if_false]
  rw [carried, State.opened_through]
  dsimp only
  rw [sent, run_program]
  cases rec.verdict rec.edits [powerStep conn.name dbm] <;> rfl

end Lightpath.Roadm
