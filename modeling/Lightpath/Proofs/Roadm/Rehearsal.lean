import Lightpath.Proofs.Circuit.Sheets
import Lightpath.Proofs.Roadm.Provision

/-!
# What a rehearsal prints

Over a rehearsal every edit is taken and leaves its sheet. The sheets of a piece of work stand one
after the other in the order of its steps.
-/

namespace Lightpath

namespace Roadm

/-- The state in which a node is rehearsed, with what has been printed. -/
def State.rehearsing (cache : Option ConnectionCache) (printed : String) : State :=
  ⟨cache, some (.rehearsal { printed })⟩

@[simp] theorem State.opened_rehearsing (cache : Option ConnectionCache) (printed : String) :
    (rehearsing cache printed).opened = rehearsing (some (cache.getD .empty)) printed := rfl

@[simp] theorem State.connections_rehearsing (cache : Option ConnectionCache) (printed : String) :
    (rehearsing cache printed).connections = cache.getD .empty := rfl

theorem State.changed_rehearsing (cache : Option ConnectionCache) (printed : String)
    (f : ConnectionCache → ConnectionCache) :
    ⟨(rehearsing cache printed).cache.map f, (rehearsing cache printed).session⟩ =
      rehearsing (cache.map f) printed := rfl

variable (r : Roadm) (cache : Option ConnectionCache) (printed : String)

theorem run_edit_rehearsing (step : CircuitEdit.Step) :
    (r.edit step).run (.rehearsing cache printed) =
      (.ok (), .rehearsing cache (printed ++ step.sheet r.config.datastore)) := by
  have appended (heading body : String) : printed ++ ("# " ++ heading ++ "\n" ++ body) =
      printed ++ "# " ++ heading ++ "\n" ++ body := by
    simp only [String.append_assoc]
  rw [CircuitEdit.Step.sheet, appended, edit, Action.run_bind]
  rfl

theorem run_program_rehearsing (steps : List CircuitEdit.Step) :
    (r.program steps).run (.rehearsing cache printed) =
      (.ok (), .rehearsing cache (printed ++ CircuitEdit.sheets r.config.datastore steps)) := by
  induction steps generalizing printed with
  | nil =>
    rw [CircuitEdit.sheets_nil, String.append_empty]
    rfl
  | cons step steps ih =>
    rw [program, Action.run_bind, run_edit_rehearsing]
    dsimp only
    rw [ih, CircuitEdit.sheets_cons, String.append_assoc]

variable {r} {rule : FlowRule} {conn : Connection}

/-- A rule for which there is room is applied: what makes its connection is printed. -/
theorem run_apply_rehearsing (planned_eq : r.planned rule = .ok conn)
    (room : (cache.getD .empty).size < r.config.maxConnections.toNat) :
    (r.apply rule).run (.rehearsing cache printed) =
      (.ok conn, .rehearsing (some ((cache.getD .empty).add conn))
        (printed ++ CircuitEdit.sheets r.config.datastore (CircuitEdit.creation conn))) := by
  obtain ⟨xc, checked, built⟩ := (r.planned_eq_ok_iff rule).1 planned_eq
  rw [run_apply, checked, State.connections_rehearsing, State.opened_rehearsing]
  dsimp only
  rw [if_neg (Nat.not_le_of_lt room), built]
  dsimp only
  rw [run_program_rehearsing]
  rfl

/-- A rule the connection of which is remembered is released: what takes it away is printed. -/
theorem run_release_rehearsing {built : Connection} (planned_eq : r.planned rule = .ok built)
    (found : (cache.getD .empty).get? built.name = some conn) :
    (r.release rule).run (.rehearsing cache printed) =
      (.ok conn, .rehearsing (some ((cache.getD .empty).erase conn.name))
        (printed ++ CircuitEdit.sheets r.config.datastore
          (CircuitEdit.withdrawal conn.name conn.names.networks (conn.medias.map (·.name))))) := by
  rw [run_release, planned_eq, State.connections_rehearsing, State.opened_rehearsing]
  dsimp only
  rw [found]
  dsimp only
  rw [run_program_rehearsing]
  dsimp only
  rw [State.changed_rehearsing, run_program_rehearsing, String.append_assoc, ← CircuitEdit.sheets_append]
  rfl

end Roadm

end Lightpath
