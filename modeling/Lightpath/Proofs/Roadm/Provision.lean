import Lightpath.Proofs.Roadm.Action
import Lightpath.Roadm.Provision

/-!
# How connections are made and taken away

What is asked of the device, and what is remembered afterwards, when a rule is applied or released
and when a connection is deleted by its name.
-/

namespace Lightpath

/-- The steps that take a connection away, and then the channels below it. -/
def CircuitEdit.withdrawal (name : String) (networks medias : List String) : List Step :=
  deletion name :: clearance networks medias

namespace Roadm

/-- The connection that a rule asks for. -/
def planned (r : Roadm) (rule : FlowRule) : Except Error Connection := do
  let xc ← CrossConnect.ofRule rule r.lineNumbers
  r.connection xc

/-- An action has ended in an error, nothing has been asked, and what is remembered is the same. -/
structure Declined {α : Type} (before : State) (ended : Except Error α × State) : Prop where
  failed : ∃ e, ended.1 = .error e
  session_eq : ended.2.session = before.session
  connections_eq : ended.2.connections = before.connections

/-- A rule can be applied: it asks for a connection for which there is room, and the node can be
    reached. -/
structure Admits (r : Roadm) (s : State) (rule : FlowRule) (conn : Connection) : Prop where
  planned_eq : r.planned rule = .ok conn
  room : s.connections.size < r.config.maxConnections.toNat
  reached : s.session.isSome

/-- A rule can be released: the connection that it asks for is remembered, and the node can be
    reached. -/
structure Finds (r : Roadm) (s : State) (rule : FlowRule) (conn : Connection) : Prop where
  remembered : ∃ built, r.planned rule = .ok built ∧ s.connections.get? built.name = some conn
  reached : s.session.isSome

variable (r : Roadm) (s : State) (rule : FlowRule)

theorem run_apply :
    (r.apply rule).run s =
      match CrossConnect.ofRule rule r.lineNumbers with
      | .error e => (.error e, s)
      | .ok xc =>
        if r.config.maxConnections.toNat ≤ s.connections.size then
          (.error (.capacityExceeded r.device r.config.maxConnections), s.opened)
        else
          match r.connection xc with
          | .error e => (.error e, s.opened)
          | .ok conn =>
            if s.session.isNone then (.error (.noSession r.device), s.opened)
            else
              match (r.program (CircuitEdit.creation conn)).run s.opened with
              | (.error e, s') => (.error e, s')
              | (.ok (), s') => (.ok conn, { s' with cache := s'.cache.map (·.add conn) }) := by
  rw [apply, Action.run_bind, Action.run_lift]
  cases CrossConnect.ofRule rule r.lineNumbers with
  | error e => rfl
  | ok xc =>
    dsimp only
    rw [Action.run_bind, run_openCache]
    dsimp only
    split
    · rfl
    · simp only [Action.run_bind, Action.run_lift, Action.run_pure]
      cases r.connection xc with
      | error e => rfl
      | ok conn =>
        dsimp only
        rw [run_acquire, State.session_opened]
        cases s.session.isNone with
        | true => rfl
        | false =>
          simp only [Bool.false_eq_true, if_false, run_changeCache]
          rcases (r.program (CircuitEdit.creation conn)).run s.opened with ⟨_ | _, _⟩ <;> rfl

theorem run_release :
    (r.release rule).run s =
      match r.planned rule with
      | .error e => (.error e, s)
      | .ok built =>
        match s.connections.get? built.name with
        | none =>
          (.error (.cacheInconsistency r.device ("release of unknown connection " ++ built.name)),
            s.opened)
        | some conn =>
          if s.session.isNone then (.error (.noSession r.device), s.opened)
          else
            match (r.program [CircuitEdit.deletion conn.name]).run s.opened with
            | (.error e, s') => (.error e, s')
            | (.ok (), s') =>
              match (r.program (CircuitEdit.clearance conn.names.networks
                  (conn.medias.map (·.name)))).run
                  { s' with cache := s'.cache.map (·.erase conn.name) } with
              | (.error e, s'') => (.error e, s'')
              | (.ok (), s'') => (.ok conn, s'') := by
  rw [release, planned, Action.run_bind, Action.run_lift]
  cases CrossConnect.ofRule rule r.lineNumbers with
  | error e => rfl
  | ok xc =>
    change _ = match r.connection xc with | .error e => _ | .ok built => _
    dsimp only
    rw [Action.run_bind, Action.run_lift]
    cases r.connection xc with
    | error e => rfl
    | ok built =>
      dsimp only
      rw [Action.run_bind, run_openCache]
      dsimp only
      cases s.connections.get? built.name with
      | none => rfl
      | some conn =>
        dsimp only
        rw [Action.run_bind, run_acquire, State.session_opened]
        cases s.session.isNone with
        | true => rfl
        | false =>
          simp only [Bool.false_eq_true, if_false, Action.run_bind, run_changeCache, Action.run_pure]
          rcases (r.program [CircuitEdit.deletion conn.name]).run s.opened with ⟨_ | _, s'⟩
          · rfl
          · dsimp only
            generalize (r.program (CircuitEdit.clearance _ _)).run _ = ended
            rcases ended with ⟨_ | _, _⟩ <;> rfl

theorem run_deleteByName (name : String) :
    (r.deleteByName name).run s =
      if s.session.isNone then (.error (.noSession r.device), s)
      else
        match (r.deleteNamed name).run s.opened with
        | (.error e, s') => (.error e, s')
        | (.ok (), s') => (.ok (), { s' with cache := s'.cache.map (·.erase name) }) := by
  rw [deleteByName, Action.run_bind, run_acquire]
  cases s.session.isNone with
  | true => rfl
  | false =>
    simp only [Bool.false_eq_true, if_false, Action.run_bind, run_openCache, run_changeCache]
    rcases (r.deleteNamed name).run s.opened with ⟨_ | _, _⟩ <;> rfl

theorem planned_eq_ok_iff {conn : Connection} :
    r.planned rule = .ok conn ↔
      ∃ xc, CrossConnect.ofRule rule r.lineNumbers = .ok xc ∧ r.connection xc = .ok conn :=
  Action.bind_eq_ok_iff

/-- The connection that is made is the one that the rule asks for. -/
theorem planned_of_apply {conn : Connection} (applied : ((r.apply rule).run s).1 = .ok conn) :
    r.planned rule = .ok conn := by
  rw [run_apply] at applied
  cases checked : CrossConnect.ofRule rule r.lineNumbers with
  | error e =>
    rw [checked] at applied
    cases applied
  | ok xc =>
    rw [checked] at applied
    dsimp only at applied
    split at applied
    · cases applied
    · cases built : r.connection xc with
      | error e =>
        rw [built] at applied
        cases applied
      | ok made =>
        rw [built] at applied
        dsimp only at applied
        split at applied
        · cases applied
        · rcases ended : (r.program (CircuitEdit.creation made)).run s.opened with ⟨_ | _, s'⟩
          · rw [ended] at applied
            cases applied
          · rw [ended] at applied
            obtain rfl : made = conn := Except.ok.inj applied
            exact (r.planned_eq_ok_iff rule).2 ⟨xc, checked, built⟩

/-- A rule that cannot be applied is refused before anything is sent. -/
theorem declined_apply (refused : ∀ conn, ¬ r.Admits s rule conn) :
    Declined s ((r.apply rule).run s) := by
  rw [run_apply]
  cases checked : CrossConnect.ofRule rule r.lineNumbers with
  | error e => exact ⟨⟨e, rfl⟩, rfl, rfl⟩
  | ok xc =>
    dsimp only
    split
    · exact ⟨⟨_, rfl⟩, rfl, rfl⟩
    · next room =>
      cases built : r.connection xc with
      | error e => exact ⟨⟨e, rfl⟩, rfl, rfl⟩
      | ok conn =>
        dsimp only
        split
        · exact ⟨⟨_, rfl⟩, rfl, rfl⟩
        · next reached =>
          have planned_eq := (r.planned_eq_ok_iff rule).2 ⟨xc, checked, built⟩
          refine absurd ⟨planned_eq, Nat.lt_of_not_le room, ?_⟩ (refused conn)
          exact Option.isSome_iff_ne_none.2 fun missing => reached (by rw [missing]; rfl)

/-- A rule that cannot be released is refused before anything is sent. -/
theorem declined_release (refused : ∀ conn, ¬ r.Finds s rule conn) :
    Declined s ((r.release rule).run s) := by
  rw [run_release]
  cases planned_eq : r.planned rule with
  | error e => exact ⟨⟨e, rfl⟩, rfl, rfl⟩
  | ok built =>
    dsimp only
    cases found : s.connections.get? built.name with
    | none => exact ⟨⟨_, rfl⟩, rfl, rfl⟩
    | some conn =>
      dsimp only
      split
      · exact ⟨⟨_, rfl⟩, rfl, rfl⟩
      · next reached =>
        refine absurd ⟨⟨built, planned_eq, found⟩, ?_⟩ (refused conn)
        exact Option.isSome_iff_ne_none.2 fun missing => reached (by rw [missing]; rfl)

section Refusals

variable {r s rule} {xc : CrossConnect} {built conn : Connection}

/-- Room is looked for before anything else is. -/
theorem run_apply_of_full (checked : CrossConnect.ofRule rule r.lineNumbers = .ok xc)
    (full : r.config.maxConnections.toNat ≤ s.connections.size) :
    (r.apply rule).run s =
      (.error (.capacityExceeded r.device r.config.maxConnections), s.opened) := by
  rw [run_apply, checked]
  exact if_pos full

theorem run_apply_of_unreached (planned_eq : r.planned rule = .ok built)
    (room : s.connections.size < r.config.maxConnections.toNat) (unreached : s.session = none) :
    (r.apply rule).run s = (.error (.noSession r.device), s.opened) := by
  obtain ⟨xc, checked, connected⟩ := (r.planned_eq_ok_iff rule).1 planned_eq
  rw [run_apply, checked]
  dsimp only
  rw [if_neg (Nat.not_le_of_lt room), connected]
  exact if_pos (congrArg Option.isNone unreached)

theorem run_release_of_missing (planned_eq : r.planned rule = .ok built)
    (missing : s.connections.get? built.name = none) :
    (r.release rule).run s =
      (.error (.cacheInconsistency r.device ("release of unknown connection " ++ built.name)),
        s.opened) := by
  rw [run_release, planned_eq]
  dsimp only
  rw [missing]

theorem run_release_of_unreached (planned_eq : r.planned rule = .ok built)
    (found : s.connections.get? built.name = some conn) (unreached : s.session = none) :
    (r.release rule).run s = (.error (.noSession r.device), s.opened) := by
  rw [run_release, planned_eq]
  dsimp only
  rw [found]
  exact if_pos (congrArg Option.isNone unreached)

end Refusals

variable {rule} {cache : Option ConnectionCache} {rec : Netconf.Recorder} {conn : Connection}

/-- Applying a rule sends the steps that make its connection, which is remembered if all of them
    are taken. -/
theorem run_apply_of_admits (admits : r.Admits (.through cache (some rec)) rule conn) :
    (r.apply rule).run (.through cache (some rec)) =
      ((rec.verdict rec.edits (CircuitEdit.creation conn)).map fun _ => conn,
      .through
        (some (if (rec.verdict rec.edits (CircuitEdit.creation conn)).isOk then
            (cache.getD .empty).add conn
          else cache.getD .empty))
        (some (rec.hear ((rec.attempt r.config.datastore rec.edits
          (CircuitEdit.creation conn)).map (·.request))))) := by
  obtain ⟨planned_eq, room, -⟩ := admits
  obtain ⟨xc, checked, built⟩ := (r.planned_eq_ok_iff rule).1 planned_eq
  rw [run_apply, checked]
  dsimp only
  rw [if_neg (Nat.not_le_of_lt room), built, State.opened_through]
  dsimp only
  rw [run_program]
  cases rec.verdict rec.edits (CircuitEdit.creation conn) <;> rfl

/-- Releasing a rule sends the steps that take its connection away. It is forgotten as soon as the
    first of them is taken. -/
theorem run_release_of_finds (finds : r.Finds (.through cache (some rec)) rule conn) :
    let steps := CircuitEdit.withdrawal conn.name conn.names.networks (conn.medias.map (·.name))
    (r.release rule).run (.through cache (some rec)) =
      ((rec.verdict rec.edits steps).map fun _ => conn,
      .through
        (some (if (rec.failure? (rec.edits + 1)).isNone then (cache.getD .empty).erase conn.name
          else cache.getD .empty))
        (some (rec.hear ((rec.attempt r.config.datastore rec.edits steps).map (·.request))))) := by
  obtain ⟨⟨built, planned_eq, found⟩, -⟩ := finds
  intro steps
  rw [run_release, planned_eq]
  dsimp only
  rw [found, State.opened_through]
  dsimp only
  rw [run_program]
  simp only [steps, CircuitEdit.withdrawal, Netconf.Recorder.verdict, Netconf.Recorder.attempt,
    List.map_cons]
  cases failure : rec.failure? (rec.edits + 1) with
  | none =>
    let heard := rec.hear [Netconf.stepRequest r.config.datastore (CircuitEdit.deletion conn.name)]
    have counted : heard.edits = rec.edits + 1 := rfl
    change (match (r.program _).run (.through (some ((cache.getD .empty).erase conn.name)) (some heard))
      with
      | (.error e, s'') => _ | (.ok (), s'') => _) = _
    rw [run_program, counted, rec.verdict_hear, rec.attempt_hear, rec.hear_hear]
    simp only [Option.isNone_none, if_true]
    cases rec.verdict (rec.edits + 1) _ <;> rfl
  | some how => cases how <;> rfl

/-- Deleting a name that cannot be split asks nothing. -/
theorem declined_deleteByName {s : State} {name : String}
    (refused : CircuitNames.ofConnection? name = none ∨ s.session = none) :
    Declined s ((r.deleteByName name).run s) := by
  rw [run_deleteByName]
  split
  · exact ⟨⟨_, rfl⟩, rfl, rfl⟩
  · next reached =>
    rcases refused with unsplit | unreached
    · rw [deleteNamed, unsplit]
      exact ⟨⟨_, rfl⟩, rfl, rfl⟩
    · exact absurd (by rw [unreached]; rfl) reached

/-- Deleting a connection by its name sends the steps that take it away. It is forgotten if all of
    them are taken. -/
theorem run_deleteByName_of_splits {name : String} {names : CircuitNames}
    (splits : CircuitNames.ofConnection? name = some names) :
    let steps := CircuitEdit.withdrawal name names.networks names.medias
    (r.deleteByName name).run (.through cache (some rec)) =
      (rec.verdict rec.edits steps,
      .through
        (some (if (rec.verdict rec.edits steps).isOk then (cache.getD .empty).erase name
          else cache.getD .empty))
        (some (rec.hear ((rec.attempt r.config.datastore rec.edits steps).map (·.request))))) := by
  intro steps
  have deleted : r.deleteNamed name = r.program steps := by
    rw [deleteNamed, splits]
    rfl
  rw [run_deleteByName, deleted, State.opened_through, run_program]
  cases rec.verdict rec.edits steps <;> rfl

end Roadm

end Lightpath
