import Lightpath.Proofs.Roadm.Run

/-!
# Forgetting a connection that is deleted by its name

A connection that is deleted by its name is forgotten once all that lies below it has been taken
away, and not already when the device has dropped the connection itself.
-/

namespace Lightpath.Roadm.Standing

/-- What a deletion by name comes to. -/
structure Forgets (r : Roadm) (s : Standing) (t : Turn) (name : String) : Prop where
  /-- The first edit deletes the connection. -/
  deletion_first : ∀ e ∈ (s.sent r t).head?,
    e.request = Netconf.stepRequest r.config.datastore (CircuitEdit.deletion name)
  others_eq : ∀ other, other ≠ name →
    (s.after r t).connections.get? other = s.connections.get? other
  unchanged : (∀ e ∈ (s.sent r t).head?, ¬ e.taken) → (s.after r t).connections = s.connections
  nothing_sent : t.session = none ∨ CircuitNames.ofConnection? name = none → s.sent r t = []
  returned_iff : (s.ended r t).1 = .ok () ↔ s.sent r t ≠ [] ∧ ∀ e ∈ s.sent r t, e.taken
  /-- When the device has dropped the connection then the name is forgotten exactly if it was not
      remembered or all further edits are taken too. -/
  forgotten_iff : (∃ e ∈ (s.sent r t).head?, e.taken) →
    ((s.after r t).connections.get? name = none ↔
      s.connections.get? name = none ∨ ∀ e ∈ s.sent r t, e.taken)

variable {r : Roadm} {s : Standing} {t : Turn} {name : String}

theorem Idle.forgets (idle : s.Idle r t) : s.Forgets r t name := by
  obtain ⟨⟨e, failed⟩, nothing, same, -⟩ := idle
  constructor
  · rw [nothing]
    rintro e ⟨⟩
  · exact fun other _ => by rw [same]
  · exact fun _ => same
  · exact fun _ => nothing
  · rw [failed, nothing]
    simp
  · rw [nothing]
    rintro ⟨e, ⟨⟩, -⟩

/-- A deletion that attempts its steps over a recorder drops the entry if all of them are taken. -/
theorem forgets_of_attempt {rec : Netconf.Recorder} {rest : List CircuitEdit.Step}
    (reached : t.session = some rec) (splits : CircuitNames.ofConnection? name ≠ none)
    (ran : s.ended r t =
      (rec.verdict rec.edits (CircuitEdit.deletion name :: rest),
        .through
          (some (if (rec.verdict rec.edits (CircuitEdit.deletion name :: rest)).isOk then
              s.connections.erase name
            else s.connections))
          (some (rec.hear ((rec.attempt r.config.datastore rec.edits
            (CircuitEdit.deletion name :: rest)).map (·.request)))))) : s.Forgets r t name := by
  have all := sent_of_attempt reached ran
  have done := rec.verdict_eq_ok_iff r.config.datastore rec.edits (CircuitEdit.deletion name :: rest)
  have first : (s.sent r t).head? =
      some ⟨Netconf.stepRequest r.config.datastore (CircuitEdit.deletion name),
        rec.failure? (rec.edits + 1)⟩ := by
    rw [all]
    rfl
  have begun : s.sent r t ≠ [] := by
    rw [all]
    exact List.cons_ne_nil _ _
  rw [← all] at done
  have deletion_first : ∀ e ∈ (s.sent r t).head?,
      e.request = Netconf.stepRequest r.config.datastore (CircuitEdit.deletion name) := by
    rw [first]
    rintro _ ⟨⟩
    rfl
  have nothing_sent : t.session = none ∨ CircuitNames.ofConnection? name = none →
      s.sent r t = [] := by
    rintro (unreached | unsplit)
    · rw [reached] at unreached
      cases unreached
    · exact absurd unsplit splits
  cases verdict : rec.verdict rec.edits (CircuitEdit.deletion name :: rest) with
  | ok =>
    have known : (s.after r t).connections = s.connections.erase name := by
      rw [connections, after, ran, verdict]
      rfl
    have every := done.1 verdict
    refine ⟨deletion_first, ?_, ?_, nothing_sent, ?_, ?_⟩
    · intro other different
      rw [known, Table.get?_erase_of_ne _ (Ne.symm different)]
    · intro refused
      exact absurd (every _ (List.mem_of_head? first)) (refused _ first)
    · rw [ran, verdict]
      exact iff_of_true rfl ⟨begun, every⟩
    · intro _
      rw [known, Table.get?_erase_self]
      exact iff_of_true rfl (.inr every)
  | error e =>
    have known : (s.after r t).connections = s.connections := by
      rw [connections, after, ran, verdict]
      rfl
    have some_refused : ¬ ∀ e ∈ s.sent r t, e.taken := by
      rw [← done, verdict]
      rintro ⟨⟩
    refine ⟨deletion_first, ?_, fun _ => known, nothing_sent, ?_, ?_⟩
    · intro other _
      rw [known]
    · rw [ran, verdict]
      refine iff_of_false ?_ fun both => some_refused both.2
      rintro ⟨⟩
    · intro _
      rw [known]
      exact (or_iff_left some_refused).symm

/-- Whatever is remembered and whatever edits the device takes, a deletion by name changes no other
    entry, and drops the entry of the name exactly if all edits are taken. -/
theorem forgets_deleteByName (r : Roadm) (s : Standing) (ports : List Port)
    (session : Option Netconf.Recorder) (name : String) :
    s.Forgets r ⟨ports, session, .deleteByName name⟩ name := by
  cases splits : CircuitNames.ofConnection? name with
  | none => exact (idle_of_declined (declined_deleteByName _ (.inl splits))).forgets
  | some names =>
    cases session with
    | none => exact (idle_of_declined (declined_deleteByName _ (.inr rfl))).forgets
    | some rec =>
      refine forgets_of_attempt rfl ?_ (run_deleteByName_of_splits _ splits)
      rw [splits]
      exact Option.some_ne_none names

/-- The device drops a connection and refuses to clear what lies below it: the connection stays
    remembered. -/
theorem remembered_after_refused_clearance :
    let name := "NMC-CTP-DEG1-TTP-RX-193.1-to-NMC-CTP-DEG2-TTP-TX-193.1"
    let s := run sample [.sample (.apply (Sample.crossConnect ⟨401⟩ ⟨302⟩ 0)) {}]
    let t : Turn := .sample (.deleteByName name) { failures := [(2, .rejected)] }
    (∃ e ∈ (s.sent sample t).head?, e.taken) ∧ (s.after sample t).connections.get? name ≠ none := by
  decide +kernel

end Lightpath.Roadm.Standing
