import Lightpath.Proofs.Roadm.Run

/-!
# The device and what is remembered

As long as every call returns, what is remembered for a node is what the device holds: connections
of the same names, and of the same powers.
-/

namespace Lightpath.Roadm.Standing

/-- What is remembered is what the device holds. -/
structure Mirrors (s : Standing) : Prop where
  names : ∀ name, name ∈ s.held.connections.keys ↔ name ∈ s.connections.keys
  keyed : ∀ name conn, s.connections.get? name = some conn → conn.name = name
  powers : ∀ name conn, s.connections.get? name = some conn →
    s.held.power? name = some (.number conn.targetOutputPower)

/-- A turn that does not end in an error. -/
def Returns (r : Roadm) (s : Standing) (t : Turn) : Prop := (s.ended r t).1 = .ok ()

instance (r : Roadm) (s : Standing) (t : Turn) : Decidable (s.Returns r t) :=
  match ended : (s.ended r t).1 with
  | .ok () => isTrue ended
  | .error _ => isFalse fun returned => nomatch returned.symm.trans ended

variable {r : Roadm} {s : Standing} {t : Turn}

theorem Idle.not_returns (idle : s.Idle r t) : ¬ s.Returns r t := by
  obtain ⟨e, failed⟩ := idle.failed
  intro returned
  rw [Returns, failed] at returned
  cases returned

theorem Mirrors.isSome_iff (mirrors : s.Mirrors) (name : String) :
    (s.held.connections.get? name).isSome ↔ (s.connections.get? name).isSome := by
  rw [← Table.mem_keys_iff, mirrors.names, Table.mem_keys_iff]

theorem mirrors_start : Mirrors {} where
  names _ := Iff.rfl
  keyed _ _ found := nomatch found
  powers _ _ found := nomatch found

/-- A connection is made on the device and remembered, whether or not it was there. -/
theorem Mirrors.creation (mirrors : s.Mirrors) (conn : Connection) :
    Mirrors ⟨some (s.connections.add conn), s.held.carry (CircuitEdit.creation conn)⟩ := by
  refine ⟨fun name => ?_, ?_, fun name other found => ?_⟩
  · rw [Table.mem_keys_iff, Table.mem_keys_iff, Holdings.isSome_connections_carry_creation,
      mirrors.isSome_iff]
    exact (Table.isSome_get?_insert ..).symm
  · exact ConnectionCache.All.add mirrors.keyed rfl
  · change (s.connections.add conn).get? name = some other at found
    rw [ConnectionCache.get?_add] at found
    rw [Holdings.power?_carry_creation]
    split
    · next same =>
      rw [if_pos same] at found
      obtain rfl : conn = other := Option.some.inj found
      rfl
    · next different =>
      rw [if_neg different] at found
      exact mirrors.powers name other found

/-- A connection is taken from the device and forgotten, whether or not it was there. -/
theorem Mirrors.withdrawal (mirrors : s.Mirrors) (gone : String) (networks medias : List String) :
    Mirrors ⟨some (Table.erase s.connections gone),
      s.held.carry (CircuitEdit.withdrawal gone networks medias)⟩ := by
  rw [Holdings.carry_withdrawal]
  refine ⟨fun name => ?_, ?_, fun name other found => ?_⟩
  · change name ∈ (s.held.connections.erase gone).keys ↔ name ∈ (s.connections.erase gone).keys
    rw [Table.mem_keys_iff, Table.mem_keys_iff, Table.get?_erase, Table.get?_erase]
    split
    · exact Iff.rfl
    · exact mirrors.isSome_iff name
  · exact ConnectionCache.All.erase mirrors.keyed gone
  · change (s.connections.erase gone).get? name = some other at found
    rw [Table.get?_erase] at found
    split at found
    · cases found
    · next different =>
      rw [Holdings.power?]
      dsimp only
      rw [Table.get?_erase_of_ne _ different]
      exact mirrors.powers name other found

/-- A power is set on the device and remembered. -/
theorem Mirrors.powerStep (mirrors : s.Mirrors) {name : String} {conn : Connection}
    (known : s.connections.get? name = some conn) (dbm : Float) :
    Mirrors ⟨some (s.connections.setPower name dbm), s.held.carry [powerStep name dbm]⟩ := by
  refine ⟨fun key => ?_, ?_, fun key other found => ?_⟩
  · change _ ↔ key ∈ (s.connections.setPower name dbm).keys
    rw [Table.mem_keys_iff, Table.mem_keys_iff, Holdings.isSome_connections_carry_powerStep,
      ConnectionCache.get?_setPower, mirrors.isSome_iff]
    split
    · next same => simp [← same, known]
    · next different => simp [different]
  · exact ConnectionCache.All.setPower mirrors.keyed (fun _ _ same => same) name
  · change (s.connections.setPower name dbm).get? key = some other at found
    rw [ConnectionCache.get?_setPower] at found
    rw [Holdings.power?_carry_powerStep]
    split
    · next same =>
      rw [if_pos same] at found
      obtain ⟨old, -, rfl⟩ := Option.map_eq_some_iff.1 found
      rfl
    · next different =>
      rw [if_neg different] at found
      exact mirrors.powers key other found

/-- What takes away connections that are not remembered changes nothing. -/
theorem Mirrors.of_orphans (mirrors : s.Mirrors) {s' : Standing} {datastore : Datastore}
    {sent : List Netconf.Exchange} (same : s'.connections = s.connections)
    (held_eq : s'.held = s.held.replay sent)
    (orphans : ∀ e ∈ sent, ∃ name, s.connections.get? name = none ∧
      e.request ∈ (withdrawalOf name).map (Netconf.stepRequest datastore)) : s'.Mirrors := by
  have connections_eq : s'.held.connections = s.held.connections := by
    rw [held_eq]
    refine s.held.connections_replay_of_idle fun e member other unchanged => ?_
    obtain ⟨name, unknown, planned⟩ := orphans e member
    obtain ⟨step, listed, asked⟩ := List.mem_map.1 planned
    have missing : other.connections.get? name = none := by
      rw [unchanged, ← Option.not_isSome_iff_eq_none, mirrors.isSome_iff, unknown]
      exact Bool.false_ne_true
    rw [withdrawalOf] at listed
    split at listed
    · exact absurd listed List.not_mem_nil
    · rw [← asked, ← unchanged]
      exact other.connections_edit_of_mem_withdrawal listed missing
  refine ⟨fun name => ?_, fun name conn => ?_, fun name conn => ?_⟩
  · rw [connections_eq, same]
    exact mirrors.names name
  · rw [same]
    exact mirrors.keyed name conn
  · rw [same, Holdings.power?, connections_eq]
    exact mirrors.powers name conn

/-- A turn that returns leaves what is remembered to be what the device holds. -/
theorem Mirrors.after (mirrors : s.Mirrors) (returned : s.Returns r t) : (s.after r t).Mirrors := by
  obtain ⟨ports, session, call⟩ := t
  cases call with
  | apply rule =>
    obtain idle | ⟨conn, -, works⟩ := idle_or_works_apply r s ports session rule
    · exact absurd returned idle.not_returns
    · rw [works.after_of_returned returned]
      exact mirrors.creation conn
  | release rule =>
    obtain idle | ⟨conn, -, works⟩ := idle_or_works_release r s ports session rule
    · exact absurd returned idle.not_returns
    · rw [works.after_of_returned returned]
      exact mirrors.withdrawal conn.name _ _
  | reconcile =>
    obtain ⟨same, orphans⟩ := returned_reconcile r s ports session returned
    exact mirrors.of_orphans same rfl orphans
  | setTargetPower port channel dbm =>
    obtain idle | ⟨conn, tunes, works⟩ :=
      idle_or_works_setTargetPower r s ports session port channel dbm
    · exact absurd returned idle.not_returns
    · rw [works.after_of_returned returned]
      obtain ⟨c, -, carried⟩ := tunes.carried
      obtain ⟨name, known⟩ := (Table.mem_values_iff _).1 (List.mem_of_find?_eq_some carried)
      obtain rfl : conn.name = name := mirrors.keyed name conn known
      exact mirrors.powerStep known dbm
  | deleteByName name =>
    obtain idle | ⟨names, -, works⟩ := idle_or_works_deleteByName r s ports session name
    · exact absurd returned idle.not_returns
    · rw [works.after_of_returned returned]
      exact mirrors.withdrawal name _ _

/-- In a run in which every turn returns, after each of them what is remembered is what the device
    holds. -/
theorem mirrors_run (r : Roadm) (turns : List Turn)
    (returned : Along r (fun s t => s.Returns r t) turns) (before : List Turn)
    (earlier : before <+: turns) : (run r before).Mirrors :=
  run_invariant mirrors_start (fun _ _ mirrors => mirrors.after) (returned.of_prefix earlier)

/-- A connection is made, somebody else's is taken away, and the first one is released. -/
theorem mirrors_run_of_three_turns :
    let rule := Sample.crossConnect ⟨401⟩ ⟨302⟩ 0
    let stray := { configReply := Sample.connections ["A-to-B"] }
    let turns : List Turn :=
      [.sample (.apply rule) {}, .sample .reconcile stray, .sample (.release rule) {}]
    Along sample (fun s t => s.Returns sample t) turns ∧ (run sample turns).Mirrors := by
  intro rule stray turns
  have made : Returns sample (run sample []) (.sample (.apply rule) {}) := by decide +kernel
  have kept : Returns sample (run sample [.sample (.apply rule) {}]) (.sample .reconcile stray) := by
    decide +kernel
  have released : Returns sample (run sample [.sample (.apply rule) {}, .sample .reconcile stray])
      (.sample (.release rule) {}) := by
    decide +kernel
  have returned : Along sample (fun s t => s.Returns sample t) turns :=
    ((along_nil.concat made).concat kept).concat released
  exact ⟨returned, mirrors_run sample turns returned turns List.prefix_rfl⟩

end Lightpath.Roadm.Standing
