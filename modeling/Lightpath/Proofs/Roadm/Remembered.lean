import Lightpath.Proofs.Circuit.Cache
import Lightpath.Proofs.Roadm.Power
import Lightpath.Proofs.Roadm.Reconcile
import Lightpath.Roadm.Discovery

/-!
# What is remembered whatever happens

A node remembers a further connection only for a rule that asks for it, forgets connections, and
changes powers within the powers that may be asked for. What these keep is kept by every operation,
whatever the device answers and wherever the operation stops.
-/

namespace Lightpath.Roadm

/-- What holds without connections and is kept when a connection is remembered for which there is
    room, when one is forgotten, and when a power is changed. -/
structure Kept (r : Roadm) (I : ConnectionCache → Prop) : Prop where
  empty : I .empty
  add : ∀ rule conn cache, r.planned rule = .ok conn →
    cache.size < r.config.maxConnections.toNat → I cache → I (cache.add conn)
  erase : ∀ cache name, I cache → I (Table.erase cache name)
  setPower : ∀ cache name dbm, r.config.powerRange.contains dbm → I cache →
    I (cache.setPower name dbm)

/-- What is kept when a connection is forgotten and when a power is changed. -/
structure Wanes (r : Roadm) (I : ConnectionCache → Prop) : Prop where
  erase : ∀ cache name, I cache → I (Table.erase cache name)
  setPower : ∀ cache name dbm, r.config.powerRange.contains dbm → I cache →
    I (cache.setPower name dbm)

theorem Kept.wanes {r : Roadm} {I : ConnectionCache → Prop} (kept : Kept r I) : Wanes r I :=
  ⟨kept.erase, kept.setPower⟩

/-- What is kept under a condition, and else is not said. -/
theorem Kept.imp {r : Roadm} {I : ConnectionCache → Prop} {p : Prop} (kept : p → Kept r I) :
    Kept r fun cache => p → I cache where
  empty here := (kept here).empty
  add rule conn cache planned_eq room holds here :=
    (kept here).add rule conn cache planned_eq room (holds here)
  erase cache name holds here := (kept here).erase cache name (holds here)
  setPower cache name dbm inRange holds here :=
    (kept here).setPower cache name dbm inRange (holds here)

/-- An operation keeps what holds of the connections remembered. -/
def Action.Keeps (I : ConnectionCache → Prop) {α : Type} (x : Action α) : Prop :=
  ∀ s : State, I s.connections → I (x.run s).2.connections

namespace Action

variable {I : ConnectionCache → Prop} {α β : Type}

theorem LeavesCache.connections_eq {x : Action α} (leaves : x.LeavesCache) (s : State) :
    (x.run s).2.connections = s.connections := by
  rw [State.connections, leaves s]
  rfl

/-- What is remembered after an operation for which a cache was opened. -/
theorem LeavesCache.cache_of_run {x : Action α} (leaves : x.LeavesCache) {s s' : State}
    {result : Except Error α} (ended : x.run s.opened = (result, s')) :
    s'.cache = some s.connections := by
  have same := leaves s.opened
  rw [ended] at same
  exact same

theorem LeavesCache.keeps {x : Action α} (leaves : x.LeavesCache) : x.Keeps I := by
  intro s holds
  rwa [leaves.connections_eq]

theorem keeps_pure (x : α) : (pure x : Action α).Keeps I := fun _ holds => holds

theorem keeps_openCache : openCache.Keeps I := fun _ holds => holds

theorem Keeps.bind {x : Action α} {f : α → Action β} (first : x.Keeps I)
    (rest : ∀ a, (f a).Keeps I) : (x >>= f).Keeps I := by
  intro s holds
  have before := first s holds
  rw [Action.run_bind]
  rcases ended : x.run s with ⟨_ | a, s'⟩
  · rwa [ended] at before
  · rw [ended] at before
    exact rest a s' before

theorem Keeps.tryCatch {x : Action α} {f : Error → Action α} (first : x.Keeps I)
    (rest : ∀ e, (f e).Keeps I) : (tryCatch x f).Keeps I := by
  intro s holds
  have before := first s holds
  rw [Action.run_tryCatch]
  rcases ended : x.run s with ⟨e | a, s'⟩
  · rw [ended] at before
    exact rest e s' before
  · rwa [ended] at before

end Action

variable {r : Roadm} {I : ConnectionCache → Prop}

/-- A connection that a node builds between two of its ports has the shape of a built one. -/
theorem shaped_connection {xc : CrossConnect} {conn : Connection}
    (built : r.connection xc = .ok conn) : conn.Shaped := by
  rw [connection] at built
  cases source : r.port xc.inPort with
  | error e =>
    rw [source] at built
    cases built
  | ok sourcePort =>
    cases destination : r.port xc.outPort with
    | error e =>
      rw [source, destination] at built
      cases built
    | ok destinationPort =>
      rw [source, destination] at built
      exact Connection.shaped_build built

theorem leavesCache_deleteNamed (name : String) : (r.deleteNamed name).LeavesCache := by
  rw [deleteNamed]
  split
  · exact Action.leavesCache_throw _
  · exact r.leavesCache_program _

theorem leavesCache_reconcileNodes (known : ConnectionCache) (nodes : List Document) :
    (r.reconcileNodes known nodes).LeavesCache := by
  induction nodes with
  | nil => exact Action.leavesCache_pure _
  | cons node nodes ih =>
    rw [reconcileNodes]
    split
    · exact ih
    · split
      · refine ih.bind fun entries => ?_
        split
        · exact Action.leavesCache_pure _
        · exact Action.leavesCache_pure _
      · exact ((leavesCache_deleteNamed _).tryCatch fun _ => Action.leavesCache_pure _).bind
          fun _ => ih

theorem leavesCache_targetPower {port : PortNumber} {channel : Option Channel} :
    (targetPower port channel).LeavesCache := fun _ => rfl

theorem keeps_reconcile : r.reconcile.Keeps I := by
  refine r.leavesCache_acquire.keeps.bind fun _ => ?_
  refine Action.keeps_openCache.bind fun known => ?_
  refine (r.leavesCache_ask _).keeps.bind fun reply => ?_
  exact (leavesCache_reconcileNodes known _).keeps

theorem keeps_flowEntries : r.flowEntries.Keeps I :=
  keeps_reconcile.tryCatch fun _ => Action.keeps_pure _

theorem keeps_discoverDevice : r.discoverDevice.Keeps I := by
  refine r.leavesCache_acquire.keeps.bind fun _ => ?_
  have described : (do
      let reply ← r.ask (Netconf.Session.get CircuitEdit.infoFilter)
      return describe reply : Action DeviceDescription).Keeps I :=
    (r.leavesCache_ask _).keeps.bind fun _ => Action.keeps_pure _
  split
  · have reset : (tryCatch (do let _ ← r.ask (Netconf.Session.copyConfig .running .startup))
        fun _ => return : Action Unit).Keeps I :=
      ((r.leavesCache_ask _).keeps.bind fun _ => Action.keeps_pure _).tryCatch
        fun _ => Action.keeps_pure _
    exact reset.bind fun _ => described
  · exact described

theorem keeps_discoverPorts : r.discoverPorts.Keeps I := by
  refine Action.Keeps.tryCatch ?_ fun _ => Action.keeps_pure _
  refine r.leavesCache_acquire.keeps.bind fun _ => ?_
  exact (r.leavesCache_ask _).keeps.bind fun _ => Action.keeps_pure _

theorem keeps_apply (kept : Kept r I) (rule : FlowRule) : (r.apply rule).Keeps I := by
  intro s holds
  rw [run_apply]
  cases checked : CrossConnect.ofRule rule r.lineNumbers with
  | error e => exact holds
  | ok xc =>
    dsimp only
    split
    · exact holds
    · next room =>
      cases built : r.connection xc with
      | error e => exact holds
      | ok conn =>
        dsimp only
        split
        · exact holds
        · have more : I (s.connections.add conn) :=
            kept.add rule conn s.connections ((r.planned_eq_ok_iff rule).2 ⟨xc, checked, built⟩)
              (Nat.lt_of_not_le room) holds
          rcases ended : (r.program (CircuitEdit.creation conn)).run s.opened with ⟨_ | _, s'⟩
          all_goals
            have opened := (r.leavesCache_program _).cache_of_run ended
            simpa only [State.connections, opened, Option.map_some, Option.getD_some]

theorem keeps_release (wanes : Wanes r I) (rule : FlowRule) : (r.release rule).Keeps I := by
  intro s holds
  rw [run_release]
  cases r.planned rule with
  | error e => exact holds
  | ok built =>
    dsimp only
    cases s.connections.get? built.name with
    | none => exact holds
    | some conn =>
      dsimp only
      split
      · exact holds
      · have fewer : I (Table.erase s.connections conn.name) := wanes.erase _ _ holds
        rcases ended : (r.program [CircuitEdit.deletion conn.name]).run s.opened with ⟨_ | _, s'⟩
        · have opened := (r.leavesCache_program _).cache_of_run ended
          simpa only [State.connections, opened, Option.getD_some]
        · have opened := (r.leavesCache_program _).cache_of_run ended
          dsimp only
          rw [opened, Option.map_some]
          have cleared := (r.leavesCache_program (CircuitEdit.clearance conn.names.networks
            (conn.medias.map (·.name)))).keeps (I := I)
              { s' with cache := some (Table.erase s.connections conn.name) } fewer
          generalize (r.program (CircuitEdit.clearance _ _)).run _ = last at cleared ⊢
          rcases last with ⟨_ | _, s''⟩
          · exact cleared
          · exact cleared

theorem keeps_deleteByName (wanes : Wanes r I) (name : String) : (r.deleteByName name).Keeps I := by
  intro s holds
  rw [run_deleteByName]
  split
  · exact holds
  · have fewer : I (Table.erase s.connections name) := wanes.erase _ _ holds
    rcases ended : (r.deleteNamed name).run s.opened with ⟨_ | _, s'⟩
    all_goals
      have opened := (leavesCache_deleteNamed name).cache_of_run ended
      simpa only [State.connections, opened, Option.map_some, Option.getD_some]

theorem keeps_setTargetPower (wanes : Wanes r I) (port : PortNumber) (channel : Option Channel)
    (dbm : Float) : (r.setTargetPower port channel dbm).Keeps I := by
  intro s holds
  rw [run_setTargetPower]
  cases channel with
  | none => exact holds
  | some c =>
    dsimp only
    split
    · exact holds
    · next inRange =>
      cases carrier? s.connections port c with
      | none => exact holds
      | some conn =>
        dsimp only
        split
        · exact holds
        · have tuned : I (s.connections.setPower conn.name dbm) :=
            wanes.setPower _ _ _ (by simpa using inRange) holds
          rcases ended : (r.edit (powerStep conn.name dbm)).run s.opened with ⟨_ | _, s'⟩
          all_goals
            have opened := (r.leavesCache_edit _).cache_of_run ended
            simpa only [State.connections, opened, Option.map_some, Option.getD_some]

theorem keeps_applyAll (kept : Kept r I) (rules : List FlowRule) : (r.applyAll rules).Keeps I := by
  induction rules with
  | nil => exact Action.keeps_pure _
  | cons rule rules ih =>
    have tried : (tryCatch (do let _ ← r.apply rule; pure true) fun _ => pure false :
        Action Bool).Keeps I :=
      ((keeps_apply kept rule).bind fun _ => Action.keeps_pure _).tryCatch
        fun _ => Action.keeps_pure _
    exact tried.bind fun _ => ih.bind fun _ => Action.keeps_pure _

theorem keeps_releaseAll (wanes : Wanes r I) (rules : List FlowRule) :
    (r.releaseAll rules).Keeps I := by
  induction rules with
  | nil => exact Action.keeps_pure _
  | cons rule rules ih =>
    have tried : (tryCatch (do let _ ← r.release rule; pure true) fun _ => pure false :
        Action Bool).Keeps I :=
      ((keeps_release wanes rule).bind fun _ => Action.keeps_pure _).tryCatch
        fun _ => Action.keeps_pure _
    exact tried.bind fun _ => ih.bind fun _ => Action.keeps_pure _

/-- What holds of the connections that rules ask for, whatever their powers, is kept for all that
    are remembered. -/
theorem kept_all {r : Roadm} {P : String → Connection → Prop}
    (asked : ∀ rule conn, r.planned rule = .ok conn → P conn.name conn)
    (tuned : ∀ name c dbm, P name c → P name { c with targetOutputPower := dbm }) :
    Kept r (ConnectionCache.All P) where
  empty := ConnectionCache.all_empty
  add rule conn _ planned_eq _ all := ConnectionCache.All.add all (asked rule conn planned_eq)
  erase _ name all := ConnectionCache.All.erase all name
  setPower _ name dbm _ all :=
    ConnectionCache.All.setPower all (fun name c => tuned name c dbm) name

/-- Connections are remembered under their own names and as they are built. -/
theorem kept_sound (r : Roadm) : Kept r ConnectionCache.Sound := by
  refine kept_all (fun rule conn planned_eq => ?_) fun _ _ dbm ⟨same, shaped⟩ =>
    ⟨same, shaped.tuned dbm⟩
  obtain ⟨xc, -, built⟩ := (r.planned_eq_ok_iff rule).1 planned_eq
  exact ⟨rfl, shaped_connection built⟩

end Lightpath.Roadm
