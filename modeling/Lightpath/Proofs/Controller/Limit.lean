import Lightpath.Proofs.Controller.Run
import Lightpath.Proofs.Roadm.Planned

/-!
# How many connections a node holds

A node is never given more connections than it may hold. One that holds as many as that takes no
further one: every rule that can be checked is refused for it, also a rule whose connection is there
already, and the node is not asked for anything.
-/

namespace Lightpath

/-- Changing a power makes no connection. -/
theorem ConnectionCache.size_setPower (cache : ConnectionCache) (name : String) (dbm : Float) :
    (cache.setPower name dbm).size = cache.size :=
  Table.size_modify ..

namespace Roadm

/-- No more connections are remembered than there is room for. -/
theorem kept_within (r : Roadm) :
    Kept r fun cache => cache.size ≤ r.config.maxConnections.toNat where
  empty := Nat.zero_le _
  add _ _ _ _ room _ := Nat.le_trans (Table.size_insert_le ..) room
  erase _ _ within := Nat.le_trans (Table.size_erase_le ..) within
  setPower cache name dbm _ within := by rwa [ConnectionCache.size_setPower]

end Roadm

namespace Controller

/-- A rule is refused by a node for lack of room. -/
structure LacksRoom (c : Controller) (d : DeviceId) (rule : FlowRule) : Prop where
  /-- Whatever the session, it is left as it was, and so are the connections. -/
  refused : ∀ session, ((c.roadm d).apply rule).run ⟨c.caches.get? d.name, session⟩ =
    (.error (.capacityExceeded d c.config.maxConnections), ⟨some (c.caches.cacheFor d), session⟩)
  /-- The controller stays as it was, but that it keeps a cache for the node from now on. -/
  answered : c.model? d = some .openRoadm → c.step d (.apply rule) =
    (.error (.failed (.capacityExceeded d c.config.maxConnections)),
      { c with caches := c.caches.insert d.name (c.caches.cacheFor d) })

variable {c : Controller} {d : DeviceId}

/-- A session stays what it is when it is kept as it was reached. -/
theorem put_of_reach? {σ : Type} {lines : Sessions σ} {session : σ}
    (reached : lines.reach? d = some session) : lines.put d session = lines := by
  refine Table.ext_get? fun name => ?_
  rw [Sessions.put, Table.get?_modify]
  split
  · next same =>
    subst same
    rw [Sessions.reach?] at reached
    cases known : lines.get? d.name with
    | none => rfl
    | some line =>
      rw [known] at reached
      dsimp only at reached
      split at reached
      · obtain rfl := Option.some.inj reached
        rfl
      · cases reached
  · rfl

theorem netconf_keepRoadm_opened (c : Controller) (d : DeviceId) :
    (c.keepRoadm d (c.roadmState d).opened).netconf = c.netconf := by
  cases reached : c.netconf.reach? d with
  | none => simp [keepRoadm, roadmState, reached]
  | some session => simp [keepRoadm, roadmState, reached, put_of_reach? reached]

/-- Keeping what an operation that only opens a cache has left. -/
theorem keepRoadm_opened (c : Controller) (d : DeviceId) :
    c.keepRoadm d (c.roadmState d).opened =
      { c with caches := c.caches.insert d.name (c.caches.cacheFor d) } :=
  congrArg (fun netconf : Sessions Netconf.Session =>
    { c with caches := c.caches.insert d.name (c.caches.cacheFor d), netconf })
    (netconf_keepRoadm_opened c d)

theorem lacksRoom_of_full {rule : FlowRule} {xc : CrossConnect}
    (full : c.caches.sizeOf d = c.config.maxConnections.toNat)
    (checked : CrossConnect.ofRule rule (c.roadm d).lineNumbers = .ok xc) :
    c.LacksRoom d rule where
  refused _ := Roadm.run_apply_of_full checked (Nat.le_of_eq full.symm)
  answered bound := by
    have refused := Roadm.run_apply_of_full (s := c.roadmState d) checked (Nat.le_of_eq full.symm)
    rw [step, onRoadm, bound]
    dsimp only
    rw [runRoadm, refused, ← keepRoadm_opened]
    rfl

/-- After every run, no device has more connections than it may hold, and one that has as many
    lacks room for every rule that can be checked. -/
theorem within_limit_run (config : Config) (events : List Event) (d : DeviceId) :
    let c := run config events
    c.caches.sizeOf d ≤ config.maxConnections.toNat ∧
      (c.caches.sizeOf d = config.maxConnections.toNat →
        ∀ rule xc, CrossConnect.ofRule rule (c.roadm d).lineNumbers = .ok xc →
          c.LacksRoom d rule) := by
  intro c
  have within : c.Remembers fun _ cache => cache.size ≤ config.maxConnections.toNat :=
    remembers_run (fun d ports => Roadm.kept_within ⟨d, config, ports⟩) events
  refine ⟨within.getD (d := d) (Nat.zero_le _), fun full rule xc checked => ?_⟩
  rw [← config_run config events] at full
  exact lacksRoom_of_full full checked

/-- The one connection that a node may hold is there, and its rule is applied again. -/
theorem within_limit_run_of_live_rule :
    ∃ rule c, c = run { maxConnections := 1 } (Event.sampleRun rule) ∧
      c.caches.sizeOf Sample.roadm = 1 ∧
      (∃ xc, CrossConnect.ofRule rule (c.roadm Sample.roadm).lineNumbers = .ok xc) ∧
      (∃ conn, (c.roadm Sample.roadm).planned rule = .ok conn ∧
        (c.caches.cacheFor Sample.roadm).contains conn.name) ∧
      c.model? Sample.roadm = some .openRoadm ∧ c.LacksRoom Sample.roadm rule := by
  obtain ⟨rule, chosen⟩ : ∃ rule, rule = Sample.crossConnect ⟨401⟩ ⟨302⟩ 0 := ⟨_, rfl⟩
  obtain ⟨c, reached⟩ : ∃ c, c = run { maxConnections := 1 } (Event.sampleRun rule) := ⟨_, rfl⟩
  have full : c.caches.sizeOf Sample.roadm = 1 := by
    rw [reached, chosen]
    decide +kernel
  obtain ⟨xc, checked⟩ : ∃ xc, CrossConnect.ofRule rule (c.roadm Sample.roadm).lineNumbers = .ok xc := by
    rw [reached, chosen]
    exact Roadm.exists_of_isOk (by decide +kernel)
  obtain ⟨conn, planned_eq⟩ : ∃ conn, (c.roadm Sample.roadm).planned rule = .ok conn := by
    rw [reached, chosen]
    exact Roadm.exists_of_isOk (by decide +kernel)
  have live : ((c.roadm Sample.roadm).planned rule).toOption.all fun conn =>
      (c.caches.cacheFor Sample.roadm).contains conn.name := by
    rw [reached, chosen]
    decide +kernel
  rw [planned_eq] at live
  have bound : c.model? Sample.roadm = some .openRoadm := by
    rw [reached, chosen]
    decide +kernel
  have refuses :=
    (within_limit_run { maxConnections := 1 } (Event.sampleRun rule) Sample.roadm).2
  rw [← reached] at refuses
  exact ⟨rule, c, reached, full, ⟨xc, checked⟩, ⟨conn, planned_eq, live⟩, bound,
    refuses full rule xc checked⟩

end Controller

end Lightpath
