import Lightpath.Proofs.Roadm.RoundTrip
import Mathlib.Data.List.Nodup

/-!
# Demands in any order

Rules that ask for connections of different names can be applied and released in any order. As long
as there is room for all of them and the device takes every edit, each ends the same way, and so do
what is remembered and the connections that the device holds.
-/

namespace Lightpath

/-- A change of a table that looks at one key only and leaves the other keys alone. -/
structure Table.ChangesAt {α : Type} (key : String) (change : Table α → Table α) : Prop where
  here : ∀ t t', t.get? key = t'.get? key → (change t).get? key = (change t').get? key
  elsewhere : ∀ t other, key ≠ other → (change t).get? other = t.get? other

namespace Table.ChangesAt

variable {α : Type} {key key' : String} {change change' : Table α → Table α}

theorem unchanged : ChangesAt key fun t : Table α => t := ⟨fun _ _ same => same, fun _ _ _ => rfl⟩

theorem insert (value : Option α → α) : ChangesAt key fun t => t.insert key (value (t.get? key)) where
  here t t' same := by rw [get?_insert_self, get?_insert_self, same]
  elsewhere t _ other := t.get?_insert_of_ne _ other

theorem erase : ChangesAt key fun t : Table α => t.erase key where
  here t t' _ := by rw [get?_erase_self, get?_erase_self]
  elsewhere t _ other := t.get?_erase_of_ne other

/-- Changes at different keys do not disturb each other. -/
theorem comm (first : ChangesAt key change) (second : ChangesAt key' change') (apart : key ≠ key')
    (t : Table α) : change' (change t) = change (change' t) := by
  refine ext_get? fun asked => ?_
  by_cases same : key = asked
  · subst same
    rw [second.elsewhere _ _ apart.symm]
    exact first.here _ _ (second.elsewhere t _ apart.symm).symm
  · rw [first.elsewhere _ _ same]
    by_cases same' : key' = asked
    · subst same'
      exact second.here _ _ (first.elsewhere t _ apart)
    · rw [second.elsewhere _ _ same', second.elsewhere _ _ same', first.elsewhere _ _ same]

end Table.ChangesAt

namespace Roadm

/-- A rule that is to be applied or released. -/
inductive Demand where
  | apply (rule : FlowRule)
  | release (rule : FlowRule)

namespace Demand

def rule : Demand → FlowRule
  | .apply rule => rule
  | .release rule => rule

/-- Whether a demand may take up room. -/
def applies : Demand → Bool
  | .apply _ => true
  | .release _ => false

def action (r : Roadm) : Demand → Action Connection
  | .apply rule => r.apply rule
  | .release rule => r.release rule

/-- The name of the connection that a demand asks for. -/
def name? (r : Roadm) (d : Demand) : Option String := (r.planned d.rule).toOption.map (·.name)

def after (r : Roadm) (s : State) (d : Demand) : State := ((d.action r).run s).2

/-- The state after demands. -/
def served (r : Roadm) (s : State) (demands : List Demand) : State := demands.foldl (after r) s

/-- Demands with what each of them ends in. -/
def answers (r : Roadm) (s : State) : List Demand → List (Demand × Except Error Connection)
  | [] => []
  | d :: demands => (d, ((d.action r).run s).1) :: answers r (d.after r s) demands

/-- The edits that are sent for demands. -/
def sent (r : Roadm) (s : State) : List Demand → List Netconf.Exchange
  | [] => []
  | d :: demands => (d.after r s).exchangesSince s ++ sent r (d.after r s) demands

/-- All demands ask for connections, no two of them for connections of one name. -/
structure Independent (r : Roadm) (demands : List Demand) : Prop where
  built : ∀ d ∈ demands, (d.name? r).isSome
  apart : (demands.map (name? r)).Nodup

instance (r : Roadm) (demands : List Demand) : Decidable (Independent r demands) :=
  decidable_of_iff ((∀ d ∈ demands, (d.name? r).isSome) ∧ (demands.map (name? r)).Nodup)
    ⟨fun ⟨built, apart⟩ => ⟨built, apart⟩, fun independent => ⟨independent.built, independent.apart⟩⟩

/-- The connection that a demand is about: a new one if it is to be made, and else the one that is
    known under its name. -/
def target (r : Roadm) (known : ConnectionCache) (built : Connection) :
    Demand → Except Error Connection
  | .apply _ => .ok built
  | .release _ =>
    match known.get? built.name with
    | none => .error (.cacheInconsistency r.device ("release of unknown connection " ++ built.name))
    | some conn => .ok conn

/-- What a demand ends in if there is room and every edit is taken. -/
def due (r : Roadm) (reached : Bool) (known : ConnectionCache) (d : Demand) :
    Except Error Connection := do
  let built ← r.planned d.rule
  let conn ← d.target r known built
  if reached then .ok conn else .error (.noSession r.device)

/-- The steps that are worked through for a demand that ends in this way. -/
def steps (d : Demand) : Except Error Connection → List CircuitEdit.Step
  | .error _ => []
  | .ok conn =>
    match d with
    | .apply _ => CircuitEdit.creation conn
    | .release _ =>
      CircuitEdit.withdrawal conn.name conn.names.networks (conn.medias.map (·.name))

/-- What is remembered after a demand that ends in this way. -/
def keep (d : Demand) (answer : Except Error Connection) (cache : ConnectionCache) :
    ConnectionCache :=
  match answer with
  | .error _ => cache
  | .ok conn =>
    match d with
    | .apply _ => cache.add conn
    | .release _ => Table.erase cache conn.name

/-- The connections that the device holds after a demand that ends in this way. -/
def hold (d : Demand) (answer : Except Error Connection) (held : Table (Table Document)) :
    Table (Table Document) :=
  match answer with
  | .error _ => held
  | .ok conn =>
    match d with
    | .apply _ => held.insert conn.name (Holdings.overlay ((held.get? conn.name).getD .empty)
        ((CircuitAudit.body? (CircuitEdit.createConnection conn) CircuitEdit.connectionsKey).getD
          default))
    | .release _ => held.erase conn.name

/-- A demand ends as it is due, and all edits that are sent for it are taken. -/
structure Meets (r : Roadm) (cache : Option ConnectionCache) (session : Option Netconf.Recorder)
    (d : Demand) (answer : Except Error Connection) : Prop where
  answer_eq : ((d.action r).run (.through cache session)).1 = answer
  after_eq : ∃ requests, d.after r (.through cache session) =
    .through (some (d.keep answer (cache.getD .empty))) (session.map (·.hear requests))
  sent_eq : (d.after r (.through cache session)).exchangesSince (.through cache session) =
    (d.steps answer).map fun step => ⟨Netconf.stepRequest r.config.datastore step, none⟩

variable {r : Roadm} {cache : Option ConnectionCache} {session : Option Netconf.Recorder}
  {d : Demand} {demands : List Demand} {known : ConnectionCache} {built : Connection}

theorem due_of_target (planned_eq : r.planned d.rule = .ok built) (reached : Bool) :
    d.due r reached known = match d.target r known built with
      | .error e => .error e
      | .ok conn => if reached then .ok conn else .error (.noSession r.device) := by
  rw [due, planned_eq]
  change (d.target r known built >>= fun conn => _) = _
  cases d.target r known built <;> rfl

/-- What is refused opens a cache at most. -/
theorem meets_of_refused {e : Error}
    (ran : (d.action r).run (.through cache session) =
      (.error e, (State.through cache session).opened)) :
    d.Meets r cache session (.error e) where
  answer_eq := by rw [ran]
  after_eq := ⟨[], by rw [after, ran]; simp [keep]⟩
  sent_eq := State.exchangesSince_of_session_eq (by rw [after, ran]; rfl)

/-- Steps that are all taken are sent as they are planned. -/
theorem meets_of_attempt {rec : Netconf.Recorder} {conn : Connection} {kept : ConnectionCache}
    (ran : (d.action r).run (.through cache (some rec)) =
      ((rec.verdict rec.edits (d.steps (.ok conn))).map fun _ => conn,
        .through (some kept) (some (rec.hear
          ((rec.attempt r.config.datastore rec.edits (d.steps (.ok conn))).map (·.request))))))
    (remembers : rec.verdict rec.edits (d.steps (.ok conn)) = .ok () →
      kept = d.keep (.ok conn) (cache.getD .empty))
    (taken : ∀ e ∈ (d.after r (.through cache (some rec))).exchangesSince (.through cache (some rec)),
      e.taken) :
    d.Meets r cache (some rec) (.ok conn) := by
  have all : (d.after r (.through cache (some rec))).exchangesSince (.through cache (some rec)) =
      rec.attempt r.config.datastore rec.edits (d.steps (.ok conn)) := by
    rw [after, ran, State.exchangesSince_through, rec.answers_attempt]
  rw [all] at taken
  have done := (rec.verdict_eq_ok_iff r.config.datastore rec.edits _).2 taken
  refine ⟨by rw [ran, done]; rfl, ?_, ?_⟩
  · rw [after, ran, remembers done]
    exact ⟨_, rfl⟩
  · rw [all, rec.attempt_of_verdict r.config.datastore rec.edits done]

theorem meets_apply {rule : FlowRule} (planned_eq : r.planned rule = .ok built)
    (room : (cache.getD .empty).size < r.config.maxConnections.toNat)
    (taken : ∀ e ∈ ((Demand.apply rule).after r (.through cache session)).exchangesSince
      (.through cache session), e.taken) :
    (Demand.apply rule).Meets r cache session
      (if session.isSome then .ok built else .error (.noSession r.device)) := by
  cases session with
  | none => exact meets_of_refused (run_apply_of_unreached planned_eq room rfl)
  | some rec =>
    refine meets_of_attempt (r.run_apply_of_admits ⟨planned_eq, room, rfl⟩) (fun done => ?_) taken
    exact if_pos (congrArg Except.isOk done)

theorem meets_release {rule : FlowRule} {conn : Connection}
    (planned_eq : r.planned rule = .ok built)
    (found : (cache.getD .empty).get? built.name = some conn)
    (taken : ∀ e ∈ ((Demand.release rule).after r (.through cache session)).exchangesSince
      (.through cache session), e.taken) :
    (Demand.release rule).Meets r cache session
      (if session.isSome then .ok conn else .error (.noSession r.device)) := by
  cases session with
  | none => exact meets_of_refused (run_release_of_unreached planned_eq found rfl)
  | some rec =>
    refine meets_of_attempt (r.run_release_of_finds ⟨⟨built, planned_eq, found⟩, rfl⟩)
      (fun done => if_pos ?_) taken
    exact congrArg Option.isNone (rec.failure?_of_verdict rec.edits done)

/-- What one demand comes to. -/
theorem meets_due (planned_eq : r.planned d.rule = .ok built)
    (room : d.applies → (cache.getD .empty).size < r.config.maxConnections.toNat)
    (taken : ∀ e ∈ (d.after r (.through cache session)).exchangesSince (.through cache session),
      e.taken) :
    d.Meets r cache session (d.due r session.isSome (cache.getD .empty)) := by
  rw [due_of_target planned_eq]
  cases d with
  | apply rule => exact meets_apply planned_eq (room rfl) taken
  | release rule =>
    rw [target]
    cases found : (cache.getD .empty).get? built.name with
    | none => exact meets_of_refused (run_release_of_missing planned_eq found)
    | some conn => exact meets_release planned_eq found taken

/-- What a demand comes to depends on what is remembered under its name only. -/
theorem due_congr {known' : ConnectionCache} (planned_eq : r.planned d.rule = .ok built)
    (same : known.get? built.name = known'.get? built.name) (reached : Bool) :
    d.due r reached known = d.due r reached known' := by
  have targets : d.target r known built = d.target r known' built := by
    cases d with
    | apply rule => rfl
    | release rule => rw [target, target, same]
  rw [due_of_target planned_eq, due_of_target planned_eq, targets]

/-- The connection that a demand ends in has the name that it asks for. -/
theorem name_of_due (keyed : known.All fun name c => c.name = name)
    (planned_eq : r.planned d.rule = .ok built) {reached : Bool} {conn : Connection}
    (ends : d.due r reached known = .ok conn) : conn.name = built.name := by
  rw [due_of_target planned_eq] at ends
  cases d with
  | apply rule =>
    cases reached with
    | true => rw [← Except.ok.inj ends]
    | false => cases ends
  | release rule =>
    rw [target] at ends
    cases found : known.get? built.name with
    | none =>
      rw [found] at ends
      cases ends
    | some conn' =>
      rw [found] at ends
      cases reached with
      | true => exact Except.ok.inj ends ▸ keyed _ _ found
      | false => cases ends

theorem changesAt_keep (keyed : known.All fun name c => c.name = name)
    (planned_eq : r.planned d.rule = .ok built) (reached : Bool) :
    Table.ChangesAt built.name (d.keep (d.due r reached known)) := by
  cases ends : d.due r reached known with
  | error e => exact .unchanged
  | ok conn =>
    rw [← name_of_due keyed planned_eq ends]
    cases d with
    | apply rule => exact .insert fun _ => conn
    | release rule => exact .erase

theorem changesAt_hold (keyed : known.All fun name c => c.name = name)
    (planned_eq : r.planned d.rule = .ok built) (reached : Bool) :
    Table.ChangesAt built.name (d.hold (d.due r reached known)) := by
  cases ends : d.due r reached known with
  | error e => exact .unchanged
  | ok conn =>
    rw [← name_of_due keyed planned_eq ends]
    cases d with
    | apply rule => exact .insert fun leaves => Holdings.overlay (leaves.getD .empty) _
    | release rule => exact .erase

/-- Keeping what has become of a demand takes up room only if it is to be applied. -/
theorem size_keep_le (answer : Except Error Connection) (cache : ConnectionCache) :
    (d.keep answer cache).size ≤ cache.size + if d.applies then 1 else 0 := by
  cases answer with
  | error e => exact Nat.le_add_right _ _
  | ok conn =>
    cases d with
    | apply rule => exact Table.size_insert_le ..
    | release rule => exact Table.size_erase_le ..

theorem connections_carry (answer : Except Error Connection) (held : Holdings) :
    (held.carry (d.steps answer)).connections = d.hold answer held.connections := by
  cases answer with
  | error e => rfl
  | ok conn =>
    cases d with
    | apply rule =>
      obtain ⟨node, said, made⟩ := held.connections_carry_creation conn
      rw [steps, made, hold, said]
      rfl
    | release rule => rw [steps, Holdings.carry_withdrawal]; rfl

theorem exists_built (named : (d.name? r).isSome) : ∃ built, r.planned d.rule = .ok built := by
  rw [name?] at named
  cases planned_eq : r.planned d.rule with
  | error e =>
    rw [planned_eq] at named
    cases named
  | ok built => exact ⟨built, rfl⟩

theorem name?_of_planned (planned_eq : r.planned d.rule = .ok built) :
    d.name? r = some built.name := by
  rw [name?, planned_eq]
  rfl

theorem Independent.tail (independent : Independent r (d :: demands)) : Independent r demands :=
  ⟨fun d member => independent.built d (List.mem_cons_of_mem _ member),
    (List.nodup_cons.1 independent.apart).2⟩

/-- Demands come one after the other to what they are due with regard to what was known. -/
structure MeetAll (r : Roadm) (known : ConnectionCache) (cache : Option ConnectionCache)
    (session : Option Netconf.Recorder) (demands : List Demand) : Prop where
  answers_eq : answers r (.through cache session) demands =
    demands.map fun d => (d, d.due r session.isSome known)
  connections_eq : (served r (.through cache session) demands).connections =
    demands.foldl (fun kept d => d.keep (d.due r session.isSome known) kept) (cache.getD .empty)
  sent_eq : sent r (.through cache session) demands =
    (demands.flatMap fun d => d.steps (d.due r session.isSome known)).map fun step =>
      ⟨Netconf.stepRequest r.config.datastore step, none⟩

/-- No demand changes what the later ones depend on. -/
theorem meetAll (keyed : known.All fun name c => c.name = name)
    (independent : Independent r demands)
    (agrees : ∀ d ∈ demands, ∀ name, d.name? r = some name →
      (cache.getD .empty).get? name = known.get? name)
    (room : (cache.getD .empty).size + demands.countP applies ≤ r.config.maxConnections.toNat)
    (taken : ∀ e ∈ sent r (.through cache session) demands, e.taken) :
    MeetAll r known cache session demands := by
  induction demands generalizing cache session with
  | nil => exact ⟨rfl, rfl, rfl⟩
  | cons d demands ih =>
    obtain ⟨built, planned_eq⟩ := exists_built (independent.built d List.mem_cons_self)
    have named : d.name? r = some built.name := name?_of_planned planned_eq
    rw [List.countP_cons] at room
    rw [sent, List.forall_mem_append] at taken
    have space : d.applies → (cache.getD .empty).size < r.config.maxConnections.toNat := by
      intro applies
      rw [if_pos applies] at room
      omega
    obtain ⟨answer_eq, ⟨requests, after_eq⟩, sent_eq⟩ := meets_due planned_eq space taken.1
    rw [due_congr planned_eq (agrees d List.mem_cons_self _ named)] at answer_eq after_eq sent_eq
    have same : (session.map (·.hear requests)).isSome = session.isSome := Option.isSome_map
    have rest : MeetAll r known (some (d.keep (d.due r session.isSome known) (cache.getD .empty)))
        (session.map (·.hear requests)) demands := by
      refine ih independent.tail ?_ ?_ (after_eq ▸ taken.2)
      · -- the demand has changed nothing but what is under its own name, which no later one has
        intro other member name told
        rw [← agrees other (List.mem_cons_of_mem _ member) name told]
        refine (changesAt_keep keyed planned_eq _).elsewhere _ _ fun shared => ?_
        refine (List.nodup_cons.1 independent.apart).1 (List.mem_map.2 ⟨other, member, ?_⟩)
        rw [told, named, shared]
      · have grown := size_keep_le (d := d) (d.due r session.isSome known) (cache.getD .empty)
        exact Nat.le_trans (Nat.add_le_add_right grown _) (by omega)
    obtain ⟨answers_eq', connections_eq', sent_eq'⟩ := rest
    rw [same] at answers_eq' connections_eq' sent_eq'
    refine ⟨?_, ?_, ?_⟩
    · rw [answers, answer_eq, after_eq, answers_eq', List.map_cons]
    · rw [served, List.foldl_cons, after_eq]
      exact connections_eq'
    · rw [sent, sent_eq, after_eq, sent_eq', List.flatMap_cons, List.map_append]

/-- Demands for connections of different names do not disturb each other. -/
theorem Independent.comm {α : Type} {change : Demand → Table α → Table α}
    (independent : Independent r demands)
    (changes : ∀ d ∈ demands, ∀ built, r.planned d.rule = .ok built →
      Table.ChangesAt built.name (change d)) :
    ∀ d ∈ demands, ∀ d' ∈ demands, ∀ t, change d' (change d t) = change d (change d' t) := by
  intro d member d' member' t
  obtain ⟨built, planned_eq⟩ := exists_built (independent.built d member)
  obtain ⟨built', planned_eq'⟩ := exists_built (independent.built d' member')
  by_cases shared : built.name = built'.name
  · have told : d.name? r = d'.name? r := by
      rw [name?_of_planned planned_eq, name?_of_planned planned_eq', shared]
    rw [List.inj_on_of_nodup_map independent.apart member member' told]
  · exact (changes d member built planned_eq).comm (changes d' member' built' planned_eq') shared t

theorem connections_replay (held : Holdings) (ends : Demand → Except Error Connection)
    (datastore : Datastore) :
    (held.replay ((demands.flatMap fun d => d.steps (ends d)).map fun step =>
        ⟨Netconf.stepRequest datastore step, none⟩)).connections =
      demands.foldl (fun held d => d.hold (ends d) held) held.connections := by
  rw [held.replay_of_taken]
  induction demands generalizing held with
  | nil => rfl
  | cons d demands ih =>
    rw [List.flatMap_cons, Holdings.carry_append, ih, connections_carry, List.foldl_cons]

/-- Rules that ask for connections of different names are applied and released in one order as in
    another, if there is room for all that are applied and all edits are taken. What is remembered
    is under its own name, as everything is that a node has come to remember (`kept_sound`). -/
theorem served_perm (r : Roadm) (cache : Option ConnectionCache)
    (session : Option Netconf.Recorder) (held : Holdings) (demands others : List Demand)
    (keyed : (cache.getD .empty).All fun name c => c.name = name)
    (independent : Independent r demands)
    (room : (cache.getD .empty).size + demands.countP applies ≤ r.config.maxConnections.toNat)
    (reordered : demands.Perm others) :
    let s := State.through cache session
    (∀ e ∈ sent r s demands, e.taken) → (∀ e ∈ sent r s others, e.taken) →
      (answers r s demands).Perm (answers r s others) ∧
        (served r s demands).connections = (served r s others).connections ∧
        (held.replay (sent r s demands)).connections =
          (held.replay (sent r s others)).connections := by
  intro s taken taken'
  have independent' : Independent r others :=
    ⟨fun d member => independent.built d (reordered.mem_iff.2 member),
      (reordered.map _).nodup_iff.1 independent.apart⟩
  have first := meetAll keyed independent (fun _ _ _ _ => rfl) room taken
  have second := meetAll keyed independent' (fun _ _ _ _ => rfl)
    (reordered.countP_eq applies ▸ room) taken'
  refine ⟨?_, ?_, ?_⟩
  · rw [first.answers_eq, second.answers_eq]
    exact reordered.map _
  · -- what each demand comes to is the same in both orders, so that only their changes commute
    rw [first.connections_eq, second.connections_eq]
    exact reordered.foldl_eq' (independent.comm fun _ _ _ planned_eq =>
      changesAt_keep keyed planned_eq _) _
  · rw [first.sent_eq, second.sent_eq, connections_replay, connections_replay]
    exact reordered.foldl_eq' (independent.comm fun _ _ _ planned_eq =>
      changesAt_hold keyed planned_eq _) _

/-- Of three rules one is applied, one is released, and the connection of the third is not known. -/
theorem served_perm_of_three :
    let before := Standing.run sample [.sample (.apply (Sample.crossConnect ⟨401⟩ ⟨303⟩ 0)) {}]
    let s := State.through before.cache (some {})
    let demands : List Demand :=
      [.apply (Sample.crossConnect ⟨401⟩ ⟨302⟩ 0), .release (Sample.crossConnect ⟨401⟩ ⟨303⟩ 0),
        .release (Sample.crossConnect ⟨401⟩ ⟨302⟩ 1)]
    Independent sample demands ∧
      (before.cache.getD .empty).size + demands.countP applies ≤
        sample.config.maxConnections.toNat ∧
      (∀ e ∈ sent sample s demands, e.taken) ∧ (∀ e ∈ sent sample s demands.reverse, e.taken) ∧
      (answers sample s demands).map (·.2.isOk) = [true, true, false] ∧
      (answers sample s demands).Perm (answers sample s demands.reverse) ∧
      (served sample s demands).connections = (served sample s demands.reverse).connections ∧
      (before.held.replay (sent sample s demands)).connections =
        (before.held.replay (sent sample s demands.reverse)).connections := by
  intro before s demands
  have independent : Independent sample demands := by decide +kernel
  have room : (before.cache.getD .empty).size + demands.countP applies ≤
      sample.config.maxConnections.toNat := by decide +kernel
  have taken : ∀ e ∈ sent sample s demands, e.taken := by decide +kernel
  have taken' : ∀ e ∈ sent sample s demands.reverse, e.taken := by decide +kernel
  have sound : before.connections.Sound :=
    Standing.kept_run (fun ports => kept_sound { sample with ports }) _
  refine ⟨independent, room, taken, taken', by decide +kernel, ?_⟩
  exact served_perm sample before.cache (some {}) before.held demands demands.reverse
    (fun name c found => (sound name c found).1) independent room (List.reverse_perm demands).symm
    taken taken'

end Demand

end Roadm

end Lightpath
