import Lightpath.Circuit.Audit
import Lightpath.Proofs.Circuit.Shape
import Lightpath.Proofs.Roadm.Power

/-!
# What a device holds

The connections and interfaces of a device follow from the edits that it has taken. A node without
an operation is merged into what the device holds under its name, a node with the operation
`delete` takes that away.
-/

namespace Lightpath

/-- The connections and the interfaces of a device, by their names, with their leaves. -/
structure Holdings where
  connections : Table (Table Document) := .empty
  interfaces : Table (Table Document) := .empty
deriving Inhabited

namespace Holdings

/-- The leaves of a node laid over those that are there. -/
def overlay (leaves : Table Document) : Document → Table Document
  | .object members => members.foldr (fun e leaves => leaves.insert e.1 e.2) leaves
  | _ => leaves

/-- What the device holds after a node that is named by a member of it. -/
def mergeNode (nameKey : String) (held : Table (Table Document)) (node : Document) :
    Table (Table Document) :=
  match (node.member? nameKey).bind Document.text? with
  | none => held
  | some name =>
    if CircuitAudit.isDeletion node then held.erase name
    else held.insert name (overlay ((held.get? name).getD .empty) node)

/-- What the device holds after the nodes that a document has under a member of the device. -/
def mergeBody (nameKey : String) (held : Table (Table Document)) (body : Option Document) :
    Table (Table Document) :=
  ((body.map Document.nodes).getD []).foldl (mergeNode nameKey) held

/-- What the device holds after a document. -/
def edit (h : Holdings) (doc : Document) : Holdings where
  connections := mergeBody CircuitEdit.connectionNameKey h.connections
    (CircuitAudit.body? doc CircuitEdit.connectionsKey)
  interfaces := mergeBody "name" h.interfaces (CircuitAudit.body? doc CircuitEdit.interfaceKey)

/-- What the device holds after a request. -/
def request (h : Holdings) : Netconf.Request → Holdings
  | .editConfig _ _ body => h.edit body
  | _ => h

/-- What the device holds after exchanges; what it has not taken changes nothing. -/
def replay (h : Holdings) (sent : List Netconf.Exchange) : Holdings :=
  sent.foldl (fun h e => if e.taken then h.request e.request else h) h

/-- The power that the device holds for a connection. -/
def power? (h : Holdings) (name : String) : Option Document :=
  (h.connections.get? name).bind (·.get? CircuitEdit.powerKey)

variable (h : Holdings)

theorem get?_overlay (leaves : Table Document) (node : Document) (key : String) :
    (overlay leaves node).get? key = (node.member? key).or (leaves.get? key) := by
  cases node with
  | object members =>
    rw [overlay, Document.member?]
    induction members with
    | nil => rfl
    | cons e members ih =>
      rw [List.foldr_cons, Table.get?_insert, ih, Table.lookup]
      split <;> rfl
  | _ => rfl

theorem body?_device (key other : String) (body : Document) :
    CircuitAudit.body? (CircuitEdit.device key body) other =
      if key = other then some body else none := by
  rw [CircuitAudit.body?, CircuitEdit.device]
  by_cases same : key = other
  · subst same
    simp [Document.atKeys?, Document.member?, Table.lookup]
  · simp [Document.atKeys?, Document.member?, Table.lookup, same]

/-- A document about connections leaves the interfaces alone. -/
theorem edit_connections (body : Document) :
    h.edit (CircuitEdit.device CircuitEdit.connectionsKey body) =
      { h with connections :=
          body.nodes.foldl (mergeNode CircuitEdit.connectionNameKey) h.connections } := by
  rw [edit, body?_device, body?_device, if_pos rfl, if_neg (by decide)]
  rfl

/-- A document about interfaces leaves the connections alone. -/
theorem edit_interfaces (body : Document) :
    h.edit (CircuitEdit.device CircuitEdit.interfaceKey body) =
      { h with interfaces := body.nodes.foldl (mergeNode "name") h.interfaces } := by
  rw [edit, body?_device, body?_device, if_neg (by decide), if_pos rfl]
  rfl

/-- A node is merged under its name. -/
theorem mergeNode_of_named {nameKey name : String} {held : Table (Table Document)}
    {node : Document} (named : (node.member? nameKey).bind Document.text? = some name)
    (stays : CircuitAudit.isDeletion node = false) :
    mergeNode nameKey held node =
      held.insert name (overlay ((held.get? name).getD .empty) node) := by
  rw [mergeNode, named]
  simp only [stays, Bool.false_eq_true, if_false]

/-- A node with the operation `delete` is taken away. -/
theorem mergeNode_of_deletion {nameKey name : String} {held : Table (Table Document)}
    {node : Document} (named : (node.member? nameKey).bind Document.text? = some name)
    (leaves : CircuitAudit.isDeletion node = true) :
    mergeNode nameKey held node = held.erase name := by
  rw [mergeNode, named]
  simp only [leaves, if_true]

/-- Nodes without an operation add their names to what is held. -/
theorem isSome_get?_foldl_mergeNode {α : Type} {nameKey : String} (node : α → Document)
    (nameOf : α → String)
    (named : ∀ x, ((node x).member? nameKey).bind Document.text? = some (nameOf x))
    (stays : ∀ x, CircuitAudit.isDeletion (node x) = false) (held : Table (Table Document))
    (xs : List α) (name : String) :
    (((xs.map node).foldl (mergeNode nameKey) held).get? name).isSome ↔
      (held.get? name).isSome ∨ name ∈ xs.map nameOf := by
  induction xs generalizing held with
  | nil => simp
  | cons x xs ih =>
    rw [List.map_cons, List.foldl_cons, ih, mergeNode_of_named (named x) (stays x),
      Table.isSome_get?_insert, List.map_cons, List.mem_cons, or_assoc, or_left_comm,
      eq_comm (a := name)]

/-- Nodes with the operation `delete` take their names away from what is held. -/
theorem get?_foldl_mergeNode_deletions {nameKey : String} (node : String → Document)
    (named : ∀ name, ((node name).member? nameKey).bind Document.text? = some name)
    (leaves : ∀ name, CircuitAudit.isDeletion (node name) = true) (held : Table (Table Document))
    (names : List String) (name : String) :
    ((names.map node).foldl (mergeNode nameKey) held).get? name =
      if name ∈ names then none else held.get? name := by
  induction names generalizing held with
  | nil => simp
  | cons first names ih =>
    rw [List.map_cons, List.foldl_cons, ih, mergeNode_of_deletion (named first) (leaves first),
      Table.get?_erase]
    by_cases same : first = name
    · simp [same]
    · simp [same, Ne.symm same]

/-- What the device holds after steps that it has all taken. -/
def carry (steps : List CircuitEdit.Step) : Holdings := steps.foldl (fun h step => h.edit step.body) h

theorem carry_append (first second : List CircuitEdit.Step) :
    h.carry (first ++ second) = (h.carry first).carry second :=
  List.foldl_append

/-- Steps that are all taken have been carried out by the device. -/
theorem replay_of_taken (datastore : Datastore) (steps : List CircuitEdit.Step) :
    h.replay (steps.map fun step => ⟨Netconf.stepRequest datastore step, none⟩) = h.carry steps := by
  rw [replay, List.foldl_map]
  rfl

/-- Work that is done has been carried out by the device. -/
theorem replay_attempt_of_verdict {r : Netconf.Recorder} {count : Nat}
    {steps : List CircuitEdit.Step} (datastore : Datastore) (done : r.verdict count steps = .ok ()) :
    h.replay (r.attempt datastore count steps) = h.carry steps := by
  rw [r.attempt_of_verdict datastore count done, replay_of_taken]

/-- Requests that leave the connections as they are do so one after the other. -/
theorem connections_replay_of_idle {sent : List Netconf.Exchange}
    (idle : ∀ e ∈ sent, ∀ other : Holdings, other.connections = h.connections →
      (other.request e.request).connections = h.connections) :
    (h.replay sent).connections = h.connections := by
  refine List.foldlRecOn (motive := fun other : Holdings => other.connections = h.connections)
    sent _ rfl ?_
  intro other same e member
  split
  · exact idle e member other same
  · exact same

/-- A node that names a connection and tells its power. -/
structure Powers (node : Document) (name : String) (power : Document) : Prop where
  named : (node.member? CircuitEdit.connectionNameKey).bind Document.text? = some name
  stays : CircuitAudit.isDeletion node = false
  powered : node.member? CircuitEdit.powerKey = some power

section Powers

variable {h} {members : List (String × Document)} {name : String} {power : Document}

theorem isSome_connections_edit_of_powers (powers : Powers (.object members) name power)
    (key : String) :
    ((h.edit (CircuitEdit.device CircuitEdit.connectionsKey (.object members))).connections.get?
      key).isSome ↔ name = key ∨ (h.connections.get? key).isSome := by
  rw [edit_connections, Document.nodes, List.foldl_cons, List.foldl_nil,
    mergeNode_of_named powers.named powers.stays]
  exact Table.isSome_get?_insert ..

theorem power?_edit_of_powers (powers : Powers (.object members) name power) (key : String) :
    (h.edit (CircuitEdit.device CircuitEdit.connectionsKey (.object members))).power? key =
      if name = key then some power else h.power? key := by
  rw [edit_connections, power?, power?, Document.nodes, List.foldl_cons, List.foldl_nil,
    mergeNode_of_named powers.named powers.stays, Table.get?_insert]
  split
  · rw [Option.bind_some, get?_overlay, powers.powered, Option.some_or]
  · rfl

end Powers

theorem powers_creation (c : Connection) :
    ∃ members, CircuitEdit.createConnection c =
        CircuitEdit.device CircuitEdit.connectionsKey (.object members) ∧
      Powers (.object members) c.name (.number c.targetOutputPower) :=
  ⟨_, rfl, rfl, rfl, rfl⟩

theorem powers_setPower (name : String) (dbm : Float) :
    ∃ members, CircuitEdit.setPower name dbm =
        CircuitEdit.device CircuitEdit.connectionsKey (.object members) ∧
      Powers (.object members) name (.number dbm) :=
  ⟨_, rfl, rfl, rfl, rfl⟩

theorem carry_creation (c : Connection) :
    h.carry (CircuitEdit.creation c) =
      ((h.edit (CircuitEdit.createMedias c)).edit (CircuitEdit.createNetworks c)).edit
        (CircuitEdit.createConnection c) := rfl

theorem isSome_connections_carry_creation (c : Connection) (name : String) :
    ((h.carry (CircuitEdit.creation c)).connections.get? name).isSome ↔
      c.name = name ∨ (h.connections.get? name).isSome := by
  obtain ⟨members, made, powers⟩ := powers_creation c
  rw [carry_creation, made, isSome_connections_edit_of_powers powers, CircuitEdit.createMedias,
    CircuitEdit.createNetworks, edit_interfaces, edit_interfaces]

theorem power?_carry_creation (c : Connection) (name : String) :
    (h.carry (CircuitEdit.creation c)).power? name =
      if c.name = name then some (.number c.targetOutputPower) else h.power? name := by
  obtain ⟨members, made, powers⟩ := powers_creation c
  rw [carry_creation, made, power?_edit_of_powers powers, CircuitEdit.createMedias,
    CircuitEdit.createNetworks, edit_interfaces, edit_interfaces]
  rfl

theorem named_networkInterface (n : NetworkMediaChannel) :
    ((CircuitEdit.networkInterface n).member? "name").bind Document.text? = some n.name := by
  unfold CircuitEdit.networkInterface
  cases n.support <;> rfl

theorem isDeletion_networkInterface (n : NetworkMediaChannel) :
    CircuitAudit.isDeletion (CircuitEdit.networkInterface n) = false := by
  unfold CircuitEdit.networkInterface
  cases n.support <;> rfl

/-- Making a connection makes its media channels and then its network media channels. -/
theorem interfaces_carry_creation (c : Connection) :
    (h.carry (CircuitEdit.creation c)).interfaces =
      ([c.sourceNetwork, c.destinationNetwork].map CircuitEdit.networkInterface).foldl
        (mergeNode "name")
        ((c.medias.map CircuitEdit.mediaInterface).foldl (mergeNode "name") h.interfaces) := by
  rw [carry_creation, CircuitEdit.createConnection, CircuitEdit.createNetworks,
    CircuitEdit.createMedias, edit_connections, edit_interfaces, edit_interfaces]
  rfl

/-- Making a connection adds its channels to the interfaces. -/
theorem isSome_interfaces_carry_creation (c : Connection) (name : String) :
    ((h.carry (CircuitEdit.creation c)).interfaces.get? name).isSome ↔
      (h.interfaces.get? name).isSome ∨ name ∈ c.names.networks ++ c.medias.map (·.name) := by
  rw [interfaces_carry_creation,
    isSome_get?_foldl_mergeNode _ (·.name) named_networkInterface isDeletion_networkInterface,
    isSome_get?_foldl_mergeNode _ (·.name) (fun _ => rfl) (fun _ => rfl), List.mem_append, or_assoc,
    or_comm (a := name ∈ c.medias.map _)]
  rfl

theorem isSome_connections_carry_powerStep (name : String) (dbm : Float) (key : String) :
    ((h.carry [Roadm.powerStep name dbm]).connections.get? key).isSome ↔
      name = key ∨ (h.connections.get? key).isSome := by
  obtain ⟨members, made, powers⟩ := powers_setPower name dbm
  rw [carry, List.foldl_cons, List.foldl_nil, Roadm.powerStep, made]
  exact isSome_connections_edit_of_powers powers key

theorem power?_carry_powerStep (name : String) (dbm : Float) (key : String) :
    (h.carry [Roadm.powerStep name dbm]).power? key =
      if name = key then some (.number dbm) else h.power? key := by
  obtain ⟨members, made, powers⟩ := powers_setPower name dbm
  rw [carry, List.foldl_cons, List.foldl_nil, Roadm.powerStep, made]
  exact power?_edit_of_powers powers key

/-- A node with the operation `delete` and a name. -/
def deletionNode (name : String) : Document :=
  .object [(CircuitEdit.operationKey, .text CircuitEdit.deleteOperation), ("name", .text name)]

theorem edit_deleteConnection (name : String) :
    h.edit (CircuitEdit.deleteConnection name) =
      { h with connections := h.connections.erase name } := by
  have erased : mergeNode CircuitEdit.connectionNameKey h.connections
      (.object [(CircuitEdit.operationKey, .text CircuitEdit.deleteOperation),
        (CircuitEdit.connectionNameKey, .text name)]) = h.connections.erase name :=
    mergeNode_of_deletion rfl rfl
  rw [CircuitEdit.deleteConnection, edit_connections, Document.nodes, List.foldl_cons,
    List.foldl_nil, erased]

theorem edit_deleteInterfaces (names : List String) :
    h.edit (CircuitEdit.deleteInterfaces names) =
      { h with interfaces := (names.map deletionNode).foldl (mergeNode "name") h.interfaces } :=
  h.edit_interfaces _

theorem carry_clearance (networks medias : List String) :
    h.carry (CircuitEdit.clearance networks medias) =
      { h with interfaces :=
          ((networks ++ medias).map deletionNode).foldl (mergeNode "name") h.interfaces } := by
  rw [CircuitEdit.clearance, CircuitEdit.deletionSteps]
  cases medias with
  | nil =>
    rw [List.append_nil]
    exact h.edit_deleteInterfaces networks
  | cons media medias =>
    simp only [List.isEmpty_cons, Bool.false_eq_true, if_false, carry, List.foldl_cons,
      List.foldl_nil, edit_deleteInterfaces, List.map_append, List.foldl_append]

theorem carry_withdrawal (name : String) (networks medias : List String) :
    h.carry (CircuitEdit.withdrawal name networks medias) =
      { connections := h.connections.erase name
        interfaces :=
          ((networks ++ medias).map deletionNode).foldl (mergeNode "name") h.interfaces } := by
  change (h.edit (CircuitEdit.deleteConnection name)).carry _ = _
  rw [carry_clearance, edit_deleteConnection]

/-- Taking a connection away takes the names of its channels from the interfaces. -/
theorem get?_interfaces_carry_withdrawal (name : String) (networks medias : List String)
    (key : String) :
    (h.carry (CircuitEdit.withdrawal name networks medias)).interfaces.get? key =
      if key ∈ networks ++ medias then none else h.interfaces.get? key := by
  rw [carry_withdrawal]
  exact get?_foldl_mergeNode_deletions deletionNode (fun _ => rfl) (fun _ => rfl) _ _ _

/-- No step that takes a connection away changes the connections if the device does not hold it. -/
theorem connections_edit_of_mem_withdrawal {name : String} {networks medias : List String}
    {step : CircuitEdit.Step} (planned : step ∈ CircuitEdit.withdrawal name networks medias)
    (missing : h.connections.get? name = none) :
    (h.edit step.body).connections = h.connections := by
  rcases List.mem_cons.1 planned with rfl | below
  · rw [CircuitEdit.deletion, edit_deleteConnection]
    exact Table.erase_of_missing _ missing
  · obtain ⟨names, made⟩ : ∃ names, step.body = CircuitEdit.deleteInterfaces names := by
      rcases List.mem_cons.1 below with rfl | last
      · exact ⟨_, rfl⟩
      · rw [CircuitEdit.deletionSteps] at last
        split at last
        · exact absurd last List.not_mem_nil
        · exact ⟨_, by rw [List.mem_singleton.1 last]⟩
    rw [made, edit_deleteInterfaces]

end Holdings

end Lightpath
