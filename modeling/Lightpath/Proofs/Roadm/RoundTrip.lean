import Lightpath.Proofs.Roadm.Mirror
import Lightpath.Proofs.Roadm.Planned

/-!
# A connection made and taken away again

A rule that is applied and released, with all edits taken, leaves nothing of its connection,
whatever the device held before. In between the device holds the connection and its channels with
all their leaves, laid over what may have been left there. Everything of another name stays as it
was.
-/

namespace Lightpath

namespace Holdings

/-- All members of a node are among the leaves. -/
def Shows (leaves : Table Document) (node : Document) : Prop :=
  ∀ key value, node.member? key = some value → leaves.get? key = some value

/-- The name that a node tells by a member. -/
def named? (nameKey : String) (node : Document) : Option String :=
  (node.member? nameKey).bind Document.text?

/-- The interfaces of a connection as they are made, from below. -/
def interfaceNodes (c : Connection) : List Document :=
  c.medias.map CircuitEdit.mediaInterface ++
    [c.sourceNetwork, c.destinationNetwork].map CircuitEdit.networkInterface

/-- The device has come to hold a connection and its interfaces, and nothing else. -/
structure Gains (before after : Holdings) (c : Connection) : Prop where
  connection : ∃ node leaves,
    CircuitAudit.body? (CircuitEdit.createConnection c) CircuitEdit.connectionsKey = some node ∧
      after.connections.get? c.name = some leaves ∧ Shows leaves node
  /-- Of several interfaces of one name it is one that shows. -/
  interface : ∀ name ∈ c.interfaces, ∃ node ∈ interfaceNodes c, ∃ leaves,
    named? "name" node = some name ∧ after.interfaces.get? name = some leaves ∧ Shows leaves node
  other_connections : ∀ name, name ≠ c.name →
    after.connections.get? name = before.connections.get? name
  other_interfaces : ∀ name, name ∉ c.interfaces →
    after.interfaces.get? name = before.interfaces.get? name

variable {nameKey name : String} {held : Table (Table Document)} {nodes : List Document}

theorem shows_overlay (leaves : Table Document) (node : Document) :
    Shows (overlay leaves node) node := by
  intro key value member
  rw [get?_overlay, member]
  rfl

theorem get?_mergeNode_of_ne {node : Document} (other : named? nameKey node ≠ some name) :
    (mergeNode nameKey held node).get? name = held.get? name := by
  unfold mergeNode
  split
  · rfl
  · next found said =>
    have different : found ≠ name := by
      intro same
      exact other (same ▸ said)
    split
    · exact Table.get?_erase_of_ne held different
    · exact Table.get?_insert_of_ne held _ different

/-- Nodes of other names leave what is held under a name. -/
theorem get?_foldl_mergeNode_of_ne (others : ∀ node ∈ nodes, named? nameKey node ≠ some name) :
    (nodes.foldl (mergeNode nameKey) held).get? name = held.get? name := by
  induction nodes generalizing held with
  | nil => rfl
  | cons node nodes ih =>
    rw [List.foldl_cons, ih fun other member => others other (List.mem_cons_of_mem _ member)]
    exact get?_mergeNode_of_ne (others node List.mem_cons_self)

/-- What is held under a name shows the last node that has it. -/
theorem shows_foldl_mergeNode (stays : ∀ node ∈ nodes, CircuitAudit.isDeletion node = false)
    (named : ∃ node ∈ nodes, named? nameKey node = some name) :
    ∃ node ∈ nodes, ∃ leaves, named? nameKey node = some name ∧
      (nodes.foldl (mergeNode nameKey) held).get? name = some leaves ∧ Shows leaves node := by
  induction nodes using List.reverseRecOn with
  | nil =>
    obtain ⟨node, member, -⟩ := named
    exact absurd member List.not_mem_nil
  | append_singleton front last ih =>
    rw [List.foldl_append, List.foldl_cons, List.foldl_nil]
    by_cases said : named? nameKey last = some name
    · rw [mergeNode_of_named said (stays last (by simp)), Table.get?_insert_self]
      exact ⟨last, by simp, _, said, rfl, shows_overlay _ last⟩
    · have earlier : ∃ node ∈ front, named? nameKey node = some name := by
        obtain ⟨node, member, told⟩ := named
        rcases List.mem_append.1 member with before | same
        · exact ⟨node, before, told⟩
        · rw [List.mem_singleton.1 same] at told
          exact absurd told said
      have kept : ∀ node ∈ front, CircuitAudit.isDeletion node = false := by
        intro node member
        exact stays node (List.mem_append_left _ member)
      obtain ⟨node, member, leaves, told, found, shown⟩ := ih kept earlier
      rw [get?_mergeNode_of_ne said]
      exact ⟨node, List.mem_append_left _ member, leaves, told, found, shown⟩

theorem connections_carry_creation (h : Holdings) (c : Connection) :
    ∃ node, CircuitAudit.body? (CircuitEdit.createConnection c) CircuitEdit.connectionsKey =
        some node ∧
      (h.carry (CircuitEdit.creation c)).connections = h.connections.insert c.name
        (overlay ((h.connections.get? c.name).getD .empty) node) := by
  obtain ⟨members, made, powers⟩ := powers_creation c
  refine ⟨.object members, ?_, ?_⟩
  · rw [made, body?_device, if_pos rfl]
  · rw [carry_creation, made, edit_connections, CircuitEdit.createNetworks,
      CircuitEdit.createMedias, edit_interfaces, edit_interfaces]
    exact mergeNode_of_named powers.named powers.stays

/-- The interfaces that are made are those that the connection refers to. -/
theorem exists_interfaceNode_iff {c : Connection} (shaped : c.Shaped) :
    (∃ node ∈ interfaceNodes c, named? "name" node = some name) ↔ name ∈ c.interfaces := by
  have network (n : NetworkMediaChannel) :
      named? "name" (CircuitEdit.networkInterface n) = some n.name := named_networkInterface n
  have media (m : MediaChannel) : named? "name" (CircuitEdit.mediaInterface m) = some m.name := rfl
  rw [Connection.interfaces, ← shaped.map_name_medias, interfaceNodes]
  simp [network, media, CircuitNames.networks, Connection.names, or_and_right, exists_or, or_comm,
    or_assoc, eq_comm (a := name)]

theorem isDeletion_interfaceNode {c : Connection} {node : Document}
    (member : node ∈ interfaceNodes c) : CircuitAudit.isDeletion node = false := by
  rcases List.mem_append.1 member with media | network
  · obtain ⟨m, -, rfl⟩ := List.mem_map.1 media
    rfl
  · obtain ⟨n, -, rfl⟩ := List.mem_map.1 network
    exact isDeletion_networkInterface n

/-- Making a connection brings it and its interfaces, whatever the device held. -/
theorem gains_carry_creation (h : Holdings) {c : Connection} (shaped : c.Shaped) :
    h.Gains (h.carry (CircuitEdit.creation c)) c := by
  obtain ⟨node, said, made⟩ := h.connections_carry_creation c
  refine ⟨?_, ?_, ?_, ?_⟩
  · rw [made, Table.get?_insert_self]
    exact ⟨node, _, said, rfl, shows_overlay _ node⟩
  · intro name member
    rw [interfaces_carry_creation, ← List.foldl_append]
    exact shows_foldl_mergeNode (fun _ => isDeletion_interfaceNode)
      ((exists_interfaceNode_iff shaped).2 member)
  · intro name other
    rw [made, Table.get?_insert_of_ne _ _ other.symm]
  · intro name other
    rw [interfaces_carry_creation, ← List.foldl_append]
    refine get?_foldl_mergeNode_of_ne fun node member said => ?_
    exact other ((exists_interfaceNode_iff shaped).1 ⟨node, member, said⟩)

end Holdings

namespace Roadm.Standing

/-- A connection is in place, and all else is as it was before. -/
structure InPlace (before after : Standing) (c : Connection) : Prop where
  held : before.held.Gains after.held c
  remembered : ∀ name, after.connections.get? name =
    if name = c.name then some c else before.connections.get? name

/-- Nothing is there of a connection, and all else is as it was before. -/
structure Cleared (before after : Standing) (c : Connection) : Prop where
  connections : ∀ name, after.held.connections.get? name =
    if name = c.name then none else before.held.connections.get? name
  interfaces : ∀ name, after.held.interfaces.get? name =
    if name ∈ c.interfaces then none else before.held.interfaces.get? name
  remembered : ∀ name, after.connections.get? name =
    if name = c.name then none else before.connections.get? name

variable {s : Standing} {conn : Connection}

theorem inPlace_creation (shaped : conn.Shaped) :
    s.InPlace ⟨some (s.connections.add conn), s.held.carry (CircuitEdit.creation conn)⟩ conn := by
  refine ⟨s.held.gains_carry_creation shaped, fun name => ?_⟩
  change (s.connections.add conn).get? name = _
  rw [ConnectionCache.get?_add]
  simp only [eq_comm]

/-- Taking away a connection that is in place leaves what was there before it. -/
theorem InPlace.cleared {made : Standing} (inPlace : s.InPlace made conn) {medias : List String}
    (all : medias = conn.names.medias) :
    s.Cleared ⟨some (Table.erase made.connections conn.name),
      made.held.carry (CircuitEdit.withdrawal conn.name conn.names.networks medias)⟩ conn := by
  obtain ⟨⟨-, -, otherConnections, otherInterfaces⟩, remembered⟩ := inPlace
  subst all
  refine ⟨fun name => ?_, fun name => ?_, fun name => ?_⟩
  · rw [Holdings.carry_withdrawal, Table.get?_erase]
    by_cases same : name = conn.name
    · simp [same]
    · rw [if_neg (Ne.symm same), if_neg same, otherConnections name same]
  · rw [Holdings.get?_interfaces_carry_withdrawal]
    by_cases used : name ∈ conn.interfaces
    · rw [if_pos used]
      exact if_pos used
    · rw [if_neg used, ← otherInterfaces name used]
      exact if_neg used
  · change (Table.erase made.connections conn.name).get? name = _
    rw [Table.get?_erase, remembered]
    by_cases same : name = conn.name
    · simp [same]
    · simp [same, Ne.symm same]

/-- Whatever is remembered below the limit and whatever the device holds: a rule that asks for a
    connection can be applied and then released if all edits are taken. The connection is in place
    in between, and nothing is left of it afterwards. -/
theorem inPlace_then_cleared (r : Roadm) (s : Standing) (ports : List Port)
    (applier releaser : Netconf.Recorder) (rule : FlowRule) (conn : Connection)
    (planned_eq : Roadm.planned { r with ports } rule = .ok conn)
    (room : s.connections.size < r.config.maxConnections.toNat) :
    let applying : Turn := ⟨ports, some applier, .apply rule⟩
    let releasing : Turn := ⟨ports, some releaser, .release rule⟩
    let made := s.after r applying
    (∀ e ∈ s.sent r applying, e.taken) → (∀ e ∈ made.sent r releasing, e.taken) →
      (s.Returns r applying ∧ s.InPlace made conn) ∧
        made.Returns r releasing ∧ s.Cleared (made.after r releasing) conn := by
  intro applying releasing made allMade allGone
  obtain ⟨xc, -, built⟩ := (Roadm.planned_eq_ok_iff _ rule).1 planned_eq
  have shaped : conn.Shaped := shaped_connection built
  have admits : (applying.node r).Admits (s.before applying) rule conn := ⟨planned_eq, room, rfl⟩
  have works := works_apply r s ports (some applier) admits
  have applied : s.Returns r applying := works.returned_iff.2 allMade
  have made_eq : made = ⟨some (s.connections.add conn), s.held.carry (CircuitEdit.creation conn)⟩ :=
    works.after_of_returned applied
  have inPlace : s.InPlace made conn := made_eq ▸ inPlace_creation shaped
  have finds : (releasing.node r).Finds (made.before releasing) rule conn := by
    refine ⟨⟨conn, planned_eq, ?_⟩, rfl⟩
    have known := inPlace.remembered conn.name
    rwa [if_pos rfl] at known
  have undoes := works_release r made ports (some releaser) finds
  have released : made.Returns r releasing := undoes.returned_iff.2 allGone
  refine ⟨⟨applied, inPlace⟩, released, ?_⟩
  rw [undoes.after_of_returned released]
  exact inPlace.cleared shaped.map_name_medias

/-- The connection has failed before at its last step, so that all its interfaces are there already
    when its rule is applied again. -/
theorem inPlace_then_cleared_of_leftovers :
    let rule := Sample.crossConnect ⟨401⟩ ⟨302⟩ 0
    let s := run sample [.sample (.apply rule) { failures := [(3, .rejected)] }]
    let made := s.after sample (.sample (.apply rule) {})
    let gone := made.after sample (.sample (.release rule) {})
    ∃ conn, sample.planned rule = .ok conn ∧
      s.connections.size < sample.config.maxConnections.toNat ∧
      (∀ e ∈ s.sent sample (.sample (.apply rule) {}), e.taken) ∧
      (∀ e ∈ made.sent sample (.sample (.release rule) {}), e.taken) ∧
      (s.held.connections.keys.length, s.held.interfaces.keys.length) = (0, 4) ∧
      s.InPlace made conn ∧ s.Cleared gone conn := by
  intro rule s made gone
  obtain ⟨conn, planned_eq⟩ : ∃ conn, sample.planned rule = .ok conn :=
    exists_of_isOk (by decide +kernel)
  have room : s.connections.size < sample.config.maxConnections.toNat := by decide +kernel
  have allMade : ∀ e ∈ s.sent sample (.sample (.apply rule) {}), e.taken := by decide +kernel
  have allGone : ∀ e ∈ made.sent sample (.sample (.release rule) {}), e.taken := by decide +kernel
  obtain ⟨⟨-, inPlace⟩, -, cleared⟩ := inPlace_then_cleared sample s Sample.ports {} {} rule conn
    planned_eq room allMade allGone
  exact ⟨conn, planned_eq, room, allMade, allGone, by decide +kernel, inPlace, cleared⟩

end Roadm.Standing

end Lightpath
