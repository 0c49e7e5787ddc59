import Lightpath.Proofs.Circuit.Documents
import Lightpath.Proofs.Circuit.Holdings

/-!
# The documents of a circuit read back

The documents that make a circuit tell all of it: the interfaces they list are those of the circuit,
each with its place, its support and its frequencies, the connection is between its two ends, and
nothing is taken away, whatever the labels of the ports say. The documents that take something away
tell the names of it and no others.
-/

namespace Lightpath

namespace CircuitAudit

open CircuitEdit (device operationKey interfaceKey root)

theorem lookup_eq_none_of_underMembers {key : String} {members : List (String × Document)}
    (silent : Document.underMembers key members = []) : Table.lookup key members = none := by
  induction members with
  | nil => rfl
  | cons member members ih =>
    obtain ⟨name, value⟩ := member
    rw [Document.underMembers_cons, List.append_eq_nil_iff, List.append_eq_nil_iff] at silent
    have other : name ≠ key := by
      intro same
      simp [same] at silent
    rw [Table.lookup, if_neg other]
    exact ih silent.2.2

mutual

/-- A document that nowhere names an operation takes nothing away. -/
theorem deletedNames_eq_nil : (doc : Document) → doc.under operationKey = [] → deletedNames doc = []
  | .list items, silent => deletedInItems_eq_nil items silent
  | .object members, silent => by
    have stays : isDeletion (.object members) = false := by
      rw [isDeletion, Document.member?, lookup_eq_none_of_underMembers silent]
      rfl
    rw [deletedNames, deletedName?, stays]
    exact deletedInMembers_eq_nil members silent
  | .null, _ => rfl
  | .bool _, _ => rfl
  | .int _, _ => rfl
  | .float _, _ => rfl
  | .text _, _ => rfl

theorem deletedInItems_eq_nil :
    (items : List Document) → Document.underItems operationKey items = [] →
      deletedInItems items = []
  | [], _ => rfl
  | item :: items, silent => by
    rw [Document.underItems_cons, List.append_eq_nil_iff] at silent
    rw [deletedInItems, deletedNames_eq_nil item silent.1, deletedInItems_eq_nil items silent.2]
    rfl

theorem deletedInMembers_eq_nil :
    (members : List (String × Document)) → Document.underMembers operationKey members = [] →
      deletedInMembers members = []
  | [], _ => rfl
  | (_, value) :: members, silent => by
    rw [Document.underMembers_cons, List.append_eq_nil_iff, List.append_eq_nil_iff] at silent
    rw [deletedInMembers, deletedNames_eq_nil value silent.2.1,
      deletedInMembers_eq_nil members silent.2.2]
    rfl

end

/-- What is taken away by a document about a member of the device. -/
theorem deletedNames_device {key : String} (plain : key ≠ operationKey) (body : Document) :
    deletedNames (device key body) = deletedNames body := by
  have outer : isDeletion (device key body) = false := rfl
  have inner : isDeletion (.object [(key, body)]) = false := by
    simp [isDeletion, Document.member?, Table.lookup, plain]
  rw [device] at outer ⊢
  simp [deletedNames, deletedName?, deletedInMembers, outer, inner]

theorem deletedNames_deleteConnection (name : String) :
    deletedNames (CircuitEdit.deleteConnection name) = [name] := by
  rw [CircuitEdit.deleteConnection, deletedNames_device (by decide)]
  rfl

theorem deletedNames_deleteInterfaces (names : List String) :
    deletedNames (CircuitEdit.deleteInterfaces names) = names := by
  rw [CircuitEdit.deleteInterfaces, deletedNames_device (by decide), deletedNames]
  induction names with
  | nil => rfl
  | cons name names ih =>
    rw [List.map_cons, deletedInItems, ih]
    rfl

/-- The interfaces made are those whose nodes are listed, if none of these is to be taken away. -/
theorem createdInterfaces_device {α : Type} (node : α → Document) (name : α → String)
    (named : ∀ x, ((node x).member? "name").bind Document.text? = some (name x))
    (stays : ∀ x, isDeletion (node x) = false) (xs : List α) :
    createdInterfaces (device interfaceKey (.list (xs.map node))) = xs.map name := by
  have body : body? (device interfaceKey (.list (xs.map node))) interfaceKey =
      some (.list (xs.map node)) := rfl
  rw [createdInterfaces, body]
  simp [Document.nodes, stays, List.filter_map, List.filterMap_map, Function.comp_def, named]

end CircuitAudit

/-- An interface as a node tells it: its name, its place, and what supports it, if there is such. -/
structure Document.Interface (node : Document) (name circuitPack port : String)
    (support : Option String) : Prop where
  name_eq : node.leafAt? "name" = some name
  circuitPack_eq : node.leafAt? "supporting-circuit-pack-name" = some circuitPack
  port_eq : node.leafAt? "supporting-port" = some port
  support_eq : node.at? "supporting-interface" = support.map .text

/-- A node tells all of a media channel. -/
structure MediaChannel.ToldBy (m : MediaChannel) (node : Document) : Prop where
  interface : node.Interface m.name m.circuitPack m.port (some m.support)
  min_eq : (node.leafAt? "mc-ttp.min-freq").map (Frequency.read .terahertz) =
    some (.ok m.window.min)
  max_eq : (node.leafAt? "mc-ttp.max-freq").map (Frequency.read .terahertz) =
    some (.ok m.window.max)

/-- A node tells all of a network media channel. -/
structure NetworkMediaChannel.ToldBy (n : NetworkMediaChannel) (node : Document) : Prop where
  interface : node.Interface n.name n.circuitPack n.port n.support
  center_eq : (node.leafAt? "nmc-ctp.frequency").map (Frequency.read .terahertz) =
    some (.ok n.center)
  width_eq : (node.leafAt? "nmc-ctp.width").map (Frequency.read .gigahertz) = some (.ok n.width)

namespace Connection

open CircuitAudit CircuitEdit

/-- The documents that make a connection tell all of it, and nothing else. -/
structure Told (c : Connection) : Prop where
  medias_listed : createdInterfaces (createMedias c) =
    c.sourceMedia.toList.map (·.name) ++ c.destinationMedia.toList.map (·.name)
  medias_told : List.Forall₂ MediaChannel.ToldBy
    (c.sourceMedia.toList ++ c.destinationMedia.toList)
    ((createMedias c).nodesAt "org-openroadm-device.interface")
  networks_listed : createdInterfaces (createNetworks c) =
    [c.sourceNetwork.name, c.destinationNetwork.name]
  networks_told : List.Forall₂ NetworkMediaChannel.ToldBy [c.sourceNetwork, c.destinationNetwork]
    ((createNetworks c).nodesAt "org-openroadm-device.interface")
  /-- A network media channel is supported by the media channel at its side, and by nothing on the
      side of a client. -/
  support_eq : ∀ side, (c.network side).support = (c.media side).map (·.name)
  media_isSome : ∀ side, (c.media side).isSome = c.linkType.isLineSide side
  connection_listed : createdConnection? (createConnection c) = some c.name
  source_eq : (createConnection c).leafAt? "org-openroadm-device.roadm-connections.source.src-if" =
    some c.sourceNetwork.name
  destination_eq :
    (createConnection c).leafAt? "org-openroadm-device.roadm-connections.destination.dst-if" =
      some c.destinationNetwork.name
  no_deletions : hasDeletions [createMedias c, createNetworks c, createConnection c] = false

theorem toldBy_mediaInterface (m : MediaChannel) : m.ToldBy (mediaInterface m) where
  interface := ⟨rfl, rfl, rfl, rfl⟩
  min_eq := congrArg some (m.window.min.read_write .terahertz)
  max_eq := congrArg some (m.window.max.read_write .terahertz)

theorem toldBy_networkInterface (n : NetworkMediaChannel) : n.ToldBy (networkInterface n) := by
  obtain ⟨name, circuitPack, port, support, center, width⟩ := n
  have center_eq := congrArg some (center.read_write .terahertz)
  have width_eq := congrArg some (width.read_write .gigahertz)
  cases support with
  | none => exact ⟨⟨rfl, rfl, rfl, rfl⟩, center_eq, width_eq⟩
  | some support => exact ⟨⟨rfl, rfl, rfl, rfl⟩, center_eq, width_eq⟩

theorem not_hasDeletions_creation (c : Connection) :
    hasDeletions [createMedias c, createNetworks c, createConnection c] = false := by
  have medias : deletedNames (createMedias c) = [] := by
    refine deletedNames_eq_nil _ ?_
    rw [createMedias, under_device (by decide) (by decide)]
    simp [Document.underItems_map, mediaInterface, operationKey]
  have networks : deletedNames (createNetworks c) = [] := by
    have silent (n : NetworkMediaChannel) : (networkInterface n).under operationKey = [] := by
      cases laid : n.support <;> simp [networkInterface, laid, operationKey]
    refine deletedNames_eq_nil _ ?_
    rw [createNetworks, under_device (by decide) (by decide)]
    simp [silent]
  have connection : deletedNames (createConnection c) = [] := by
    refine deletedNames_eq_nil _ ?_
    rw [createConnection, under_device (by decide) (by decide)]
    simp [operationKey, connectionNameKey, powerKey]
  simp [hasDeletions, medias, networks, connection]

/-- Nodes that are listed for some things tell of them one by one. -/
theorem forall₂_map {α β : Type} {R : α → β → Prop} {f : α → β} (tells : ∀ x, R x (f x))
    (xs : List α) : List.Forall₂ R xs (xs.map f) := by
  induction xs with
  | nil => exact .nil
  | cons x xs ih => exact .cons (tells x) ih

theorem told_of_shaped {c : Connection} (shaped : c.Shaped)
    (support_eq : ∀ side, (c.network side).support = (c.media side).map (·.name)) : c.Told where
  medias_listed := by
    rw [createMedias, createdInterfaces_device mediaInterface (·.name) (fun _ => rfl) fun _ => rfl,
      shaped.medias_eq, List.map_append]
  medias_told := by
    rw [← shaped.medias_eq]
    exact forall₂_map toldBy_mediaInterface c.medias
  networks_listed := createdInterfaces_device networkInterface (·.name)
    Holdings.named_networkInterface Holdings.isDeletion_networkInterface _
  networks_told := forall₂_map toldBy_networkInterface _
  support_eq := support_eq
  media_isSome := shaped.media_isSome
  connection_listed := rfl
  source_eq := rfl
  destination_eq := rfl
  no_deletions := not_hasDeletions_creation c

variable {xc : CrossConnect} {sourcePort destinationPort : Port} {config : Config} {c : Connection}

/-- The documents of every connection that is built tell all of it, and the documents that take
    something away tell what they are made for. -/
theorem told_build (built : build xc sourcePort destinationPort config = .ok c) :
    c.Told ∧ (∀ names, deletedNames (deleteInterfaces names) = names) ∧
      ∀ name, deletedNames (deleteConnection name) = [name] := by
  refine ⟨told_of_shaped (shaped_build built) fun side => ?_, deletedNames_deleteInterfaces,
    deletedNames_deleteConnection⟩
  obtain ⟨-, source, destination, -, -, rfl⟩ := build_eq_ok_iff.1 built
  cases side <;> rfl

/-- A channel that is added at a client port whose labels are the words of a deletion. -/
theorem told_build_of_deleting_labels :
    let xc : CrossConnect :=
      ⟨Sample.crossConnect ⟨101⟩ ⟨302⟩ 4, .add, ⟨101⟩, ⟨302⟩, .dwdm .ghz50 4⟩
    ∃ c, build xc (Sample.port 101 operationKey deleteOperation "1-1")
        (Sample.port 302 "DEG2-TTP-TX" "2/0" "ext-tx2") {} = .ok c ∧
      c.sourceNetwork.circuitPack = deleteOperation ∧ c.sourceMedia.isSome = false ∧
        c.destinationMedia.isSome = true ∧
        (c.Told ∧ (∀ names, deletedNames (deleteInterfaces names) = names) ∧
          ∀ name, deletedNames (deleteConnection name) = [name]) := by
  intro xc
  have supported : Channel.around xc.channel.center xc.channel.width = .ok xc.channel :=
    Channel.around_dwdm (.inl rfl) (by decide)
  have built := build_joining {} supported
    (Sample.ofPort_port 101 operationKey deleteOperation "1-1")
    (Sample.ofPort_port 302 "DEG2-TTP-TX" "2/0" "ext-tx2")
  exact ⟨_, built, rfl, rfl, rfl, told_build built⟩

end Connection

end Lightpath
