import Lightpath.Proofs.Circuit.Audit
import Lightpath.Proofs.Circuit.Legible
import Lightpath.Proofs.Roadm.Roles

/-!
# The interfaces of one connection

The channels at the two ends of a connection are named after the labels of two ports, so that a
connection does not make one interface twice as long as the ports are two. A port on a line can be
joined to itself, and then both ends are one interface.
-/

namespace Lightpath

namespace CircuitName

/-- A label that does not begin as the names of channels on a line do. -/
structure Headless (label : String) : Prop where
  no_network : ¬ "NMC-CTP".toList <+: label.toList
  no_media : ¬ "MC-TTP".toList <+: label.toList

instance (label : String) : Decidable (Headless label) :=
  decidable_of_iff (¬ "NMC-CTP".toList <+: label.toList ∧ ¬ "MC-TTP".toList <+: label.toList)
    ⟨fun ⟨no_network, no_media⟩ => ⟨no_network, no_media⟩,
      fun headless => ⟨headless.no_network, headless.no_media⟩⟩

variable {label label' : String} {center : Frequency}

theorem Headless.no_head (headless : Headless label) : ¬ networkHead.toList <+: label.toList := by
  have longer : "NMC-CTP".toList <+: networkHead.toList := by decide
  exact fun head => headless.no_network (longer.trans head)

theorem toList_media (label : String) (center : Frequency) :
    (media label center).toList = (mediaHead.toList ++ label.toList ++ ['-']) ++ center.thz.toList := by
  simp [media, String.toList_append]

/-- The network media channels of two labels are different, with and without a head. -/
theorem network_ne (headless : Headless label) (headless' : Headless label') (other : label ≠ label')
    (onLine onLine' : Bool) : network label center onLine ≠ network label' center onLine' := by
  intro same
  have chars := congrArg String.toList same
  rw [toList_network, toList_network] at chars
  have heads := List.append_cancel_right (List.append_cancel_right chars)
  exact other (headed_inj headless.no_head headless'.no_head heads)

theorem media_ne (other : label ≠ label') : media label center ≠ media label' center := by
  intro same
  have chars := congrArg String.toList same
  rw [toList_media, toList_media] at chars
  have heads := List.append_cancel_right (List.append_cancel_right chars)
  exact other (String.toList_inj.1 (List.append_cancel_left heads))

/-- No network media channel has the name of a media channel. -/
theorem network_ne_media (headless : Headless label) (label' : String) (onLine : Bool) :
    network label center onLine ≠ media label' center := by
  intro same
  have chars := congrArg String.toList same
  rw [toList_network, toList_media] at chars
  have heads := List.append_cancel_right (List.append_cancel_right chars)
  cases onLine with
  | false =>
    -- the label would begin with the head of a media channel
    have longer : "MC-TTP".toList <+: mediaHead.toList := by decide
    exact headless.no_media (longer.trans ⟨label'.toList, heads.symm⟩)
  | true =>
    have first : 'N' = 'M' := (List.cons.inj heads).1
    exact absurd first (by decide)

end CircuitName

namespace Connection

open CircuitAudit (createdInterfaces)

/-- No interface of a connection is made twice, and the connection is between two of them. -/
structure Separate (c : Connection) : Prop where
  interfaces_nodup : c.interfaces.Nodup
  created_nodup : ∀ step ∈ CircuitEdit.creation c, (createdInterfaces step.body).Nodup
  ends_ne :
    (CircuitEdit.createConnection c).leafAt? "org-openroadm-device.roadm-connections.source.src-if" ≠
      (CircuitEdit.createConnection c).leafAt?
        "org-openroadm-device.roadm-connections.destination.dst-if"

variable {c : Connection}

/-- The documents list the interfaces of the connection. -/
theorem Told.separate (told : c.Told) (nodup : c.interfaces.Nodup) : c.Separate := by
  have medias : createdInterfaces (CircuitEdit.createMedias c) = c.names.medias := by
    rw [told.medias_listed, CircuitNames.medias, names]
    cases c.sourceMedia <;> cases c.destinationMedia <;> rfl
  have networks : createdInterfaces (CircuitEdit.createNetworks c) = c.names.networks :=
    told.networks_listed
  obtain ⟨nodup_networks, nodup_medias, -⟩ := List.nodup_append.1 nodup
  refine ⟨nodup, ?_, ?_⟩
  · intro step listed
    simp only [CircuitEdit.creation, List.mem_cons, List.not_mem_nil, or_false] at listed
    rcases listed with rfl | rfl | rfl
    · exact medias ▸ nodup_medias
    · exact networks ▸ nodup_networks
    · -- the last document makes no interface
      exact List.nodup_nil
  · rw [told.source_eq, told.destination_eq]
    intro same
    have first := (List.nodup_cons.1 nodup_networks).1
    exact first (List.mem_singleton.2 (Option.some.inj same))

section Laid

variable {source destination : PortLabels} (laid : c.LaidOn .source source)
  (laid' : c.LaidOn .destination destination)

include laid laid'

theorem mem_names_medias {name : String} (listed : name ∈ c.names.medias) :
    ∃ label, name = CircuitName.media label c.channel.center := by
  rcases List.mem_append.1 listed with there | there
  · obtain ⟨m, carried, rfl⟩ := Option.map_eq_some_iff.1 (Option.mem_toList.1 there)
    exact ⟨_, laid.name_media m carried⟩
  · obtain ⟨m, carried, rfl⟩ := Option.map_eq_some_iff.1 (Option.mem_toList.1 there)
    exact ⟨_, laid'.name_media m carried⟩

theorem nodup_names_medias (other : source.label ≠ destination.label) : c.names.medias.Nodup := by
  have sourceMedia : ∀ m ∈ c.sourceMedia, m.name = _ := laid.name_media
  have destinationMedia : ∀ m ∈ c.destinationMedia, m.name = _ := laid'.name_media
  unfold CircuitNames.medias names
  cases below : c.sourceMedia with
  | none => cases c.destinationMedia <;> simp
  | some m =>
    cases below' : c.destinationMedia with
    | none => simp
    | some m' => simp [sourceMedia m below, destinationMedia m' below', CircuitName.media_ne other]

/-- Ends that are laid on ports of different labels have interfaces of their own. -/
theorem nodup_interfaces (headless : CircuitName.Headless source.label)
    (headless' : CircuitName.Headless destination.label) (other : source.label ≠ destination.label) :
    c.interfaces.Nodup := by
  have sourceName : c.sourceNetwork.name = _ := laid.name_network
  have destinationName : c.destinationNetwork.name = _ := laid'.name_network
  have ends : c.sourceNetwork.name ≠ c.destinationNetwork.name := by
    rw [sourceName, destinationName]
    exact CircuitName.network_ne headless headless' other _ _
  refine List.nodup_append.2 ⟨?_, nodup_names_medias laid laid' other, ?_⟩
  · simpa [CircuitNames.networks, names] using ends
  · intro name told name' listed same
    obtain ⟨label, named⟩ := mem_names_medias laid laid' listed
    rw [named] at same
    rcases List.mem_pair.1 told with rfl | rfl
    · exact CircuitName.network_ne_media headless label _ (sourceName.symm.trans same)
    · exact CircuitName.network_ne_media headless' label _ (destinationName.symm.trans same)

end Laid

end Connection

namespace Roadm

variable {r : Roadm} {rule : FlowRule} {conn : Connection}

/-- A connection of a port with itself has one interface at both ends. -/
theorem name_eq_of_one_port (planned_eq : r.planned rule = .ok conn)
    (one : rule.outPort = some rule.inPort) :
    conn.sourceNetwork.name = conn.destinationNetwork.name := by
  have realizes := realizes_of_planned planned_eq
  have same : conn.outPort = conn.inPort := by
    rw [realizes.inPort_eq]
    exact Option.some.inj (realizes.outPort_eq.trans one)
  obtain ⟨p, labels, found, known, laid, onLine⟩ := laidOn_of_planned planned_eq .source
  obtain ⟨p', labels', found', known', laid', onLine'⟩ := laidOn_of_planned planned_eq .destination
  dsimp only [Connection.port] at found found' onLine onLine'
  rw [same] at found' onLine'
  obtain rfl : p = p' := Option.some.inj (found.symm.trans found')
  obtain rfl : labels = labels' := Except.ok.inj (known.symm.trans known')
  have both : (conn.media .source).isSome = (conn.media .destination).isSome :=
    Bool.eq_iff_iff.2 (laid.onLine_iff.symm.trans ((onLine.trans onLine'.symm).trans laid'.onLine_iff))
  exact laid.name_network.trans (both ▸ laid'.name_network.symm)

/-- The connection that is made for a rule has interfaces that are all different, on a node whose
    labels are different and do not begin as names do, exactly if the rule names two ports. -/
theorem separate_iff_two_ports (s : State) (different : r.ports.Pairwise Port.LabelsDiffer)
    (headless : ∀ p ∈ r.ports, ∀ label ∈ p.connectionPoint?, CircuitName.Headless label)
    (applied : ((r.apply rule).run s).1 = .ok conn) :
    conn.Separate ↔ rule.outPort ≠ some rule.inPort := by
  have planned_eq := r.planned_of_apply s rule applied
  constructor
  · intro separate one
    have first := (List.nodup_cons.1 separate.interfaces_nodup).1
    exact first (List.mem_cons.2 (.inl (name_eq_of_one_port planned_eq one)))
  · intro two
    have realizes := realizes_of_planned planned_eq
    obtain ⟨xc, checked, built⟩ := (r.planned_eq_ok_iff rule).1 planned_eq
    obtain ⟨_, _, -, -, made⟩ := connection_eq_ok_iff.1 built
    obtain ⟨p, labels, found, known, laid, -⟩ := laidOn_of_planned planned_eq .source
    obtain ⟨p', labels', found', known', laid', -⟩ := laidOn_of_planned planned_eq .destination
    have plain {number : PortNumber} {p : Port} {labels : PortLabels}
        (found : Port.find? r.ports number = some p) (known : PortLabels.ofPort p = .ok labels) :
        CircuitName.Headless labels.label :=
      headless p (List.mem_of_find?_eq_some found) _ (PortLabels.connectionPoint?_of_ofPort known)
    have other : labels.label ≠ labels'.label := by
      intro same
      have ports : conn.inPort = conn.outPort :=
        number_eq_of_known different ⟨p, found, known⟩ ⟨p', found', known'⟩ same
      exact two (by rw [← realizes.outPort_eq, ← realizes.inPort_eq, ports])
    exact (Connection.told_build made).1.separate
      (Connection.nodup_interfaces laid laid' (plain found known) (plain found' known') other)

/-- A channel that passes the node between two ports. -/
theorem separate_iff_two_ports_of_express :
    let rule := Sample.crossConnect ⟨401⟩ ⟨302⟩ 0
    let s := State.through none (some {})
    ∃ conn, sample.ports.Pairwise Port.LabelsDiffer ∧
      (∀ p ∈ sample.ports, ∀ label ∈ p.connectionPoint?, CircuitName.Headless label) ∧
        ((sample.apply rule).run s).1 = .ok conn ∧
          (conn.Separate ↔ rule.outPort ≠ some rule.inPort) := by
  intro rule s
  have different : sample.ports.Pairwise Port.LabelsDiffer := by decide +kernel
  have headless : ∀ p ∈ sample.ports, ∀ label ∈ p.connectionPoint?, CircuitName.Headless label := by
    decide +kernel
  obtain ⟨conn, applied⟩ : ∃ conn, ((sample.apply rule).run s).1 = .ok conn :=
    exists_of_isOk (by decide +kernel)
  exact ⟨conn, different, headless, applied, separate_iff_two_ports s different headless applied⟩

/-- A port on a line is joined to itself: the rule is applied, and each interface of the connection
    is made twice. -/
theorem one_port_joined_to_itself :
    let rule := Sample.crossConnect ⟨401⟩ ⟨401⟩ 0
    let s := State.through none (some {})
    sample.ports.Pairwise Port.LabelsDiffer ∧ (sample.ports.map (·.number)).Nodup ∧
      (∀ p ∈ sample.ports, ∀ label ∈ p.connectionPoint?, CircuitName.Headless label) ∧
        ∃ conn, ((sample.apply rule).run s).1 = .ok conn ∧ ¬ conn.Separate ∧
          conn.interfaces = ["NMC-CTP-DEG1-TTP-RX-193.1", "NMC-CTP-DEG1-TTP-RX-193.1",
            "MC-TTP-DEG1-TTP-RX-193.1", "MC-TTP-DEG1-TTP-RX-193.1"] := by
  intro rule s
  obtain ⟨conn, applied⟩ : ∃ conn, ((sample.apply rule).run s).1 = .ok conn :=
    exists_of_isOk (by decide +kernel)
  have told : (sample.planned rule).toOption.map Connection.interfaces =
      some ["NMC-CTP-DEG1-TTP-RX-193.1", "NMC-CTP-DEG1-TTP-RX-193.1",
        "MC-TTP-DEG1-TTP-RX-193.1", "MC-TTP-DEG1-TTP-RX-193.1"] := by
    decide +kernel
  rw [sample.planned_of_apply s rule applied] at told
  have listed := Option.some.inj told
  refine ⟨by decide +kernel, by decide, by decide +kernel, conn, applied, ?_, listed⟩
  intro separate
  have nodup := separate.interfaces_nodup
  rw [listed] at nodup
  exact absurd nodup (by decide)

end Roadm

end Lightpath
