import Lightpath.Proofs.Circuit.Legible
import Lightpath.Sample

/-!
# Names read back

The names of a built connection are read back from the name of the connection if and only if it
is legible: a joint in the name of the source moves the cut, and a client port with a name like
one on a line is given a media channel that it does not have. A joint in the name of the
destination does no harm.
-/

namespace Lightpath

theorem CircuitNames.mediaOf?_eq_none_iff {name : String} :
    mediaOf? name = none ↔ ¬ CircuitName.networkHead.toList <+: name.toList := by
  rw [mediaOf?, Option.map_eq_none_iff, Text.dropHead?, ← List.isPrefixOf_iff_prefix]
  simp

namespace Connection

variable {c : Connection}

/-- The source that is read has no joint in it. -/
theorem no_join_of_ofConnection? (read : CircuitNames.ofConnection? c.name = some c.names) :
    Text.contains c.sourceNetwork.name CircuitName.join = false := by
  have joint : CircuitName.join.toList ≠ [] := by decide
  rw [CircuitNames.ofConnection?] at read
  split at read
  · cases read
  · next source destination cut =>
    split at read
    · cases read
    · have named : String.ofList source = c.sourceNetwork.name :=
        congrArg CircuitNames.sourceNetwork (Option.some.inj read)
      have absent := (Text.not_infix_of_cutAt? joint cut).2
      rw [← Bool.not_eq_true, Text.contains_iff_infix, ← named, String.toList_ofList]
      exact absent

/-- The media channels that are read are told by the network media channels that are read. -/
theorem mediaOf?_of_ofConnection? (read : CircuitNames.ofConnection? c.name = some c.names)
    (side : Side) : CircuitNames.mediaOf? (c.network side).name = (c.media side).map (·.name) := by
  rw [CircuitNames.ofConnection?] at read
  split at read
  · cases read
  · split at read
    · cases read
    · have same := CircuitNames.mk.inj (Option.some.inj read)
      obtain ⟨-, source, destination, sourceMedia, destinationMedia⟩ := same
      cases side with
      | source => rwa [source] at sourceMedia
      | destination => rwa [destination] at destinationMedia

theorem legible_iff : c.Legible ↔
    Text.contains c.sourceNetwork.name CircuitName.join = false ∧
      (c.linkType.isLineSide .source = false →
        ¬ CircuitName.networkHead.toList <+: c.sourceNetwork.name.toList) ∧
      (c.linkType.isLineSide .destination = false →
        ¬ CircuitName.networkHead.toList <+: c.destinationNetwork.name.toList) := by
  constructor
  · rintro ⟨no_join, no_head⟩
    exact ⟨no_join, no_head .source, no_head .destination⟩
  · rintro ⟨no_join, sourceHead, destinationHead⟩
    refine ⟨no_join, fun side => ?_⟩
    cases side with
    | source => exact sourceHead
    | destination => exact destinationHead

theorem Labelled.ofConnection?_name_iff (labelled : c.Labelled) (shaped : c.Shaped) :
    CircuitNames.ofConnection? c.name = some c.names ↔ c.Legible := by
  constructor
  · intro read
    refine ⟨no_join_of_ofConnection? read, fun side client => ?_⟩
    have no_media : c.media side = none := by
      rw [← Option.not_isSome_iff_eq_none, shaped.media_isSome, client]
      exact Bool.false_ne_true
    rw [← CircuitNames.mediaOf?_eq_none_iff, mediaOf?_of_ofConnection? read, no_media]
    rfl
  · exact labelled.ofConnection?_name shaped

variable {xc : CrossConnect} {sourcePort destinationPort destinationPort' : Port} {config : Config}
  {c' : Connection}

theorem labelled_build (built : build xc sourcePort destinationPort config = .ok c) :
    c.Labelled := by
  obtain ⟨-, source, destination, -, -, rfl⟩ := build_eq_ok_iff.1 built
  exact labelled_joining xc config source destination

theorem sourceNetwork_build (built : build xc sourcePort destinationPort config = .ok c)
    (built' : build xc sourcePort destinationPort' config = .ok c') :
    c.linkType = xc.linkType ∧ c'.linkType = xc.linkType ∧ c.sourceNetwork = c'.sourceNetwork := by
  obtain ⟨-, source, destination, labels, -, rfl⟩ := build_eq_ok_iff.1 built
  obtain ⟨-, source', destination', labels', -, rfl⟩ := build_eq_ok_iff.1 built'
  obtain rfl : source = source' := Except.ok.inj (labels.symm.trans labels')
  exact ⟨rfl, rfl, rfl⟩

/-- Of two connections that differ in their destinations one is legible if the other is, unless the
    destinations are clients and only one of them is named like a line. -/
theorem legible_iff_of_destination (built : build xc sourcePort destinationPort config = .ok c)
    (built' : build xc sourcePort destinationPort' config = .ok c')
    (alike : xc.linkType.isLineSide .destination = true ∨
      (CircuitName.networkHead.toList <+: c.destinationNetwork.name.toList ↔
        CircuitName.networkHead.toList <+: c'.destinationNetwork.name.toList)) :
    c.Legible ↔ c'.Legible := by
  obtain ⟨link, link', same⟩ := sourceNetwork_build built built'
  have destination : (xc.linkType.isLineSide .destination = false →
      ¬ CircuitName.networkHead.toList <+: c.destinationNetwork.name.toList) ↔
        (xc.linkType.isLineSide .destination = false →
          ¬ CircuitName.networkHead.toList <+: c'.destinationNetwork.name.toList) := by
    rcases alike with line | begins
    · simp [line]
    · rw [begins]
  rw [legible_iff, legible_iff, link, link', same, destination]

/-- The names of a built connection are read back from its name if and only if the name of its
    source holds no joint and no client port of it is named like a line. What else stands in the
    label of the destination makes no difference. -/
theorem ofConnection?_build_iff (built : build xc sourcePort destinationPort config = .ok c) :
    (CircuitNames.ofConnection? c.name = some c.names ↔
      Text.contains c.sourceNetwork.name CircuitName.join = false ∧
        ∀ side, c.linkType.isLineSide side = false →
          ¬ CircuitName.networkHead.toList <+: (c.network side).name.toList) ∧
    ∀ (destinationPort' : Port) (c' : Connection),
      build xc sourcePort destinationPort' config = .ok c' →
        (xc.linkType.isLineSide .destination = true ∨
          (CircuitName.networkHead.toList <+: c.destinationNetwork.name.toList ↔
            CircuitName.networkHead.toList <+: c'.destinationNetwork.name.toList)) →
          (CircuitNames.ofConnection? c.name = some c.names ↔
            CircuitNames.ofConnection? c'.name = some c'.names) := by
  have legible := (labelled_build built).ofConnection?_name_iff (shaped_build built)
  constructor
  · rw [legible]
    exact ⟨fun ⟨no_join, no_head⟩ => ⟨no_join, no_head⟩, fun ⟨no_join, no_head⟩ => ⟨no_join, no_head⟩⟩
  · intro destinationPort' c' built' alike
    rw [legible, (labelled_build built').ofConnection?_name_iff (shaped_build built')]
    exact legible_iff_of_destination built built' alike

/-- A client port with the joint in its label at the end of a drop. -/
theorem ofConnection?_build_iff_of_joint :
    let xc : CrossConnect :=
      ⟨Sample.crossConnect ⟨401⟩ ⟨102⟩ 0, .drop, ⟨401⟩, ⟨102⟩, .dwdm .ghz50 0⟩
    let line := Sample.port 401 "DEG1-TTP-RX" "1/0" "ext-rx1"
    ∃ c c', build xc line (Sample.port 102 "SRG1-to-PP2" "4/0" "1-2") {} = .ok c ∧
      build xc line (Sample.port 102 "SRG1-PP2-RX" "4/0" "1-2") {} = .ok c' ∧
        Text.contains c.destinationNetwork.name CircuitName.join = true ∧
          CircuitNames.ofConnection? c.name = some c.names ∧
            (CircuitNames.ofConnection? c.name = some c.names ↔
              CircuitNames.ofConnection? c'.name = some c'.names) := by
  intro xc line
  have labels := Sample.ofPort_port 401 "DEG1-TTP-RX" "1/0" "ext-rx1"
  have supported : Channel.around xc.channel.center xc.channel.width = .ok xc.channel := by
    decide +kernel
  have built := build_joining {} supported labels
    (Sample.ofPort_port 102 "SRG1-to-PP2" "4/0" "1-2")
  have built' := build_joining {} supported labels
    (Sample.ofPort_port 102 "SRG1-PP2-RX" "4/0" "1-2")
  obtain ⟨read_iff, alike⟩ := ofConnection?_build_iff built
  refine ⟨_, _, built, built', by decide +kernel, read_iff.2 ⟨by decide +kernel, fun side => ?_⟩,
    alike _ _ built' (.inr (by decide +kernel))⟩
  cases side <;> decide +kernel

end Connection

end Lightpath
