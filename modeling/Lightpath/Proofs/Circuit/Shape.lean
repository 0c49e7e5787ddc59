import Lightpath.Circuit.Connection
import Lightpath.Proofs.Action

/-!
# The shape of a built connection

What holds of every connection that is built from a rule: it has a media channel exactly on the
sides that face a neighbouring node, there is at least one such side, and its name joins the names
of its network media channels.
-/

namespace Lightpath

theorem LinkType.lineSides_ne_nil (t : LinkType) : t.lineSides ≠ [] := by
  cases t <;> decide

namespace Connection

/-- The names of the interfaces that a connection refers to. -/
def interfaces (c : Connection) : List String := c.names.networks ++ c.names.medias

/-- The media channels and the name of a connection agree with the rest of it. -/
structure Shaped (c : Connection) : Prop where
  media_isSome : ∀ side, (c.media side).isSome = c.linkType.isLineSide side
  name_eq : c.name = CircuitName.connection c.sourceNetwork.name c.destinationNetwork.name

/-- The connection of a checked rule between two ports of which all labels are known. -/
def joining (xc : CrossConnect) (config : Config) (source destination : PortLabels) : Connection :=
  let center := xc.channel.center
  let width := xc.channel.width
  let mediaAt (side : Side) (labels : PortLabels) : Option MediaChannel :=
    if xc.linkType.isLineSide side then some (labels.media center (.around center width)) else none
  let sourceNetwork := source.network center width (mediaAt .source source)
  let destinationNetwork := destination.network center width (mediaAt .destination destination)
  { name := CircuitName.connection sourceNetwork.name destinationNetwork.name
    device := xc.rule.device
    linkType := xc.linkType
    inPort := xc.inPort
    outPort := xc.outPort
    channel := xc.channel
    priority := xc.rule.priority
    cookie := xc.rule.cookie
    opticalControlMode := config.opticalControlMode
    targetOutputPower := config.targetOutputPower
    sourceNetwork, destinationNetwork
    sourceMedia := mediaAt .source source
    destinationMedia := mediaAt .destination destination }

variable {xc : CrossConnect} {sourcePort destinationPort : Port} {config : Config} {c : Connection}

/-- A connection is built if the window of its channel is supported and all labels are known. -/
theorem build_eq_ok_iff :
    build xc sourcePort destinationPort config = .ok c ↔
      (∃ supported, (Window.around xc.channel.center xc.channel.width).channel = .ok supported) ∧
      ∃ source destination, PortLabels.ofPort sourcePort = .ok source ∧
        PortLabels.ofPort destinationPort = .ok destination ∧
        joining xc config source destination = c := by
  simp only [build, Action.bind_eq_ok_iff, Action.pure_eq_ok_iff]
  constructor
  · rintro ⟨supported, found, source, foundSource, destination, foundDestination, same⟩
    exact ⟨⟨supported, found⟩, source, destination, foundSource, foundDestination, same⟩
  · rintro ⟨⟨supported, found⟩, source, destination, foundSource, foundDestination, same⟩
    exact ⟨supported, found, source, foundSource, destination, foundDestination, same⟩

theorem build_joining (config : Config) {source destination : PortLabels} {found : Channel}
    (supported : Channel.around xc.channel.center xc.channel.width = .ok found)
    (sourceLabels : PortLabels.ofPort sourcePort = .ok source)
    (destinationLabels : PortLabels.ofPort destinationPort = .ok destination) :
    build xc sourcePort destinationPort config = .ok (joining xc config source destination) :=
  build_eq_ok_iff.2 ⟨⟨found, supported⟩, source, destination, sourceLabels, destinationLabels, rfl⟩

theorem shaped_joining (source destination : PortLabels) :
    (joining xc config source destination).Shaped := by
  refine ⟨fun side => ?_, rfl⟩
  have given (line : Bool) (m : MediaChannel) : (if line then some m else none).isSome = line := by
    cases line <;> rfl
  cases side with
  | source => exact given _ _
  | destination => exact given _ _

theorem shaped_build (built : build xc sourcePort destinationPort config = .ok c) : c.Shaped := by
  obtain ⟨-, source, destination, -, -, rfl⟩ := build_eq_ok_iff.1 built
  exact shaped_joining source destination

/-- A connection of another power has the same shape. -/
theorem Shaped.tuned (shaped : c.Shaped) (dbm : Float) :
    Shaped { c with targetOutputPower := dbm } :=
  ⟨shaped.media_isSome, shaped.name_eq⟩

/-- The media channels are those of both sides, the source first. -/
theorem Shaped.medias_eq (shaped : c.Shaped) :
    c.medias = c.sourceMedia.toList ++ c.destinationMedia.toList := by
  have onLine : (fun side => if c.linkType.isLineSide side then c.media side else none) =
      c.media := by
    funext side
    have same := shaped.media_isSome side
    cases carried : c.media side with
    | none => exact ite_self _
    | some m =>
      rw [carried] at same
      exact if_pos same.symm
  rw [medias, LinkType.lineSides, List.filterMap_filter, onLine]
  simp only [List.filterMap, media]
  cases c.sourceMedia <;> cases c.destinationMedia <;> rfl

/-- There is always a media channel. -/
theorem Shaped.medias_ne_nil (shaped : c.Shaped) : c.medias ≠ [] := by
  obtain ⟨side, sides, lines⟩ := List.exists_cons_of_ne_nil c.linkType.lineSides_ne_nil
  have faces : c.linkType.isLineSide side := by
    have member : side ∈ c.linkType.lineSides := by rw [lines]; exact List.mem_cons_self
    exact (List.mem_filter.1 member).2
  obtain ⟨m, carried⟩ := Option.isSome_iff_exists.1 ((shaped.media_isSome side).trans faces)
  rw [medias, lines, List.filterMap_cons_some carried]
  exact List.cons_ne_nil _ _

/-- The media channels that the names tell are those of the connection. -/
theorem Shaped.map_name_medias (shaped : c.Shaped) : c.medias.map (·.name) = c.names.medias := by
  rw [shaped.medias_eq, List.map_append, CircuitNames.medias, names]
  cases c.sourceMedia <;> cases c.destinationMedia <;> rfl

end Connection

end Lightpath
