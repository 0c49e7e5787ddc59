import Lightpath.Proofs.Circuit.Cache
import Lightpath.Proofs.Circuit.Naming

/-!
# Names that can be read

All names of a circuit can be read off the name of its connection if the joint does not stand in
the name of the source and no client port has a name that begins like one on a line. What is read
are then the names that the connection was built with.
-/

namespace Lightpath

namespace CircuitName

variable (label : String) (center : Frequency)

theorem toList_network (onLine : Bool) :
    (network label center onLine).toList =
      (headed label onLine ++ ['-']) ++ center.thz.toList := by
  unfold network headed
  cases onLine <;> simp [String.toList_append]

theorem notMem_join_of_mem_thz {c : Char} (member : c ∈ center.thz.toList) : c ∉ join.toList := by
  have joint : join.toList = ['-', 't', 'o', '-'] := rfl
  have other : ∀ d ∈ ['-', 't', 'o', '-'], d.isDigit = false ∧ d ≠ '.' := by simp
  intro joins
  rw [joint] at joins
  obtain ⟨no_digit, no_point⟩ := other c joins
  rw [Frequency.thz, Frequency.write, String.toList_ofList] at member
  rcases center.isDigit_or_eq_point_of_mem .terahertz member with digit | point
  · rw [digit] at no_digit
    cases no_digit
  · exact no_point point

/-- No joint begins in the name of a network media channel and goes on behind it, as the name ends
    with a figure. -/
theorem notMem_join_of_getLast? (onLine : Bool) :
    ∀ c ∈ (network label center onLine).toList.getLast?, c ∉ join.toList := by
  intro c last
  obtain ⟨d, rest, digits, -⟩ := (numeric_thz center).digit_first
  have some_digit : center.thz.toList ≠ [] := by simp [digits]
  rw [toList_network, List.getLast?_append_of_ne_nil _ some_digit] at last
  exact notMem_join_of_mem_thz center (List.mem_of_getLast? last)

theorem toList_network_ne_nil (onLine : Bool) : (network label center onLine).toList ≠ [] := by
  simp [toList_network]

end CircuitName

namespace CircuitNames

/-- The media channel on a line is told by the network media channel in it. -/
theorem mediaOf?_network (label : String) (center : Frequency) :
    mediaOf? (CircuitName.network label center true) = some (CircuitName.media label center) := by
  have begins : Text.dropHead? CircuitName.networkHead.toList
      (CircuitName.network label center true).toList =
        some (label.toList ++ '-' :: center.thz.toList) := by
    rw [Text.dropHead?_eq_some_iff, CircuitName.toList_network]
    simp [CircuitName.headed]
  rw [mediaOf?, begins]
  simp [CircuitName.media, ← String.toList_inj, String.toList_append]

theorem mediaOf?_of_no_head {name : String}
    (no_head : ¬ CircuitName.networkHead.toList <+: name.toList) : mediaOf? name = none := by
  rw [mediaOf?, Text.dropHead?, if_neg (mt List.isPrefixOf_iff_prefix.1 no_head)]
  rfl

end CircuitNames

namespace Connection

/-- The channels at a side are named after one label and one center. -/
def Labelled (c : Connection) : Prop :=
  ∀ side, ∃ label center,
    (c.network side).name = CircuitName.network label center (c.linkType.isLineSide side) ∧
      (c.media side).map (·.name) =
        if c.linkType.isLineSide side then some (CircuitName.media label center) else none

/-- The name of the source has no joint in it, and on the side of a client the name does not begin
    like one on a line. -/
structure Legible (c : Connection) : Prop where
  no_join : Text.contains c.sourceNetwork.name CircuitName.join = false
  no_head : ∀ side, c.linkType.isLineSide side = false →
    ¬ CircuitName.networkHead.toList <+: (c.network side).name.toList

instance (c : Connection) : Decidable c.Legible :=
  decidable_of_iff
    (Text.contains c.sourceNetwork.name CircuitName.join = false ∧
      ∀ side ∈ [Side.source, Side.destination], c.linkType.isLineSide side = false →
        ¬ CircuitName.networkHead.toList <+: (c.network side).name.toList)
    ⟨fun ⟨no_join, no_head⟩ => ⟨no_join, fun side => no_head side (by cases side <;> decide)⟩,
      fun legible => ⟨legible.no_join, fun side _ => legible.no_head side⟩⟩

variable {c : Connection}

theorem labelled_joining (xc : CrossConnect) (config : Config) (source destination : PortLabels) :
    (joining xc config source destination).Labelled := by
  intro side
  cases side with
  | source =>
    refine ⟨source.label, xc.channel.center, ?_⟩
    unfold joining PortLabels.network
    dsimp only [network, media]
    cases xc.linkType.isLineSide .source <;> exact ⟨rfl, rfl⟩
  | destination =>
    refine ⟨destination.label, xc.channel.center, ?_⟩
    unfold joining PortLabels.network
    dsimp only [network, media]
    cases xc.linkType.isLineSide .destination <;> exact ⟨rfl, rfl⟩

/-- The media channel at a side is told by the network media channel there. -/
theorem Labelled.mediaOf? (labelled : c.Labelled) (legible : c.Legible) (side : Side) :
    CircuitNames.mediaOf? (c.network side).name = (c.media side).map (·.name) := by
  obtain ⟨label, center, network, media⟩ := labelled side
  rw [media]
  cases faces : c.linkType.isLineSide side with
  | true =>
    rw [network, faces, CircuitNames.mediaOf?_network]
    rfl
  | false =>
    rw [CircuitNames.mediaOf?_of_no_head (legible.no_head side faces)]
    rfl

/-- The name of the connection is cut where it was joined. -/
theorem Labelled.cutAt?_name (labelled : c.Labelled) (shaped : c.Shaped) (legible : c.Legible) :
    Text.cutAt? CircuitName.join.toList c.name.toList =
      some (c.sourceNetwork.name.toList, c.destinationNetwork.name.toList) := by
  obtain ⟨label, center, named, -⟩ := labelled .source
  have absent : ¬ CircuitName.join.toList <:+: c.sourceNetwork.name.toList := by
    rw [← Text.contains_iff_infix, legible.no_join]
    exact Bool.false_ne_true
  have closed := CircuitName.notMem_join_of_getLast? label center (c.linkType.isLineSide .source)
  rw [← named] at closed
  rw [shaped.name_eq, CircuitName.connection, String.toList_append, String.toList_append,
    List.append_assoc]
  exact Text.cutAt?_append absent closed _

/-- The names that are read off the name of a connection are its own. -/
theorem Labelled.ofConnection?_name (labelled : c.Labelled) (shaped : c.Shaped)
    (legible : c.Legible) : CircuitNames.ofConnection? c.name = some c.names := by
  have named (side : Side) : (c.network side).name.toList.isEmpty = false := by
    obtain ⟨label, center, network, -⟩ := labelled side
    rw [List.isEmpty_eq_false_iff, network]
    exact CircuitName.toList_network_ne_nil label center _
  have sourceNamed : c.sourceNetwork.name.toList.isEmpty = false := named .source
  have destinationNamed : c.destinationNetwork.name.toList.isEmpty = false := named .destination
  have sourceMedia : CircuitNames.mediaOf? c.sourceNetwork.name = c.sourceMedia.map (·.name) :=
    labelled.mediaOf? legible .source
  have destinationMedia :
      CircuitNames.mediaOf? c.destinationNetwork.name = c.destinationMedia.map (·.name) :=
    labelled.mediaOf? legible .destination
  rw [CircuitNames.ofConnection?, labelled.cutAt?_name shaped legible]
  simp only [sourceNamed, destinationNamed, Bool.false_eq_true, or_self, if_false,
    String.ofList_toList, sourceMedia, destinationMedia]
  rfl

theorem Labelled.tuned (labelled : c.Labelled) (dbm : Float) :
    Labelled { c with targetOutputPower := dbm } := by
  intro side
  obtain ⟨label, center, network, media⟩ := labelled side
  cases side <;> exact ⟨label, center, network, media⟩

end Connection

end Lightpath
