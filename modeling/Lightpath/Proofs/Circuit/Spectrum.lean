import Lightpath.Proofs.Channel.Grid
import Lightpath.Proofs.Circuit.Shape
import Lightpath.Sample

/-!
# A circuit in the spectrum

A connection that is built from a rule has the center that the place of its channel tells, and
windows of its own width around that center, unless the channel lies off the axis: then the center
is said to be zero, and half of the window is missing.
-/

namespace Lightpath

/-- A window reaches to both sides of a center by half a width. -/
structure Window.Spans (w : Window) (center width : Int) : Prop where
  twice_min : 2 * (w.min.toNat : Int) = 2 * center - width
  twice_max : 2 * (w.max.toNat : Int) = 2 * center + width

theorem Window.spans_around {center width : Frequency} (even : 2 * width.half.toNat = width.toNat)
    (low : width.half.toNat ≤ center.toNat)
    (high : center.toNat + width.half.toNat < UInt64.size) :
    (Window.around center width).Spans center.toNat width.toNat := by
  have lower := toNat_min_around center width
  have upper := toNat_max_around high
  constructor <;> omega

/-- A window with a center above zero is never cut off: no half of a spacing that is longer than
    the center makes up a supported width together with it. -/
theorem Channel.half_le_center {c found : Channel}
    (supported : Channel.around c.center c.width = .ok found) (above : 0 < c.center.toNat) :
    c.width.half.toNat ≤ c.center.toNat := by
  obtain ⟨wide, -, length, -⟩ := around_eq_ok supported
  have stretch := Spacing.toNat_frequency_of_wide wide
  have half : c.width.half.toNat = 50000000000 ∨ c.width.half.toNat = 25000000000 ∨
      c.width.half.toNat ≤ 12500000000 := by
    rw [width]
    cases c.spacing <;> decide
  omega

namespace Connection

/-- The channels of a connection lie where its place on the grid says. -/
structure Aligned (c : Connection) : Prop where
  center_eq : ∀ side, ((c.network side).center.toNat : Int) = c.channel.centerHertz
  wide : ∀ side, (c.network side).width = Spacing.frequency .ghz50 ∨
    (c.network side).width = Spacing.frequency .ghz100
  spans : ∀ side, ∀ m ∈ c.media side,
    m.window.Spans (c.network side).center.toNat (c.network side).width.toNat
  stretch_eq : ∀ side, ∀ m ∈ c.media side,
    (m.window.max.toNat : Int) - m.window.min.toNat = (c.network side).width.toNat

variable {xc : CrossConnect} {sourcePort destinationPort : Port} {config : Config} {c : Connection}

/-- All channels of a connection are made for the channel of its rule. -/
structure CutFor (c : Connection) (channel : Channel) : Prop where
  channel_eq : c.channel = channel
  center_eq : ∀ side, (c.network side).center = channel.center
  width_eq : ∀ side, (c.network side).width = channel.width
  window_eq : ∀ side, ∀ m ∈ c.media side, m.window = .around channel.center channel.width

theorem cutFor_build (built : build xc sourcePort destinationPort config = .ok c) :
    c.CutFor xc.channel := by
  obtain ⟨-, source, destination, -, -, rfl⟩ := build_eq_ok_iff.1 built
  refine ⟨rfl, ?_, ?_, ?_⟩ <;> intro side
  · cases side <;> rfl
  · cases side <;> rfl
  · intro m carried
    cases side with
    | source =>
      change (if _ then _ else none) = some m at carried
      split at carried
      · cases carried
        rfl
      · cases carried
    | destination =>
      change (if _ then _ else none) = some m at carried
      split at carried
      · cases carried
        rfl
      · cases carried

/-- A connection with a center of its own above zero is as wide as its channel, and lies within the
    axis as a whole. -/
theorem aligned_of_above {found : Channel} (cut : c.CutFor xc.channel)
    (supported : Channel.around xc.channel.center xc.channel.width = .ok found)
    (low : 0 < xc.channel.centerHertz) (high : xc.channel.centerHertz < UInt64.size) :
    c.Aligned := by
  have on_axis := Channel.toNat_center_of_within (Int.le_of_lt low) high
  have reach := Channel.half_le_center supported (by omega)
  have even : 2 * xc.channel.width.half.toNat = xc.channel.width.toNat :=
    xc.channel.spacing.two_mul_half
  obtain ⟨wide, inside, -, -⟩ := Channel.around_eq_ok supported
  rw [Channel.eq_of_around supported reach] at wide
  have spans := Window.spans_around even reach inside
  constructor
  · intro side
    rw [cut.center_eq, cut.channel_eq, on_axis]
  · intro side
    rw [cut.width_eq]
    exact wide.imp (congrArg Spacing.frequency) (congrArg Spacing.frequency)
  · intro side m carried
    rw [cut.window_eq side m carried, cut.center_eq, cut.width_eq]
    exact spans
  · intro side m carried
    rw [cut.window_eq side m carried, cut.width_eq]
    have low_end := spans.twice_min
    have high_end := spans.twice_max
    omega

/-- There is a media channel at one side at least. -/
theorem Shaped.exists_media (shaped : c.Shaped) : ∃ side m, m ∈ c.media side := by
  obtain ⟨m, rest, medias⟩ := List.exists_cons_of_ne_nil shaped.medias_ne_nil
  have member : m ∈ c.medias := medias ▸ List.mem_cons_self
  obtain ⟨side, -, carried⟩ := List.mem_filterMap.1 member
  exact ⟨side, m, carried⟩

/-- Of every connection that is built, the channels lie where its place on the grid says if and only
    if the place has a center above zero in the word that centers are kept in. -/
theorem aligned_build_iff (built : build xc sourcePort destinationPort config = .ok c) :
    c.Aligned ↔ 0 < xc.channel.centerHertz ∧ xc.channel.centerHertz < UInt64.size := by
  have cut := cutFor_build built
  obtain ⟨⟨found, supported⟩, -⟩ := build_eq_ok_iff.1 built
  constructor
  · intro aligned
    obtain ⟨side, m, carried⟩ := (shaped_build built).exists_media
    have center := aligned.center_eq side
    have width := aligned.wide side
    have low_end := (aligned.spans side m carried).twice_min
    have word := (c.network side).center.toNat_lt
    rw [cut.channel_eq] at center
    have positive : 0 < (c.network side).width.toNat := by
      rcases width with same | same <;> rw [same] <;> decide
    omega
  · rintro ⟨low, high⟩
    exact aligned_of_above cut supported low high

/-- A rule for a channel of 100 GHz between two line ports. -/
def wideExpress (multiplier : Int32) : CrossConnect :=
  let channel := Channel.dwdm .ghz100 multiplier
  ⟨(FlowRule.between Sample.roadm ⟨401⟩ ⟨302⟩).onChannel channel, .express, ⟨401⟩, ⟨302⟩, channel⟩

/-- The lowest channel of 100 GHz with a center above zero. -/
theorem aligned_build_of_lowest :
    let xc := wideExpress (-1930)
    ∃ c, build xc (Sample.port 401 "DEG1-TTP-RX" "1/0" "ext-rx1")
        (Sample.port 302 "DEG2-TTP-TX" "2/0" "ext-tx2") {} = .ok c ∧
      0 < xc.channel.centerHertz ∧ xc.channel.centerHertz < UInt64.size ∧ c.Aligned := by
  intro xc
  have low : 0 < xc.channel.centerHertz := by decide
  have high : xc.channel.centerHertz < UInt64.size := by decide
  have supported : Channel.around xc.channel.center xc.channel.width = .ok xc.channel :=
    Channel.around_dwdm (.inr rfl) (by decide)
  have built := build_joining {} supported
    (Sample.ofPort_port 401 "DEG1-TTP-RX" "1/0" "ext-rx1")
    (Sample.ofPort_port 302 "DEG2-TTP-TX" "2/0" "ext-tx2")
  exact ⟨_, built, low, high, (aligned_build_iff built).2 ⟨low, high⟩⟩

/-- A channel of 100 GHz the place of which lies below zero: it is taken for one of 50 GHz, as its
    window is cut in half. -/
theorem not_aligned_below_axis :
    let xc := wideExpress (-1932)
    ∃ c, build xc (Sample.port 401 "DEG1-TTP-RX" "1/0" "ext-rx1")
        (Sample.port 302 "DEG2-TTP-TX" "2/0" "ext-tx2") {} = .ok c ∧
      c.channel.centerHertz = -100000000000 ∧
      (∀ side, (c.network side).center = .zero ∧ (c.network side).width = .ofGHz 100) ∧
      (∀ side, ∀ m ∈ c.media side, m.window = ⟨.zero, .ofGHz 50⟩) ∧ ¬ c.Aligned := by
  intro xc
  have supported : Channel.around xc.channel.center xc.channel.width = .ok (.dwdm .ghz50 (-3861)) := by
    decide +kernel
  have built := build_joining {} supported
    (Sample.ofPort_port 401 "DEG1-TTP-RX" "1/0" "ext-rx1")
    (Sample.ofPort_port 302 "DEG2-TTP-TX" "2/0" "ext-tx2")
  have cut := cutFor_build built
  have center : xc.channel.center = .zero := by decide
  have below : xc.channel.centerHertz = -100000000000 := by decide
  refine ⟨_, built, cut.channel_eq ▸ below, fun side => ?_, fun side m carried => ?_, ?_⟩
  · exact ⟨(cut.center_eq side).trans center, (cut.width_eq side).trans (by decide)⟩
  · rw [cut.window_eq side m carried]
    decide
  · intro aligned
    have claimed := aligned.center_eq .source
    rw [cut.center_eq, cut.channel_eq, below, center] at claimed
    exact absurd claimed (by decide)

end Connection

end Lightpath
