import Lightpath.Proofs.Channel.Grid

/-!
# Widths that are taken for others

A channel is found for the width of the window around its center. That is not always the width that
was asked for: the last hertz of an odd number is lost when it is halved, and what would reach below
zero is cut off. What is left is taken for the width if it is 50 or 100 GHz, and every other width
is refused.
-/

namespace Lightpath

namespace Channel

variable {center width : Frequency} {found : Channel}

/-- Widths of channels that have a place on the grid. -/
def Supported (width : Frequency) : Prop := width = .ofGHz 50 ∨ width = .ofGHz 100

/-- A width is taken for what it is, or refused if it is none of a channel on the grid. -/
structure Faithful (center width : Frequency) : Prop where
  width_eq : ∀ found, Channel.around center width = .ok found →
    Supported width ∧ found.spacing.frequency = width ∧ found.slotsWidth = width
  refused : ¬ Supported width →
    ∃ reported, Channel.around center width = .error (.unsupportedChannelWidth reported)

/-- One hertz more than a supported width, around a center that is not too low for it. -/
def Rounded (center width : Frequency) : Prop :=
  width.half.toNat ≤ center.toNat ∧
    (width.toNat = (Frequency.ofGHz 50).toNat + 1 ∨ width.toNat = (Frequency.ofGHz 100).toNat + 1)

/-- A width that reaches below zero, with a supported width left above. -/
def Clipped (center width : Frequency) : Prop :=
  center.toNat < width.half.toNat ∧
    (center.toNat + width.half.toNat = (Frequency.ofGHz 50).toNat ∨
      center.toNat + width.half.toNat = (Frequency.ofGHz 100).toNat)

instance (center width : Frequency) : Decidable (Rounded center width) :=
  inferInstanceAs (Decidable (_ ∧ _))

instance (center width : Frequency) : Decidable (Clipped center width) :=
  inferInstanceAs (Decidable (_ ∧ _))

theorem supported_iff : Supported width ↔
    ∃ s : Spacing, (s = .ghz50 ∨ s = .ghz100) ∧ s.frequency = width := by
  constructor
  · rintro (rfl | rfl)
    · exact ⟨.ghz50, .inl rfl, by decide⟩
    · exact ⟨.ghz100, .inr rfl, by decide⟩
  · rintro ⟨s, rfl | rfl, rfl⟩
    · exact .inl (by decide)
    · exact .inr (by decide)

theorem slotsWidth_of_around (supported : Channel.around center width = .ok found) :
    found.slotsWidth = found.spacing.frequency := by
  obtain ⟨wide, -, -, same⟩ := around_eq_ok supported
  have slots : found.slots = UInt32.ofNat (found.spacing.frequency.toNat / slotWidth.toNat) :=
    congrArg Channel.slots same
  rw [slotsWidth, slots]
  rcases wide with same | same <;> rw [same] <;> decide

/-- Whatever is refused is refused for its width. -/
theorem unsupported_of_around {e : Error} (refused : Channel.around center width = .error e) :
    ∃ reported, e = .unsupportedChannelWidth reported := by
  rw [Channel.around, Window.channel] at refused
  split at refused
  · cases refused
    exact ⟨_, rfl⟩
  · split at refused
    · cases refused
      exact ⟨_, rfl⟩
    · cases refused

/-- A channel is found for what the window covers. -/
theorem exists_around_of_covered {s : Spacing} (wide : s = .ghz50 ∨ s = .ghz100)
    (inside : center.toNat + width.half.toNat < UInt64.size)
    (covered : min center.toNat width.half.toNat + width.half.toNat = s.frequency.toNat) :
    ∃ found, Channel.around center width = .ok found ∧ found.spacing = s := by
  have lower := Window.toNat_min_around center width
  have upper := Window.toNat_max_around inside
  have stretch : (Window.around center width).max.sub? (Window.around center width).min =
      some s.frequency := Frequency.sub?_eq_some_iff.2 (by omega)
  exact ⟨_, Window.channel_eq_ok_iff.2
    ⟨_, s, stretch, Window.spacing?_eq_some_iff.2 ⟨wide, rfl⟩, rfl⟩, rfl⟩

/-- A width that a channel is found for is the width of the channel, unless an odd hertz was lost or
    a part was cut off. -/
theorem width_eq_of_around (supported : Channel.around center width = .ok found)
    (not_rounded : ¬ Rounded center width) (not_clipped : ¬ Clipped center width) :
    found.spacing.frequency = width := by
  obtain ⟨wide, -, length, -⟩ := around_eq_ok supported
  have half := width.toNat_half
  have narrow : (Frequency.ofGHz 50).toNat = 50000000000 := by decide
  have broad : (Frequency.ofGHz 100).toNat = 100000000000 := by decide
  have stretch := Spacing.toNat_frequency_of_wide wide
  rw [Rounded, narrow, broad] at not_rounded
  rw [Clipped, narrow, broad] at not_clipped
  apply Frequency.toNat_inj
  omega

theorem covered_of_mistaken (mistaken : Rounded center width ∨ Clipped center width) :
    ∃ s : Spacing, (s = .ghz50 ∨ s = .ghz100) ∧
      min center.toNat width.half.toNat + width.half.toNat = s.frequency.toNat ∧
        s.frequency.toNat < width.toNat := by
  have half := width.toNat_half
  have narrow : (Frequency.ofGHz 50).toNat = 50000000000 := by decide
  have broad : (Frequency.ofGHz 100).toNat = 100000000000 := by decide
  have narrow' : Spacing.ghz50.frequency.toNat = 50000000000 := by decide
  have broad' : Spacing.ghz100.frequency.toNat = 100000000000 := by decide
  rcases mistaken with ⟨high, odd | odd⟩ | ⟨low, left | left⟩
  · exact ⟨.ghz50, .inl rfl, by omega, by omega⟩
  · exact ⟨.ghz100, .inr rfl, by omega, by omega⟩
  · exact ⟨.ghz50, .inl rfl, by omega, by omega⟩
  · exact ⟨.ghz100, .inr rfl, by omega, by omega⟩

/-- Every width is taken for what it is or refused, except for two: a supported one and a hertz, and
    one that is cut off at zero to a supported one. -/
theorem faithful_iff (inside : center.toNat + width.half.toNat < UInt64.size) :
    Faithful center width ↔ ¬ Rounded center width ∧ ¬ Clipped center width := by
  constructor
  · intro faithful
    rw [← not_or]
    intro mistaken
    obtain ⟨s, wide, covered, narrower⟩ := covered_of_mistaken mistaken
    obtain ⟨found, supported, rfl⟩ := exists_around_of_covered wide inside covered
    have same := (faithful.width_eq found supported).2.1
    rw [same] at narrower
    exact absurd narrower (Nat.lt_irrefl _)
  · rintro ⟨not_rounded, not_clipped⟩
    have taken : ∀ found, Channel.around center width = .ok found →
        Supported width ∧ found.spacing.frequency = width ∧ found.slotsWidth = width := by
      intro found supported
      have same := width_eq_of_around supported not_rounded not_clipped
      refine ⟨supported_iff.2 ⟨found.spacing, (around_eq_ok supported).1, same⟩, same, ?_⟩
      rw [slotsWidth_of_around supported, same]
    refine ⟨taken, fun unsupported => ?_⟩
    cases result : Channel.around center width with
    | ok found => exact absurd (taken found result).1 unsupported
    | error e =>
      obtain ⟨reported, rfl⟩ := unsupported_of_around result
      exact ⟨reported, rfl⟩

/-- A window of 100 GHz that ends at zero is taken for what it is. -/
theorem faithful_of_lowest :
    let center : Frequency := .ofGHz 50
    let width : Frequency := .ofGHz 100
    center.toNat + width.half.toNat < UInt64.size ∧
      ¬ Rounded center width ∧ ¬ Clipped center width ∧ Faithful center width ∧
        ∃ found, Channel.around center width = .ok found ∧ found.slotsWidth = width := by
  intro center width
  have inside : center.toNat + width.half.toNat < UInt64.size := by decide
  have not_rounded : ¬ Rounded center width := by decide
  have not_clipped : ¬ Clipped center width := by decide
  have faithful := (faithful_iff inside).2 ⟨not_rounded, not_clipped⟩
  obtain ⟨found, supported, -⟩ :=
    exists_around_of_covered (s := .ghz100) (.inr rfl) inside (by decide)
  exact ⟨inside, not_rounded, not_clipped, faithful, found, supported,
    (faithful.width_eq found supported).2.2⟩

/-- A hertz more than 50 GHz, and 60 GHz around a center at 20 GHz, are taken for 50 GHz. -/
theorem not_faithful_of_odd_or_low :
    (∃ found, Channel.around anchorFrequency ⟨50000000001⟩ = .ok found ∧
      found.spacing.frequency = .ofGHz 50 ∧ ¬ Faithful anchorFrequency ⟨50000000001⟩) ∧
    ∃ found, Channel.around (.ofGHz 20) (.ofGHz 60) = .ok found ∧
      found.spacing.frequency = .ofGHz 50 ∧ ¬ Faithful (.ofGHz 20) (.ofGHz 60) := by
  refine ⟨⟨.dwdm .ghz50 0, by decide +kernel, by decide, fun faithful => ?_⟩,
    .dwdm .ghz50 (-3861), by decide +kernel, by decide, fun faithful => ?_⟩
  · have taken := (faithful.width_eq (.dwdm .ghz50 0) (by decide +kernel)).2.1
    exact absurd taken (by decide)
  · have taken := (faithful.width_eq (.dwdm .ghz50 (-3861)) (by decide +kernel)).2.1
    exact absurd taken (by decide)

end Channel

end Lightpath
