import Lightpath.Channel.Window
import Lightpath.Proofs.Frequency.Text

/-!
# Channels found again from their windows

A channel is programmed as a center and a width, and it is found again from the window around the
center. It comes back as it was if it is of the DWDM grid, has as many slots as its spacing is wide,
and its window does not reach below zero.
-/

namespace Lightpath

namespace Frequency

variable (a b : Frequency)

theorem toNat_half : a.half.toNat = a.toNat / 2 := UInt64.toNat_div a.hz 2

theorem toNat_add : (a + b).toNat = (a.toNat + b.toNat) % UInt64.size := UInt64.toNat_add a.hz b.hz

variable {a b}

theorem sub?_eq_some_iff {d : Frequency} :
    a.sub? b = some d ↔ b.toNat ≤ a.toNat ∧ d.toNat = a.toNat - b.toNat := by
  rw [sub?]
  split
  · next le =>
    have small := UInt64.le_iff_toNat_le.1 le
    have difference : toNat ⟨a.hz - b.hz⟩ = a.toNat - b.toNat := UInt64.toNat_sub_of_le _ _ le
    constructor
    · rintro ⟨⟩
      exact ⟨small, difference⟩
    · rintro ⟨-, same⟩
      exact congrArg some (toNat_inj (difference.trans same.symm))
  · next large =>
    refine iff_of_false (fun same => nomatch same) fun small => ?_
    exact large (UInt64.le_iff_toNat_le.2 small.1)

end Frequency

theorem Spacing.ofFrequency?_eq_some_iff {f : Frequency} {s : Spacing} :
    ofFrequency? f = some s ↔ s.frequency = f := by
  constructor
  · intro found
    simpa [ofFrequency?] using List.find?_some found
  · rintro rfl
    exact ofFrequency?_frequency s

theorem Spacing.frequency_injective {s t : Spacing} (same : s.frequency = t.frequency) : s = t := by
  have found := ofFrequency?_frequency s
  rw [same, ofFrequency?_frequency] at found
  exact (Option.some.inj found).symm

theorem Spacing.toNat_frequency_of_wide {s : Spacing} (wide : s = .ghz50 ∨ s = .ghz100) :
    s.frequency.toNat = 50000000000 ∨ s.frequency.toNat = 100000000000 := by
  rcases wide with rfl | rfl <;> decide

theorem Spacing.two_mul_half (s : Spacing) : 2 * s.frequency.half.toNat = s.frequency.toNat := by
  cases s <;> decide

namespace Window

theorem spacing?_eq_some_iff {width : Frequency} {s : Spacing} :
    spacing? width = some s ↔ (s = .ghz50 ∨ s = .ghz100) ∧ s.frequency = width := by
  rw [← Spacing.ofFrequency?_eq_some_iff, spacing?]
  cases Spacing.ofFrequency? width with
  | none => simp
  | some found => cases found <;> cases s <;> simp

theorem channel_eq_ok_iff {w : Window} {c : Channel} :
    w.channel = .ok c ↔
      ∃ width spacing, w.max.sub? w.min = some width ∧ spacing? width = some spacing ∧
        c = ⟨.dwdm, spacing, Int32.ofInt (multiplier w.min width spacing),
          UInt32.ofNat (width.toNat / slotWidth.toNat)⟩ := by
  rw [channel]
  cases w.max.sub? w.min with
  | none => simp
  | some width =>
    dsimp only
    cases found : spacing? width with
    | none => simp [found]
    | some spacing => simp [found, eq_comm]

theorem toNat_min_around (center width : Frequency) :
    (around center width).min.toNat = center.toNat - width.half.toNat := by
  change ((center.sub? width.half).getD .zero).toNat = _
  cases lower : center.sub? width.half with
  | some low => exact (Frequency.sub?_eq_some_iff.1 lower).2
  | none =>
    have below : ¬ width.half.toNat ≤ center.toNat := by
      intro le
      rw [Frequency.sub?, if_pos (UInt64.le_iff_toNat_le.2 le)] at lower
      cases lower
    have gone : center.toNat - width.half.toNat = 0 := by omega
    rw [gone]
    rfl

theorem toNat_max_around {center width : Frequency}
    (inside : center.toNat + width.half.toNat < UInt64.size) :
    (around center width).max.toNat = center.toNat + width.half.toNat :=
  (Frequency.toNat_add ..).trans (Nat.mod_eq_of_lt inside)

/-- The ends of a window that can be subtracted have not run over the end of the axis. -/
theorem toNat_of_sub? {center width stretch : Frequency}
    (between : (around center width).max.sub? (around center width).min = some stretch) :
    center.toNat + width.half.toNat < UInt64.size ∧
      stretch.toNat = center.toNat + width.half.toNat - (center.toNat - width.half.toNat) := by
  obtain ⟨ordered, length⟩ := Frequency.sub?_eq_some_iff.1 between
  have upper : (around center width).max.toNat =
      (center.toNat + width.half.toNat) % UInt64.size := Frequency.toNat_add ..
  have word := center.toNat_lt
  have half_word : 2 * width.half.toNat < UInt64.size := by
    have whole := width.toNat_lt
    rw [Frequency.toNat_half]
    omega
  rw [toNat_min_around, upper] at ordered length
  change _ < 18446744073709551616 at word half_word
  change _ ≤ _ % 18446744073709551616 at ordered
  change _ = _ % 18446744073709551616 - _ at length
  change _ < 18446744073709551616 ∧ _
  omega

end Window

namespace Channel

/-- A DWDM channel the slots of which make up its spacing, with a window above zero. -/
structure Recoverable (c : Channel) : Prop where
  grid_eq : c.grid = .dwdm
  slots_eq : c.slots.toNat * slotWidth.toNat = c.spacing.frequency.toNat
  above_zero : c.spacing.frequency.half.toNat ≤ c.center.toNat

variable {c found : Channel}

/-- A center on the axis is the one that the channel is meant to have. -/
theorem toNat_center_of_within (low : 0 ≤ c.centerHertz) (high : c.centerHertz < UInt64.size) :
    (c.center.toNat : Int) = c.centerHertz := by
  have small : c.centerHertz.toNat < UInt64.size := by omega
  rw [center, if_pos ⟨low, high⟩]
  change ((UInt64.ofNat c.centerHertz.toNat).toNat : Int) = _
  rw [UInt64.toNat_ofNat_of_lt' small]
  omega

/-- A center that is not zero lies on the grid. -/
theorem toNat_center (c : Channel) (above : 0 < c.center.toNat) :
    (c.center.toNat : Int) = c.centerHertz := by
  by_cases within : 0 ≤ c.centerHertz ∧ c.centerHertz < UInt64.size
  · exact toNat_center_of_within within.1 within.2
  · rw [center, if_neg within] at above
    exact absurd above (by decide)

/-- What is found in the window around a center. -/
theorem around_eq_ok {center width : Frequency} (supported : Channel.around center width = .ok found) :
    (found.spacing = .ghz50 ∨ found.spacing = .ghz100) ∧
      center.toNat + width.half.toNat < UInt64.size ∧
      found.spacing.frequency.toNat =
        center.toNat + width.half.toNat - (center.toNat - width.half.toNat) ∧
      found = ⟨.dwdm, found.spacing,
        Int32.ofInt (Window.multiplier (Window.around center width).min
          found.spacing.frequency found.spacing),
        UInt32.ofNat (found.spacing.frequency.toNat / slotWidth.toNat)⟩ := by
  obtain ⟨stretch, spacing, between, spaced, rfl⟩ := Window.channel_eq_ok_iff.1 supported
  obtain ⟨wide, rfl⟩ := Window.spacing?_eq_some_iff.1 spaced
  obtain ⟨inside, length⟩ := Window.toNat_of_sub? between
  exact ⟨wide, inside, length, rfl⟩

/-- What is found in a whole window is as wide as the window. -/
theorem spacing_of_around {center width : Frequency}
    (supported : Channel.around center width = .ok found)
    (even : 2 * width.half.toNat = width.toNat) (above : width.half.toNat ≤ center.toNat) :
    found.spacing.frequency = width := by
  obtain ⟨-, -, length, -⟩ := around_eq_ok supported
  apply Frequency.toNat_inj
  omega

/-- A window that reaches below zero is cut off, so that a narrower channel is found in it. -/
theorem spacing_ne_of_around (supported : Channel.around c.center c.width = .ok found)
    (below : c.center.toNat < c.width.half.toNat) : found.spacing ≠ c.spacing := by
  intro same
  obtain ⟨-, -, length, -⟩ := around_eq_ok supported
  have whole := c.spacing.two_mul_half
  rw [width] at length below
  rw [same] at length
  omega

/-- A whole window is that of the channel of the same place and as many slots as the spacing is
    wide. -/
theorem eq_of_around (supported : Channel.around c.center c.width = .ok found)
    (above : c.width.half.toNat ≤ c.center.toNat) :
    found = ⟨.dwdm, c.spacing, c.multiplier,
      UInt32.ofNat (c.spacing.frequency.toNat / slotWidth.toNat)⟩ := by
  obtain ⟨-, -, -, same⟩ := around_eq_ok supported
  have same_spacing : found.spacing = c.spacing :=
    Spacing.frequency_injective (spacing_of_around supported c.spacing.two_mul_half above)
  have positive : 0 < c.width.toNat := by
    rw [width]
    cases c.spacing <;> decide
  have whole : 2 * c.width.half.toNat = c.width.toNat := c.spacing.two_mul_half
  have middle : Window.multiplier (Window.around c.center c.width).min c.width c.spacing =
      c.multiplier.toInt := by
    have on_grid := c.toNat_center (by omega)
    rw [Window.multiplier, Window.toNat_min_around]
    have from_anchor : ((c.center.toNat - c.width.half.toNat : Nat) : Int) + c.width.half.toNat -
        anchorFrequency.toNat = c.multiplier.toInt * c.spacing.frequency.toNat := by
      rw [centerHertz] at on_grid
      omega
    rw [from_anchor]
    refine Int.mul_tdiv_cancel _ ?_
    change (c.width.toNat : Int) ≠ 0
    omega
  rw [same, same_spacing]
  change (⟨_, _, Int32.ofInt (Window.multiplier _ c.width c.spacing), _⟩ : Channel) = _
  rw [middle, Int32.ofInt_toInt]

theorem slots_eq_iff {s : Spacing} (wide : s = .ghz50 ∨ s = .ghz100) {slots : UInt32} :
    UInt32.ofNat (s.frequency.toNat / slotWidth.toNat) = slots ↔
      slots.toNat * slotWidth.toNat = s.frequency.toNat := by
  have slot : slotWidth.toNat = 12500000000 := rfl
  rw [slot, ← UInt32.toNat_inj]
  rcases wide with rfl | rfl
  · change 4 = slots.toNat ↔ slots.toNat * 12500000000 = 50000000000
    omega
  · change 8 = slots.toNat ↔ slots.toNat * 12500000000 = 100000000000
    omega

/-- The recoverable channels are those that are found again in their windows. -/
theorem around_eq_self_iff (supported : Channel.around c.center c.width = .ok found) :
    found = c ↔ c.Recoverable := by
  by_cases above : c.width.half.toNat ≤ c.center.toNat
  · have wide := (around_eq_ok supported).1
    rw [eq_of_around supported above] at wide ⊢
    have slots : UInt32.ofNat (c.spacing.frequency.toNat / slotWidth.toNat) = c.slots ↔ _ :=
      slots_eq_iff wide
    obtain ⟨grid, spacing, multiplier, count⟩ := c
    rw [Channel.mk.injEq]
    constructor
    · rintro ⟨dense, -, -, counted⟩
      exact ⟨dense.symm, slots.1 counted, above⟩
    · rintro ⟨dense, counted, -⟩
      exact ⟨dense.symm, rfl, rfl, slots.2 counted⟩
  · have different := spacing_ne_of_around supported (Nat.lt_of_not_le above)
    refine iff_of_false (fun same => different (congrArg spacing same)) ?_
    intro recoverable
    exact above recoverable.above_zero

end Channel

end Lightpath
