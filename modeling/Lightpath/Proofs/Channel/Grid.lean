import Lightpath.Proofs.Channel.Window

/-!
# Centers and the grid

A channel of 50 or 100 GHz around any center has a place on the grid if its window lies on the
axis. The place is a whole number of spacings away from the anchor; a center between two places
is moved toward the anchor, so that a center is kept exactly if it is a place of the grid.
-/

namespace Lightpath

namespace Spacing

/-- The window of the spacing around a center, counted in hertz, lies on the axis. -/
def Fits (s : Spacing) (center : Int) : Prop :=
  s.frequency.half.toNat ≤ center ∧ center + s.frequency.half.toNat < UInt64.size

instance (s : Spacing) (center : Int) : Decidable (s.Fits center) :=
  inferInstanceAs (Decidable (_ ∧ _))

/-- The whole spacings that lie between the anchor and a center. -/
def placeOf (s : Spacing) (center : Frequency) : Int :=
  ((center.toNat : Int) - anchorFrequency.toNat).tdiv s.frequency.toNat

/-- The channel of the grid that is found for a center. -/
def placed (s : Spacing) (center : Frequency) : Channel := .dwdm s (Int32.ofInt (s.placeOf center))

end Spacing

/-- The place of the grid to which a center is moved: the last one on the way to it from the
    anchor. -/
structure Landing (center width landed : Frequency) : Prop where
  on_grid : (width.toNat : Int) ∣ landed.toNat - anchorFrequency.toNat
  from_below : min anchorFrequency.toNat center.toNat ≤ landed.toNat
  from_above : landed.toNat ≤ max anchorFrequency.toNat center.toNat
  near : ((center.toNat : Int) - landed.toNat).natAbs < width.toNat

theorem Landing.eq_iff {center width landed : Frequency} (landing : Landing center width landed) :
    landed = center ↔ (width.toNat : Int) ∣ center.toNat - anchorFrequency.toNat := by
  constructor
  · rintro rfl
    exact landing.on_grid
  · intro on_grid
    have apart : (width.toNat : Int) ∣ center.toNat - landed.toNat := by
      have difference := Int.dvd_sub on_grid landing.on_grid
      rwa [show (center.toNat : Int) - anchorFrequency.toNat -
        (landed.toNat - anchorFrequency.toNat) = center.toNat - landed.toNat by omega] at difference
    have none : (center.toNat : Int) - landed.toNat = 0 :=
      Int.eq_zero_of_dvd_of_natAbs_lt_natAbs apart landing.near
    apply Frequency.toNat_inj
    omega

/-- The channel that is found for a center: it is as wide as the spacing, its place fits the word
    in which it is kept, and its center leads to it again. -/
structure Channel.Places (s : Spacing) (center : Frequency) (found : Channel) : Prop where
  spacing_eq : found.spacing = s
  slotsWidth_eq : found.slotsWidth = s.frequency
  place_within :
    Int32.minValue.toInt ≤ Window.multiplier (Window.around center s.frequency).min s.frequency s ∧
      Window.multiplier (Window.around center s.frequency).min s.frequency s ≤ Int32.maxValue.toInt
  multiplier_eq : found.multiplier.toInt =
    Window.multiplier (Window.around center s.frequency).min s.frequency s
  landing : Landing center s.frequency found.center
  center_eq_iff : found.center = center ↔
    (s.frequency.toNat : Int) ∣ center.toNat - anchorFrequency.toNat
  around_center : Channel.around found.center s.frequency = .ok found

/-- A quotient that is cut off toward zero reaches toward the dividend, and ends less than the
    divisor short of it. -/
theorem tdiv_mul_reaches (x : Int) {w : Int} (positive : 0 < w) :
    min 0 x ≤ x.tdiv w * w ∧ x.tdiv w * w ≤ max 0 x ∧ (x - x.tdiv w * w).natAbs < w.natAbs := by
  have whole := Int.tdiv_mul_add_tmod x w
  have rest := Int.natAbs_tmod x w
  have small : x.natAbs % w.natAbs < w.natAbs := Nat.mod_lt _ (by omega)
  have less : x.natAbs % w.natAbs ≤ x.natAbs := Nat.mod_le ..
  rcases Int.le_total 0 x with up | down
  · have same_side := Int.tmod_nonneg w up
    omega
  · have same_side := Int.tmod_nonneg w (Int.neg_nonneg_of_nonpos down)
    rw [Int.neg_tmod] at same_side
    omega

section Wide

variable {s : Spacing} {center : Frequency} (wide : s = .ghz50 ∨ s = .ghz100)

include wide

theorem Spacing.frequency_pos : (0 : Int) < s.frequency.toNat := by
  rcases wide with rfl | rfl <;> decide

/-- No place on the axis is too far from the anchor for a word of 32 bits. -/
theorem Spacing.placeOf_within (center : Frequency) :
    Int32.minValue.toInt ≤ s.placeOf center ∧ s.placeOf center ≤ Int32.maxValue.toInt := by
  have word := center.toNat_lt
  have anchor : (anchorFrequency.toNat : Int) = 193100000000000 := rfl
  change _ < 18446744073709551616 at word
  rw [placeOf, anchor]
  rcases wide with rfl | rfl
  · obtain ⟨low, high, -⟩ :=
      tdiv_mul_reaches ((center.toNat : Int) - 193100000000000) (w := 50000000000) (by decide)
    change -2147483648 ≤ Int.tdiv _ 50000000000 ∧ Int.tdiv _ 50000000000 ≤ 2147483647
    omega
  · obtain ⟨low, high, -⟩ :=
      tdiv_mul_reaches ((center.toNat : Int) - 193100000000000) (w := 100000000000) (by decide)
    change -2147483648 ≤ Int.tdiv _ 100000000000 ∧ Int.tdiv _ 100000000000 ≤ 2147483647
    omega

theorem Spacing.toInt_multiplier_placed (center : Frequency) :
    (s.placed center).multiplier.toInt = s.placeOf center := by
  obtain ⟨low, high⟩ := placeOf_within wide center
  exact Int32.toInt_ofInt_of_le low (Int.lt_add_one_of_le high)

namespace Channel

omit wide in
theorem centerHertz_dwdm (s : Spacing) (m : Int32) :
    (dwdm s m).centerHertz = anchorFrequency.toNat + m.toInt * s.frequency.toNat := rfl

theorem centerHertz_placed (center : Frequency) :
    (s.placed center).centerHertz = anchorFrequency.toNat + s.placeOf center * s.frequency.toNat := by
  rw [← Spacing.toInt_multiplier_placed wide]
  rfl

theorem slotsWidth_dwdm (m : Int32) : (dwdm s m).slotsWidth = s.frequency := by
  change Frequency.mk ((UInt32.ofNat (slotsOf s)).toUInt64 * slotWidth.hz) = s.frequency
  rcases wide with rfl | rfl <;> decide

omit wide in
theorem multiplier_around (low : s.frequency.half.toNat ≤ center.toNat) :
    Window.multiplier (Window.around center s.frequency).min s.frequency s = s.placeOf center := by
  have lower := Window.toNat_min_around center s.frequency
  have middle : ((Window.around center s.frequency).min.toNat : Int) +
      s.frequency.half.toNat = center.toNat := by omega
  rw [Window.multiplier, middle]
  rfl

/-- A channel of 50 or 100 GHz that lies on the axis has a place on the grid. -/
theorem around_of_fits (fits : s.Fits center.toNat) :
    Channel.around center s.frequency = .ok (s.placed center) := by
  obtain ⟨low, high⟩ := fits
  have whole := s.two_mul_half
  have lower := Window.toNat_min_around center s.frequency
  have upper : (Window.around center s.frequency).max.toNat =
      center.toNat + s.frequency.half.toNat := Window.toNat_max_around (by omega)
  have stretch : (Window.around center s.frequency).max.sub?
      (Window.around center s.frequency).min = some s.frequency :=
    Frequency.sub?_eq_some_iff.2 (by omega)
  have slots : s.frequency.toNat / slotWidth.toNat = slotsOf s := by
    rcases wide with rfl | rfl <;> rfl
  refine Window.channel_eq_ok_iff.2
    ⟨s.frequency, s, stretch, Window.spacing?_eq_some_iff.2 ⟨wide, rfl⟩, ?_⟩
  rw [multiplier_around (by omega), slots]
  rfl

/-- A place of the grid is found again from its center. -/
theorem around_dwdm {m : Int32} (fits : s.Fits (dwdm s m).centerHertz) :
    Channel.around (dwdm s m).center s.frequency = .ok (dwdm s m) := by
  have on_axis : ((dwdm s m).center.toNat : Int) = (dwdm s m).centerHertz := by
    obtain ⟨low, high⟩ := fits
    apply toNat_center_of_within <;> omega
  have place : s.placeOf (dwdm s m).center = m.toInt := by
    rw [Spacing.placeOf, on_axis, centerHertz_dwdm, Int.add_comm, Int.add_sub_cancel]
    exact Int.mul_tdiv_cancel _ (Int.ne_of_gt (Spacing.frequency_pos wide))
  rw [around_of_fits wide (on_axis ▸ fits), Spacing.placed, place, Int32.ofInt_toInt]

/-- The channel that is found for a center lies on the axis as well: it is between the center and
    the anchor. -/
theorem fits_placed (fits : s.Fits center.toNat) : s.Fits (s.placed center).centerHertz := by
  obtain ⟨low, high⟩ := fits
  have size : (UInt64.size : Int) = 18446744073709551616 := rfl
  have anchor : (anchorFrequency.toNat : Int) = 193100000000000 := rfl
  have narrow : s.frequency.half.toNat ≤ 50000000000 := by
    rcases wide with rfl | rfl <;> decide
  obtain ⟨below, above, -⟩ :=
    tdiv_mul_reaches ((center.toNat : Int) - anchorFrequency.toNat) (Spacing.frequency_pos wide)
  rw [centerHertz_placed wide, Spacing.placeOf, Spacing.Fits]
  omega

theorem landing_placed (fits : s.Fits center.toNat) :
    Landing center s.frequency (s.placed center).center := by
  obtain ⟨below, above, near⟩ :=
    tdiv_mul_reaches ((center.toNat : Int) - anchorFrequency.toNat) (Spacing.frequency_pos wide)
  have on_axis : ((s.placed center).center.toNat : Int) =
      anchorFrequency.toNat + s.placeOf center * s.frequency.toNat := by
    obtain ⟨low, high⟩ := fits_placed wide fits
    rw [toNat_center_of_within (by omega) (by omega), centerHertz_placed wide]
  rw [← Spacing.placeOf] at below above near
  refine ⟨⟨s.placeOf center, ?_⟩, ?_, ?_, ?_⟩
  · rw [on_axis, Int.mul_comm]
    omega
  all_goals omega

theorem places_placed (fits : s.Fits center.toNat) : Places s center (s.placed center) := by
  have low : s.frequency.half.toNat ≤ center.toNat := by
    have reach := fits.1
    omega
  have landing := landing_placed wide fits
  refine ⟨rfl, slotsWidth_dwdm wide _, ?_, ?_, landing, landing.eq_iff, ?_⟩
  · rw [multiplier_around low]
    exact Spacing.placeOf_within wide center
  · rw [multiplier_around low, Spacing.toInt_multiplier_placed wide]
  · exact around_dwdm wide (fits_placed wide fits)

/-- Every center around which a channel of 50 or 100 GHz lies on the axis has its place on the
    grid, a higher center no lower one, and every place is that of its own center. -/
theorem around_places :
    (∀ center : Frequency, s.Fits center.toNat →
      ∃ found, Channel.around center s.frequency = .ok found ∧ Places s center found) ∧
    (∀ (center center' : Frequency) (found found' : Channel),
      s.Fits center.toNat → s.Fits center'.toNat → center.toNat ≤ center'.toNat →
        Channel.around center s.frequency = .ok found →
          Channel.around center' s.frequency = .ok found' →
            found.multiplier.toInt ≤ found'.multiplier.toInt) ∧
    ∀ m : Int32, s.Fits (dwdm s m).centerHertz →
      Channel.around (dwdm s m).center s.frequency = .ok (dwdm s m) := by
  refine ⟨?_, ?_, fun m => around_dwdm wide⟩
  · intro center fits
    exact ⟨_, around_of_fits wide fits, places_placed wide fits⟩
  · intro center center' found found' fits fits' higher there there'
    rw [around_of_fits wide fits] at there
    rw [around_of_fits wide fits'] at there'
    cases there
    cases there'
    rw [Spacing.toInt_multiplier_placed wide, Spacing.toInt_multiplier_placed wide]
    apply Int.tdiv_le_tdiv (Spacing.frequency_pos wide)
    omega

end Channel

end Wide

namespace Channel

/-- A center half-way below the anchor is moved up to it, and the lowest channel on the axis is
    found again. -/
theorem around_places_of_half_way :
    let s := Spacing.ghz50
    let below : Frequency := ⟨193075000000000⟩
    let above : Frequency := ⟨193125000000000⟩
    let lowest := dwdm s (-3861)
    (s = .ghz50 ∨ s = .ghz100) ∧ s.Fits below.toNat ∧ s.Fits above.toNat ∧
      s.Fits lowest.centerHertz ∧ Channel.around lowest.center s.frequency = .ok lowest ∧
        ∃ found found', Channel.around below s.frequency = .ok found ∧ Places s below found ∧
          found.center = anchorFrequency ∧ Channel.around above s.frequency = .ok found' ∧
            found.multiplier.toInt ≤ found'.multiplier.toInt := by
  intro s below above lowest
  have wide : s = .ghz50 ∨ s = .ghz100 := .inl rfl
  have fits : s.Fits below.toNat := by decide
  have fits' : s.Fits above.toNat := by decide
  have lowest_fits : s.Fits lowest.centerHertz := by decide
  obtain ⟨placed, ascending, again⟩ := around_places wide
  obtain ⟨found, there, places⟩ := placed below fits
  obtain ⟨found', there', -⟩ := placed above fits'
  have anchored : Channel.around below s.frequency = .ok (dwdm s 0) := by decide +kernel
  have ordered := ascending below above found found' fits fits' (by decide) there there'
  refine ⟨wide, fits, fits', lowest_fits, again _ lowest_fits, found, found', there, places, ?_,
    there', ordered⟩
  rw [anchored] at there
  cases there
  decide

end Channel

end Lightpath
