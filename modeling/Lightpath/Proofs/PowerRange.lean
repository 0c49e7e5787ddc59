import Lightpath.Document
import Lightpath.PowerRange

/-!
# Powers in a range

A power in a range is a number, and it has figures in a document if the range has two ends.
-/

namespace Lightpath.PowerRange

section Floats

variable {a b x : Float}

theorem compare_of_le (le : a ≤ b) :
    (a.toModel.unpack.compare b.toModel.unpack).any (·.isLE) := by
  have same : Float.le a b = true := le
  unfold Float.le at same
  exact of_decide_eq_true same

/-- What can be compared is a number. -/
theorem not_isNaN_of_le (le : a ≤ b) : b.isNaN = false := by
  have ordered := compare_of_le le
  unfold Float.isNaN Float.Model.isNaN
  cases upper : b.toModel.unpack with
  | notANumber =>
    rw [upper] at ordered
    cases lower : a.toModel.unpack <;> rw [lower] at ordered <;> cases ordered
  | infinity | zero | finite => rfl

/-- What lies between two finite numbers is finite. -/
theorem isFinite_of_le (low : a ≤ x) (high : x ≤ b) (finite : a.isFinite) (finite' : b.isFinite) :
    x.isFinite := by
  have above := compare_of_le low
  have below := compare_of_le high
  unfold Float.isFinite Float.Model.isFinite at *
  cases middle : x.toModel.unpack with
  | zero | finite => rfl
  | notANumber =>
    rw [middle] at above
    cases lower : a.toModel.unpack <;> rw [lower] at above <;> cases above
  | infinity sign =>
    rw [middle] at above below
    cases sign with
    | positive =>
      cases upper : b.toModel.unpack <;> rw [upper] at below finite' <;>
        first | cases below | cases finite'
    | negative =>
      cases lower : a.toModel.unpack <;> rw [lower] at above finite <;>
        first | cases above | cases finite

end Floats

/-- A document says a power of a range: a number, which is written with figures if the range has two
    ends. -/
structure Tells (range : PowerRange) (doc : Document) (dbm : Float) : Prop where
  inRange : range.contains dbm
  written : doc = .number dbm
  number : dbm.isNaN = false
  figures : range.min.isFinite → range.max.isFinite → doc = .float dbm

theorem contains_iff {range : PowerRange} {dbm : Float} :
    range.contains dbm ↔ range.min ≤ dbm ∧ dbm ≤ range.max := by
  simp [contains]

theorem tells_of_contains {range : PowerRange} {dbm : Float} (inRange : range.contains dbm) :
    range.Tells (.number dbm) dbm := by
  obtain ⟨low, high⟩ := contains_iff.1 inRange
  refine ⟨inRange, rfl, not_isNaN_of_le low, fun finite finite' => ?_⟩
  rw [Document.number, if_pos (isFinite_of_le low high finite finite')]

end Lightpath.PowerRange
