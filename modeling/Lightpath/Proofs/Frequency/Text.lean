import Lightpath.Frequency
import Lightpath.Proofs.Text.Runs
import Lightpath.Proofs.Text.Search

/-!
# The text of a frequency

The text that is written for a frequency reads back as the frequency, so that frequencies with one
text are the same. It is made of digits and a point, a digit first.
-/

namespace Lightpath.Frequency

variable (f : Frequency) (unit : FrequencyUnit)

/-- The whole units of a frequency. -/
def whole : Nat := f.toNat / Nat.pow 10 unit.places

/-- The places behind the point, closing zeros included. -/
def fraction : List Char := Text.fixedDigits unit.places (f.toNat % Nat.pow 10 unit.places)

theorem toNat_lt : f.toNat < UInt64.size := f.hz.toNat_lt

theorem toNat_inj {f g : Frequency} (same : f.toNat = g.toNat) : f = g := by
  obtain ⟨hz⟩ := f
  obtain ⟨hz'⟩ := g
  exact congrArg Frequency.mk (UInt64.toNat_inj.1 same)

theorem writeChars_eq :
    f.writeChars unit = Nat.toDigits 10 (f.whole unit) ++ '.' :: trimZeros (f.fraction unit) := rfl

/-- A fraction keeps a zero at its end only if there is nothing else. -/
theorem trimZeros_eq {cs : List Char} (some_digit : cs ≠ []) :
    trimZeros cs = if Text.dropEnd (· = '0') cs = [] then ['0'] else Text.dropEnd (· = '0') cs := by
  cases cs with
  | nil => exact absurd rfl some_digit
  | cons c rest =>
    rw [trimZeros, Text.dropEnd_cons]
    by_cases gone : Text.dropEnd (· = '0') rest = []
    · rw [if_pos gone, gone]
      by_cases zero : c = '0'
      · rw [zero]
        rfl
      · simp [Text.dropEnd, zero]
    · rw [if_neg gone, if_neg (List.cons_ne_nil _ _)]

/-- Only zeros at the end are left out, so that what is dropped when reading is the same. -/
theorem dropEnd_trimZeros (cs : List Char) :
    Text.dropEnd (· = '0') (trimZeros cs) = Text.dropEnd (· = '0') cs := by
  by_cases empty : cs = []
  · rw [empty]
    rfl
  · rw [trimZeros_eq empty]
    by_cases gone : Text.dropEnd (· = '0') cs = []
    · rw [if_pos gone, gone]
      rfl
    · rw [if_neg gone, Text.dropEnd_dropEnd]

theorem fraction_ne_nil : f.fraction unit ≠ [] := by
  refine List.ne_nil_of_length_pos ?_
  rw [fraction, Text.length_fixedDigits]
  cases unit <;> decide

theorem isRun_trimZeros_fraction : Text.IsRun (trimZeros (f.fraction unit)) := by
  rw [trimZeros_eq (f.fraction_ne_nil unit)]
  split
  · decide
  · next kept => exact ⟨kept, Text.allDigits_dropEnd (Text.allDigits_fixedDigits ..)⟩

theorem digitsValue_fraction :
    Text.digitsValue (f.fraction unit) = f.toNat % Nat.pow 10 unit.places :=
  Text.digitsValue_fixedDigits (Nat.mod_lt _ (Nat.pow_pos (by decide)))

variable {unit} in
/-- What is read where a text is cut into a whole part and a fraction. -/
theorem readChars?_eq_some_iff_of_cut {cs whole fraction : List Char} {hertz : Nat}
    (cut : (Text.cutAt? ['.'] cs).getD (cs, []) = (whole, fraction)) :
    let kept := Text.dropEnd (· = '0') fraction
    readChars? unit cs = some hertz ↔
      Text.IsRun whole ∧ Text.allDigits kept = true ∧ kept.length ≤ unit.places ∧
        Text.digitsValue whole < UInt64.size ∧ hertz < UInt64.size ∧
        Text.digitsValue whole * Nat.pow 10 unit.places +
          Text.digitsValue (kept ++ List.replicate (unit.places - kept.length) '0') = hertz := by
  intro kept
  unfold readChars?
  split
  next whole' fraction' parts =>
  obtain ⟨rfl, rfl⟩ : whole' = whole ∧ fraction' = fraction := by
    rw [← Prod.mk.injEq, ← parts, ← cut]
    cases Text.cutAt? ['.'] cs <;> rfl
  dsimp only
  constructor
  · intro read
    split at read
    · cases read
    · next units found =>
      obtain ⟨run, rfl⟩ := Text.natural?_eq_some_iff.1 found
      split at read
      · next fits =>
        split at read
        · next small =>
          obtain rfl := Option.some.inj read
          exact ⟨run, fits.1, fits.2.1, fits.2.2, small, rfl⟩
        · cases read
      · cases read
  · rintro ⟨run, digits, short, whole_small, small, rfl⟩
    rw [Text.natural?_eq_some_iff.2 ⟨run, rfl⟩]
    dsimp only
    rw [if_pos ⟨digits, short, whole_small⟩, if_pos small]

variable {unit} in
/-- What a whole part and a fraction are read as. -/
theorem readChars?_point_eq_some_iff {whole fraction : List Char} {hertz : Nat}
    (run : Text.IsRun whole) (digits : Text.allDigits fraction = true) :
    let kept := Text.dropEnd (· = '0') fraction
    readChars? unit (whole ++ '.' :: fraction) = some hertz ↔
      kept.length ≤ unit.places ∧ Text.digitsValue whole < UInt64.size ∧ hertz < UInt64.size ∧
        Text.digitsValue whole * Nat.pow 10 unit.places +
          Text.digitsValue (kept ++ List.replicate (unit.places - kept.length) '0') = hertz := by
  intro kept
  have cut : (Text.cutAt? ['.'] (whole ++ '.' :: fraction)).getD (whole ++ '.' :: fraction, []) =
      (whole, fraction) := by
    rw [Text.cutAt?_of_notMem (run.notMem (by decide))]
    rfl
  refine (readChars?_eq_some_iff_of_cut cut).trans ?_
  constructor
  · exact fun read => read.2.2
  · exact fun read => ⟨run, Text.allDigits_dropEnd digits, read⟩

/-- What is written for a frequency reads back. -/
theorem readChars?_writeChars : readChars? unit (f.writeChars unit) = some f.toNat := by
  have full : (f.fraction unit).length = unit.places := Text.length_fixedDigits ..
  have front := Text.dropEnd_prefix_self (· = '0') (f.fraction unit)
  have restored := Text.dropEnd_append_replicate (f.fraction unit)
  have small : f.whole unit < UInt64.size := Nat.lt_of_le_of_lt (Nat.div_le_self ..) f.toNat_lt
  have total : f.whole unit * Nat.pow 10 unit.places + f.toNat % Nat.pow 10 unit.places = f.toNat :=
    Nat.div_add_mod' ..
  rw [full] at restored
  refine (readChars?_point_eq_some_iff (Text.isRun_toDigits _)
    (f.isRun_trimZeros_fraction unit).all_digits).2 ?_
  rw [dropEnd_trimZeros, Text.digitsValue_toDigits, restored, digitsValue_fraction]
  exact ⟨full ▸ front.length_le, small, f.toNat_lt, total⟩

theorem write_injective {f g : Frequency} (same : f.write unit = g.write unit) : f = g := by
  have chars : f.writeChars unit = g.writeChars unit := String.ofList_inj.1 same
  have read := congrArg (readChars? unit) chars
  rw [readChars?_writeChars, readChars?_writeChars] at read
  exact toNat_inj (Option.some.inj read)

theorem isDigit_or_eq_point_of_mem {c : Char} (member : c ∈ f.writeChars unit) :
    c.isDigit = true ∨ c = '.' := by
  rw [writeChars_eq, List.mem_append, List.mem_cons] at member
  rcases member with front | rfl | back
  · exact .inl (Text.isDigit_of_mem_toDigits front)
  · exact .inr rfl
  · exact .inl ((f.isRun_trimZeros_fraction unit).isDigit_of_mem back)

theorem read_write : read unit (f.write unit) = .ok f := by
  have solid : ∀ c ∈ f.writeChars unit, Text.isBlank c = false := by
    intro c member
    rcases f.isDigit_or_eq_point_of_mem unit member with digit | rfl
    · exact Text.isBlank_of_isDigit digit
    · decide
  have word : UInt64.ofNat f.toNat = f.hz := UInt64.ofNat_toNat
  rw [read, write, String.toList_ofList, Text.trimChars_of_no_blank solid, readChars?_writeChars]
  dsimp only
  rw [word]

theorem exists_digit_cons : ∃ d rest, f.writeChars unit = d :: rest ∧ d.isDigit = true := by
  cases digits : Nat.toDigits 10 (f.whole unit) with
  | nil => exact absurd digits (List.ne_nil_of_length_pos Nat.length_toDigits_pos)
  | cons d rest =>
    have member : d ∈ Nat.toDigits 10 (f.whole unit) := digits ▸ List.mem_cons_self
    refine ⟨d, _, by rw [writeChars_eq, digits, List.cons_append], ?_⟩
    exact Text.isDigit_of_mem_toDigits member

end Lightpath.Frequency
