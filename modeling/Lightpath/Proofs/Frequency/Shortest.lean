import Lightpath.Proofs.Frequency.Text

/-!
# The shortest text of a frequency

Of the decimal numbers that read as a frequency, digits on both sides of a point, the one that is
written for it is the shortest, and no other is as short.
-/

namespace Lightpath

namespace Frequency

/-- A decimal number with digits on both sides of the point. -/
def Pointed (text : String) : Prop :=
  ∃ whole fraction, Text.IsRun whole ∧ Text.IsRun fraction ∧
    text.toList = whole ++ '.' :: fraction

variable {f : Frequency} {unit : FrequencyUnit} {whole fraction : List Char}

/-- No run of digits with the same digits but for closing zeros is shorter, and none other is as
    short. -/
theorem length_trimZeros_le {cs ds : List Char} (some_digit : cs ≠ []) (some_digit' : ds ≠ [])
    (same : Text.dropEnd (· = '0') ds = Text.dropEnd (· = '0') cs) :
    (trimZeros cs).length ≤ ds.length ∧
      (ds.length ≤ (trimZeros cs).length → ds = trimZeros cs) := by
  have restored := Text.dropEnd_append_replicate ds
  have positive : 0 < ds.length := List.length_pos_iff.2 some_digit'
  rw [trimZeros_eq some_digit, ← same]
  by_cases gone : Text.dropEnd (· = '0') ds = []
  · rw [if_pos gone]
    refine ⟨positive, fun short => ?_⟩
    have single : ds.length = 1 := Nat.le_antisymm short positive
    rw [gone, single] at restored
    exact restored.symm
  · rw [if_neg gone]
    have front := Text.dropEnd_prefix_self (· = '0') ds
    exact ⟨front.length_le, fun short => (front.eq_of_length_le short).symm⟩

/-- The parts of a number that reads as a frequency, closing zeros set aside. -/
theorem parts_of_readChars? (run : Text.IsRun whole) (digits : Text.allDigits fraction = true)
    (read : readChars? unit (whole ++ '.' :: fraction) = some f.toNat) :
    Text.digitsValue whole = f.whole unit ∧
      Text.dropEnd (· = '0') fraction = Text.dropEnd (· = '0') (f.fraction unit) := by
  obtain ⟨short, -, -, total⟩ := (readChars?_point_eq_some_iff run digits).1 read
  generalize kept_eq : Text.dropEnd (· = '0') fraction = kept at short total
  have kept_digits : Text.allDigits kept = true := kept_eq ▸ Text.allDigits_dropEnd digits
  generalize padded_eq : kept ++ List.replicate (unit.places - kept.length) '0' = padded at total
  have padded_length : padded.length = unit.places := by
    rw [← padded_eq, List.length_append, List.length_replicate]
    omega
  have padded_digits : Text.allDigits padded = true := by
    have zeros : Text.allDigits (List.replicate (unit.places - kept.length) '0') = true := by
      simp [Text.allDigits]
    rw [← padded_eq, Text.allDigits, List.all_append]
    exact Bool.and_eq_true_iff.2 ⟨kept_digits, zeros⟩
  have padded_lt : Text.digitsValue padded < Nat.pow 10 unit.places :=
    padded_length ▸ Text.digitsValue_lt padded_digits
  have weight : 0 < Nat.pow 10 unit.places := Nat.pow_pos (by decide)
  -- the whole part is the quotient by the weight of the unit, the padded fraction the remainder
  have wholes : Text.digitsValue whole = f.whole unit := by
    rw [Frequency.whole, ← total, Nat.mul_comm, Nat.mul_add_div weight,
      Nat.div_eq_of_lt padded_lt, Nat.add_zero]
  have rests : Text.digitsValue padded = Text.digitsValue (f.fraction unit) := by
    rw [digitsValue_fraction, ← total, Nat.mul_comm, Nat.mul_add_mod, Nat.mod_eq_of_lt padded_lt]
  have same : padded = f.fraction unit :=
    Text.digitsValue_inj padded_digits (Text.allDigits_fixedDigits ..)
      (padded_length.trans (Text.length_fixedDigits ..).symm) rests
  refine ⟨wholes, ?_⟩
  rw [← same, ← padded_eq, Text.dropEnd_append_zeros, ← kept_eq, Text.dropEnd_dropEnd]

theorem Pointed.solid {text : String} (pointed : Pointed text) :
    ∀ c ∈ text.toList, Text.isBlank c = false := by
  obtain ⟨whole, fraction, run, run', chars⟩ := pointed
  intro c member
  rw [chars, List.mem_append, List.mem_cons] at member
  rcases member with front | rfl | back
  · exact Text.isBlank_of_isDigit (run.isDigit_of_mem front)
  · decide
  · exact Text.isBlank_of_isDigit (run'.isDigit_of_mem back)

theorem pointed_write (f : Frequency) (unit : FrequencyUnit) : Pointed (f.write unit) :=
  ⟨_, _, Text.isRun_toDigits _, f.isRun_trimZeros_fraction unit, String.toList_ofList⟩

theorem readChars?_of_read {text : String} (solid : ∀ c ∈ text.toList, Text.isBlank c = false)
    (run : Text.IsRun whole) (digits : Text.allDigits fraction = true)
    (chars : text.toList = whole ++ '.' :: fraction) (reads : read unit text = .ok f) :
    readChars? unit (whole ++ '.' :: fraction) = some f.toNat := by
  rw [read, Text.trimChars_of_no_blank solid, chars] at reads
  split at reads
  · next hertz found =>
    cases reads
    have small := ((readChars?_point_eq_some_iff run digits).1 found).2.2.1
    rw [found, toNat, UInt64.toNat_ofNat_of_lt' small]
  · cases reads

/-- No other number that reads as a frequency is as short as the one that is written for it. -/
theorem length_write_lt {text : String} (pointed : Pointed text) (reads : read unit text = .ok f)
    (other : text ≠ f.write unit) : (f.write unit).length < text.length := by
  have solid := pointed.solid
  obtain ⟨whole, fraction, run, run', chars⟩ := pointed
  have read := readChars?_of_read solid run run'.all_digits chars reads
  obtain ⟨wholes, fractions⟩ := parts_of_readChars? run run'.all_digits read
  have whole_length := Text.length_toDigits_le run
  obtain ⟨fraction_length, fraction_eq⟩ :=
    length_trimZeros_le (f.fraction_ne_nil unit) run'.ne_nil fractions
  have text_length : text.length = whole.length + (fraction.length + 1) := by
    rw [← String.length_toList, chars, List.length_append, List.length_cons]
  have written_length : (f.write unit).length =
      (Nat.toDigits 10 (f.whole unit)).length + ((trimZeros (f.fraction unit)).length + 1) := by
    rw [write, String.length_ofList, writeChars_eq, List.length_append, List.length_cons]
  rw [wholes] at whole_length
  by_contra short
  refine other (String.toList_inj.1 ?_)
  have whole_eq : whole = Nat.toDigits 10 (f.whole unit) := by
    rw [← wholes]
    exact Text.eq_toDigits_of_length_le run (by rw [wholes]; omega)
  rw [chars, write, String.toList_ofList, writeChars_eq, ← whole_eq, fraction_eq (by omega)]

/-- What is written for a frequency reads as the frequency, and is the one shortest number with
    digits on both sides of a point that does; so different frequencies are written differently. -/
theorem write_shortest (f : Frequency) (unit : FrequencyUnit) :
    read unit (f.write unit) = .ok f ∧ Pointed (f.write unit) ∧
      (∀ text, Pointed text → read unit text = .ok f → text ≠ f.write unit →
        (f.write unit).length < text.length) ∧
      ∀ g : Frequency, f.write unit = g.write unit ↔ f = g := by
  refine ⟨f.read_write unit, f.pointed_write unit, ?_, fun g => ⟨write_injective unit, ?_⟩⟩
  · intro text pointed reads other
    exact length_write_lt pointed reads other
  · intro same
    rw [same]

/-- Zeros at either end make the text of a frequency longer. -/
theorem write_shortest_of_padded :
    let f : Frequency := .ofTHz 196
    Pointed "0196.00" ∧ read .terahertz "0196.00" = .ok f ∧ "0196.00" ≠ f.write .terahertz ∧
      (f.write .terahertz).length < "0196.00".length := by
  intro f
  have pointed : Pointed "0196.00" :=
    ⟨"0196".toList, "00".toList, by decide, by decide, by decide⟩
  have reads : read .terahertz "0196.00" = .ok f := by decide +kernel
  have other : "0196.00" ≠ f.write .terahertz := by decide +kernel
  exact ⟨pointed, reads, other, (write_shortest f .terahertz).2.2.1 _ pointed reads other⟩

end Frequency

end Lightpath
