import Lightpath.Proofs.Frequency.Text
import Lightpath.Proofs.Text.Ends

/-!
# How frequencies may be spelled

The texts that read as a frequency are the decimal numbers of units that come to a whole number of
hertz in a word, with white space around them or none. A point may end the number but not begin it,
zeros that close the fraction do not count, and nothing else stands in the text.
-/

namespace Lightpath.Frequency

/-- A decimal number by its digits. -/
structure Spelling where
  whole : List Char
  /-- What stands behind the point, if there is a point. -/
  fraction : Option (List Char)
deriving DecidableEq

namespace Spelling

/-- The digits behind the point; there are none without a point. -/
def decimals (s : Spelling) : List Char := s.fraction.getD []

/-- The characters of the number. -/
def chars (s : Spelling) : List Char :=
  match s.fraction with
  | some decimals => s.whole ++ '.' :: decimals
  | none => s.whole

/-- A text is this number, white space around it apart. -/
structure Spells (s : Spelling) (text : String) : Prop where
  run : Text.IsRun s.whole
  digits : Text.allDigits s.decimals = true
  trimmed : Text.Trimmed text.toList s.chars

/-- A number of units comes to a frequency. The whole part has to fit a word by itself. -/
structure ComesTo (s : Spelling) (unit : FrequencyUnit) (f : Frequency) : Prop where
  small : Text.digitsValue s.whole < UInt64.size
  hertz : ∃ kept, Text.Stripped s.decimals kept ∧ kept.length ≤ unit.places ∧
    Text.digitsValue s.whole * Nat.pow 10 unit.places +
      Text.digitsValue kept * Nat.pow 10 (unit.places - kept.length) = f.toNat

variable {s : Spelling} {cs whole fraction : List Char}

/-- A number is cut where its point stands. -/
theorem cut_chars (run : Text.IsRun s.whole) :
    (Text.cutAt? ['.'] s.chars).getD (s.chars, []) = (s.whole, s.decimals) := by
  have unpointed : '.' ∉ s.whole := run.notMem (by decide)
  obtain ⟨whole, fraction⟩ := s
  cases fraction with
  | some decimals =>
    rw [chars, Text.cutAt?_of_notMem unpointed]
    rfl
  | none =>
    rw [chars, Text.cutAt?_eq_none_of_notMem unpointed]
    rfl

/-- Whatever a text is cut into spells the text again. -/
theorem exists_of_cut (cs : List Char)
    (cut : (Text.cutAt? ['.'] cs).getD (cs, []) = (whole, fraction)) :
    ∃ s : Spelling, s.chars = cs ∧ s.whole = whole ∧ s.decimals = fraction := by
  cases found : Text.cutAt? ['.'] cs with
  | some parts =>
    rw [found] at cut
    obtain rfl : parts = (whole, fraction) := cut
    obtain ⟨rfl, -⟩ := Text.not_infix_of_cutAt? (List.cons_ne_nil _ _) found
    exact ⟨⟨whole, some fraction⟩, rfl, rfl, rfl⟩
  | none =>
    rw [found] at cut
    obtain ⟨rfl, rfl⟩ := Prod.mk.inj cut
    exact ⟨⟨cs, none⟩, rfl, rfl, rfl⟩

end Spelling

variable {unit : FrequencyUnit} {text : String} {f : Frequency}

/-- What is read of characters is what the number that they spell comes to. -/
theorem readChars?_eq_some_toNat_iff {cs : List Char} :
    readChars? unit cs = some f.toNat ↔
      ∃ s : Spelling, s.chars = cs ∧ Text.IsRun s.whole ∧ Text.allDigits s.decimals = true ∧
        s.ComesTo unit f := by
  constructor
  · intro read
    obtain ⟨s, rfl, wholes, fractions⟩ := Spelling.exists_of_cut cs rfl
    obtain ⟨run, digits, short, small, -, total⟩ := (readChars?_eq_some_iff_of_cut rfl).1 read
    rw [← wholes] at run small total
    rw [← fractions] at digits short total
    rw [Text.digitsValue_append_zeros] at total
    refine ⟨s, rfl, run, Text.allDigits_of_dropEnd_zeros digits, small, _,
      Text.dropEnd_zeros_eq_iff.1 rfl, short, total⟩
  · rintro ⟨s, rfl, run, digits, small, kept, stripped, short, total⟩
    obtain rfl := Text.dropEnd_zeros_eq_iff.2 stripped
    refine (readChars?_eq_some_iff_of_cut (Spelling.cut_chars run)).2
      ⟨run, Text.allDigits_dropEnd digits, short, small, f.toNat_lt, ?_⟩
    rwa [Text.digitsValue_append_zeros]

theorem read_eq_ok_iff_readChars? :
    read unit text = .ok f ↔ readChars? unit (Text.trimChars text.toList) = some f.toNat := by
  rw [read]
  split
  · next hertz found =>
    have small : hertz < UInt64.size := by
      obtain ⟨-, -, -, -, small, -⟩ := (readChars?_eq_some_iff_of_cut rfl).1 found
      exact small
    rw [found, Except.ok.injEq, Option.some.injEq]
    constructor
    · rintro rfl
      exact (UInt64.toNat_ofNat_of_lt' small).symm
    · rintro rfl
      exact congrArg Frequency.mk UInt64.ofNat_toNat
  · next missing =>
    rw [missing]
    exact iff_of_false (by simp) (by simp)

/-- A refusal keeps the text as it was given. -/
theorem eq_invalidFrequency_of_read {e : ParseError} (refused : read unit text = .error e) :
    e = .invalidFrequency text := by
  rw [read] at refused
  split at refused
  · cases refused
  · exact (Except.error.inj refused).symm

/-- A text reads as a frequency exactly if it spells a number of units that comes to it. A text that
    spells no such number is refused, and the refusal keeps it as it was given. -/
theorem read_eq_ok_iff_spells (unit : FrequencyUnit) (text : String) :
    (∀ f : Frequency, read unit text = .ok f ↔
      ∃ s : Spelling, s.Spells text ∧ s.ComesTo unit f) ∧
    ∀ e : ParseError, read unit text = .error e ↔
      e = .invalidFrequency text ∧
        ¬ ∃ (s : Spelling) (f : Frequency), s.Spells text ∧ s.ComesTo unit f := by
  have accepted (f : Frequency) : read unit text = .ok f ↔
      ∃ s : Spelling, s.Spells text ∧ s.ComesTo unit f := by
    rw [read_eq_ok_iff_readChars?, readChars?_eq_some_toNat_iff]
    refine exists_congr fun s => ?_
    constructor
    · rintro ⟨chars, run, digits, comesTo⟩
      exact ⟨⟨run, digits, Text.trimChars_eq_iff.1 chars.symm⟩, comesTo⟩
    · rintro ⟨⟨run, digits, trimmed⟩, comesTo⟩
      exact ⟨(Text.trimChars_eq_iff.2 trimmed).symm, run, digits, comesTo⟩
  refine ⟨accepted, fun e => ?_⟩
  constructor
  · intro refused
    refine ⟨eq_invalidFrequency_of_read refused, ?_⟩
    rintro ⟨s, f, spells, comesTo⟩
    rw [(accepted f).2 ⟨s, spells, comesTo⟩] at refused
    cases refused
  · rintro ⟨rfl, unspelled⟩
    cases ended : read unit text with
    | ok f =>
      obtain ⟨s, spells, comesTo⟩ := (accepted f).1 ended
      exact absurd ⟨s, f, spells, comesTo⟩ unspelled
    | error e => rw [eq_invalidFrequency_of_read ended]

/-- Zeros that close a fraction do not count as places; a point alone does not make a whole part. -/
example : read .terahertz " 196.0000000000000\u3000" = .ok (.ofTHz 196) ∧
    read .terahertz ".5" = .error (.invalidFrequency ".5") := by decide +kernel

end Lightpath.Frequency
