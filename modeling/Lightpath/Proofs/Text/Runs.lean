import Lightpath.Proofs.Text.Digits

/-!
# Runs of digits

A run of digits is told by its length and the number that it writes. The digits of a number are the
shortest run that writes it, and the only one without a zero in front that could be left out.
-/

namespace Lightpath.Text

/-- A run of digits, one at least. -/
structure IsRun (cs : List Char) : Prop where
  ne_nil : cs ≠ []
  all_digits : allDigits cs = true

instance (cs : List Char) : Decidable (IsRun cs) :=
  decidable_of_iff (cs ≠ [] ∧ allDigits cs = true)
    ⟨fun ⟨some_digit, digits⟩ => ⟨some_digit, digits⟩, fun run => ⟨run.ne_nil, run.all_digits⟩⟩

/-- Nothing begins with a zero but the zero itself. -/
def Unpadded (cs : List Char) : Prop := cs.head? = some '0' → cs.length ≤ 1

instance (cs : List Char) : Decidable (Unpadded cs) := inferInstanceAs (Decidable (_ → _))

variable {cs ds : List Char}

theorem IsRun.isDigit_of_mem (run : IsRun cs) {c : Char} (member : c ∈ cs) : c.isDigit = true :=
  List.all_eq_true.1 run.all_digits c member

/-- What is no digit stands in no run. -/
theorem IsRun.notMem (run : IsRun cs) {c : Char} (other : c.isDigit = false) : c ∉ cs := fun member =>
  Bool.false_ne_true (other.symm.trans (run.isDigit_of_mem member))

theorem IsRun.take (run : IsRun cs) {count : Nat} (some_digit : count ≠ 0) :
    IsRun (cs.take count) := by
  refine ⟨fun none => ?_, List.all_eq_true.2 fun c member => ?_⟩
  · rcases List.take_eq_nil_iff.1 none with zero | empty
    · exact some_digit zero
    · exact run.ne_nil empty
  · exact run.isDigit_of_mem (List.mem_of_mem_take member)

theorem IsRun.drop (run : IsRun cs) {count : Nat} (more : cs.drop count ≠ []) :
    IsRun (cs.drop count) :=
  ⟨more, List.all_eq_true.2 fun _ member => run.isDigit_of_mem (List.mem_of_mem_drop member)⟩

theorem natural?_eq_some_iff {n : Nat} : natural? cs = some n ↔ IsRun cs ∧ digitsValue cs = n := by
  rw [natural?]
  by_cases run : IsRun cs
  · simp [run, run.ne_nil, run.all_digits]
  · have refused : (cs.isEmpty || !allDigits cs) = true := by
      by_cases empty : cs = []
      · simp [empty]
      · have other : allDigits cs ≠ true := fun digits => run ⟨empty, digits⟩
        simp [other]
    simp [run, refused]

theorem isRun_toDigits (n : Nat) : IsRun (Nat.toDigits 10 n) :=
  ⟨List.ne_nil_of_length_pos Nat.length_toDigits_pos, allDigits_toDigits n⟩

theorem digitValue_lt_ten {c : Char} (digit : c.isDigit = true) : digitValue c < 10 := by
  obtain ⟨low, high⟩ := Char.isDigit_iff_toNat.1 digit
  have zero : '0'.toNat = 48 := rfl
  have nine : '9'.toNat = 57 := rfl
  rw [digitValue]
  omega

theorem digitValue_inj {c d : Char} (digit : c.isDigit = true) (digit' : d.isDigit = true)
    (same : digitValue c = digitValue d) : c = d := by
  have low := (Char.isDigit_iff_toNat.1 digit).1
  have low' := (Char.isDigit_iff_toNat.1 digit').1
  rw [digitValue, digitValue] at same
  have code : c.toNat = d.toNat := by omega
  exact Char.ext (UInt32.toNat_inj.1 code)

theorem digitsValue_cons (c : Char) (cs : List Char) :
    digitsValue (c :: cs) = Nat.pow 10 cs.length * digitValue c + digitsValue cs := by
  have moved : digitsValue (c :: cs) = Nat.ofDigitChars 10 cs (digitValue c) := by
    rw [Nat.ofDigitChars_eq_foldl, digitsValue, List.foldl_cons, Nat.mul_zero, Nat.zero_add]
    rfl
  rw [moved, Nat.ofDigitChars_eq_ofDigitChars_zero]
  rfl

theorem digitsValue_lt (digits : allDigits cs = true) : digitsValue cs < Nat.pow 10 cs.length := by
  induction cs with
  | nil => decide
  | cons c cs ih =>
    rw [allDigits, List.all_cons, Bool.and_eq_true] at digits
    have first := digitValue_lt_ten digits.1
    have others := ih digits.2
    rw [digitsValue_cons, List.length_cons]
    calc Nat.pow 10 cs.length * digitValue c + digitsValue cs
        < Nat.pow 10 cs.length * digitValue c + Nat.pow 10 cs.length := Nat.add_lt_add_left others _
      _ = Nat.pow 10 cs.length * (digitValue c + 1) := (Nat.mul_succ ..).symm
      _ ≤ Nat.pow 10 cs.length * 10 := Nat.mul_le_mul_left _ first
      _ = Nat.pow 10 (cs.length + 1) := (Nat.pow_succ ..).symm

/-- Runs of one length that write one number are the same. -/
theorem digitsValue_inj (digits : allDigits cs = true) (digits' : allDigits ds = true)
    (length_eq : cs.length = ds.length) (same : digitsValue cs = digitsValue ds) : cs = ds := by
  induction cs generalizing ds with
  | nil => exact (List.length_eq_zero_iff.1 length_eq.symm).symm
  | cons c cs ih =>
    cases ds with
    | nil => cases length_eq
    | cons d ds =>
      rw [allDigits, List.all_cons, Bool.and_eq_true] at digits digits'
      have rest_length : cs.length = ds.length := Nat.succ.inj length_eq
      have rest_lt := digitsValue_lt digits.2
      have rest_lt' := digitsValue_lt digits'.2
      rw [digitsValue_cons, digitsValue_cons, rest_length] at same
      rw [rest_length] at rest_lt
      -- the first digit is the quotient by the weight of its place, the rest is the remainder
      have first : digitValue c = digitValue d := by
        have weight : 0 < Nat.pow 10 ds.length := Nat.pow_pos (by decide)
        have quotient := congrArg (· / Nat.pow 10 ds.length) same
        rwa [Nat.mul_add_div weight, Nat.mul_add_div weight, Nat.div_eq_of_lt rest_lt,
          Nat.div_eq_of_lt rest_lt', Nat.add_zero, Nat.add_zero] at quotient
      have others : digitsValue cs = digitsValue ds := by
        rw [first] at same
        exact Nat.add_left_cancel same
      rw [digitValue_inj digits.1 digits'.1 first, ih digits.2 digits'.2 rest_length others]

/-- No run that writes a number is shorter than the digits of the number. -/
theorem length_toDigits_le (run : IsRun cs) :
    (Nat.toDigits 10 (digitsValue cs)).length ≤ cs.length :=
  (Nat.length_toDigits_le_iff (by decide) (List.length_pos_iff.2 run.ne_nil)).2
    (digitsValue_lt run.all_digits)

/-- A run no longer than the digits of what it writes is made of these digits. -/
theorem eq_toDigits_of_length_le (run : IsRun cs)
    (short : cs.length ≤ (Nat.toDigits 10 (digitsValue cs)).length) :
    cs = Nat.toDigits 10 (digitsValue cs) :=
  digitsValue_inj run.all_digits (allDigits_toDigits _)
    (Nat.le_antisymm short (length_toDigits_le run)) (digitsValue_toDigits _).symm

/-- A run without a zero in front is made of the digits of what it writes. -/
theorem Unpadded.eq_toDigits (unpadded : Unpadded cs) (run : IsRun cs) :
    cs = Nat.toDigits 10 (digitsValue cs) := by
  refine eq_toDigits_of_length_le run ?_
  cases cs with
  | nil => exact absurd rfl run.ne_nil
  | cons c rest =>
    by_cases single : rest = []
    · rw [single]
      exact Nat.length_toDigits_pos
    · have some_rest : 0 < rest.length := List.length_pos_iff.2 single
      have first_digit : c.isDigit = true := run.isDigit_of_mem List.mem_cons_self
      have first : digitValue c ≠ 0 := by
        intro none
        have zero : c = '0' := digitValue_inj first_digit (by decide) none
        have short := unpadded (congrArg some zero)
        rw [List.length_cons] at short
        omega
      have large : Nat.pow 10 rest.length ≤ digitsValue (c :: rest) := by
        rw [digitsValue_cons]
        calc Nat.pow 10 rest.length
            ≤ Nat.pow 10 rest.length * digitValue c := Nat.le_mul_of_pos_right _ (Nat.pos_of_ne_zero first)
          _ ≤ Nat.pow 10 rest.length * digitValue c + digitsValue rest := Nat.le_add_right ..
      by_contra longer
      have fewer : (Nat.toDigits 10 (digitsValue (c :: rest))).length ≤ rest.length := by
        rw [List.length_cons] at longer
        omega
      have small : digitsValue (c :: rest) < Nat.pow 10 rest.length :=
        (Nat.length_toDigits_le_iff (by decide) some_rest).1 fewer
      omega

/-- The digits of a number have no zero in front that could be left out. -/
theorem unpadded_toDigits (n : Nat) : Unpadded (Nat.toDigits 10 n) := by
  intro padded
  obtain ⟨rest, written⟩ := List.head?_eq_some_iff.1 padded
  have digits := allDigits_toDigits n
  have value := digitsValue_toDigits n
  rw [written, allDigits, List.all_cons, Bool.and_eq_true] at digits
  rw [written, digitsValue_cons, show digitValue '0' = 0 from rfl, Nat.mul_zero,
    Nat.zero_add] at value
  by_contra long
  have some_rest : rest ≠ [] := by
    rintro rfl
    exact long (written ▸ Nat.le_refl 1)
  -- without the zero a shorter run would write the same number
  have shorter := length_toDigits_le ⟨some_rest, digits.2⟩
  rw [value, written, List.length_cons] at shorter
  omega

/-- Runs without a zero in front that write one number are the same. -/
theorem Unpadded.eq_of_digitsValue_eq (unpadded : Unpadded cs) (unpadded' : Unpadded ds)
    (run : IsRun cs) (run' : IsRun ds) (same : digitsValue cs = digitsValue ds) : cs = ds := by
  rw [unpadded.eq_toDigits run, unpadded'.eq_toDigits run', same]

end Lightpath.Text
