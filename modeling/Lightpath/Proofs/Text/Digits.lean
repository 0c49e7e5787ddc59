import Lightpath.Text.Blank
import Lightpath.Text.Digits
import Mathlib.Data.List.DropRight

/-!
# Digits and what they write

Runs of digits and the numbers that they write: the digits of a number write it, also at a fixed
count of places, and zeros that were left out at the end of a run can be put back.
-/

namespace Lightpath.Text

theorem digitValue_digitChar : ∀ d < 10, digitValue (digitChar d) = d := by decide

theorem isDigit_digitChar : ∀ d < 10, (digitChar d).isDigit = true := by decide

theorem digitsValue_concat (cs : List Char) (c : Char) :
    digitsValue (cs ++ [c]) = 10 * digitsValue cs + digitValue c := by
  simp [digitsValue]

theorem digitsValue_toDigits (n : Nat) : digitsValue (Nat.toDigits 10 n) = n :=
  Nat.ofDigitChars_toDigits (by decide) (by decide)

theorem isDigit_of_mem_toDigits {n : Nat} {c : Char} (member : c ∈ Nat.toDigits 10 n) :
    c.isDigit = true :=
  Nat.isDigit_of_mem_toDigits (by decide) (by decide) member

theorem allDigits_toDigits (n : Nat) : allDigits (Nat.toDigits 10 n) = true :=
  List.all_eq_true.2 fun _ => isDigit_of_mem_toDigits

theorem allDigits_append {cs ds : List Char} (digits : allDigits cs = true)
    (digits' : allDigits ds = true) : allDigits (cs ++ ds) = true := by
  rw [allDigits, List.all_append]
  exact Bool.and_eq_true_iff.2 ⟨digits, digits'⟩

theorem allDigits_replicate_zero (count : Nat) : allDigits (List.replicate count '0') = true := by
  simp [allDigits]

theorem natural?_toDigits (n : Nat) : natural? (Nat.toDigits 10 n) = some n := by
  have some_digit : (Nat.toDigits 10 n).isEmpty = false :=
    List.isEmpty_eq_false_iff.2 (List.ne_nil_of_length_pos Nat.length_toDigits_pos)
  simp [natural?, some_digit, allDigits_toDigits, digitsValue_toDigits]

theorem length_fixedDigits (places n : Nat) : (fixedDigits places n).length = places := by
  induction places generalizing n with
  | zero => rfl
  | succ places ih => simp [fixedDigits, ih]

theorem allDigits_fixedDigits (places n : Nat) : allDigits (fixedDigits places n) = true := by
  induction places generalizing n with
  | zero => rfl
  | succ places ih =>
    have last := isDigit_digitChar (n % 10) (Nat.mod_lt n (by decide))
    have front := ih (n / 10)
    rw [allDigits] at front ⊢
    simp [fixedDigits, front, last]

theorem digitsValue_fixedDigits {places n : Nat} (fits : n < Nat.pow 10 places) :
    digitsValue (fixedDigits places n) = n := by
  induction places generalizing n with
  | zero =>
    have nothing : n = 0 := Nat.lt_one_iff.1 fits
    rw [nothing]
    rfl
  | succ places ih =>
    have front : n / 10 < Nat.pow 10 places :=
      Nat.div_lt_of_lt_mul (Nat.mul_comm (Nat.pow 10 places) 10 ▸ fits)
    have last := digitValue_digitChar (n % 10) (Nat.mod_lt n (by decide))
    rw [fixedDigits, digitsValue_concat, ih front, last]
    omega

/-- What is dropped at the end of a run satisfies the condition, so that zeros can be put back. -/
theorem dropEnd_append_replicate (cs : List Char) :
    dropEnd (· = '0') cs ++ List.replicate (cs.length - (dropEnd (· = '0') cs).length) '0' = cs := by
  have cut : dropEnd (· = '0') cs ++ cs.rtakeWhile (· = '0') = cs := List.rdropWhile_append_rtakeWhile ..
  have zeros : ∀ c ∈ cs.rtakeWhile (· = '0'), c = '0' := fun c member => by
    simpa using List.mem_rtakeWhile_imp member
  have count : cs.length - (dropEnd (· = '0') cs).length = (cs.rtakeWhile (· = '0')).length := by
    have total := congrArg List.length cut
    rw [List.length_append] at total
    omega
  rw [count, ← List.eq_replicate_of_mem zeros, cut]

theorem dropEnd_prefix_self (p : Char → Bool) (cs : List Char) : dropEnd p cs <+: cs :=
  List.rdropWhile_prefix p cs

theorem dropEnd_dropEnd (p : Char → Bool) (cs : List Char) :
    dropEnd p (dropEnd p cs) = dropEnd p cs :=
  List.rdropWhile_idempotent p cs

/-- A character in front is dropped only after all that follow it. -/
theorem dropEnd_cons (p : Char → Bool) (c : Char) (cs : List Char) :
    dropEnd p (c :: cs) = if dropEnd p cs = [] then dropEnd p [c] else c :: dropEnd p cs := by
  rw [dropEnd, List.reverse_cons, List.dropWhile_append]
  by_cases gone : dropEnd p cs = []
  · have gone_back : cs.reverse.dropWhile p = [] := List.reverse_eq_nil_iff.1 gone
    rw [if_pos gone, if_pos (List.isEmpty_iff.2 gone_back)]
    rfl
  · have kept_back : cs.reverse.dropWhile p ≠ [] := fun gone_back => gone (congrArg _ gone_back)
    rw [if_neg gone, if_neg (by simpa using kept_back), List.reverse_append]
    rfl

/-- Zeros that were put back are dropped again. -/
theorem dropEnd_append_zeros (cs : List Char) (count : Nat) :
    dropEnd (· = '0') (cs ++ List.replicate count '0') = dropEnd (· = '0') cs := by
  simp [dropEnd]

theorem allDigits_dropEnd {p : Char → Bool} {cs : List Char} (digits : allDigits cs = true) :
    allDigits (dropEnd p cs) = true := by
  rw [allDigits, List.all_eq_true] at digits ⊢
  exact fun c member => digits c ((dropEnd_prefix_self p cs).subset member)

theorem isBlank_of_isDigit {c : Char} (digit : c.isDigit = true) : isBlank c = false := by
  obtain ⟨low, high⟩ := Char.isDigit_iff_toNat.1 digit
  have zero : '0'.toNat = 48 := rfl
  have nine : '9'.toNat = 57 := rfl
  rw [zero] at low
  rw [nine] at high
  simp only [isBlank, blankRanges, List.any_cons, List.any_nil, Bool.or_false, Bool.or_eq_false_iff,
    Bool.and_eq_false_iff, decide_eq_false_iff_not]
  omega

/-- Nothing is trimmed where nothing is blank. -/
theorem trimChars_of_no_blank {cs : List Char} (solid : ∀ c ∈ cs, isBlank c = false) :
    trimChars cs = cs := by
  have front : cs.dropWhile isBlank = cs := by
    refine List.dropWhile_eq_self_iff.2 fun some_char => ?_
    simp [solid _ (List.getElem_mem some_char)]
  have back : dropEnd isBlank cs = cs := by
    refine List.rdropWhile_eq_self_iff.2 fun some_char => ?_
    simp [solid _ (List.getLast_mem some_char)]
  rw [trimChars, front, back]

/-- The digits of a number that fits a word write it. -/
theorem word?_toDigits {n : Nat} (fits : n < UInt64.size) :
    word? (Nat.toDigits 10 n) = some (UInt64.ofNat n) := by
  have unsigned : '+' ∉ Nat.toDigits 10 n := by
    intro member
    exact absurd (isDigit_of_mem_toDigits member) (by decide)
  unfold word?
  split
  · next digits signed =>
    rw [signed] at unsigned
    exact absurd List.mem_cons_self unsigned
  · dsimp only
    rw [natural?_toDigits]
    exact if_pos fits

end Lightpath.Text
