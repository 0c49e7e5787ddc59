import Lightpath.Proofs.Text.Runs

/-!
# The ends of a text

What is left of a text when the white space at its ends or the zeros at its end are dropped, told by
how the text is put together and not by how it is searched.
-/

namespace Lightpath.Text

/-- A text with white space at both ends as far as it goes, and what is left without it. -/
structure Trimmed (cs core : List Char) : Prop where
  ends : ∃ front back, cs = front ++ (core ++ back) ∧ (∀ c ∈ front, isBlank c = true) ∧
    ∀ c ∈ back, isBlank c = true
  first : ∀ c ∈ core.head?, isBlank c = false
  last : ∀ c ∈ core.getLast?, isBlank c = false

/-- Digits with all the zeros at their end, and what is left without these. -/
structure Stripped (cs kept : List Char) : Prop where
  zeros : ∃ count, cs = kept ++ List.replicate count '0'
  last : kept.getLast? ≠ some '0'

variable {p : Char → Bool} {cs core : List Char}

theorem dropWhile_of_head (stays : ∀ c ∈ core.head?, p c = false) : core.dropWhile p = core := by
  cases core with
  | nil => rfl
  | cons c rest => exact List.dropWhile_cons_of_neg (by simp [stays c rfl])

/-- What is dropped at the end reaches back to the last character that stays. -/
theorem dropEnd_eq_iff :
    dropEnd p cs = core ↔
      (∃ gone, cs = core ++ gone ∧ ∀ c ∈ gone, p c = true) ∧ ∀ c ∈ core.getLast?, p c = false := by
  constructor
  · rintro rfl
    refine ⟨⟨cs.rtakeWhile p, ?_, fun c => List.mem_rtakeWhile_imp⟩, ?_⟩
    · exact (List.rdropWhile_append_rtakeWhile ..).symm
    · intro c last
      have some_char : dropEnd p cs ≠ [] := List.ne_nil_of_mem (List.mem_of_getLast? last)
      have same : (dropEnd p cs).getLast some_char = c :=
        (List.getLast_eq_iff_getLast?_eq_some some_char).2 last
      have stays : ¬ p ((dropEnd p cs).getLast some_char) :=
        List.rdropWhile_last_not p cs some_char
      rw [same] at stays
      exact Bool.eq_false_iff.2 stays
  · rintro ⟨⟨gone, rfl, dropped⟩, stays⟩
    have backward : (core ++ gone).reverse.dropWhile p = core.reverse := by
      rw [List.reverse_append, List.dropWhile_append_of_pos (by simpa using dropped)]
      exact dropWhile_of_head (by simpa using stays)
    rw [dropEnd, backward, List.reverse_reverse]

theorem dropEnd_zeros_eq_iff {kept : List Char} :
    dropEnd (· = '0') cs = kept ↔ Stripped cs kept := by
  rw [dropEnd_eq_iff]
  constructor
  · rintro ⟨⟨gone, rfl, zeros⟩, last⟩
    refine ⟨⟨gone.length, ?_⟩, fun zero => ?_⟩
    · rw [← List.eq_replicate_of_mem fun c member => by simpa using zeros c member]
    · simpa using last '0' zero
  · rintro ⟨⟨count, rfl⟩, last⟩
    refine ⟨⟨_, rfl, fun c member => ?_⟩, fun c ends => ?_⟩
    · simpa using List.eq_of_mem_replicate member
    · refine decide_eq_false fun zero => last ?_
      rw [← zero]
      exact ends

theorem allDigits_of_dropEnd_zeros (digits : allDigits (dropEnd (· = '0') cs) = true) :
    allDigits cs = true := by
  rw [← dropEnd_append_replicate cs]
  exact allDigits_append digits (allDigits_replicate_zero _)

/-- A zero at the end of a run makes it write ten times as much. -/
theorem digitsValue_append_zeros (cs : List Char) (count : Nat) :
    digitsValue (cs ++ List.replicate count '0') = digitsValue cs * Nat.pow 10 count := by
  induction count with
  | zero => simp
  | succ count ih =>
    have zero : digitValue '0' = 0 := rfl
    rw [List.replicate_succ', ← List.append_assoc, digitsValue_concat, ih, zero,
      Nat.add_zero, Nat.mul_left_comm, Nat.mul_comm 10]
    rfl

theorem trimChars_eq_iff : trimChars cs = core ↔ Trimmed cs core := by
  have front_blank : ∀ c ∈ cs.takeWhile isBlank, isBlank c = true := fun c => List.mem_takeWhile_imp
  rw [trimChars, dropEnd_eq_iff]
  constructor
  · rintro ⟨⟨back, cut, blank⟩, last⟩
    refine ⟨⟨cs.takeWhile isBlank, back, ?_, front_blank, blank⟩, ?_, last⟩
    · rw [← cut, List.takeWhile_append_dropWhile]
    · intro c first
      have head : c ∈ (cs.dropWhile isBlank).head? := by
        rw [cut, List.head?_append, Option.mem_def.1 first]
        rfl
      simpa [Option.mem_def.1 head] using List.head?_dropWhile_not isBlank cs
  · rintro ⟨⟨front, back, rfl, blank, blank'⟩, first, last⟩
    refine ⟨?_, last⟩
    rw [List.dropWhile_append_of_pos blank]
    cases core with
    | nil => exact ⟨_, rfl, fun c member => blank' c ((List.dropWhile_suffix _).subset member)⟩
    | cons c rest => exact ⟨back, dropWhile_of_head first, blank'⟩

end Lightpath.Text
