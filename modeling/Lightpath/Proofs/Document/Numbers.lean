import Lightpath.Proofs.Document.Leaves

/-!
# Numbers read back

A number is digits without a zero in front of them that could be left out, perhaps digits behind a
point, perhaps a power of ten, and all that perhaps behind a minus. This is how numbers of every
kind are written, and a number is read up to its end if nothing stands behind it that could belong
to it. An integer in range is read as that integer.
-/

namespace Lightpath.Document

open Text (IsRun Unpadded)

/-! ## Digits -/

/-- No digit stands first. -/
def EndsDigits (rest : List Char) : Prop := ∀ c ∈ rest.head?, c.isDigit = false

theorem endsDigits_cons {c : Char} (other : c.isDigit = false) (rest : List Char) :
    EndsDigits (c :: rest) := fun _ first => Option.some.inj first ▸ other

theorem Closes.cases {rest : List Char} (closes : Closes rest) :
    rest = [] ∨ ∃ c tail, rest = c :: tail ∧ c.isDigit = false ∧ c ≠ '.' ∧ c ≠ 'e' ∧ c ≠ 'E' := by
  cases rest with
  | nil => exact .inl rfl
  | cons c rest =>
    refine .inr ⟨c, rest, rfl, ?_⟩
    rcases closes c rfl with rfl | rfl | rfl | rfl | rfl | rfl | rfl <;> decide

theorem Closes.endsDigits {rest : List Char} (closes : Closes rest) : EndsDigits rest := by
  rcases closes.cases with rfl | ⟨c, tail, rfl, other, -⟩
  · intro c first
    cases first
  · exact endsDigits_cons other tail

theorem readDigits_append {digits rest : List Char} (run : IsRun digits) (ends : EndsDigits rest) :
    readDigits (digits ++ rest) = (digits, rest) := by
  have all : ∀ c ∈ digits, c.isDigit = true := fun c => run.isDigit_of_mem
  have nothing : rest.takeWhile Char.isDigit = [] := by
    cases rest with
    | nil => rfl
    | cons c rest => exact List.takeWhile_cons_of_neg (by simp [ends c rfl])
  rw [readDigits, List.takeWhile_append_of_pos all, List.dropWhile_append_of_pos all, nothing,
    List.append_nil, Text.dropWhile_of_head ends]

theorem readWhole?_append {digits rest : List Char} (run : IsRun digits) (plain : Unpadded digits)
    (ends : EndsDigits rest) : readWhole? (digits ++ rest) = some (digits, rest) := by
  rw [readWhole?, readDigits_append run ends]
  split
  · next none => exact absurd (congrArg Prod.fst none) run.ne_nil
  · next zero => rw [← zero]
  · next more _ other padded =>
    obtain rfl : digits = '0' :: more := congrArg Prod.fst padded
    have single : (more.length + 1) ≤ 1 := plain rfl
    exact absurd (List.length_eq_zero_iff.1 (by omega)) other
  · rfl

/-! ## What may stand behind them -/

/-- Digits behind a point, or nothing. -/
inductive IsFraction : List Char → Prop
  | none : IsFraction []
  | digits {ds : List Char} (run : IsRun ds) : IsFraction ('.' :: ds)

/-- A power of ten, or nothing. -/
inductive IsPower : List Char → Prop
  | none : IsPower []
  | minus {ds : List Char} (run : IsRun ds) : IsPower ('e' :: '-' :: ds)
  | plus {ds : List Char} (run : IsRun ds) : IsPower ('e' :: '+' :: ds)

/-- What ends the digits behind a point: no digit stands first, nor another point. -/
def EndsFraction (rest : List Char) : Prop := EndsDigits rest ∧ ∀ tail, rest ≠ '.' :: tail

theorem Closes.endsFraction {rest : List Char} (closes : Closes rest) : EndsFraction rest := by
  refine ⟨closes.endsDigits, ?_⟩
  rcases closes.cases with rfl | ⟨c, tail, rfl, -, point, -⟩
  · simp
  · exact fun _ same => point (List.cons.inj same).1

theorem IsPower.endsFraction {power rest : List Char} (written : IsPower power)
    (closes : Closes rest) : EndsFraction (power ++ rest) := by
  cases written with
  | none => exact closes.endsFraction
  | minus => exact ⟨endsDigits_cons (by decide) _, by simp⟩
  | plus => exact ⟨endsDigits_cons (by decide) _, by simp⟩

theorem IsFraction.endsDigits {fraction rest : List Char} (written : IsFraction fraction)
    (ends : EndsFraction rest) : EndsDigits (fraction ++ rest) := by
  cases written with
  | none => exact ends.1
  | digits => exact endsDigits_cons (by decide) _

/-- The digits behind a point are read, if there is a point. -/
theorem IsFraction.readFraction? {fraction : List Char} (written : IsFraction fraction) :
    ∃ digits, ∀ rest, EndsFraction rest →
      readFraction? (fraction ++ rest) = some (digits, rest) := by
  cases written with
  | none =>
    refine ⟨[], fun rest ends => ?_⟩
    rw [List.nil_append, Document.readFraction?]
    exact ends.2
  | @digits ds run =>
    refine ⟨ds, fun rest ends => ?_⟩
    rw [List.cons_append, Document.readFraction?, readDigits_append run ends.1]
    split
    · next none => exact absurd (congrArg Prod.fst none) run.ne_nil
    · rfl

/-- The power of ten is read, if there is one. -/
theorem IsPower.readPower? {power : List Char} (written : IsPower power) :
    ∃ value, ∀ rest, Closes rest → readPower? (power ++ rest) = some (value, rest) := by
  cases written with
  | none =>
    refine ⟨Option.none, fun rest closes => ?_⟩
    rcases closes.cases with rfl | ⟨c, tail, rfl, -, -, small, large⟩
    · rfl
    · simp [Document.readPower?, small, large]
  | @minus ds run =>
    refine ⟨some (-(Text.digitsValue ds)), fun rest closes => ?_⟩
    simp [Document.readPower?, readDigits_append run closes.endsDigits, run.ne_nil]
  | @plus ds run =>
    refine ⟨some (Text.digitsValue ds), fun rest closes => ?_⟩
    simp [Document.readPower?, readDigits_append run closes.endsDigits, run.ne_nil]

/-! ## Numbers -/

/-- How a number without a sign is written. -/
inductive IsUnsigned : List Char → Prop
  | mk {whole fraction power : List Char} (run : IsRun whole) (plain : Unpadded whole)
      (fraction_written : IsFraction fraction) (power_written : IsPower power) :
      IsUnsigned (whole ++ (fraction ++ power))

/-- How a number is written. -/
inductive IsNumber : List Char → Prop
  | positive {cs : List Char} (written : IsUnsigned cs) : IsNumber cs
  | negative {cs : List Char} (written : IsUnsigned cs) : IsNumber ('-' :: cs)

/-- The characters with which a number begins. -/
def BeginsNumber (c : Char) : Prop := c = '-' ∨ c.isDigit = true

theorem IsUnsigned.first {cs : List Char} (written : IsUnsigned cs) :
    ∃ c tail, cs = c :: tail ∧ c.isDigit = true := by
  cases written with
  | mk run =>
    obtain ⟨c, tail, rfl⟩ := List.exists_cons_of_ne_nil run.ne_nil
    exact ⟨c, _, rfl, run.isDigit_of_mem List.mem_cons_self⟩

theorem IsNumber.first {cs : List Char} (written : IsNumber cs) :
    ∃ c tail, cs = c :: tail ∧ BeginsNumber c := by
  cases written with
  | positive written =>
    obtain ⟨c, tail, rfl, digit⟩ := written.first
    exact ⟨c, tail, rfl, .inr digit⟩
  | negative => exact ⟨'-', _, rfl, .inl rfl⟩

theorem readNumber?_of_isDigit {c : Char} (digit : c.isDigit = true) (cs : List Char) :
    readNumber? (c :: cs) = readUnsigned? false (c :: cs) := by
  rw [readNumber?.eq_def]
  split
  · next same =>
    rw [(List.cons.inj same).1] at digit
    exact absurd digit (by decide)
  · rfl

theorem IsUnsigned.readUnsigned? {cs : List Char} (written : IsUnsigned cs) (negative : Bool) :
    ∃ value, ∀ rest, Closes rest → readUnsigned? negative (cs ++ rest) = some (value, rest) := by
  cases written with
  | @mk whole fraction power run plain fraction_written power_written =>
    obtain ⟨digits, fraction_read⟩ := fraction_written.readFraction?
    obtain ⟨shift, power_read⟩ := power_written.readPower?
    have parts_read (rest : List Char) (closes : Closes rest) :
        Document.readUnsigned? negative (whole ++ (fraction ++ power) ++ rest) =
          match shift with
          | none =>
            if digits.isEmpty then some (ofWhole? ⟨negative, whole, [], 0⟩, rest)
            else some ((Decimal.Numeral.scaled? ⟨negative, whole, digits, 0⟩).map .float, rest)
          | some shift =>
            some ((Decimal.Numeral.scaled? ⟨negative, whole, digits, shift⟩).map .float, rest) := by
      have ends := power_written.endsFraction closes
      rw [Document.readUnsigned?, List.append_assoc, List.append_assoc,
        readWhole?_append run plain (fraction_written.endsDigits ends)]
      dsimp only
      rw [fraction_read _ ends]
      dsimp only
      rw [power_read rest closes]
      cases shift <;> rfl
    cases shift with
    | some shift => exact ⟨_, parts_read⟩
    | none =>
      by_cases whole_only : digits.isEmpty = true
      · exact ⟨_, fun rest closes => (parts_read rest closes).trans (if_pos whole_only)⟩
      · exact ⟨_, fun rest closes => (parts_read rest closes).trans (if_neg whole_only)⟩

/-- A number is read up to its end. -/
theorem IsNumber.readNumber? {cs : List Char} (written : IsNumber cs) :
    ∃ value, ∀ rest, Closes rest → readNumber? (cs ++ rest) = some (value, rest) := by
  cases written with
  | positive written =>
    obtain ⟨value, read⟩ := written.readUnsigned? false
    obtain ⟨c, tail, rfl, digit⟩ := written.first
    exact ⟨value, fun rest closes => (readNumber?_of_isDigit digit _).trans (read rest closes)⟩
  | negative written => exact written.readUnsigned? true

/-! ## Integers -/

theorem toList_toString_int (n : Int) :
    (toString n).toList =
      if 0 ≤ n then Nat.toDigits 10 n.toNat else '-' :: Nat.toDigits 10 (-n).toNat := by
  rw [Int.toString_eq_repr, Int.repr_eq_if]
  split <;> simp [Nat.repr]

theorem isUnsigned_toDigits (n : Nat) : IsUnsigned (Nat.toDigits 10 n) := by
  have written : IsUnsigned (Nat.toDigits 10 n ++ ([] ++ [])) :=
    .mk (Text.isRun_toDigits n) (Text.unpadded_toDigits n) .none .none
  rwa [List.append_nil, List.append_nil] at written

theorem isNumber_toString (n : Int) : IsNumber (toString n).toList := by
  rw [toList_toString_int]
  split
  · exact .positive (isUnsigned_toDigits _)
  · exact .negative (isUnsigned_toDigits _)

/-- The whole number that digits say, with a minus in front of them or not. -/
theorem ofWhole?_toDigits {negative : Bool} {size : Nat} {n : Int}
    (said : (if negative then -(size : Int) else size) = n) (signed : negative = true → size ≠ 0)
    (low : intLow ≤ n) (high : n ≤ intHigh) :
    ofWhole? ⟨negative, Nat.toDigits 10 size, [], 0⟩ = some (.int n) := by
  have zero : ¬ (negative = true ∧ (size : Int) = 0) := by
    rintro ⟨sign, none⟩
    exact signed sign (by omega)
  simp only [ofWhole?, Text.digitsValue_toDigits, said]
  rw [if_pos ⟨low, high, zero⟩]

theorem readUnsigned?_toDigits (negative : Bool) (size : Nat) :
    readUnsigned? negative (Nat.toDigits 10 size) =
      some (ofWhole? ⟨negative, Nat.toDigits 10 size, [], 0⟩, []) := by
  have whole_read := readWhole?_append (Text.isRun_toDigits size) (Text.unpadded_toDigits size)
    closes_nil.endsDigits
  rw [List.append_nil] at whole_read
  rw [readUnsigned?, whole_read]
  rfl

/-- What is written for an integer in range is read as the integer. -/
theorem readNumber?_toString {n : Int} (low : intLow ≤ n) (high : n ≤ intHigh) :
    readNumber? (toString n).toList = some (some (.int n), []) := by
  rw [toList_toString_int]
  split
  · next positive =>
    have value : ofWhole? ⟨false, Nat.toDigits 10 n.toNat, [], 0⟩ = some (.int n) :=
      ofWhole?_toDigits (Int.toNat_of_nonneg positive) (fun sign => nomatch sign) low high
    obtain ⟨c, tail, written, digit⟩ := (isUnsigned_toDigits n.toNat).first
    rw [written, readNumber?_of_isDigit digit, ← written, readUnsigned?_toDigits, value]
  · next negative =>
    have value : ofWhole? ⟨true, Nat.toDigits 10 (-n).toNat, [], 0⟩ = some (.int n) :=
      ofWhole?_toDigits (by simp only [if_true]; omega) (by omega) low high
    rw [readNumber?, readUnsigned?_toDigits, value]

/-! ## Numbers with a point -/

/-- The digits of a number that is not zero, the first of which says how large it is. -/
structure IsSignificant (ds : List Char) : Prop where
  run : IsRun ds
  first : ds.head? ≠ some '0'

/-- Digits that begin as significant ones do have no zero in front of them. -/
theorem IsSignificant.unpadded {ds whole : List Char} (significant : IsSignificant ds)
    (same : whole.head? = ds.head?) : Unpadded whole := by
  intro padded
  exact absurd (same.symm.trans padded) significant.first

theorem IsSignificant.unpadded_take {ds : List Char} (significant : IsSignificant ds) {count : Nat}
    (some_digit : count ≠ 0) : Unpadded (ds.take count) :=
  significant.unpadded (by rw [List.head?_take, if_neg some_digit])

theorem isSignificant_dropZeros {n : Nat}
    (some_digit : Decimal.dropZeros (Nat.toDigits 10 n) ≠ []) :
    IsSignificant (Decimal.dropZeros (Nat.toDigits 10 n)) := by
  have digits : Text.allDigits (Decimal.dropZeros (Nat.toDigits 10 n)) = true :=
    Text.allDigits_dropEnd (Text.allDigits_toDigits n)
  refine ⟨⟨some_digit, digits⟩, fun zero => ?_⟩
  obtain ⟨gone, cut⟩ := Text.dropEnd_prefix_self (· = '0') (Nat.toDigits 10 n)
  change Decimal.dropZeros (Nat.toDigits 10 n) ++ gone = _ at cut
  obtain ⟨rest, kept⟩ := List.head?_eq_some_iff.1 zero
  rw [kept, List.cons_append] at cut
  -- a zero in front would be the only digit, and that is dropped
  have short := Text.unpadded_toDigits n (by rw [← cut]; rfl)
  rw [← cut, List.length_cons] at short
  have none : rest ++ gone = [] := List.length_eq_zero_iff.1 (by omega)
  rw [← cut, none] at some_digit
  exact some_digit rfl

/-- The shortest decimal of a number has no digits, or significant ones. -/
theorem isSignificant_shortest (b : Decimal.Binary) (tie : Decimal.Tie)
    (some_digit : (b.shortest tie).digits ≠ []) : IsSignificant (b.shortest tie).digits := by
  rw [Decimal.Binary.shortest] at some_digit ⊢
  split
  · next zero =>
    rw [if_pos zero] at some_digit
    exact absurd rfl some_digit
  · next size =>
    rw [if_neg size] at some_digit
    exact isSignificant_dropZeros some_digit

theorem isRun_zero : IsRun ['0'] := ⟨by decide, by decide⟩

theorem isUnsigned_point {ds : Decimal.Digits}
    (significant : ds.digits ≠ [] → IsSignificant ds.digits) :
    IsUnsigned (Decimal.Layout.document.point ds) := by
  have mark : IsFraction ['.', '0'] := .digits isRun_zero
  rw [Decimal.Layout.point]
  split
  · exact .mk isRun_zero (by decide) mark .none
  next filled =>
  have significant := significant fun none => filled (by rw [none]; rfl)
  have digits := significant.run.all_digits
  split
  · -- the point stands in front of the digits
    have run : IsRun (List.replicate (-ds.point).toNat '0' ++ ds.digits) :=
      ⟨List.append_ne_nil_of_right_ne_nil _ significant.run.ne_nil,
        Text.allDigits_append (Text.allDigits_replicate_zero _) digits⟩
    have written : IsUnsigned (['0'] ++ (('.' :: (_ ++ ds.digits)) ++ [])) :=
      .mk isRun_zero (by decide) (.digits run) .none
    rwa [List.append_nil] at written
  next inside =>
  split
  · -- it stands behind them
    have run : IsRun (ds.digits ++ List.replicate (ds.point.toNat - ds.digits.length) '0') :=
      ⟨List.append_ne_nil_of_left_ne_nil significant.run.ne_nil _,
        Text.allDigits_append digits (Text.allDigits_replicate_zero _)⟩
    have same : (ds.digits ++ List.replicate (ds.point.toNat - ds.digits.length) '0').head? = _ :=
      List.head?_append_of_ne_nil _ significant.run.ne_nil
    exact .mk run (significant.unpadded same) mark .none
  next short =>
  -- it stands among them
  have written : IsUnsigned (ds.digits.take ds.point.toNat ++
      (('.' :: ds.digits.drop ds.point.toNat) ++ [])) :=
    .mk (significant.run.take (by omega)) (significant.unpadded_take (by omega))
      (.digits (significant.run.drop fun none => short (List.drop_eq_nil_iff.1 none))) .none
  rwa [List.append_nil] at written

theorem isUnsigned_exponent {ds : Decimal.Digits} (significant : IsSignificant ds.digits) :
    IsUnsigned (Decimal.Layout.exponent ds) := by
  have run := significant.run
  have fraction_written :
      IsFraction (if (ds.digits.drop 1).isEmpty then [] else '.' :: ds.digits.drop 1) := by
    split
    · exact .none
    · next more => exact .digits (run.drop fun none => more (List.isEmpty_iff.2 none))
  have power_written : IsPower ('e' :: (if ds.point - 1 < 0 then '-' else '+') ::
      Nat.toDigits 10 (ds.point - 1).natAbs) := by
    split
    · exact .minus (Text.isRun_toDigits _)
    · exact .plus (Text.isRun_toDigits _)
  rw [Decimal.Layout.exponent, List.append_assoc]
  exact .mk (run.take Nat.one_ne_zero) (significant.unpadded_take Nat.one_ne_zero)
    fraction_written power_written

theorem isUnsigned_setOut {ds : Decimal.Digits}
    (significant : ds.digits ≠ [] → IsSignificant ds.digits) :
    IsUnsigned (Decimal.Layout.document.setOut ds) := by
  rw [Decimal.Layout.setOut]
  simp only [Decimal.Layout.document]
  split
  · exact isUnsigned_point significant
  · next far =>
    refine isUnsigned_exponent (significant fun none => far (.inl ?_))
    rw [none]
    rfl

/-- A number that is not whole is written as a number, or as `null` if it is infinite or none. -/
theorem writeFloat_cases (x : Float) : writeFloat x = "null" ∨ IsNumber (writeFloat x).toList := by
  rw [writeFloat, Decimal.Layout.write?]
  cases Decimal.Binary.ofFloat? x with
  | none => exact .inl rfl
  | some b =>
    have written := isUnsigned_setOut (isSignificant_shortest b Decimal.Layout.document.tie)
    refine .inr ?_
    rw [Option.map_some, Option.getD_some, String.toList_ofList]
    split
    · exact .negative written
    · exact .positive written

end Lightpath.Document
