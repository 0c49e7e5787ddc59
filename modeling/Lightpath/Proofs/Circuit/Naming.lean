import Lightpath.Circuit.Name
import Lightpath.Proofs.Frequency.Text

/-!
# What the name of a connection tells

The name of a connection joins two labels and, twice, the text of a center. Labels without the
joint in them and without the head of a network media channel in front can be read off it, and so
can the center: names that are the same have the same labels and the same center.
-/

namespace Lightpath

namespace CircuitName

/-- A label that cannot be taken for another part of a name. -/
structure Plain (label : String) : Prop where
  no_join : Text.contains label join = false
  no_head : ¬ networkHead.toList <+: label.toList

instance (label : String) : Decidable (Plain label) :=
  decidable_of_iff (Text.contains label join = false ∧ ¬ networkHead.toList <+: label.toList)
    ⟨fun ⟨no_join, no_head⟩ => ⟨no_join, no_head⟩, fun plain => ⟨plain.no_join, plain.no_head⟩⟩

/-- What stands between the two labels of a name: the first center and the joint. -/
def middle (center : List Char) : List Char := '-' :: (center ++ join.toList)

/-- A label with what stands before it. -/
def headed (label : String) (onLine : Bool) : List Char :=
  (if onLine then networkHead.toList else []) ++ label.toList

/-- Characters that begin with a digit and have no dash. -/
structure Numeric (cs : List Char) : Prop where
  digit_first : ∃ d rest, cs = d :: rest ∧ d.isDigit = true
  no_dash : '-' ∉ cs

theorem numeric_thz (f : Frequency) : Numeric f.thz.toList := by
  rw [Frequency.thz, Frequency.write, String.toList_ofList]
  refine ⟨f.exists_digit_cons .terahertz, fun member => ?_⟩
  rcases f.isDigit_or_eq_point_of_mem .terahertz member with digit | point
  · exact absurd digit (by decide)
  · exact absurd point (by decide)

theorem toList_connection_network (source destination : String) (center : Frequency)
    (sourceLine destinationLine : Bool) :
    (connection (network source center sourceLine)
      (network destination center destinationLine)).toList =
        (headed source sourceLine ++ (middle center.thz.toList ++ headed destination destinationLine))
          ++ '-' :: center.thz.toList := by
  cases sourceLine <;> cases destinationLine <;>
    simp [connection, network, headed, middle, String.toList_append]

variable {center : List Char}

/-- The only dashes behind the center are the two of the joint. -/
theorem back_of_dash (no_dash : '-' ∉ center) {front back : List Char}
    (same : center ++ join.toList = front ++ '-' :: back) :
    back = ['t', 'o', '-'] ∨ back = [] := by
  have joint : join.toList = ['-', 't', 'o', '-'] := rfl
  rcases List.append_eq_append_iff.1 same with ⟨more, -, rest⟩ | ⟨more, rfl, rest⟩
  · rw [joint] at rest
    -- the joint has its dashes at its first and at its last place
    have suffix : '-' :: back <:+ ['-', 't', 'o', '-'] := ⟨more, rest.symm⟩
    simp only [List.suffix_cons_iff, List.suffix_nil] at suffix
    rcases suffix with whole | inner | inner | last | none
    · exact .inl (List.cons.inj whole).2
    · exact absurd (List.cons.inj inner).1 (by decide)
    · exact absurd (List.cons.inj inner).1 (by decide)
    · exact .inr (List.cons.inj last).2
    · cases none
  · cases more with
    | nil =>
      rw [List.nil_append, joint] at rest
      exact .inl (List.cons.inj rest).2
    | cons c more =>
      have dash : c = '-' := (List.cons.inj rest).1.symm
      exact absurd (dash ▸ List.mem_append_right front List.mem_cons_self) no_dash

/-- What comes before the middle of a name is the same in two readings, unless it holds another
    middle or what comes behind starts like the end of one. -/
theorem prefix_of_append_middle (numeric : Numeric center) {first last first' last' : List Char}
    (same : first ++ (middle center ++ last) = first' ++ (middle center ++ last'))
    (starts : ¬ center ++ join.toList <+: last) (within : ¬ middle center <:+: first') :
    first' <+: first := by
  obtain ⟨⟨d, rest, digits, digit⟩, no_dash⟩ := numeric
  rcases List.append_eq_append_iff.1 same with ⟨more, rfl, left⟩ | ⟨more, rfl, -⟩
  · rcases List.append_eq_append_iff.1 left with ⟨after, rfl, -⟩ | ⟨back, cut, left⟩
    · exact absurd ⟨first, after, by rw [List.append_assoc]⟩ within
    · cases more with
      | nil => simp
      | cons c more =>
        exfalso
        cases back with
        | nil =>
          rw [List.append_nil] at cut
          exact within ⟨first, [], by rw [cut, List.append_nil]⟩
        | cons c' back =>
          -- the second reading begins in the first middle, so at a dash of the joint
          have dash : '-' = c' := (List.cons.inj left).1
          have behind : center ++ join.toList ++ last' = back ++ last := (List.cons.inj left).2
          have ends : center ++ join.toList = more ++ c' :: back := (List.cons.inj cut).2
          rw [← dash] at ends
          rcases back_of_dash no_dash ends with rfl | rfl
          · rw [digits] at behind
            have first_char : d = 't' := (List.cons.inj behind).1
            rw [first_char] at digit
            exact absurd digit (by decide)
          · exact starts ⟨last', behind⟩
  · exact List.prefix_append first' more

theorem Plain.not_join_infix {label : String} (plain : Plain label) :
    ¬ join.toList <:+: label.toList := fun occurs => by
  have found := (Text.contains_iff_infix label join).2 occurs
  rw [plain.no_join] at found
  cases found

theorem join_suffix_middle (center : List Char) : join.toList <:+ middle center :=
  List.suffix_append ('-' :: center) join.toList

/-- No label starts like the end of a middle, a head before it or not. -/
theorem Plain.not_prefix_headed {label : String} (plain : Plain label) (numeric : Numeric center)
    (onLine : Bool) : ¬ center ++ join.toList <+: headed label onLine := by
  obtain ⟨d, rest, digits, digit⟩ := numeric.digit_first
  intro starts
  cases onLine with
  | false =>
    have inside : join.toList <:+: center ++ join.toList := (List.suffix_append ..).isInfix
    exact plain.not_join_infix (inside.trans starts.isInfix)
  | true =>
    obtain ⟨last, same⟩ := starts
    rw [digits] at same
    have first_char : d = 'N' := (List.cons.inj same).1
    rw [first_char] at digit
    exact absurd digit (by decide)

/-- No label holds a middle, a head before it or not. -/
theorem Plain.not_middle_infix_headed {label : String} (plain : Plain label)
    (numeric : Numeric center) (onLine : Bool) : ¬ middle center <:+: headed label onLine := by
  have inside : join.toList <:+: middle center := (join_suffix_middle center).isInfix
  intro occurs
  cases onLine with
  | false => exact plain.not_join_infix (inside.trans occurs)
  | true =>
    obtain ⟨first, last, same⟩ := occurs
    rw [List.append_assoc] at same
    change first ++ (middle center ++ last) = networkHead.toList ++ label.toList at same
    rcases List.append_eq_append_iff.1 same with ⟨more, cut, left⟩ | ⟨more, -, left⟩
    · -- the middle begins in the head, so at one of its dashes
      cases more with
      | nil =>
        rw [List.nil_append] at left
        exact plain.not_join_infix (inside.trans ⟨[], last, left⟩)
      | cons c more =>
        have dash : '-' = c := (List.cons.inj left).1
        have behind : center ++ join.toList ++ last = more ++ label.toList := (List.cons.inj left).2
        rw [← dash] at cut
        have suffix : '-' :: more <:+ ['N', 'M', 'C', '-', 'C', 'T', 'P', '-'] := ⟨first, cut.symm⟩
        obtain ⟨d, rest, digits, digit⟩ := numeric.digit_first
        have tails : more = ['C', 'T', 'P', '-'] ∨ more = [] := by
          simpa [List.suffix_cons_iff] using suffix
        rcases tails with rfl | rfl
        · rw [digits] at behind
          have first_char : d = 'C' := (List.cons.inj behind).1
          rw [first_char] at digit
          exact absurd digit (by decide)
        · exact plain.not_join_infix ⟨center, last, behind⟩
    · have later : middle center <:+: label.toList := ⟨more, last, by rw [left, List.append_assoc]⟩
      exact plain.not_join_infix (inside.trans later)

/-- Labels without the head of a network media channel are told with and without it in front. -/
theorem headed_inj {label label' : String} (no_head : ¬ networkHead.toList <+: label.toList)
    (no_head' : ¬ networkHead.toList <+: label'.toList) {onLine onLine' : Bool}
    (same : headed label onLine = headed label' onLine') : label = label' := by
  apply String.toList_inj.1
  cases onLine <;> cases onLine'
  · exact same
  · exact absurd ⟨label'.toList, same.symm⟩ no_head
  · exact absurd ⟨label.toList, same⟩ no_head'
  · exact List.append_cancel_left same

/-- What stands behind the last dash can be told. -/
theorem append_dash_inj {first first' last last' : List Char} (no_dash : '-' ∉ last)
    (no_dash' : '-' ∉ last') (same : first ++ '-' :: last = first' ++ '-' :: last') :
    first = first' ∧ last = last' := by
  rcases List.append_eq_append_iff.1 same with ⟨more, rfl, left⟩ | ⟨more, rfl, left⟩
  · cases more with
    | nil => exact ⟨(List.append_nil first).symm, (List.cons.inj left).2⟩
    | cons c more =>
      exact absurd ((List.cons.inj left).2 ▸ List.mem_append_right more List.mem_cons_self) no_dash
  · cases more with
    | nil => exact ⟨List.append_nil first', (List.cons.inj left).2.symm⟩
    | cons c more =>
      exact absurd ((List.cons.inj left).2 ▸ List.mem_append_right more List.mem_cons_self) no_dash'

/-- Connections of one name join the same labels and have the same center. -/
theorem connection_network_inj {source source' destination destination' : String}
    (plainSource : Plain source) (plainSource' : Plain source') (plainDestination : Plain destination)
    (plainDestination' : Plain destination') {center center' : Frequency}
    {sourceLine sourceLine' destinationLine destinationLine' : Bool}
    (same : connection (network source center sourceLine)
        (network destination center destinationLine) =
      connection (network source' center' sourceLine')
        (network destination' center' destinationLine')) :
    source = source' ∧ destination = destination' ∧ center = center' := by
  have numeric := numeric_thz center
  have chars := congrArg String.toList same
  rw [toList_connection_network, toList_connection_network] at chars
  obtain ⟨front, texts⟩ := append_dash_inj numeric.no_dash (numeric_thz center').no_dash chars
  obtain rfl : center = center' := Frequency.write_injective .terahertz (String.toList_inj.1 texts)
  have shorter := prefix_of_append_middle numeric front
    (plainDestination.not_prefix_headed numeric destinationLine)
    (plainSource'.not_middle_infix_headed numeric sourceLine')
  have longer := prefix_of_append_middle numeric front.symm
    (plainDestination'.not_prefix_headed numeric destinationLine')
    (plainSource.not_middle_infix_headed numeric sourceLine)
  have heads : headed source sourceLine = headed source' sourceLine' :=
    longer.eq_of_length (Nat.le_antisymm longer.length_le shorter.length_le)
  rw [heads] at front
  have ends := List.append_cancel_left (List.append_cancel_left front)
  exact ⟨headed_inj plainSource.no_head plainSource'.no_head heads,
    headed_inj plainDestination.no_head plainDestination'.no_head ends, rfl⟩

end CircuitName

end Lightpath
