import Lightpath.Port.Naming
import Lightpath.Proofs.Text.Runs
import Lightpath.Proofs.Text.Search

/-!
# Names of numbered ports

The port names that give a number are those of a role followed by a run of digits, and those of a
pack and a place, two runs with a dash between them. Such a name is read in one way only. It gives
the number that its runs write, counted from the role or the pack, if the number fits a word.
-/

namespace Lightpath

/-- The roles that ports are named by. -/
inductive PortRole where
  | externalSender
  | externalReceiver
  | internalSender
  | internalReceiver
deriving DecidableEq, Repr

namespace PortRole

/-- What the names of the role begin with. -/
def head : PortRole → String
  | .externalSender => "ext-tx"
  | .externalReceiver => "ext-rx"
  | .internalSender => "int-tx"
  | .internalReceiver => "int-rx"

/-- The number that the ports of the role are counted from. -/
def base : PortRole → Nat
  | .externalSender => 300
  | .externalReceiver => 400
  | .internalSender => 500
  | .internalReceiver => 600

theorem head_injective {role role' : PortRole} (same : role.head.toList = role'.head.toList) :
    role = role' := by
  revert same
  cases role <;> cases role' <;> decide

theorem length_head (role : PortRole) : role.head.toList.length = 6 := by
  cases role <;> decide

/-- No role begins with a digit. -/
theorem exists_head_cons (role : PortRole) :
    ∃ c rest, role.head.toList = c :: rest ∧ c.isDigit = false := by
  cases role <;> exact ⟨_, _, rfl, by decide⟩

end PortRole

/-- A port name by its parts: a role or a pack, and what is counted there. -/
inductive PortName where
  | byRole (role : PortRole) (digits : List Char)
  | byPlace (pack digits : List Char)
deriving DecidableEq, Repr

namespace PortName

/-- The characters of the name. -/
def chars : PortName → List Char
  | .byRole role digits => role.head.toList ++ digits
  | .byPlace pack digits => pack ++ '-' :: digits

/-- The numeric fields of the name. -/
def fields : PortName → List (List Char)
  | .byRole _ digits => [digits]
  | .byPlace pack digits => [pack, digits]

/-- The number that the name stands for. -/
def number : PortName → Nat
  | .byRole role digits => role.base + Text.digitsValue digits
  | .byPlace pack digits => 100 * Text.digitsValue pack + Text.digitsValue digits

/-- A text is this name, and its numeric fields are runs of digits. -/
structure Writes (n : PortName) (name : String) : Prop where
  runs : ∀ field ∈ n.fields, Text.IsRun field
  chars_eq : n.chars = name.toList

/-- Every numeric field fits a word. -/
def Fits (n : PortName) : Prop := ∀ field ∈ n.fields, Text.digitsValue field < UInt64.size

variable {n n' : PortName} {name : String}

theorem fits_of_number_lt (small : n.number < UInt64.size) : n.Fits := by
  intro field member
  cases n with
  | byRole role digits =>
    rw [number] at small
    obtain rfl := List.mem_singleton.1 member
    omega
  | byPlace pack digits =>
    rw [number] at small
    rcases List.mem_pair.1 member with rfl | rfl <;> omega

theorem runs_byRole {role : PortRole} {digits : List Char} :
    (∀ field ∈ (PortName.byRole role digits).fields, Text.IsRun field) ↔ Text.IsRun digits :=
  List.forall_mem_singleton

theorem runs_byPlace {pack digits : List Char} :
    (∀ field ∈ (PortName.byPlace pack digits).fields, Text.IsRun field) ↔
      Text.IsRun pack ∧ Text.IsRun digits := by
  simp [fields]

/-- A role is not taken for a pack. -/
theorem chars_byRole_ne_byPlace {role : PortRole} {digits pack digits' : List Char}
    (run : Text.IsRun pack) : (PortName.byRole role digits).chars ≠ (byPlace pack digits').chars := by
  intro same
  obtain ⟨c, rest, head, letter⟩ := role.exists_head_cons
  obtain ⟨d, others, rfl⟩ := List.exists_cons_of_ne_nil run.ne_nil
  rw [chars, chars, head, List.cons_append, List.cons_append] at same
  have first : c = d := (List.cons.inj same).1
  rw [first, run.isDigit_of_mem List.mem_cons_self] at letter
  cases letter

theorem cutAt?_byPlace {pack : List Char} (run : Text.IsRun pack) (digits : List Char) :
    Text.cutAt? ['-'] (byPlace pack digits).chars = some (pack, digits) :=
  Text.cutAt?_of_notMem (run.notMem (by decide)) digits

/-- A name is read in one way only. -/
theorem Writes.unique (writes : n.Writes name) (writes' : n'.Writes name) : n = n' := by
  have same : n.chars = n'.chars := writes.chars_eq.trans writes'.chars_eq.symm
  cases n with
  | byRole role digits =>
    cases n' with
    | byRole role' digits' =>
      obtain ⟨heads, rests⟩ := List.append_inj same (by rw [role.length_head, role'.length_head])
      rw [PortRole.head_injective heads, rests]
    | byPlace pack digits' => exact absurd same (chars_byRole_ne_byPlace (runs_byPlace.1 writes'.runs).1)
  | byPlace pack digits =>
    cases n' with
    | byRole role digits' => exact absurd same.symm (chars_byRole_ne_byPlace (runs_byPlace.1 writes.runs).1)
    | byPlace pack' digits' =>
      have cut := cutAt?_byPlace (runs_byPlace.1 writes.runs).1 digits
      rw [same, cutAt?_byPlace (runs_byPlace.1 writes'.runs).1] at cut
      obtain ⟨packs, places⟩ := Prod.mk.inj (Option.some.inj cut)
      rw [packs, places]

/-- The characters of a name are letters, digits and dashes. -/
theorem Writes.plain (writes : n.Writes name) {c : Char} (member : c ∈ name.toList) :
    Text.isBlank c = false ∧ c.toNat < 128 := by
  have of_digit {d : Char} (digit : d.isDigit = true) : Text.isBlank d = false ∧ d.toNat < 128 := by
    have high : d.toNat ≤ '9'.toNat := (Char.isDigit_iff_toNat.1 digit).2
    have nine : '9'.toNat = 57 := rfl
    exact ⟨Text.isBlank_of_isDigit digit, by omega⟩
  rw [← writes.chars_eq] at member
  cases n with
  | byRole role digits =>
    rcases List.mem_append.1 member with front | back
    · have known : (role.head.toList.all fun d => !Text.isBlank d && d.toNat < 128) = true := by
        cases role <;> decide
      simpa using List.all_eq_true.1 known c front
    · exact of_digit ((runs_byRole.1 writes.runs).isDigit_of_mem back)
  | byPlace pack digits =>
    obtain ⟨run, run'⟩ := runs_byPlace.1 writes.runs
    rcases List.mem_append.1 member with front | back
    · exact of_digit (run.isDigit_of_mem front)
    · rcases List.mem_cons.1 back with rfl | later
      · decide
      · exact of_digit (run'.isDigit_of_mem later)

end PortName

namespace PortNumber

open PortName

variable {n : PortName} {name : String}

theorem field?_eq_some_iff {cs : List Char} {v : Nat} :
    field? cs = some v ↔ Text.IsRun cs ∧ Text.digitsValue cs = v ∧ v < UInt64.size := by
  rw [field?]
  cases read : Text.natural? cs with
  | none =>
    have no_run : ¬ Text.IsRun cs := by
      intro run
      rw [Text.natural?_eq_some_iff.2 ⟨run, rfl⟩] at read
      cases read
    simp [no_run]
  | some w =>
    obtain ⟨run, rfl⟩ := Text.natural?_eq_some_iff.1 read
    simp only [run, true_and]
    constructor
    · intro kept
      split at kept
      · next small =>
        obtain rfl := Option.some.inj kept
        exact ⟨rfl, small⟩
      · cases kept
    · rintro ⟨rfl, small⟩
      exact if_pos small

/-- Of roles none of which begins with another, a name has the one that it begins with. -/
theorem ofRole?_eq_some_iff {cs : List Char} {v : Nat} {roles : List (List Char × Nat)}
    (apart : roles.Pairwise fun a b => ¬ a.1 <+: b.1 ∧ ¬ b.1 <+: a.1) :
    ofRole? cs roles = some v ↔
      ∃ entry ∈ roles, ∃ digits count, cs = entry.1 ++ digits ∧ field? digits = some count ∧
        count + entry.2 = v := by
  induction roles with
  | nil => simp [ofRole?]
  | cons first rest ih =>
    obtain ⟨head, base⟩ := first
    obtain ⟨apart_first, apart_rest⟩ := List.pairwise_cons.1 apart
    rw [ofRole?]
    cases cut : Text.dropHead? head cs with
    | none =>
      dsimp only
      rw [ih apart_rest]
      constructor
      · rintro ⟨entry, member, found⟩
        exact ⟨entry, List.mem_cons_of_mem _ member, found⟩
      · rintro ⟨entry, member, digits, count, begins, found⟩
        rcases List.mem_cons.1 member with rfl | later
        · rw [Text.dropHead?_eq_some_iff.2 begins] at cut
          cases cut
        · exact ⟨entry, later, digits, count, begins, found⟩
    | some digits =>
      have begins := Text.dropHead?_eq_some_iff.1 cut
      dsimp only
      rw [Option.map_eq_some_iff]
      constructor
      · rintro ⟨count, read, total⟩
        exact ⟨(head, base), List.mem_cons_self, digits, count, begins, read, total⟩
      · rintro ⟨entry, member, digits', count, begins', read, total⟩
        rcases List.mem_cons.1 member with rfl | later
        · obtain rfl : digits = digits' := List.append_cancel_left (begins.symm.trans begins')
          exact ⟨count, read, total⟩
        · -- two roles at the front of one name: one of them begins with the other
          obtain ⟨not_head, not_entry⟩ := apart_first entry later
          have front : head <+: cs := ⟨digits, begins.symm⟩
          have front' : entry.1 <+: cs := ⟨digits', begins'.symm⟩
          rcases List.prefix_or_prefix_of_prefix front front' with within | beyond
          · exact absurd within not_head
          · exact absurd beyond not_entry

theorem mem_roleBases_iff {entry : List Char × Nat} :
    entry ∈ roleBases ↔ ∃ role : PortRole, entry = (role.head.toList, role.base) := by
  constructor
  · intro member
    simp only [roleBases, List.mem_cons, List.not_mem_nil, or_false] at member
    rcases member with rfl | rfl | rfl | rfl
    · exact ⟨.externalSender, rfl⟩
    · exact ⟨.externalReceiver, rfl⟩
    · exact ⟨.internalSender, rfl⟩
    · exact ⟨.internalReceiver, rfl⟩
  · rintro ⟨role, rfl⟩
    cases role <;> simp [roleBases, PortRole.head, PortRole.base]

theorem apart_roleBases : roleBases.Pairwise fun a b => ¬ a.1 <+: b.1 ∧ ¬ b.1 <+: a.1 := by
  decide

theorem ofPlace?_eq_some_iff {cs : List Char} {v : Nat} :
    ofPlace? cs = some v ↔
      ∃ pack digits m count, cs = pack ++ '-' :: digits ∧ field? pack = some m ∧
        field? digits = some count ∧ 100 * m + count = v := by
  rw [ofPlace?]
  constructor
  · intro found
    cases cut : Text.cutAt? ['-'] cs with
    | none => simp [cut] at found
    | some parts =>
      obtain ⟨pack, digits⟩ := parts
      rw [cut] at found
      dsimp only at found
      have whole := (Text.not_infix_of_cutAt? (by decide) cut).1
      split at found
      · next m count read read' => exact ⟨pack, digits, m, count, whole, read, read', Option.some.inj found⟩
      · cases found
  · rintro ⟨pack, digits, m, count, rfl, read, read', total⟩
    have run := (field?_eq_some_iff.1 read).1
    rw [Text.cutAt?_of_notMem (run.notMem (by decide))]
    simp [read, read', total]

theorem ofRole?_roleBases_eq_some_iff {v : Nat} :
    ofRole? name.toList roleBases = some v ↔
      ∃ role digits, (byRole role digits).Writes name ∧ (byRole role digits).Fits ∧
        (byRole role digits).number = v := by
  rw [ofRole?_eq_some_iff apart_roleBases]
  constructor
  · rintro ⟨entry, member, digits, count, begins, read, total⟩
    obtain ⟨role, rfl⟩ := mem_roleBases_iff.1 member
    obtain ⟨run, rfl, small⟩ := field?_eq_some_iff.1 read
    exact ⟨role, digits, ⟨runs_byRole.2 run, begins.symm⟩, List.forall_mem_singleton.2 small,
      (Nat.add_comm ..).trans total⟩
  · rintro ⟨role, digits, writes, fits, total⟩
    have run := runs_byRole.1 writes.runs
    have small := fits digits List.mem_cons_self
    exact ⟨_, mem_roleBases_iff.2 ⟨role, rfl⟩, digits, _, writes.chars_eq.symm,
      field?_eq_some_iff.2 ⟨run, rfl, small⟩, (Nat.add_comm ..).trans total⟩

theorem ofPlace?_toList_eq_some_iff {v : Nat} :
    ofPlace? name.toList = some v ↔
      ∃ pack digits, (byPlace pack digits).Writes name ∧ (byPlace pack digits).Fits ∧
        (byPlace pack digits).number = v := by
  rw [ofPlace?_eq_some_iff]
  constructor
  · rintro ⟨pack, digits, m, count, whole, read, read', total⟩
    obtain ⟨run, rfl, small⟩ := field?_eq_some_iff.1 read
    obtain ⟨run', rfl, small'⟩ := field?_eq_some_iff.1 read'
    refine ⟨pack, digits, ⟨runs_byPlace.2 ⟨run, run'⟩, whole.symm⟩, ?_, total⟩
    intro field member
    rcases List.mem_pair.1 member with rfl | rfl
    · exact small
    · exact small'
  · rintro ⟨pack, digits, writes, fits, total⟩
    obtain ⟨run, run'⟩ := runs_byPlace.1 writes.runs
    have small := fits pack List.mem_cons_self
    have small' := fits digits (List.mem_cons_of_mem _ List.mem_cons_self)
    exact ⟨pack, digits, _, _, writes.chars_eq.symm, field?_eq_some_iff.2 ⟨run, rfl, small⟩,
      field?_eq_some_iff.2 ⟨run', rfl, small'⟩, total⟩

/-- What a name is read as, by its role or by its place. -/
theorem read_eq_some_iff {v : Nat} :
    (ofRole? name.toList roleBases <|> ofPlace? name.toList) = some v ↔
      ∃ n : PortName, n.Writes name ∧ n.Fits ∧ n.number = v := by
  constructor
  · intro found
    cases role : ofRole? name.toList roleBases with
    | some w =>
      obtain rfl : w = v := by simpa [role] using found
      obtain ⟨role, digits, writes, fits, total⟩ := ofRole?_roleBases_eq_some_iff.1 role
      exact ⟨_, writes, fits, total⟩
    | none =>
      have place : ofPlace? name.toList = some v := by simpa [role] using found
      obtain ⟨pack, digits, writes, fits, total⟩ := ofPlace?_toList_eq_some_iff.1 place
      exact ⟨_, writes, fits, total⟩
  · rintro ⟨n, writes, fits, total⟩
    cases n with
    | byRole role digits =>
      rw [ofRole?_roleBases_eq_some_iff.2 ⟨role, digits, writes, fits, total⟩]
      rfl
    | byPlace pack digits =>
      have no_role : ofRole? name.toList roleBases = none := by
        refine Option.eq_none_iff_forall_ne_some.2 fun w found => ?_
        obtain ⟨role, digits', writes', -⟩ := ofRole?_roleBases_eq_some_iff.1 found
        cases writes.unique writes'
      rw [no_role, ofPlace?_toList_eq_some_iff.2 ⟨pack, digits, writes, fits, total⟩]
      rfl

/-- A name gives the number that it stands for, or none if this is too large. -/
theorem ofName_of_writes (writes : n.Writes name) :
    ofName name = if n.number < UInt64.size then .ok ⟨UInt64.ofNat n.number⟩
      else .error (.invalidPortName name) := by
  rw [ofName]
  split
  · next v found =>
    obtain ⟨n', writes', -, rfl⟩ := read_eq_some_iff.1 found
    rw [writes'.unique writes]
  · next missing =>
    have large : ¬ n.number < UInt64.size := by
      intro small
      rw [read_eq_some_iff.2 ⟨n, writes, fits_of_number_lt small, rfl⟩] at missing
      cases missing
    rw [if_neg large]

/-- A text that is no name gives no number. -/
theorem ofName_of_not_writes (unread : ∀ n : PortName, ¬ n.Writes name) :
    ofName name = .error (.invalidPortName name) := by
  rw [ofName]
  split
  · next v found =>
    obtain ⟨n, writes, -⟩ := read_eq_some_iff.1 found
    exact absurd writes (unread n)
  · rfl

theorem exists_writes_of_ofName {p : PortNumber} (accepted : ofName name = .ok p) :
    ∃ n : PortName, n.Writes name ∧ n.number = p.value.toNat := by
  by_cases read : ∃ n : PortName, n.Writes name
  · obtain ⟨n, writes⟩ := read
    rw [ofName_of_writes writes] at accepted
    split at accepted
    · next small =>
      cases accepted
      exact ⟨n, writes, (UInt64.toNat_ofNat_of_lt' small).symm⟩
    · cases accepted
  · rw [ofName_of_not_writes (not_exists.1 read)] at accepted
    cases accepted

/-- The texts that give a number are the names by role and by place whose number fits a word, and
    every other text is refused: a name with a larger number, a text that is no name, and so any
    text with white space in it or a character beyond ASCII. -/
theorem ofName_eq_ok_iff (name : String) :
    (∀ p : PortNumber, ofName name = .ok p ↔
      ∃ n : PortName, n.Writes name ∧ n.Fits ∧ n.number = p.value.toNat) ∧
    (∀ n : PortName, n.Writes name → UInt64.size ≤ n.number →
      ofName name = .error (.invalidPortName name)) ∧
    ((∀ n : PortName, ¬ n.Writes name) → ofName name = .error (.invalidPortName name)) ∧
    ((∃ c ∈ name.toList, Text.isBlank c = true ∨ 128 ≤ c.toNat) →
      ofName name = .error (.invalidPortName name)) := by
  refine ⟨fun p => ?_, ?_, ofName_of_not_writes, ?_⟩
  · constructor
    · intro accepted
      obtain ⟨n, writes, total⟩ := exists_writes_of_ofName accepted
      exact ⟨n, writes, fits_of_number_lt (total ▸ p.value.toNat_lt), total⟩
    · rintro ⟨n, writes, -, total⟩
      have small : n.number < UInt64.size := total ▸ p.value.toNat_lt
      rw [ofName_of_writes writes, if_pos small, total, UInt64.ofNat_toNat]
  · intro n writes large
    rw [ofName_of_writes writes, if_neg (Nat.not_lt_of_le large)]
  · rintro ⟨c, member, strange⟩
    refine ofName_of_not_writes fun n writes => ?_
    obtain ⟨solid, ascii⟩ := writes.plain member
    rcases strange with blank | far
    · exact Bool.false_ne_true (solid.symm.trans blank)
    · omega

end PortNumber

end Lightpath
