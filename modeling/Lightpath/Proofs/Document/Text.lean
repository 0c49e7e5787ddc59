import Lightpath.Proofs.Document.Numbers
import Lightpath.Proofs.Document.Plain

/-!
# Documents read back from their text

Both forms of a document, the compact and the pretty one, are read as the same draft: it has the
texts and truth values of the document, and for a number what its digits say. A document that can be
told by a text at all is read as itself.
-/

namespace Lightpath

namespace Document

/-- A character with which a value may begin. -/
def Opens (c : Char) : Prop := ¬ Blank c ∧ c ≠ ']' ∧ c ≠ '}'

instance (c : Char) : Decidable (Opens c) := inferInstanceAs (Decidable (_ ∧ _))

theorem BeginsNumber.opens {c : Char} (begins : BeginsNumber c) : Opens c := by
  rcases begins with rfl | digit
  · decide
  · refine ⟨?_, ?_, ?_⟩
    · rintro (rfl | rfl | rfl | rfl) <;> exact absurd digit (by decide)
    · rintro rfl
      exact absurd digit (by decide)
    · rintro rfl
      exact absurd digit (by decide)

/-- Pieces between two brackets, with a comma between two of them. A gap stands in front of every
    piece, and one behind the last. -/
def enclosed (opening closing : Char) (gap back : List Char) : List (List Char) → List Char
  | [] => [opening, closing]
  | pieces => opening :: (gap ++ (List.intercalate (',' :: gap) pieces ++ (back ++ [closing])))

theorem enclosed_append {pieces : List (List Char)} (some_piece : pieces ≠ [])
    (opening closing : Char) (gap back rest : List Char) :
    enclosed opening closing gap back pieces ++ rest =
      opening :: (gap ++ (List.intercalate (',' :: gap) pieces ++ (back ++ closing :: rest))) := by
  cases pieces with
  | nil => exact absurd rfl some_piece
  | cons => simp [enclosed]

/-- Pieces one after the other: the first, what separates it from the second, and the others. -/
theorem intercalate_map_cons_cons {α : Type} (text : α → List Char) (separator tail : List Char)
    (first next : α) (others : List α) :
    separator.intercalate ((first :: next :: others).map text) ++ tail =
      text first ++ (separator ++ (separator.intercalate ((next :: others).map text) ++ tail)) := by
  rw [List.map_cons, List.map_cons, List.intercalate_cons_cons, List.append_assoc,
    List.append_assoc, ← List.map_cons]

theorem exists_intercalate_map_cons {α : Type} (text : α → List Char)
    (separator tail : List Char) (first : α) (others : List α) :
    ∃ more, separator.intercalate ((first :: others).map text) ++ tail = text first ++ more := by
  cases others with
  | nil => exact ⟨tail, by rw [List.map_singleton, List.intercalate_singleton]⟩
  | cons next others => exact ⟨_, intercalate_map_cons_cons text separator tail first next others⟩

/-- A key between quotes and, behind a colon and a gap, a value. -/
def keyed (gap : List Char) (key : String) (value : List Char) : List Char :=
  (quote key).toList ++ ':' :: (gap ++ value)

theorem keyed_append (gap : List Char) (key : String) (value rest : List Char) :
    keyed gap key value ++ rest = (quote key).toList ++ ':' :: (gap ++ (value ++ rest)) := by
  rw [keyed, List.append_assoc, List.cons_append, List.append_assoc]

end Document

namespace Draft

open Document

/-! ## What is read -/

/-- What the digits of a number say. What is no number says `null`. -/
def numberOf (text : String) : Option Document :=
  match readNumber? text.toList with
  | some (value, _) => value
  | none => some .null

/-- What is read of a leaf. -/
def toldLeaf : Document → Option Document
  | .int n => numberOf (toString n)
  | .float x => numberOf (writeFloat x)
  | doc => some doc

/-- What is read of a document. -/
def told : Document → Draft := withLeaves toldLeaf

@[simp] theorem told_list (items : List Document) : told (.list items) = .list (items.map told) :=
  withLeaves_list toldLeaf items

@[simp] theorem told_object (members : List (String × Document)) :
    told (.object members) = .object (members.map fun member => (member.1, told member.2)) :=
  withLeaves_object toldLeaf members

@[simp] theorem told_text (s : String) : told (.text s) = .leaf (some (.text s)) := rfl

/-- A document that is told by its text is read as itself. -/
theorem told_of_plain {doc : Document} {depth : Nat} (plain : doc.Plain depth) :
    told doc = ofDocument doc := by
  rw [ofDocument]
  induction doc using Document.induction generalizing depth with
  | int n =>
    rw [Plain] at plain
    have said : numberOf (toString n) = some (.int n) := by
      rw [numberOf, readNumber?_toString plain.1 plain.2]
    exact congrArg Draft.leaf said
  | float x => exact absurd plain (by simp [Plain])
  | list items ih =>
    rw [Plain, plainItems_iff] at plain
    rw [told_list, withLeaves_list]
    exact congrArg _ (List.map_congr_left fun item member => ih item member (plain.2 item member))
  | object members ih =>
    rw [Plain, plainMembers_iff] at plain
    rw [told_object, withLeaves_object]
    exact congrArg _ (List.map_congr_left fun member listed =>
      congrArg _ (ih member listed (plain.2 member listed)))
  | _ => rfl

/-- Characters are read as a draft, up to what stands behind them, with no less fuel than there are
    characters: each level and each turn of a loop takes one from the fuel, and a bracket or a comma
    from the characters. -/
structure Reads (depth : Nat) (cs : List Char) (draft : Draft) : Prop where
  opens : ∃ c tail, cs = c :: tail ∧ Opens c
  read : ∀ fuel rest, Closes rest → (cs ++ rest).length ≤ fuel →
    readValue fuel depth (cs ++ rest) = some (draft, rest)

theorem Reads.parse? {depth : Nat} {text : String} {draft : Draft}
    (reads : Reads depth text.toList draft) : parse? depth text = some draft := by
  have read := reads.read (text.toList.length + 1) [] closes_nil
    (by rw [List.append_nil]; exact Nat.le_succ _)
  rw [List.append_nil] at read
  rw [Draft.parse?, read]
  rfl

/-! ## Leaves -/

section Leaves

variable (depth : Nat)

theorem reads_of_read {depth : Nat} {cs : List Char} {draft : Draft}
    (opens : ∃ c tail, cs = c :: tail ∧ Opens c)
    (read : ∀ fuel rest, Closes rest → (cs ++ rest).length ≤ fuel + 1 →
      readValue (fuel + 1) depth (cs ++ rest) = some (draft, rest)) :
    Reads depth cs draft := by
  refine ⟨opens, fun fuel rest closes enough => ?_⟩
  cases fuel with
  | zero =>
    obtain ⟨c, tail, rfl, -⟩ := opens
    exact absurd enough (by simp)
  | succ fuel => exact read fuel rest closes enough

theorem reads_null : Reads depth "null".toList (.leaf (some .null)) :=
  reads_of_read ⟨'n', _, rfl, by decide⟩ fun _ _ _ _ => rfl

theorem reads_bool (b : Bool) :
    Reads depth (if b then "true" else "false").toList (.leaf (some (.bool b))) := by
  cases b
  · exact reads_of_read ⟨'f', _, rfl, by decide⟩ fun _ _ _ _ => rfl
  · exact reads_of_read ⟨'t', _, rfl, by decide⟩ fun _ _ _ _ => rfl

theorem readValue_text (fuel : Nat) (rest : List Char) : readValue (fuel + 1) depth ('"' :: rest) =
    (readText? rest).map fun (s, rest) => (.leaf (s.map .text), rest) := rfl

theorem reads_text (s : String) : Reads depth (quote s).toList (.leaf (some (.text s))) := by
  rw [toList_quote]
  refine reads_of_read ⟨'"', _, rfl, by decide⟩ fun fuel rest _ _ => ?_
  rw [List.cons_append, List.append_assoc, readValue_text, List.singleton_append, readText?_quoted]
  rfl

theorem readValue_number (fuel : Nat) {c : Char} (begins : BeginsNumber c) (rest : List Char) :
    readValue (fuel + 1) depth (c :: rest) =
      (readNumber? (c :: rest)).map fun (number, rest) => (.leaf number, rest) := by
  rw [readValue, skipBlanks_of_not_blank begins.opens.1]
  have other : ∀ d, d ≠ '-' → d.isDigit = false → c ≠ d := by
    rintro d minus digit rfl
    rcases begins with same | same
    · exact minus same
    · exact Bool.false_ne_true (digit.symm.trans same)
  split
  · next same => exact absurd (List.cons.inj same).1 (other 'n' (by decide) rfl)
  · next same => exact absurd (List.cons.inj same).1 (other 't' (by decide) rfl)
  · next same => exact absurd (List.cons.inj same).1 (other 'f' (by decide) rfl)
  · next same => exact absurd (List.cons.inj same).1 (other '"' (by decide) rfl)
  · next same => exact absurd (List.cons.inj same).1 (other '[' (by decide) rfl)
  · next same => exact absurd (List.cons.inj same).1 (other '{' (by decide) rfl)
  · rfl

theorem reads_number {text : String} (written : IsNumber text.toList) :
    Reads depth text.toList (.leaf (numberOf text)) := by
  obtain ⟨value, read⟩ := written.readNumber?
  have said : numberOf text = value := by
    have alone := read [] closes_nil
    rw [List.append_nil] at alone
    rw [numberOf, alone]
  rw [said]
  obtain ⟨c, tail, first, begins⟩ := written.first
  refine reads_of_read ⟨c, tail, first, begins.opens⟩ fun fuel rest closes _ => ?_
  have number_read := read rest closes
  rw [first, List.cons_append] at number_read ⊢
  rw [readValue_number depth fuel begins, number_read]
  rfl

theorem reads_float (x : Float) :
    Reads depth (writeFloat x).toList (.leaf (numberOf (writeFloat x))) := by
  rcases writeFloat_cases x with null | written
  · rw [null]
    exact reads_null depth
  · exact reads_number depth written

end Leaves

/-! ## Lists and objects -/

section Gaps

variable {gap : List Char} (blank : ∀ c ∈ gap, Blank c)

include blank

theorem readValue_gap (fuel depth : Nat) (cs : List Char) :
    readValue fuel depth (gap ++ cs) = readValue fuel depth cs := by
  cases fuel with
  | zero => rfl
  | succ fuel => simp only [readValue, skipBlanks_append blank]

theorem skipBlanks_gap {c : Char} (solid : ¬ Blank c) (rest : List Char) :
    skipBlanks (gap ++ c :: rest) = c :: rest := by
  rw [skipBlanks_append blank, skipBlanks_of_not_blank solid]

theorem readValue_items (fuel depth : Nat) {c : Char} (opens : Opens c) (rest : List Char) :
    readValue (fuel + 1) depth ('[' :: (gap ++ c :: rest)) =
      (readItems (readValue fuel (depth - 1)) fuel (c :: rest)).map fun (items, rest) =>
        (nested depth (.list items), rest) := by
  simp [readValue, skipBlanks_of_not_blank (show ¬ Blank '[' by decide), skipBlanks_gap blank opens.1,
    opens.2.1]

theorem readValue_members (fuel depth : Nat) (rest : List Char) :
    readValue (fuel + 1) depth ('{' :: (gap ++ '"' :: rest)) =
      (readMembers (readValue fuel (depth - 1)) fuel ('"' :: rest)).map fun (members, rest) =>
        (nested depth (ofMembers members), rest) := by
  simp [readValue, skipBlanks_of_not_blank (show ¬ Blank '{' by decide),
    skipBlanks_gap blank (show ¬ Blank '"' by decide)]

end Gaps

section Loops

variable {item : List Char → Option (Draft × List Char)} (fuel : Nat) {first : Draft}
  {cs rest gap : List Char}

/-- The loop over items takes an item and the comma behind it, and goes on. -/
theorem readItems_comma (read : item cs = some (first, ',' :: rest)) :
    readItems item (fuel + 1) cs =
      (readItems item fuel rest).map fun (items, rest) => (first :: items, rest) := by
  rw [readItems, read]
  rfl

theorem readItems_bracket (blank : ∀ c ∈ gap, Blank c)
    (read : item cs = some (first, gap ++ ']' :: rest)) :
    readItems item (fuel + 1) cs = some ([first], rest) := by
  rw [readItems, read]
  simp only [skipBlanks_gap blank (show ¬ Blank ']' by decide)]

/-- A member is its key between quotes and, behind a colon, its value. -/
theorem readMember?_quoted (key : String) (read : item cs = some (first, rest)) :
    readMember? item ((quote key).toList ++ ':' :: cs) = some ((some key, first), rest) := by
  simp [toList_quote, readMember?, skipBlanks_of_not_blank, show ¬ Blank '"' by decide,
    show ¬ Blank ':' by decide, readText?_quoted, read]

theorem readMembers_comma (key : String) (read : item cs = some (first, ',' :: rest)) :
    readMembers item (fuel + 1) ((quote key).toList ++ ':' :: cs) =
      (readMembers item fuel rest).map fun (members, rest) =>
        ((some key, first) :: members, rest) := by
  rw [readMembers, readMember?_quoted key read]
  rfl

theorem readMembers_brace (blank : ∀ c ∈ gap, Blank c) (key : String)
    (read : item cs = some (first, gap ++ '}' :: rest)) :
    readMembers item (fuel + 1) ((quote key).toList ++ ':' :: cs) =
      some ([(some key, first)], rest) := by
  rw [readMembers, readMember?_quoted key read]
  simp only [skipBlanks_gap blank (show ¬ Blank '}' by decide)]

/-- Blanks in front of an item make no difference to the loop if they make none to the item. -/
theorem readItems_gap (passed : item (gap ++ cs) = item cs) :
    readItems item fuel (gap ++ cs) = readItems item fuel cs := by
  cases fuel with
  | zero => rfl
  | succ fuel => simp only [readItems, passed]

theorem readMembers_gap (blank : ∀ c ∈ gap, Blank c) :
    readMembers item fuel (gap ++ cs) = readMembers item fuel cs := by
  cases fuel with
  | zero => rfl
  | succ fuel => simp only [readMembers, readMember?, skipBlanks_append blank]

end Loops

theorem ofMembers_map_some {α : Type} (key : α → String) (draft : α → Draft) (members : List α) :
    ofMembers (members.map fun member => (some (key member), draft member)) =
      .object (members.map fun member => (key member, draft member)) := by
  have all : (members.map fun member => (some (key member), draft member)).mapM
      (fun member => member.1.map (·, member.2)) =
        some (members.map fun member => (key member, draft member)) := by
    induction members with
    | nil => rfl
    | cons member members ih => simp [ih]
  rw [ofMembers]
  split
  · next found => rw [Option.some.inj (all.symm.trans found)]
  · next missing => cases all.symm.trans missing

theorem nested_of_pos {depth : Nat} (room : 0 < depth) (draft : Draft) :
    nested depth draft = draft := if_neg (Nat.ne_of_gt room)

section Nodes

variable {α : Type} {text : α → List Char} {draft : α → Draft} {depth bound : Nat}
  {gap back : List Char} (blank : ∀ c ∈ gap, Blank c) (blank_back : ∀ c ∈ back, Blank c)

include blank blank_back

/-- The loop over items reads all of them, up to the closing bracket. -/
theorem readItems_intercalate (fuel : Nat) {items : List α} (some_item : items ≠ [])
    (reads : ∀ item ∈ items, Reads depth (text item) (draft item)) {cs rest : List Char}
    (written : List.intercalate (',' :: gap) (items.map text) ++ (back ++ ']' :: rest) = cs)
    (within : cs.length ≤ bound) (enough : cs.length ≤ fuel) :
    readItems (readValue bound depth) fuel cs = some (items.map draft, rest) := by
  subst written
  -- each item takes one from the fuel, and is itself read within the bound
  induction items generalizing fuel with
  | nil => exact absurd rfl some_item
  | cons item items ih =>
    have read := (reads item List.mem_cons_self).read bound
    cases fuel with
    | zero => simp at enough
    | succ fuel =>
      cases items with
      | nil =>
        rw [List.map_singleton, List.intercalate_singleton] at within ⊢
        have closes : Closes (back ++ ']' :: rest) :=
          closes_append blank_back (closes_cons _ (.inr (.inl rfl)))
        exact readItems_bracket fuel blank_back (read _ closes within)
      | cons next items =>
        rw [intercalate_map_cons_cons, List.cons_append] at within enough ⊢
        have others := ih fuel (List.cons_ne_nil _ _)
          (fun item member => reads item (List.mem_cons_of_mem _ member))
          (by simp only [List.length_append, List.length_cons] at within ⊢; omega)
          (by simp only [List.length_append, List.length_cons] at enough ⊢; omega)
        rw [readItems_comma fuel (read _ (closes_cons _ (.inl rfl)) within),
          readItems_gap fuel (readValue_gap blank bound depth _), others]
        rfl

/-- The loop over members reads all of them, up to the closing brace. -/
theorem readMembers_intercalate (fuel : Nat) {key : α → String} {space : List Char}
    (blank_space : ∀ c ∈ space, Blank c) {members : List α} (some_member : members ≠ [])
    (reads : ∀ member ∈ members, Reads depth (text member) (draft member)) {cs rest : List Char}
    (written : List.intercalate (',' :: gap)
      (members.map fun member => keyed space (key member) (text member)) ++
        (back ++ '}' :: rest) = cs)
    (within : cs.length ≤ bound) (enough : cs.length ≤ fuel) :
    readMembers (readValue bound depth) fuel cs =
      some (members.map fun member => (some (key member), draft member), rest) := by
  subst written
  induction members generalizing fuel with
  | nil => exact absurd rfl some_member
  | cons member members ih =>
    have read (rest : List Char) (closes : Closes rest)
        (within : (text member ++ rest).length ≤ bound) :
        readValue bound depth (space ++ (text member ++ rest)) = some (draft member, rest) := by
      rw [readValue_gap blank_space]
      exact (reads member List.mem_cons_self).read bound rest closes within
    cases fuel with
    | zero => simp at enough
    | succ fuel =>
      cases members with
      | nil =>
        rw [List.map_singleton, List.intercalate_singleton, keyed_append] at within ⊢
        have closes : Closes (back ++ '}' :: rest) :=
          closes_append blank_back (closes_cons _ (.inr (.inr (.inl rfl))))
        refine readMembers_brace fuel blank_back (key member) (read _ closes ?_)
        simp only [List.length_append, List.length_cons] at within ⊢
        omega
      | cons next members =>
        rw [intercalate_map_cons_cons, keyed_append, List.cons_append] at within enough ⊢
        have others := ih fuel (List.cons_ne_nil _ _)
          (fun member listed => reads member (List.mem_cons_of_mem _ listed))
          (by simp only [List.length_append, List.length_cons] at within ⊢; omega)
          (by simp only [List.length_append, List.length_cons] at enough ⊢; omega)
        rw [readMembers_comma fuel (key member) (read _ (closes_cons _ (.inl rfl)) ?_),
          readMembers_gap fuel blank, others]
        · rfl
        · simp only [List.length_append, List.length_cons] at within ⊢
          omega

theorem reads_list (room : 0 < depth) {items : List α}
    (reads : ∀ item ∈ items, Reads (depth - 1) (text item) (draft item)) :
    Reads depth (enclosed '[' ']' gap back (items.map text)) (.list (items.map draft)) := by
  cases items with
  | nil =>
    refine reads_of_read ⟨'[', _, rfl, by decide⟩ fun fuel rest _ _ => ?_
    exact congrArg (fun draft => some (draft, rest)) (nested_of_pos room _)
  | cons item items =>
    refine reads_of_read ⟨'[', _, rfl, by decide⟩ fun fuel rest _ enough => ?_
    have some_piece : (item :: items).map text ≠ [] := List.cons_ne_nil _ _
    rw [enclosed_append some_piece] at enough ⊢
    rw [List.length_cons, List.length_append] at enough
    have within := Nat.le_trans (Nat.le_add_left _ _) (Nat.le_of_succ_le_succ enough)
    have read := readItems_intercalate blank blank_back fuel (List.cons_ne_nil item items) reads rfl
      within within
    obtain ⟨c, tail, opening, opens⟩ := (reads item List.mem_cons_self).opens
    obtain ⟨more, written⟩ := exists_intercalate_map_cons text (',' :: gap) (back ++ ']' :: rest)
      item items
    rw [written, opening, List.cons_append] at read ⊢
    rw [readValue_items blank fuel depth opens, read]
    exact congrArg (fun draft => some (draft, rest)) (nested_of_pos room _)

theorem reads_object (room : 0 < depth) {key : α → String} {space : List Char}
    (blank_space : ∀ c ∈ space, Blank c) {members : List α}
    (reads : ∀ member ∈ members, Reads (depth - 1) (text member) (draft member)) :
    Reads depth
      (enclosed '{' '}' gap back (members.map fun member => keyed space (key member) (text member)))
      (.object (members.map fun member => (key member, draft member))) := by
  cases members with
  | nil =>
    refine reads_of_read ⟨'{', _, rfl, by decide⟩ fun fuel rest _ _ => ?_
    exact congrArg (fun draft => some (draft, rest)) (nested_of_pos room _)
  | cons member members =>
    refine reads_of_read ⟨'{', _, rfl, by decide⟩ fun fuel rest _ enough => ?_
    have some_piece : ((member :: members).map fun member =>
        keyed space (key member) (text member)) ≠ [] := List.cons_ne_nil _ _
    rw [enclosed_append some_piece] at enough ⊢
    rw [List.length_cons, List.length_append] at enough
    have within := Nat.le_trans (Nat.le_add_left _ _) (Nat.le_of_succ_le_succ enough)
    have read := readMembers_intercalate blank blank_back fuel blank_space
      (List.cons_ne_nil member members) reads rfl within within
    obtain ⟨more, written⟩ := exists_intercalate_map_cons
      (fun member => keyed space (key member) (text member)) (',' :: gap) (back ++ '}' :: rest)
      member members
    rw [written, keyed_append, toList_quote, List.cons_append] at read ⊢
    rw [readValue_members blank fuel depth, read]
    exact congrArg (fun draft => some (draft, rest))
      ((nested_of_pos room _).trans (ofMembers_map_some key draft _))

end Nodes

end Draft

/-! ## The compact form -/

namespace Document

theorem renderItems_eq_map (items : List Document) : renderItems items = items.map render := by
  induction items with
  | nil => rfl
  | cons item items ih => rw [renderItems, ih, List.map_cons]

theorem renderMembers_eq_map (members : List (String × Document)) :
    renderMembers members = members.map fun member => quote member.1 ++ ":" ++ member.2.render := by
  induction members with
  | nil => rfl
  | cons member members ih => rw [renderMembers, ih, List.map_cons]

/-- What stands between brackets without blanks. -/
theorem toList_brackets (pieces : List String) (opening closing : Char) :
    (String.singleton opening ++ ",".intercalate pieces ++ String.singleton closing).toList =
      enclosed opening closing [] [] (pieces.map String.toList) := by
  rw [String.toList_append, String.toList_append, String.toList_intercalate]
  cases pieces <;> simp [enclosed]

theorem toList_render_list (items : List Document) :
    (render (.list items)).toList =
      enclosed '[' ']' [] [] (items.map fun item => item.render.toList) := by
  rw [render, renderItems_eq_map]
  exact (toList_brackets _ '[' ']').trans (by rw [List.map_map]; rfl)

theorem toList_render_object (members : List (String × Document)) :
    (render (.object members)).toList =
      enclosed '{' '}' [] []
        (members.map fun member => keyed [] member.1 member.2.render.toList) := by
  rw [render, renderMembers_eq_map]
  refine (toList_brackets _ '{' '}').trans ?_
  simp [keyed, Function.comp_def]

/-! ## The pretty form -/

theorem prettyItems_eq_map (level : Nat) (items : List Document) :
    prettyItems level items = items.map (prettyAt level) := by
  induction items with
  | nil => rfl
  | cons item items ih => rw [prettyItems, ih, List.map_cons]

theorem prettyMembers_eq_map (level : Nat) (members : List (String × Document)) :
    prettyMembers level members =
      members.map fun member => quote member.1 ++ ": " ++ prettyAt level member.2 := by
  induction members with
  | nil => rfl
  | cons member members ih => rw [prettyMembers, ih, List.map_cons]

theorem blank_indent (level : Nat) : ∀ c ∈ (indent level).toList, Blank c := by
  intro c member
  simp only [indent, String.toList_append, String.toList_ofList, List.mem_append] at member
  rcases member with line | space
  · exact .inr (.inr (.inl (List.mem_singleton.1 line)))
  · exact .inl (List.eq_of_mem_replicate space)

theorem toList_bracket (level : Nat) (pieces : List String) (opening closing : Char) :
    (bracket (String.singleton opening) (String.singleton closing) level pieces).toList =
      enclosed opening closing (indent (level + 1)).toList (indent level).toList
        (pieces.map String.toList) := by
  cases pieces with
  | nil => simp [bracket, enclosed]
  | cons piece pieces => simp [bracket, enclosed, String.toList_intercalate]

theorem toList_prettyAt_list (level : Nat) (items : List Document) :
    (prettyAt level (.list items)).toList =
      enclosed '[' ']' (indent (level + 1)).toList (indent level).toList
        (items.map fun item => (item.prettyAt (level + 1)).toList) := by
  rw [prettyAt, prettyItems_eq_map]
  exact (toList_bracket level _ '[' ']').trans (by rw [List.map_map]; rfl)

theorem toList_prettyAt_object (level : Nat) (members : List (String × Document)) :
    (prettyAt level (.object members)).toList =
      enclosed '{' '}' (indent (level + 1)).toList (indent level).toList
        (members.map fun member =>
          keyed [' '] member.1 (member.2.prettyAt (level + 1)).toList) := by
  rw [prettyAt, prettyMembers_eq_map]
  refine (toList_bracket level _ '{' '}').trans ?_
  simp [keyed, Function.comp_def]

end Document

/-! ## Both forms read -/

namespace Draft

open Document

/-- The compact form of a document is read. -/
theorem reads_render {doc : Document} {depth : Nat} (fits : doc.levels ≤ depth) :
    Reads depth doc.render.toList (told doc) := by
  have none : ∀ c ∈ ([] : List Char), Blank c := List.forall_mem_nil _
  induction doc using Document.induction generalizing depth with
  | null => exact reads_null depth
  | bool b => exact reads_bool depth b
  | int n => exact reads_number depth (isNumber_toString n)
  | float x => exact reads_float depth x
  | text s => exact reads_text depth s
  | list items ih =>
    obtain ⟨room, within⟩ := levels_list_le_iff.1 fits
    rw [toList_render_list, told_list]
    exact reads_list none none room fun item member => ih item member (within item member)
  | object members ih =>
    obtain ⟨room, within⟩ := levels_object_le_iff.1 fits
    rw [toList_render_object, told_object]
    exact reads_object none none room none fun member listed =>
      ih member listed (within member listed)

/-- The pretty form of a document is read, at whatever level it begins. -/
theorem reads_prettyAt {doc : Document} {depth : Nat} (fits : doc.levels ≤ depth) (level : Nat) :
    Reads depth (doc.prettyAt level).toList (told doc) := by
  have space : ∀ c ∈ [' '], Blank c := fun c member => .inl (List.mem_singleton.1 member)
  induction doc using Document.induction generalizing depth level with
  | null => exact reads_null depth
  | bool b => exact reads_bool depth b
  | int n => exact reads_number depth (isNumber_toString n)
  | float x => exact reads_float depth x
  | text s => exact reads_text depth s
  | list items ih =>
    obtain ⟨room, within⟩ := levels_list_le_iff.1 fits
    rw [toList_prettyAt_list, told_list]
    exact reads_list (blank_indent _) (blank_indent _) room fun item member =>
      ih item member (within item member) _
  | object members ih =>
    obtain ⟨room, within⟩ := levels_object_le_iff.1 fits
    rw [toList_prettyAt_object, told_object]
    exact reads_object (blank_indent _) (blank_indent _) room space fun member listed =>
      ih member listed (within member listed) _

/-- The pretty form of a document that is nested no deeper than is read. -/
theorem parse?_pretty {doc : Document} {depth : Nat} (fits : doc.levels ≤ depth) :
    parse? depth doc.pretty = some (told doc) :=
  (reads_prettyAt fits 0).parse?

/-- The compact form of a document that is told by its text. -/
theorem parse?_render {doc : Document} {depth : Nat} (plain : doc.Plain depth) :
    parse? depth doc.render = some (ofDocument doc) := by
  rw [(reads_render plain.levels_le).parse?, told_of_plain plain]

end Draft

namespace Document

variable {doc : Document}

/-- The text of a document is read as the document. -/
theorem parse?_render (plain : doc.Plain maxDepth) : parse? doc.render = some doc := by
  rw [parse?, Draft.parse?_render plain]
  exact Draft.document?_ofDocument doc

/-- The pretty form is read as the document too. -/
theorem parse?_pretty (plain : doc.Plain maxDepth) : parse? doc.pretty = some doc := by
  rw [parse?, Draft.parse?_pretty plain.levels_le, Draft.told_of_plain plain]
  exact Draft.document?_ofDocument doc

end Document

end Lightpath
