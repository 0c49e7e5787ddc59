import Lightpath.Document.Reader

/-!
# Documents in drafts and in texts

A document is a draft all of which has a value. It can be told by a text if its integers are in
range, it has no floating point numbers, and it is not nested too deep. What is shown of documents
by induction is shown of a list or an object from all that is in it.
-/

namespace Lightpath

/-- What holds of a list or an object if it holds of all that is in it holds of every document. -/
@[elab_as_elim]
theorem Document.induction {P : Document → Prop} (null : P .null) (bool : ∀ b, P (.bool b))
    (int : ∀ n, P (.int n)) (float : ∀ x, P (.float x)) (text : ∀ s, P (.text s))
    (list : ∀ items, (∀ item ∈ items, P item) → P (.list items))
    (object : ∀ members, (∀ member ∈ members, P member.2) → P (.object members))
    (doc : Document) : P doc :=
  @Document.rec P (fun items => ∀ item ∈ items, P item)
    (fun members => ∀ member ∈ members, P member.2) (fun member => P member.2)
    null bool int float text list object
    (List.forall_mem_nil _) (fun _ _ first others => List.forall_mem_cons.2 ⟨first, others⟩)
    (List.forall_mem_nil _) (fun _ _ first others => List.forall_mem_cons.2 ⟨first, others⟩)
    (fun _ _ value => value) doc

namespace Draft

mutual

/-- A document as a draft, with values for its leaves. -/
def withLeaves (value : Document → Option Document) : Document → Draft
  | .list items => .list (withLeavesItems value items)
  | .object members => .object (withLeavesMembers value members)
  | doc => .leaf (value doc)

/-- The items of a list as drafts. -/
def withLeavesItems (value : Document → Option Document) : List Document → List Draft
  | [] => []
  | item :: items => withLeaves value item :: withLeavesItems value items

/-- The members of an object as drafts. -/
def withLeavesMembers (value : Document → Option Document) :
    List (String × Document) → List (String × Draft)
  | [] => []
  | (key, member) :: members => (key, withLeaves value member) :: withLeavesMembers value members

end

/-- A document as a draft, all of which has a value. -/
def ofDocument : Document → Draft := withLeaves some

section Leaves

variable (value : Document → Option Document)

@[simp] theorem withLeaves_list (items : List Document) :
    withLeaves value (.list items) = .list (items.map (withLeaves value)) := by
  rw [withLeaves]
  congr 1
  induction items with
  | nil => rfl
  | cons item items ih => rw [withLeavesItems, ih, List.map_cons]

@[simp] theorem withLeaves_object (members : List (String × Document)) :
    withLeaves value (.object members) =
      .object (members.map fun member => (member.1, withLeaves value member.2)) := by
  rw [withLeaves]
  congr 1
  induction members with
  | nil => rfl
  | cons member members ih => rw [withLeavesMembers, ih, List.map_cons]

end Leaves

/-- All of the draft of a document has a value, and that is the document. -/
theorem document?_ofDocument (doc : Document) : (ofDocument doc).document? = some doc := by
  rw [ofDocument]
  induction doc using Document.induction with
  | list items ih =>
    have all : documents? (items.map (withLeaves some)) = some items := by
      induction items with
      | nil => rfl
      | cons item items others =>
        simp [documents?, ih item,
          others fun next member => ih next (List.mem_cons_of_mem _ member)]
    rw [withLeaves_list, document?, all]
  | object members ih =>
    have all : memberDocuments? (members.map fun member => (member.1, withLeaves some member.2)) =
        some members := by
      induction members with
      | nil => rfl
      | cons member members others =>
        simp [memberDocuments?, ih member,
          others fun next member => ih next (List.mem_cons_of_mem _ member)]
    rw [withLeaves_object, document?, all]
  | _ => rfl

end Draft

namespace Document

mutual

/-- Whether a document is told by its text: it holds no floating point number and no integer out of
    range, and has no more levels of lists and objects than `depth`. -/
def Plain : (depth : Nat) → Document → Prop
  | _, .int n => intLow ≤ n ∧ n ≤ intHigh
  | _, .float _ => False
  | depth, .list items => 0 < depth ∧ PlainItems (depth - 1) items
  | depth, .object members => 0 < depth ∧ PlainMembers (depth - 1) members
  | _, _ => True

/-- Whether all items of a list are told by their texts. -/
def PlainItems : (depth : Nat) → List Document → Prop
  | _, [] => True
  | depth, item :: items => Plain depth item ∧ PlainItems depth items

/-- Whether the values of all members are told by their texts. -/
def PlainMembers : (depth : Nat) → List (String × Document) → Prop
  | _, [] => True
  | depth, (_, value) :: members => Plain depth value ∧ PlainMembers depth members

end

theorem plainItems_iff {depth : Nat} {items : List Document} :
    PlainItems depth items ↔ ∀ item ∈ items, item.Plain depth := by
  induction items with
  | nil => simp [PlainItems]
  | cons item items ih => simp [PlainItems, ih]

theorem plainMembers_iff {depth : Nat} {members : List (String × Document)} :
    PlainMembers depth members ↔ ∀ member ∈ members, member.2.Plain depth := by
  induction members with
  | nil => simp [PlainMembers]
  | cons member members ih => simp [PlainMembers, ih]

theorem plain_int (depth : Nat) {n : Int} (low : -9223372036854775808 ≤ n)
    (high : n < 18446744073709551616) : (Document.int n).Plain depth :=
  ⟨low, Int.le_sub_one_of_lt high⟩

theorem plain_word (depth : Nat) (n : UInt64) : (word n).Plain depth :=
  have fits : n.toNat < 18446744073709551616 := n.toNat_lt
  plain_int depth (by omega) (by omega)

/-! ## Levels -/

mutual

/-- How many levels of lists and objects a document has. -/
def levels : Document → Nat
  | .list items => levelsOfItems items + 1
  | .object members => levelsOfMembers members + 1
  | _ => 0

/-- The most levels that an item of a list has. -/
def levelsOfItems : List Document → Nat
  | [] => 0
  | item :: items => max item.levels (levelsOfItems items)

/-- The most levels that a value of a member has. -/
def levelsOfMembers : List (String × Document) → Nat
  | [] => 0
  | (_, value) :: members => max value.levels (levelsOfMembers members)

end

@[simp] theorem levels_list_le_iff {items : List Document} {depth : Nat} :
    levels (.list items) ≤ depth ↔ 0 < depth ∧ ∀ item ∈ items, item.levels ≤ depth - 1 := by
  have within : levelsOfItems items ≤ depth - 1 ↔ ∀ item ∈ items, item.levels ≤ depth - 1 := by
    induction items with
    | nil => simp [levelsOfItems]
    | cons item items ih => rw [levelsOfItems, Nat.max_le, ih, List.forall_mem_cons]
  rw [levels, ← within]
  omega

@[simp] theorem levels_object_le_iff {members : List (String × Document)} {depth : Nat} :
    levels (.object members) ≤ depth ↔
      0 < depth ∧ ∀ member ∈ members, member.2.levels ≤ depth - 1 := by
  have within :
      levelsOfMembers members ≤ depth - 1 ↔ ∀ member ∈ members, member.2.levels ≤ depth - 1 := by
    induction members with
    | nil => simp [levelsOfMembers]
    | cons member members ih => rw [levelsOfMembers, Nat.max_le, ih, List.forall_mem_cons]
  rw [levels, ← within]
  omega

@[simp] theorem levels_text (s : String) : levels (.text s) = 0 := rfl

@[simp] theorem levels_number (x : Float) : levels (.number x) = 0 := by
  rw [number]
  split <;> rfl

/-- What is told by its text is not nested too deep. -/
theorem Plain.levels_le {doc : Document} {depth : Nat} (plain : doc.Plain depth) :
    doc.levels ≤ depth := by
  induction doc using Document.induction generalizing depth with
  | list items ih =>
    rw [Plain, plainItems_iff] at plain
    exact levels_list_le_iff.2 ⟨plain.1, fun item member => ih item member (plain.2 item member)⟩
  | object members ih =>
    rw [Plain, plainMembers_iff] at plain
    exact levels_object_le_iff.2
      ⟨plain.1, fun member listed => ih member listed (plain.2 member listed)⟩
  | _ => exact Nat.zero_le _

end Document

end Lightpath
