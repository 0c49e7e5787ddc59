import Lightpath.Encoding
import Lightpath.Proofs.Document.Plain
import Mathlib.Data.Set.List

/-!
# Abridged documents

A document is abridged if members that stand at a default are left out of its objects, or the
members stand in another order. The fields that are left are read as those of the whole document,
and the fields that are left out as their defaults, in all forms of documents alike.
-/

namespace Lightpath

open Table (lookup)

theorem allDistinct_of_nodup {ss : List String} (distinct : ss.Nodup) : allDistinct ss = true := by
  induction ss with
  | nil => rfl
  | cons s ss ih =>
    rw [List.nodup_cons] at distinct
    simp [allDistinct, distinct.1, ih distinct.2]

/-- Members under different keys are known if their keys are. -/
theorem knownMembers?_of_nodup {α : Type} {members : List (String × α)}
    (distinct : (members.map (·.1)).Nodup) (names : List String) :
    knownMembers? names members = some (members.filter fun member => names.contains member.1) := by
  have distinct' : ((members.filter fun member => names.contains member.1).map (·.1)).Nodup :=
    distinct.sublist (List.filter_sublist.map _)
  rw [knownMembers?]
  simp only [allDistinct_of_nodup distinct', if_true]

namespace Document

/-- A document that says the same: members of its objects that are among `defaults` may be left out,
    and the members may stand in any order. -/
inductive Abridges (defaults : List (String × Document)) : (full short : Document) → Prop
  | same (doc : Document) : Abridges defaults doc doc
  | object {members kept : List (String × Document)} (distinct : (kept.map (·.1)).Nodup)
      (known : ∀ key, (lookup key kept).isSome → (lookup key members).isSome)
      (stays : ∀ key full short, lookup key members = some full → lookup key kept = some short →
        Abridges defaults full short)
      (left_out : ∀ key full, lookup key members = some full → lookup key kept = none →
        (key, full) ∈ defaults) :
      Abridges defaults (.object members) (.object kept)

variable {defaults members kept : List (String × Document)} {full short : Document}

/-- Some of the members are left in an object, in any order, and those that are not are defaults. -/
theorem Abridges.of_subset (distinct : (members.map (·.1)).Nodup)
    (distinct' : (kept.map (·.1)).Nodup) (subset : kept ⊆ members)
    (left_out : ∀ member ∈ members, member ∉ kept → member ∈ defaults) :
    Abridges defaults (.object members) (.object kept) := by
  have found {key : String} {value : Document} (stays : lookup key kept = some value) :
      lookup key members = some value :=
    Table.lookup_of_mem distinct (subset (Table.mem_of_lookup stays))
  refine .object distinct' (fun key stays => ?_) (fun key full short whole stays => ?_)
    fun key full whole gone => ?_
  · obtain ⟨value, stays⟩ := Option.isSome_iff_exists.1 stays
    rw [found stays]
    rfl
  · rw [Option.some.inj (whole.symm.trans (found stays))]
    exact .same short
  · refine left_out _ (Table.mem_of_lookup whole) fun member => ?_
    rw [Table.lookup_of_mem distinct' member] at gone
    cases gone

/-- Only objects are abridged. -/
theorem abridges_iff_eq (solid : ∀ members, full ≠ .object members) :
    Abridges defaults full short ↔ short = full := by
  constructor
  · rintro (_ | _)
    · rfl
    · exact absurd rfl (solid _)
  · rintro rfl
    exact .same short

/-- What holds of a leaf holds of whatever it is abridged to. -/
theorem forall_abridges_of_leaf {P : Document → Prop} (leaf : ∀ members, full ≠ .object members)
    (holds : P full) : ∀ short, Abridges defaults full short → P short := fun _ abridged =>
  (abridges_iff_eq leaf).1 abridged ▸ holds

/-- A document that is abridged can be written if the whole one can. -/
theorem Abridges.plain (abridged : Abridges defaults full short) {depth : Nat}
    (plain : full.Plain depth) : short.Plain depth := by
  induction abridged generalizing depth with
  | same doc => exact plain
  | @object members kept distinct known stays left_out ih =>
    rw [Plain, plainMembers_iff] at plain ⊢
    refine ⟨plain.1, fun member inside => ?_⟩
    have found := Table.lookup_of_mem distinct inside
    obtain ⟨value, whole⟩ := Option.isSome_iff_exists.1 (known member.1 (by rw [found]; rfl))
    exact ih _ _ _ whole found (plain.2 _ (Table.mem_of_lookup whole))

/-- The members of an object and those that are left of them. -/
structure Kept (defaults members kept : List (String × Document)) : Prop where
  distinct : (kept.map (·.1)).Nodup
  known : ∀ key, (lookup key kept).isSome → (lookup key members).isSome
  stays : ∀ key full short, lookup key members = some full → lookup key kept = some short →
    Abridges defaults full short
  left_out : ∀ key full, lookup key members = some full → lookup key kept = none →
    (key, full) ∈ defaults

theorem Abridges.exists_kept (abridged : Abridges defaults (.object members) short)
    (distinct : (members.map (·.1)).Nodup) :
    ∃ kept, short = .object kept ∧ Kept defaults members kept := by
  rcases abridged with _ | ⟨distinct', known, stays, left_out⟩
  · refine ⟨members, rfl, distinct, fun _ => id, fun key full short whole stays => ?_,
      fun key full whole gone => ?_⟩
    · rw [Option.some.inj (whole.symm.trans stays)]
      exact .same short
    · rw [gone] at whole
      cases whole
  · exact ⟨_, rfl, distinct', known, stays, left_out⟩

/-- The fields of an object as they stand in a form. -/
def fieldsOf {α : Type} (put : Document → α) (kept : List (String × Document)) :
    List (String × α) :=
  kept.map fun member => (member.1, put member.2)

theorem fieldsOf_id : fieldsOf id kept = kept := List.map_id'' (fun _ => rfl) kept

theorem keys_fieldsOf {α : Type} (put : Document → α) :
    (fieldsOf put kept).map (·.1) = kept.map (·.1) := by
  simp [fieldsOf]

theorem lookup_fieldsOf {α : Type} (put : Document → α) (key : String) :
    lookup key (fieldsOf put kept) = (lookup key kept).map put :=
  Table.lookup_map_values put key kept

section Fields

variable {α β : Type} {put : Document → α} {read : α → Option β} {x d : β} {key : String}

/-- A field that is never left out is read as it stands in the whole object. -/
theorem Kept.field? (k : Kept defaults members kept) (whole : lookup key members = some full)
    (needed : key ∉ defaults.map (·.1))
    (reads : ∀ short, Abridges defaults full short → read (put short) = some x) :
    Encoded.field? (fieldsOf put kept) key read = some x := by
  rw [Encoded.field?, lookup_fieldsOf]
  cases found : lookup key kept with
  | none =>
    exact absurd (List.mem_map_of_mem (f := (·.1)) (k.left_out key full whole found)) needed
  | some short => exact reads short (k.stays key full short whole found)

theorem Kept.leaf? (k : Kept defaults members kept) (whole : lookup key members = some full)
    (needed : key ∉ defaults.map (·.1)) (leaf : ∀ members, full ≠ .object members)
    (read_eq : read (put full) = some x) :
    Encoded.field? (fieldsOf put kept) key read = some x :=
  k.field? whole needed (forall_abridges_of_leaf leaf read_eq)

/-- A field that may be left out is read as it stands in the whole object, if its default is the
    value of the field wherever it may be left out. -/
theorem Kept.fieldOr (k : Kept defaults members kept) (whole : lookup key members = some full)
    (spare : (key, full) ∈ defaults → d = x)
    (reads : ∀ short, Abridges defaults full short → read (put short) = some x) :
    Encoded.fieldOr (fieldsOf put kept) key d read = some x := by
  rw [Encoded.fieldOr, lookup_fieldsOf]
  cases found : lookup key kept with
  | none => exact congrArg some (spare (k.left_out key full whole found))
  | some short => exact reads short (k.stays key full short whole found)

end Fields

/-- Texts under keys as members of an object. -/
def textMembers (texts : List (String × String)) : List (String × Document) :=
  texts.map fun entry => (entry.1, .text entry.2)

theorem keys_textMembers (texts : List (String × String)) :
    (textMembers texts).map (·.1) = texts.map (·.1) := List.map_map

theorem plain_textMembers (depth : Nat) (texts : List (String × String)) :
    PlainMembers depth (textMembers texts) := by
  rw [plainMembers_iff]
  intro member inside
  obtain ⟨entry, -, rfl⟩ := List.mem_map.1 inside
  exact trivial

/-- Of texts under keys all are left, in some order, if no default is a text. -/
theorem Kept.exists_texts {texts : List (String × String)}
    (k : Kept defaults (textMembers texts) kept) (no_text : ∀ key s, (key, .text s) ∉ defaults) :
    ∃ texts', kept = textMembers texts' ∧ (texts'.map (·.1)).Nodup ∧
      ∀ key, lookup key texts' = lookup key texts := by
  have whole (key : String) : lookup key (textMembers texts) = (lookup key texts).map .text :=
    Table.lookup_map_values ..
  -- what is left of a text is the text
  have text (key : String) (short : Document) (stays : lookup key kept = some short) :
      ∃ s, lookup key texts = some s ∧ short = .text s := by
    obtain ⟨full, found⟩ := Option.isSome_iff_exists.1 (k.known key (by rw [stays]; rfl))
    obtain ⟨s, given, rfl⟩ := Option.map_eq_some_iff.1 ((whole key).symm.trans found)
    have leaf : ∀ members, Document.text s ≠ .object members := fun _ => nofun
    exact ⟨s, given, (abridges_iff_eq leaf).1 (k.stays key _ _ found stays)⟩
  obtain ⟨texts', rfl⟩ : ∃ texts', textMembers texts' = kept := by
    refine (Set.range_list_map _).ge fun member inside => ?_
    obtain ⟨s, -, same⟩ := text _ _ (Table.lookup_of_mem k.distinct inside)
    exact ⟨(member.1, s), Prod.ext rfl same.symm⟩
  refine ⟨texts', rfl, keys_textMembers texts' ▸ k.distinct, fun key => ?_⟩
  have left : lookup key (textMembers texts') = (lookup key texts').map .text :=
    Table.lookup_map_values ..
  cases found : lookup key texts' with
  | some s =>
    obtain ⟨s', given, same⟩ := text key _ (left.trans (by rw [found]; rfl))
    rw [given, Document.text.inj same]
  | none =>
    cases given : lookup key texts with
    | none => rfl
    | some s =>
      exact absurd (k.left_out key (.text s) (by rw [whole, given]; rfl) (by rw [left, found]; rfl))
        (no_text key s)

theorem Kept.filter (k : Kept defaults members kept) (p : String → Bool) :
    Kept defaults (members.filter fun member => p member.1)
      (kept.filter fun member => p member.1) where
  distinct := k.distinct.sublist (List.filter_sublist.map _)
  known key := by
    rw [Table.lookup_filter, Table.lookup_filter]
    split
    · exact k.known key
    · exact id
  stays key full short := by
    rw [Table.lookup_filter, Table.lookup_filter]
    split
    · exact k.stays key full short
    · intro none
      cases none
  left_out key full := by
    rw [Table.lookup_filter, Table.lookup_filter]
    split
    · exact k.left_out key full
    · intro none
      cases none

end Document

/-- Documents put into a form so that all of them read there as what they are. -/
structure DocumentForm.Faithful {α : Type} [DocumentForm α] (put : Document → α) : Prop where
  natural?_put : ∀ limit doc, Encoded.natural? limit (put doc) = Encoded.natural? limit doc
  bool?_put : ∀ doc, Encoded.bool? (put doc) = Encoded.bool? doc
  text?_put : ∀ doc, Encoded.text? (put doc) = doc.text?
  int32?_put : ∀ doc, DocumentForm.int32? (put doc) = doc.int32?
  choice?_put : ∀ s, Encoded.choice? (put (.text s)) = some s
  present?_null : Encoded.present? (put .null) = some none
  present?_put : ∀ doc, doc ≠ .null → Encoded.present? (put doc) = some (some (put doc))
  fields?_put : ∀ names least members, Encoded.fields? names least (put (.object members)) =
    knownMembers? names (members.map fun member => (member.1, put member.2))
  members?_put : ∀ members, DocumentForm.members? (put (.object members)) =
    some (members.map fun member => (member.1, put member.2))
  whole?_put : ∀ doc, DocumentForm.whole? (put doc) = some doc

namespace DocumentForm

theorem faithful_id : Faithful (id : Document → Document) where
  natural?_put _ _ := rfl
  bool?_put _ := rfl
  text?_put _ := rfl
  int32?_put _ := rfl
  choice?_put _ := rfl
  present?_null := rfl
  present?_put doc some_value := by
    cases doc with
    | null => exact absurd rfl some_value
    | _ => rfl
  fields?_put _ _ _ := by
    rw [← Document.fieldsOf, Document.fieldsOf_id]
    rfl
  members?_put _ := by
    rw [← Document.fieldsOf, Document.fieldsOf_id]
    rfl
  whole?_put _ := rfl

theorem faithful_draft : Faithful Draft.ofDocument where
  natural?_put limit doc := by cases doc <;> rfl
  bool?_put doc := by cases doc <;> rfl
  text?_put doc := by cases doc <;> rfl
  int32?_put doc := by cases doc <;> rfl
  choice?_put _ := rfl
  present?_null := rfl
  present?_put doc some_value := by
    cases doc with
    | null => exact absurd rfl some_value
    | _ => rfl
  fields?_put names least members := by
    rw [Draft.ofDocument, Draft.withLeaves_object]
    rfl
  members?_put members := by
    rw [Draft.ofDocument, Draft.withLeaves_object]
    rfl
  whole?_put := Draft.document?_ofDocument

namespace Faithful

open Document

variable {α β : Type} [DocumentForm α] {put : Document → α} (faithful : Faithful put)
  {defaults members kept : List (String × Document)} {read : α → Option β}

include faithful

/-- All fields that are left are found, none of them unknown or given twice. -/
theorem fields?_kept (names : List String) (least : Nat) (k : Kept defaults members kept)
    (named : members.map (·.1) ⊆ names) :
    Encoded.fields? names least (put (.object kept)) = some (fieldsOf put kept) := by
  have keys : (fieldsOf put kept).map (·.1) = kept.map (·.1) := keys_fieldsOf put
  have all : (fieldsOf put kept).filter (fun member => names.contains member.1) =
      fieldsOf put kept := by
    refine List.filter_eq_self.2 fun member inside => ?_
    have key : member.1 ∈ kept.map (·.1) := keys ▸ List.mem_map_of_mem inside
    have whole := k.known member.1 (Table.lookup_isSome_iff.2 key)
    exact List.contains_iff_mem.2 (named (Table.lookup_isSome_iff.1 whole))
  rw [faithful.fields?_put, ← fieldsOf, knownMembers?_of_nodup (keys ▸ k.distinct), all]

theorem natural?_int {limit n : Nat} (fits : n ≤ limit) :
    Encoded.natural? limit (put (.int n)) = some n := by
  rw [faithful.natural?_put]
  simp [Encoded.natural?, Document.natural?, fits]

theorem word64?_put (n : UInt64) : Encoded.word64? (put (.word n)) = some n := by
  rw [Encoded.word64?, Document.word, faithful.natural?_int (Nat.le_sub_one_of_lt n.toNat_lt),
    Option.map_some, UInt64.ofNat_toNat]

theorem word32?_put (n : UInt32) : Encoded.word32? (put (.int n.toNat)) = some n := by
  rw [Encoded.word32?, faithful.natural?_int (Nat.le_sub_one_of_lt n.toNat_lt), Option.map_some,
    UInt32.ofNat_toNat]

theorem int32?_int (n : Int32) : DocumentForm.int32? (put (.int n.toInt)) = some n := by
  rw [faithful.int32?_put, Document.int32?, if_pos ⟨n.le_toInt, n.toInt_lt⟩, Int32.ofInt_toInt]

theorem alternative?_put (ofName? : String → Option β) (s : String) :
    Encoded.alternative? ofName? (put (.text s)) = ofName? s := by
  rw [Encoded.alternative?, faithful.choice?_put]

theorem optional?_null : Encoded.optional? read (put .null) = some none := by
  rw [Encoded.optional?, faithful.present?_null]

theorem optional?_put {doc : Document} (some_value : doc ≠ .null) :
    Encoded.optional? read (put doc) = (read (put doc)).map some := by
  rw [Encoded.optional?, faithful.present?_put doc some_value]

end Faithful

end DocumentForm

end Lightpath
