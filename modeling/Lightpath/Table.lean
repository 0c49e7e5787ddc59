/-!
# Tables keyed by text

A `Table α` gives at most one value to each text. Its entries are kept in the order of their
keys, so that two tables with the same look-ups are the same table (`Table.ext_get?`), and the
order in which a table was filled never shows.
-/

namespace Lightpath

/-- Values under texts, in ascending order of the texts, no text twice. -/
structure Table (α : Type u) where
  entries : List (String × α)
  sorted : entries.Pairwise (fun a b => a.1 < b.1)

namespace Table

variable {α : Type u}

/-- The value under a key in a list of entries. -/
def lookup (key : String) : List (String × α) → Option α
  | [] => none
  | (k, v) :: rest => if k = key then some v else lookup key rest

/-- Puts a value at its place among ordered entries, replacing the one with the same key. -/
def insertEntry (key : String) (value : α) : List (String × α) → List (String × α)
  | [] => [(key, value)]
  | (k, v) :: rest =>
    if key < k then (key, value) :: (k, v) :: rest
    else if key = k then (key, value) :: rest
    else (k, v) :: insertEntry key value rest

theorem mem_insertEntry {key : String} {value : α} {e : String × α} {l : List (String × α)}
    (h : e ∈ insertEntry key value l) : e = (key, value) ∨ e ∈ l := by
  induction l with
  | nil => simpa [insertEntry] using h
  | cons hd tl ih =>
    obtain ⟨k, v⟩ := hd
    rw [insertEntry] at h
    split at h
    · simpa using h
    · split at h
      · rcases List.mem_cons.1 h with h | h
        · exact .inl h
        · exact .inr (List.mem_cons_of_mem _ h)
      · rcases List.mem_cons.1 h with h | h
        · exact .inr (h ▸ List.mem_cons_self)
        · exact (ih h).imp id (List.mem_cons_of_mem _)

theorem pairwise_insertEntry (key : String) (value : α) {l : List (String × α)}
    (h : l.Pairwise (fun a b => a.1 < b.1)) :
    (insertEntry key value l).Pairwise (fun a b => a.1 < b.1) := by
  induction l with
  | nil => simp [insertEntry]
  | cons hd tl ih =>
    obtain ⟨k, v⟩ := hd
    obtain ⟨hk, htl⟩ := List.pairwise_cons.1 h
    rw [insertEntry]
    split
    · next hlt =>
      refine List.pairwise_cons.2 ⟨fun e he => ?_, h⟩
      rcases List.mem_cons.1 he with rfl | he
      · exact hlt
      · exact String.lt_trans hlt (hk e he)
    · split
      · next heq =>
        subst heq
        exact List.pairwise_cons.2 ⟨hk, htl⟩
      · next hnlt hne =>
        refine List.pairwise_cons.2 ⟨fun e he => ?_, ih htl⟩
        rcases mem_insertEntry he with rfl | he
        · exact Std.lt_of_le_of_ne (String.not_lt.1 hnlt) fun heq => hne heq.symm
        · exact hk e he

/-- The table without entries. -/
def empty : Table α := ⟨[], List.Pairwise.nil⟩

instance : EmptyCollection (Table α) := ⟨empty⟩

instance : Inhabited (Table α) := ⟨empty⟩

/-- The value under a key. -/
def get? (t : Table α) (key : String) : Option α := lookup key t.entries

/-- Whether a key has a value. -/
def contains (t : Table α) (key : String) : Bool := (t.get? key).isSome

/-- Gives a value to a key; a value that the key had is lost. -/
def insert (t : Table α) (key : String) (value : α) : Table α :=
  ⟨insertEntry key value t.entries, pairwise_insertEntry key value t.sorted⟩

/-- Takes a key and its value out of the table. -/
def erase (t : Table α) (key : String) : Table α :=
  ⟨t.entries.filter (fun e => e.1 ≠ key), t.sorted.filter _⟩

/-- Changes the value under a key, if there is one. -/
def modify (t : Table α) (key : String) (change : α → α) : Table α :=
  match t.get? key with
  | some value => t.insert key (change value)
  | none => t

/-- The keys in ascending order. -/
def keys (t : Table α) : List String := t.entries.map (·.1)

/-- The values in the order of their keys. -/
def values (t : Table α) : List α := t.entries.map (·.2)

/-- The number of keys. -/
def size (t : Table α) : Nat := t.entries.length

/-- The table of a list of entries; of two entries with one key the later counts. -/
def ofList (l : List (String × α)) : Table α :=
  l.foldl (fun t e => t.insert e.1 e.2) empty

@[simp] theorem get?_empty (key : String) : (empty : Table α).get? key = none := rfl

theorem lookup_insertEntry (key key' : String) (value : α) (l : List (String × α)) :
    lookup key' (insertEntry key value l) = if key = key' then some value else lookup key' l := by
  induction l with
  | nil => simp [insertEntry, lookup]
  | cons hd tl ih =>
    obtain ⟨k, v⟩ := hd
    rw [insertEntry]
    split
    · rfl
    · split
      · next heq =>
        subst heq
        by_cases h : key = key' <;> simp [lookup, h]
      · next hne =>
        by_cases h : k = key'
        · subst h
          simp [lookup, hne]
        · simp [lookup, h, ih]

theorem get?_insert (t : Table α) (key key' : String) (value : α) :
    (t.insert key value).get? key' = if key = key' then some value else t.get? key' :=
  lookup_insertEntry key key' value t.entries

@[simp] theorem get?_insert_self (t : Table α) (key : String) (value : α) :
    (t.insert key value).get? key = some value := by
  simp [get?_insert]

theorem get?_insert_of_ne (t : Table α) {key key' : String} (value : α) (h : key ≠ key') :
    (t.insert key value).get? key' = t.get? key' := by
  simp [get?_insert, h]

theorem mem_of_lookup {key : String} {value : α} {l : List (String × α)}
    (found : lookup key l = some value) : (key, value) ∈ l := by
  induction l with
  | nil => cases found
  | cons entry l ih =>
    obtain ⟨k, v⟩ := entry
    rw [lookup] at found
    split at found
    · next same =>
      rw [← same, Option.some.inj found]
      exact List.mem_cons_self
    · exact List.mem_cons_of_mem _ (ih found)

theorem lookup_isSome_iff {key : String} {l : List (String × α)} :
    (lookup key l).isSome ↔ key ∈ l.map (·.1) := by
  induction l with
  | nil => simp [lookup]
  | cons entry l ih =>
    obtain ⟨k, v⟩ := entry
    rw [lookup]
    split
    · next same => simp [same]
    · next other => simp [ih, Ne.symm other]

/-- Under keys that are all different, what stands under a key is found there. -/
theorem lookup_of_mem {key : String} {value : α} {l : List (String × α)}
    (distinct : (l.map (·.1)).Nodup) (member : (key, value) ∈ l) : lookup key l = some value := by
  induction l with
  | nil => cases member
  | cons entry l ih =>
    obtain ⟨k, v⟩ := entry
    rw [List.map_cons, List.nodup_cons] at distinct
    rw [lookup]
    rcases List.mem_cons.1 member with same | later
    · cases same
      rw [if_pos rfl]
    · have other : k ≠ key := by
        rintro rfl
        exact distinct.1 (List.mem_map_of_mem (f := (·.1)) later)
      rw [if_neg other]
      exact ih distinct.2 later

/-- Changing values, each by its key, changes what is found. -/
theorem lookup_map {β : Type v} (f : String → α → β) (key : String) (l : List (String × α)) :
    lookup key (l.map fun entry => (entry.1, f entry.1 entry.2)) = (lookup key l).map (f key) := by
  induction l with
  | nil => rfl
  | cons entry l ih =>
    obtain ⟨k, v⟩ := entry
    rw [List.map_cons, lookup, lookup, ih]
    split
    · next same => rw [same, Option.map_some]
    · rfl

theorem lookup_map_values {β : Type v} (f : α → β) (key : String) (l : List (String × α)) :
    lookup key (l.map fun entry => (entry.1, f entry.2)) = (lookup key l).map f :=
  lookup_map (fun _ => f) key l

theorem lookup_filter (p : String → Bool) (key : String) (l : List (String × α)) :
    lookup key (l.filter fun entry => p entry.1) = if p key then lookup key l else none := by
  induction l with
  | nil => simp [lookup]
  | cons entry l ih =>
    obtain ⟨k, v⟩ := entry
    by_cases same : k = key
    · subst same
      by_cases kept : p k <;> simp [lookup, kept, ih]
    · by_cases kept : p k <;> simp [lookup, kept, ih, same]

theorem lookup_filter_ne (key key' : String) (l : List (String × α)) :
    lookup key' (l.filter (fun e => e.1 ≠ key)) = if key = key' then none else lookup key' l := by
  rw [lookup_filter fun k => k ≠ key]
  by_cases same : key = key'
  · simp [same]
  · simp [same, Ne.symm same]

theorem get?_erase (t : Table α) (key key' : String) :
    (t.erase key).get? key' = if key = key' then none else t.get? key' :=
  lookup_filter_ne key key' t.entries

@[simp] theorem get?_erase_self (t : Table α) (key : String) : (t.erase key).get? key = none := by
  simp [get?_erase]

theorem get?_erase_of_ne (t : Table α) {key key' : String} (h : key ≠ key') :
    (t.erase key).get? key' = t.get? key' := by
  simp [get?_erase, h]

theorem isSome_get?_insert (t : Table α) (key key' : String) (value : α) :
    ((t.insert key value).get? key').isSome ↔ key = key' ∨ (t.get? key').isSome := by
  rw [get?_insert]
  split
  · next same => simp [same]
  · next other => simp [other]

theorem get?_modify (t : Table α) (key key' : String) (change : α → α) :
    (t.modify key change).get? key' =
      if key = key' then (t.get? key').map change else t.get? key' := by
  rw [modify]
  split
  · next value found =>
    rw [get?_insert]
    split
    · next same => rw [← same, found]; rfl
    · rfl
  · next missing =>
    split
    · next same => rw [← same, missing]; rfl
    · rfl

/-- Keys in ascending order are all different. -/
theorem nodup_of_sorted {l : List (String × α)} (sorted : l.Pairwise (fun a b => a.1 < b.1)) :
    (l.map (·.1)).Nodup := by
  refine List.pairwise_map.2 (sorted.imp fun less same => ?_)
  rw [same] at less
  exact String.lt_irrefl _ less

theorem lookup_eq_some_iff {l : List (String × α)} (h : l.Pairwise (fun a b => a.1 < b.1))
    {key : String} {value : α} : lookup key l = some value ↔ (key, value) ∈ l :=
  ⟨mem_of_lookup, lookup_of_mem (nodup_of_sorted h)⟩

/-- A table holds exactly its entries. -/
theorem get?_eq_some_iff (t : Table α) {key : String} {value : α} :
    t.get? key = some value ↔ (key, value) ∈ t.entries :=
  lookup_eq_some_iff t.sorted

/-- The keys of a table are those that have a value. -/
theorem mem_keys_iff (t : Table α) {key : String} : key ∈ t.keys ↔ (t.get? key).isSome := by
  rw [keys, List.mem_map, Option.isSome_iff_exists]
  constructor
  · rintro ⟨⟨_, value⟩, member, rfl⟩
    exact ⟨value, (t.get?_eq_some_iff).2 member⟩
  · rintro ⟨value, found⟩
    exact ⟨(key, value), (t.get?_eq_some_iff).1 found, rfl⟩

/-- The values of a table are those that some key has. -/
theorem mem_values_iff (t : Table α) {value : α} :
    value ∈ t.values ↔ ∃ key, t.get? key = some value := by
  rw [values, List.mem_map]
  constructor
  · rintro ⟨⟨key, _⟩, member, rfl⟩
    exact ⟨key, (t.get?_eq_some_iff).2 member⟩
  · rintro ⟨key, found⟩
    exact ⟨(key, value), (t.get?_eq_some_iff).1 found, rfl⟩

theorem entries_eq_of_lookup {l₁ l₂ : List (String × α)}
    (h₁ : l₁.Pairwise (fun a b => a.1 < b.1)) (h₂ : l₂.Pairwise (fun a b => a.1 < b.1))
    (h : ∀ key, lookup key l₁ = lookup key l₂) : l₁ = l₂ := by
  have same : ∀ e, e ∈ l₁ ↔ e ∈ l₂ := fun e => by
    rw [← lookup_eq_some_iff h₁, ← lookup_eq_some_iff h₂, h]
  clear h
  induction l₁ generalizing l₂ with
  | nil =>
    cases l₂ with
    | nil => rfl
    | cons e _ => exact absurd ((same e).2 List.mem_cons_self) (by simp)
  | cons e₁ tl₁ ih =>
    cases l₂ with
    | nil => exact absurd ((same e₁).1 List.mem_cons_self) (by simp)
    | cons e₂ tl₂ =>
      obtain ⟨hk₁, htl₁⟩ := List.pairwise_cons.1 h₁
      obtain ⟨hk₂, htl₂⟩ := List.pairwise_cons.1 h₂
      have heq : e₁ = e₂ := by
        rcases List.mem_cons.1 ((same e₁).1 List.mem_cons_self) with heq | hmem₁
        · exact heq
        rcases List.mem_cons.1 ((same e₂).2 List.mem_cons_self) with heq | hmem₂
        · exact heq.symm
        exact absurd (hk₂ _ hmem₁) (String.lt_asymm (hk₁ _ hmem₂))
      subst heq
      congr 1
      refine ih htl₁ htl₂ fun e => ?_
      constructor
      · intro hmem
        rcases List.mem_cons.1 ((same e).1 (List.mem_cons_of_mem _ hmem)) with rfl | hmem'
        · exact absurd (hk₁ _ hmem) (String.lt_irrefl _)
        · exact hmem'
      · intro hmem
        rcases List.mem_cons.1 ((same e).2 (List.mem_cons_of_mem _ hmem)) with rfl | hmem'
        · exact absurd (hk₂ _ hmem) (String.lt_irrefl _)
        · exact hmem'

/-- The table of entries under different keys gives what stands under a key. -/
theorem get?_ofList {l : List (String × α)} (distinct : (l.map (·.1)).Nodup) (key : String) :
    (ofList l).get? key = lookup key l := by
  have filled (t : Table α) :
      (l.foldl (fun t e => t.insert e.1 e.2) t).get? key = (lookup key l).or (t.get? key) := by
    induction l generalizing t with
    | nil => rfl
    | cons entry l ih =>
      obtain ⟨k, v⟩ := entry
      rw [List.map_cons, List.nodup_cons] at distinct
      rw [List.foldl_cons, ih distinct.2, get?_insert, lookup]
      split
      · next same =>
        have later : lookup key l = none := by
          rw [← Option.not_isSome_iff_eq_none, lookup_isSome_iff, ← same]
          exact distinct.1
        rw [later]
        rfl
      · rfl
  rw [ofList, filled, get?_empty, Option.or_none]

theorem nodup_keys (t : Table α) : t.keys.Nodup := nodup_of_sorted t.sorted

/-- Tables with the same look-ups are equal. -/
theorem ext_get? {t₁ t₂ : Table α} (h : ∀ key, t₁.get? key = t₂.get? key) : t₁ = t₂ := by
  obtain ⟨l₁, h₁⟩ := t₁
  obtain ⟨l₂, h₂⟩ := t₂
  obtain rfl : l₁ = l₂ := entries_eq_of_lookup h₁ h₂ h
  rfl

theorem lookup_eq_none_of_lt {l : List (String × α)} {key : String}
    (after : ∀ e ∈ l, key < e.1) : lookup key l = none := by
  induction l with
  | nil => rfl
  | cons hd tl ih =>
    have hne : hd.1 ≠ key := fun heq => String.lt_irrefl key (heq ▸ after hd List.mem_cons_self)
    rw [lookup, if_neg hne]
    exact ih fun e he => after e (List.mem_cons_of_mem _ he)

theorem length_insertEntry (key : String) (value : α) {l : List (String × α)}
    (h : l.Pairwise (fun a b => a.1 < b.1)) :
    (insertEntry key value l).length =
      if (lookup key l).isSome then l.length else l.length + 1 := by
  induction l with
  | nil => rfl
  | cons hd tl ih =>
    obtain ⟨k, v⟩ := hd
    obtain ⟨hk, htl⟩ := List.pairwise_cons.1 h
    rw [insertEntry]
    split
    · next hlt =>
      have missing : lookup key ((k, v) :: tl) = none := by
        refine lookup_eq_none_of_lt fun e he => ?_
        rcases List.mem_cons.1 he with rfl | he
        · exact hlt
        · exact String.lt_trans hlt (hk e he)
      rw [missing]
      rfl
    · split
      · next heq => simp [lookup, heq]
      · next hne =>
        rw [List.length_cons, ih htl, lookup, if_neg (Ne.symm hne)]
        split <;> rfl

/-- A table grows by the values given to keys that had none. -/
theorem size_insert (t : Table α) (key : String) (value : α) :
    (t.insert key value).size = if t.contains key then t.size else t.size + 1 :=
  length_insertEntry key value t.sorted

theorem size_insert_le (t : Table α) (key : String) (value : α) :
    (t.insert key value).size ≤ t.size + 1 := by
  rw [size_insert]
  split
  · exact Nat.le_succ _
  · exact Nat.le_refl _

theorem size_erase_le (t : Table α) (key : String) : (t.erase key).size ≤ t.size :=
  List.length_filter_le ..

theorem size_modify (t : Table α) (key : String) (change : α → α) :
    (t.modify key change).size = t.size := by
  rw [modify]
  split
  · next found => rw [size_insert, contains, found]; rfl
  · rfl

/-- Taking out a key without a value changes nothing. -/
theorem erase_of_missing (t : Table α) {key : String} (missing : t.get? key = none) :
    t.erase key = t := by
  refine ext_get? fun key' => ?_
  rw [get?_erase]
  split
  · next same => rw [← same, missing]
  · rfl

instance [DecidableEq α] : DecidableEq (Table α) := fun t₁ t₂ =>
  decidable_of_iff (t₁.entries = t₂.entries) (by cases t₁; cases t₂; simp)

end Table

end Lightpath
