import Lightpath.Text.Search
import Mathlib.Data.List.Infix

/-!
# Occurrences and cuts

Finding one text in another, said of lists of characters: an occurrence is an infix, and a text is
cut where the mark first stands.
-/

namespace Lightpath.Text

theorem occurs_iff_infix (needle cs : List Char) : occurs needle cs = true ↔ needle <:+: cs := by
  induction cs with
  | nil => simp [occurs]
  | cons c rest ih =>
    rw [occurs, Bool.or_eq_true, ih, List.isPrefixOf_iff_prefix, List.infix_cons_iff]

theorem contains_iff_infix (s needle : String) :
    contains s needle = true ↔ needle.toList <:+: s.toList :=
  occurs_iff_infix needle.toList s.toList

theorem dropHead?_eq_some_iff {head cs rest : List Char} :
    dropHead? head cs = some rest ↔ cs = head ++ rest := by
  rw [dropHead?]
  by_cases begins : head.isPrefixOf cs = true
  · obtain ⟨tail, rfl⟩ := List.isPrefixOf_iff_prefix.1 begins
    simp [begins]
  · rw [if_neg begins]
    refine iff_of_false (by simp) ?_
    rintro rfl
    exact begins (List.isPrefixOf_iff_prefix.2 (List.prefix_append head rest))

/-- A text is cut behind what has no mark in it and cannot end with a part of one. -/
theorem cutAt?_append {mark before : List Char} (absent : ¬ mark <:+: before)
    (closed : ∀ c ∈ before.getLast?, c ∉ mark) (after : List Char) :
    cutAt? mark (before ++ (mark ++ after)) = some (before, after) := by
  induction before with
  | nil =>
    have found : dropHead? mark (mark ++ after) = some after := dropHead?_eq_some_iff.2 rfl
    cases mark with
    | nil => exact absurd List.nil_infix absent
    | cons m mark => rw [List.nil_append, List.cons_append, cutAt?, ← List.cons_append, found]
  | cons c before ih =>
    have missed : dropHead? mark (c :: (before ++ (mark ++ after))) = none := by
      refine Option.eq_none_iff_forall_ne_some.2 fun rest found => ?_
      have starts : mark <+: c :: (before ++ (mark ++ after)) :=
        ⟨rest, (dropHead?_eq_some_iff.1 found).symm⟩
      have front : c :: before <+: c :: (before ++ (mark ++ after)) := List.prefix_append ..
      rcases List.prefix_or_prefix_of_prefix starts front with within | beyond
      · exact absent within.isInfix
      · -- the mark begins before the end and goes beyond it
        have last : (c :: before).getLast? = some ((c :: before).getLast (by simp)) :=
          List.getLast?_eq_some_getLast _
        exact closed _ last (beyond.subset (List.getLast_mem _))
    have absent' : ¬ mark <:+: before := by
      intro occurs
      exact absent (List.infix_cons occurs)
    have closed' : ∀ d ∈ before.getLast?, d ∉ mark := by
      intro d last
      refine closed d ?_
      rw [List.getLast?_cons, Option.mem_def.1 last]
      rfl
    rw [List.cons_append, cutAt?, missed]
    dsimp only
    rw [ih absent' closed']
    rfl

/-- No mark stands before the place where a text is cut. -/
theorem not_infix_of_cutAt? {mark cs before after : List Char} (some_mark : mark ≠ [])
    (cut : cutAt? mark cs = some (before, after)) :
    cs = before ++ (mark ++ after) ∧ ¬ mark <:+: before := by
  induction cs generalizing before with
  | nil => simp [cutAt?, some_mark] at cut
  | cons c rest ih =>
    rw [cutAt?] at cut
    cases found : dropHead? mark (c :: rest) with
    | some behind =>
      rw [found] at cut
      obtain ⟨rfl, rfl⟩ := Prod.mk.inj (Option.some.inj cut)
      have whole := dropHead?_eq_some_iff.1 found
      exact ⟨whole, fun occurs => some_mark (List.infix_nil.1 occurs)⟩
    | none =>
      rw [found] at cut
      obtain ⟨⟨front, back⟩, later, same⟩ := Option.map_eq_some_iff.1 cut
      obtain ⟨rfl, rfl⟩ := Prod.mk.inj same
      obtain ⟨rfl, absent⟩ := ih later
      refine ⟨rfl, fun occurs => ?_⟩
      rcases List.infix_cons_iff.1 occurs with starts | inside
      · -- a mark at the front would have been found there
        obtain ⟨tail, more⟩ := starts.trans (List.prefix_append (c :: front) (mark ++ back))
        have first := dropHead?_eq_some_iff.2 more.symm
        rw [List.cons_append, found] at first
        cases first
      · exact absent inside

theorem cutAt?_of_notMem {mark : Char} {before : List Char} (absent : mark ∉ before)
    (after : List Char) : cutAt? [mark] (before ++ mark :: after) = some (before, after) := by
  have outside : ¬ [mark] <:+: before := by
    intro occurs
    exact absent (occurs.subset List.mem_cons_self)
  have closed : ∀ c ∈ before.getLast?, c ∉ [mark] := by
    intro c last same
    rw [List.mem_singleton] at same
    exact absent (same ▸ List.mem_of_getLast? last)
  exact cutAt?_append outside closed after

theorem cutAt?_eq_none_of_notMem {mark : Char} {cs : List Char} (absent : mark ∉ cs) :
    cutAt? [mark] cs = none := by
  refine Option.eq_none_iff_forall_ne_some.2 fun parts cut => absent ?_
  obtain ⟨rfl, -⟩ := not_infix_of_cutAt? (List.cons_ne_nil _ _) cut
  exact List.mem_append_right _ List.mem_cons_self

end Lightpath.Text
