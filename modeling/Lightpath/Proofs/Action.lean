import Lightpath.Error

/-!
# Actions that can fail

How the parts of an action run one after the other. What an action has done before it fails stays
done.
-/

namespace Lightpath.Action

variable {σ α β : Type} (s : σ)

theorem run_pure (x : α) : (pure x : ExceptT Error (StateM σ) α).run s = (.ok x, s) := rfl

theorem run_get : (get : ExceptT Error (StateM σ) σ).run s = (.ok s, s) := rfl

theorem run_bind (x : ExceptT Error (StateM σ) α) (f : α → ExceptT Error (StateM σ) β) :
    (x >>= f).run s = match x.run s with
      | (.ok a, s') => (f a).run s'
      | (.error e, s') => (.error e, s') := by
  change (match x.run s with | (a, s') => (ExceptT.bindCont f a) s') = _
  rcases x.run s with ⟨_ | _, _⟩ <;> rfl

theorem run_lift (x : Except Error α) :
    (liftM x : ExceptT Error (StateM σ) α).run s = (x, s) := rfl

theorem run_tryCatch (x : ExceptT Error (StateM σ) α) (f : Error → ExceptT Error (StateM σ) α) :
    (tryCatch x f).run s = match x.run s with
      | (.ok a, s') => (.ok a, s')
      | (.error e, s') => (f e).run s' := by
  rw [ExceptT.run_tryCatch]
  simp only [bind, StateT.bind]
  rcases x.run s with ⟨_ | _, _⟩ <;> rfl

section Results

variable {ε : Type}

/-- Without a state: what is found step by step is found if every step finds something. -/
theorem bind_eq_ok_iff {x : Except ε α} {f : α → Except ε β} {b : β} :
    x >>= f = .ok b ↔ ∃ a, x = .ok a ∧ f a = .ok b := by
  cases x <;> simp [bind, Except.bind]

/-- It fails as the first step does that finds nothing. -/
theorem bind_eq_error_iff {x : Except ε α} {f : α → Except ε β} {e : ε} :
    x >>= f = .error e ↔ x = .error e ∨ ∃ a, x = .ok a ∧ f a = .error e := by
  cases x <;> simp [bind, Except.bind]

theorem pure_eq_ok_iff {a b : α} : (pure a : Except ε α) = .ok b ↔ a = b := by
  simp [pure, Except.pure]

end Results

end Lightpath.Action
