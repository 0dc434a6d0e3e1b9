import PriorityLexer.Json.Mismatch

/-!
# Outcome — computations that may fail

What is known of the parts when the outcome of a computation is known.
-/

namespace PriorityLexer

variable {α β ε : Type} {x : Except ε α} {f : α → Except ε β}

theorem bind_eq_ok_iff {b : β} : (x >>= f) = .ok b ↔ ∃ a, x = .ok a ∧ f a = .ok b := by
  cases x with
  | error e => simp [bind, Except.bind]
  | ok a => simp [bind, Except.bind]

theorem bind_eq_error_iff {e : ε} :
    (x >>= f) = .error e ↔ x = .error e ∨ ∃ a, x = .ok a ∧ f a = .error e := by
  cases x with
  | error e' => simp [bind, Except.bind]
  | ok a => simp [bind, Except.bind]

theorem mapError_eq_ok_iff {ε' : Type} {g : ε → ε'} {a : α} :
    x.mapError g = .ok a ↔ x = .ok a := by
  cases x with
  | error e =>
      have hmap : (Except.error e : Except ε α).mapError g = .error (g e) := rfl
      simp [hmap]
  | ok a' =>
      have hmap : (Except.ok a' : Except ε α).mapError g = .ok a' := rfl
      simp [hmap]

theorem mapError_eq_error_iff {ε' : Type} {g : ε → ε'} {e : ε'} :
    x.mapError g = .error e ↔ ∃ e', x = .error e' ∧ g e' = e := by
  cases x with
  | error e' =>
      have hmap : (Except.error e' : Except ε α).mapError g = .error (g e') := rfl
      simp [hmap]
  | ok a =>
      have hmap : (Except.ok a : Except ε α).mapError g = .ok a := rfl
      simp [hmap]

theorem Json.orFlaw_eq_ok_iff {y : Except Flaw α} {a : α} : orFlaw y = .ok a ↔ y = .ok a := by
  cases y <;> simp [orFlaw]

end PriorityLexer
