import Mathlib.Logic.Relation

/-!
# Cells that are filled at most once

What a memoised initialisation is for.  A cell is vacant, busy while an
initialisation runs, or filled for good; an initialisation that fails leaves the
cell vacant, so that another one may begin.
-/

namespace PaymentPortal.Interaction

/-- A cell for a value. -/
inductive OnceCell (Value : Type) where
  | vacant
  | busy
  | filled (value : Value)

namespace OnceCell

variable {Value : Type}

/-- What can happen to a cell. -/
inductive Step : OnceCell Value → OnceCell Value → Prop where
  | begin : Step vacant busy
  | abort : Step busy vacant
  | fill (value : Value) : Step busy (filled value)

/-- Any number of steps. -/
abbrev Steps : OnceCell Value → OnceCell Value → Prop :=
  Relation.ReflTransGen Step

/-- A filled cell stays as it is. -/
theorem Steps.of_filled {value : Value} {cell : OnceCell Value}
    (steps : Steps (filled value) cell) : cell = filled value := by
  induction steps with
  | refl => rfl
  | tail _ step ih =>
      subst ih
      cases step

end OnceCell

end PaymentPortal.Interaction
