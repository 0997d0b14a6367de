import Mathlib.Data.List.Sort

/-!
# Ordering and paging

`ORDER BY` with several clauses, each an expression with a direction that
lists null last, and `LIMIT … OFFSET …` over the ordered rows.  The clauses are
compared lexicographically; where the last of them tells all rows apart, the
ordered list is determined by the rows.
-/

namespace PaymentPortal.Relational

variable {α β : Type}

/-! ## Clauses -/

/-- What a clause orders by: a value of some linear order, or null. -/
structure SortExpr (α : Type) where
  Value : Type
  order : LinearOrder Value
  eval : α → Option Value

inductive Direction where
  | asc
  | desc
  deriving DecidableEq, Repr

/-- One clause of `ORDER BY`, with `NULLS LAST`. -/
structure SortClause (α : Type) where
  expr : SortExpr α
  direction : Direction

/-- `x` may stand before `y`. -/
def Direction.le {V : Type} (order : LinearOrder V) (x y : V) :
    Direction → Prop
  | .asc => order.le x y
  | .desc => order.le y x

/-- Null stands after every value. -/
def nullsLast {V : Type} (le : V → V → Prop) : Option V → Option V → Prop
  | some x, some y => le x y
  | _, none => True
  | none, some _ => False

namespace SortClause

/-- `a` may stand before `b` as far as the clause is concerned. -/
def le (clause : SortClause α) (a b : α) : Prop :=
  nullsLast (fun x y => clause.direction.le clause.expr.order x y)
    (clause.expr.eval a) (clause.expr.eval b)

instance (clause : SortClause α) : DecidableRel clause.le := fun a b =>
  match left : clause.expr.eval a, right : clause.expr.eval b,
      isDirection : clause.direction with
  | some x, some y, .asc =>
      decidable_of_iff (clause.expr.order.le x y)
        (by simp [le, nullsLast, Direction.le, left, right, isDirection])
  | some x, some y, .desc =>
      decidable_of_iff (clause.expr.order.le y x)
        (by simp [le, nullsLast, Direction.le, left, right, isDirection])
  | some x, none, _ => isTrue (by simp [le, nullsLast, left, right])
  | none, none, _ => isTrue (by simp [le, nullsLast, left, right])
  | none, some y, _ => isFalse (by simp [le, nullsLast, left, right])

end SortClause

theorem Direction.le_total {V : Type} (order : LinearOrder V) (x y : V)
    (direction : Direction) :
    direction.le order x y ∨ direction.le order y x := by
  cases direction with
  | asc => exact order.le_total x y
  | desc => exact order.le_total y x

theorem Direction.le_trans {V : Type} {order : LinearOrder V} {x y z : V}
    {direction : Direction} (first : direction.le order x y)
    (second : direction.le order y z) : direction.le order x z := by
  cases direction with
  | asc => exact order.le_trans x y z first second
  | desc => exact order.le_trans z y x second first

theorem Direction.le_antisymm {V : Type} {order : LinearOrder V} {x y : V}
    {direction : Direction} (first : direction.le order x y)
    (second : direction.le order y x) : x = y := by
  cases direction with
  | asc => exact order.le_antisymm x y first second
  | desc => exact order.le_antisymm x y second first

section NullsLast

variable {V : Type} {le : V → V → Prop}

theorem nullsLast_total (total : ∀ x y, le x y ∨ le y x) :
    ∀ first second, nullsLast le first second ∨ nullsLast le second first
  | some x, some y => total x y
  | some _, none => .inl trivial
  | none, some _ => .inr trivial
  | none, none => .inl trivial

theorem nullsLast_trans
    (trans : ∀ x y z, le x y → le y z → le x z) :
    ∀ {first second third}, nullsLast le first second →
      nullsLast le second third → nullsLast le first third
  | some _, some _, some _, before, after => trans _ _ _ before after
  | some _, _, none, _, _ => trivial
  | none, _, none, _, _ => trivial
  | none, none, some _, _, after => after
  | none, some _, some _, before, _ => before
  | some _, none, some _, _, after => absurd after id

end NullsLast

namespace SortClause

variable {clause : SortClause α} {a b c : α}

theorem le_total (clause : SortClause α) (a b : α) :
    clause.le a b ∨ clause.le b a :=
  nullsLast_total (fun x y => Direction.le_total _ x y _) _ _

theorem le_trans (first : clause.le a b) (second : clause.le b c) :
    clause.le a c := by
  unfold le at first second ⊢
  apply nullsLast_trans _ first second
  exact fun x y z before after => Direction.le_trans before after

end SortClause

/-! ## Several clauses -/

/-- The clauses in order: a later one decides where the earlier ones tie. -/
def lexLe : List (SortClause α) → α → α → Prop
  | [], _, _ => True
  | clause :: rest, a, b => clause.le a b ∧ (clause.le b a → lexLe rest a b)

instance lexLeDecidable :
    (clauses : List (SortClause α)) → DecidableRel (lexLe clauses)
  | [], _, _ => inferInstanceAs (Decidable True)
  | clause :: rest, a, b =>
      have := lexLeDecidable rest a b
      inferInstanceAs (Decidable (clause.le a b ∧
        (clause.le b a → lexLe rest a b)))

instance (clauses : List (SortClause α)) : Std.Total (lexLe clauses) where
  total a b := by
    induction clauses with
    | nil => exact .inl trivial
    | cons clause rest ih =>
        by_cases first : clause.le a b
        · by_cases second : clause.le b a
          · exact ih.imp (fun tail => ⟨first, fun _ => tail⟩)
              fun tail => ⟨second, fun _ => tail⟩
          · exact .inl ⟨first, fun tied => absurd tied second⟩
        · have second := (clause.le_total a b).resolve_left first
          exact .inr ⟨second, fun tied => absurd tied first⟩

instance (clauses : List (SortClause α)) : IsTrans α (lexLe clauses) where
  trans a b c := by
    induction clauses with
    | nil => exact fun _ _ => trivial
    | cons clause rest ih =>
        rintro ⟨firstHead, firstTail⟩ ⟨secondHead, secondTail⟩
        refine ⟨SortClause.le_trans firstHead secondHead, fun tied => ?_⟩
        exact ih (firstTail (SortClause.le_trans secondHead tied))
          (secondTail (SortClause.le_trans tied firstHead))

/-! ## Ordered rows and their pages -/

/-- `ORDER BY` the clauses. -/
def orderBy (clauses : List (SortClause α)) (rows : List α) : List α :=
  rows.insertionSort (lexLe clauses)

theorem perm_orderBy (clauses : List (SortClause α)) (rows : List α) :
    (orderBy clauses rows).Perm rows :=
  List.perm_insertionSort _ rows

theorem pairwise_orderBy (clauses : List (SortClause α)) (rows : List α) :
    (orderBy clauses rows).Pairwise (lexLe clauses) :=
  List.pairwise_insertionSort _ rows

/-- `LIMIT limit OFFSET offset`. -/
def window (limit offset : Nat) (rows : List α) : List α :=
  (rows.drop offset).take limit

/-- The first pages together are the first rows. -/
theorem flatMap_window (size : Nat) (rows : List α) (pages : Nat) :
    (List.range pages).flatMap (fun page => window size (page * size) rows) =
      rows.take (pages * size) := by
  induction pages with
  | zero => simp
  | succ pages ih =>
      rw [List.range_succ, List.flatMap_append, ih, Nat.succ_mul,
        List.take_add]
      simp [window]

end PaymentPortal.Relational
