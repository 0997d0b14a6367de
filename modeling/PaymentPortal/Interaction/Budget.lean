import Mathlib.Algebra.BigOperators.Group.List.Basic
import Mathlib.Algebra.GroupWithZero.Nat
import PaymentPortal.Interaction.Traces

/-!
# Budgets

A tariff says what each operation costs and what its reply grants.  A program
is within a budget when, whatever the replies are, it never spends more than
the budget and what the replies have granted by then.  The grants make a bound
depend on what the program reads: a loop over the rows of a reply is paid for
by that reply.

`Machine.spent_le_of_reaches` carries the budget of every request to its caller
in every run, together with any other callers.
-/

namespace PaymentPortal.Interaction

/-- What an operation costs and what its reply grants. -/
structure Tariff (Op : Type) (Reply : Op → Type) where
  cost : Op → Nat
  grant : (op : Op) → Reply op → Nat

variable {Op : Type} {Reply : Op → Type} {α β ε : Type}

namespace Program

/--
The program never spends more than its budget and what has been granted, and
what its value is to keep is left in the end.
-/
def Within (tariff : Tariff Op Reply) (kept : α → Nat) :
    Program Op Reply α → Nat → Prop
  | .done value, budget => kept value ≤ budget
  | .perform op next, budget =>
      tariff.cost op ≤ budget ∧ ∀ reply, (next reply).Within tariff kept
        (budget - tariff.cost op + tariff.grant op reply)

/-- Nothing has to be left. -/
def nothing (_ : α) : Nat := 0

variable {tariff : Tariff Op Reply} {budget larger first second : Nat}

theorem Within.mono {kept : α → Nat} {program : Program Op Reply α}
    (within : program.Within tariff kept budget) (le : budget ≤ larger) :
    program.Within tariff kept larger := by
  induction program generalizing budget larger with
  | done value => exact Nat.le_trans within le
  | perform op next ih =>
      have affordable := within.1
      refine ⟨by omega, fun reply => ih reply (within.2 reply) ?_⟩
      omega

/-- Less has to be left. -/
theorem Within.weaken {kept fewer : α → Nat} {program : Program Op Reply α}
    (within : program.Within tariff kept budget)
    (le : ∀ value, fewer value ≤ kept value) :
    program.Within tariff fewer budget := by
  induction program generalizing budget with
  | done value => exact Nat.le_trans (le value) within
  | perform op next ih =>
      exact ⟨within.1, fun reply => ih reply (within.2 reply)⟩

theorem Within.bind (middle : α → Nat) {kept : β → Nat}
    {program : Program Op Reply α} {next : α → Program Op Reply β}
    (within : program.Within tariff middle budget)
    (rest : ∀ value, (next value).Within tariff kept (middle value)) :
    (program.bind next).Within tariff kept budget := by
  induction program generalizing budget with
  | done value => exact (rest value).mono within
  | perform op after ih =>
      exact ⟨within.1, fun reply => ih reply (within.2 reply)⟩

/-- What is computed from the value costs nothing. -/
theorem Within.bind_done {program : Program Op Reply α}
    (within : program.Within tariff nothing budget) (wrap : α → β) :
    (program.bind fun value => .done (wrap value)).Within tariff nothing
      budget :=
  within.bind nothing fun _ => Nat.le_refl 0

/-! ### Parallel composition -/

section Parallel

variable {pick : Op} {goesLeft : Reply pick → Bool}

/-- The right program spends from its own budget while the left one waits. -/
private theorem mergeRight_within (free : tariff.cost pick = 0)
    {op : Op} {next : Reply op → Program Op Reply α}
    {left : Reply op → Program Op Reply β → Program Op Reply (α × β)}
    (leftWithin : (Program.perform op next).Within tariff nothing first)
    (continues : ∀ reply (right : Program Op Reply β) (second : Nat),
      right.Within tariff nothing second →
      (left reply right).Within tariff nothing
        (first - tariff.cost op + tariff.grant op reply + second))
    {right : Program Op Reply β}
    (rightWithin : right.Within tariff nothing second) :
    (mergeRight pick goesLeft op next left right).Within tariff nothing
      (first + second) := by
  have affordable := leftWithin.1
  induction right generalizing second with
  | done value =>
      refine ⟨by omega, fun reply => ?_⟩
      refine ((leftWithin.2 reply).bind_done _).mono ?_
      omega
  | perform op' next' ih =>
      refine ⟨by omega, fun choice => ?_⟩
      have enough := rightWithin.1
      by_cases moved : goesLeft choice = true
      · simp only [moved, if_true]
        refine ⟨by omega, fun reply => ?_⟩
        refine (continues reply _ second rightWithin).mono ?_
        omega
      · simp only [moved]
        refine ⟨by omega, fun reply => ?_⟩
        refine (ih reply (rightWithin.2 reply)).mono ?_
        omega

/-- Interleaved programs spend what both of them may spend. -/
theorem Within.interleave (free : tariff.cost pick = 0)
    {left : Program Op Reply α} {right : Program Op Reply β}
    (leftWithin : left.Within tariff nothing first)
    (rightWithin : right.Within tariff nothing second) :
    (interleave pick goesLeft left right).Within tariff nothing
      (first + second) := by
  induction left generalizing right first second with
  | done value =>
      rw [Program.interleave]
      exact (rightWithin.bind_done _).mono (Nat.le_add_left second first)
  | perform op next ih =>
      exact mergeRight_within free leftWithin
        (fun reply _ _ otherWithin => ih reply (leftWithin.2 reply) otherWithin)
        rightWithin

/-- Gathered tasks spend the sum of what each of them may spend. -/
theorem Within.gather (free : tariff.cost pick = 0) {Item : Type}
    {task : Item → Program Op Reply α} {share : Item → Nat}
    (within : ∀ item, (task item).Within tariff nothing (share item))
    (items : List Item) :
    (gather pick goesLeft (items.map task)).Within tariff nothing
      (items.map share).sum := by
  induction items with
  | nil => exact Nat.le_refl 0
  | cons item rest ih =>
      exact ((within item).interleave free ih).bind_done _

end Parallel

end Program

/-! ## Programs that throw -/

/-- What is left when a task has returned or thrown. -/
def leftover (returned thrown : Nat) : Except ε α → Nat
  | .ok _ => returned
  | .error _ => thrown

/--
The task is within its budget; `returned` of it is left when it returns and
`thrown` of it when it throws.
-/
def Affords (tariff : Tariff Op Reply) (returned thrown : Nat)
    (task : ExceptT ε (Program Op Reply) α) (budget : Nat) : Prop :=
  task.run.Within tariff (leftover returned thrown) budget

namespace Affords

variable {tariff : Tariff Op Reply} {budget larger returned thrown : Nat}

theorem mono {task : ExceptT ε (Program Op Reply) α}
    (affords : Affords tariff returned thrown task budget)
    (le : budget ≤ larger) : Affords tariff returned thrown task larger :=
  Program.Within.mono affords le

theorem pure {value : α} (enough : returned ≤ budget) :
    Affords tariff returned thrown
      (Pure.pure value : ExceptT ε (Program Op Reply) α) budget :=
  enough

theorem throw {error : ε} (enough : thrown ≤ budget) :
    Affords tariff returned thrown
      (MonadExcept.throw error : ExceptT ε (Program Op Reply) α) budget :=
  enough

/-- A step that has been computed costs nothing. -/
theorem computed {step : Except ε α} (enough : returned ≤ budget)
    (enoughThrown : thrown ≤ budget) :
    Affords tariff returned thrown
      (ExceptT.mk (.done step) : ExceptT ε (Program Op Reply) α) budget := by
  cases step with
  | error error => exact enoughThrown
  | ok value => exact enough

/-- One operation. -/
theorem operation {op : Op} {convert : Reply op → Except ε α}
    (enough : tariff.cost op + returned ≤ budget)
    (enoughThrown : tariff.cost op + thrown ≤ budget) :
    Affords tariff returned thrown
      (ExceptT.mk (.perform op fun reply => .done (convert reply))) budget := by
  refine ⟨by omega, fun reply => ?_⟩
  change leftover returned thrown (convert reply) ≤ _
  cases convert reply with
  | error error =>
      rw [leftover]
      omega
  | ok value =>
      rw [leftover]
      omega

theorem bind (middle : Nat) {task : ExceptT ε (Program Op Reply) β}
    {next : β → ExceptT ε (Program Op Reply) α}
    (affords : Affords tariff middle thrown task budget)
    (rest : ∀ value, Affords tariff returned thrown (next value) middle) :
    Affords tariff returned thrown (task >>= next) budget := by
  apply Program.Within.bind _ affords
  rintro (error | value)
  · exact Nat.le_refl thrown
  · exact rest value

/-- One operation, and a task that its grant is spent on. -/
theorem operation_bind {op : Op} {convert : Reply op → Except ε β}
    {next : β → ExceptT ε (Program Op Reply) α}
    (enoughThrown : tariff.cost op + thrown ≤ budget)
    (rest : ∀ reply value, convert reply = .ok value →
      Affords tariff returned thrown (next value)
        (budget - tariff.cost op + tariff.grant op reply)) :
    Affords tariff returned thrown
      ((ExceptT.mk (.perform op fun reply => .done (convert reply))) >>= next)
      budget := by
  refine ⟨by omega, fun reply => ?_⟩
  change Program.Within tariff _ (ExceptT.bindCont next (convert reply)) _
  cases converted : convert reply with
  | error error =>
      change thrown ≤ _
      omega
  | ok value => exact rest reply value converted

theorem tryCatch (failing : Nat) {task : ExceptT ε (Program Op Reply) α}
    {handler : ε → ExceptT ε (Program Op Reply) α}
    (affords : Affords tariff returned failing task budget)
    (handled : ∀ error,
      Affords tariff returned thrown (handler error) failing) :
    Affords tariff returned thrown (MonadExcept.tryCatch task handler)
      budget := by
  apply Program.Within.bind _ affords
  rintro (error | value)
  · exact handled error
  · exact Nat.le_refl returned

theorem map {task : ExceptT ε (Program Op Reply) β} {function : β → α}
    (affords : Affords tariff returned thrown task budget) :
    Affords tariff returned thrown (function <$> task) budget := by
  apply Program.Within.bind _ affords
  rintro (error | value)
  · exact Nat.le_refl thrown
  · exact Nat.le_refl returned

end Affords

/-! ## Runs -/

namespace Tariff

variable {World : Type} (tariff : Tariff Op Reply)

/-- What the operations of a trace cost. -/
def spent (trace : List (Entry Op Reply World)) : Nat :=
  (trace.map fun entry => tariff.cost entry.op).sum

/-- What the replies of a trace have granted. -/
def granted (trace : List (Entry Op Reply World)) : Nat :=
  (trace.map fun entry => tariff.grant entry.op entry.reply).sum

theorem spent_cons (entry : Entry Op Reply World)
    (trace : List (Entry Op Reply World)) :
    tariff.spent (entry :: trace) =
      tariff.cost entry.op + tariff.spent trace := by
  rw [spent, List.map_cons, List.sum_cons, spent]

theorem granted_cons (entry : Entry Op Reply World)
    (trace : List (Entry Op Reply World)) :
    tariff.granted (entry :: trace) =
      tariff.grant entry.op entry.reply + tariff.granted trace := by
  rw [granted, List.map_cons, List.sum_cons, granted]

/-- At a unit price for one kind of operations these are counted. -/
theorem spent_eq_countP {kind : Op → Bool}
    (unit : ∀ op, tariff.cost op = if kind op then 1 else 0)
    (trace : List (Entry Op Reply World)) :
    tariff.spent trace = trace.countP fun entry => kind entry.op := by
  induction trace with
  | nil => rfl
  | cons entry rest ih =>
      rw [spent_cons, ih, unit, List.countP_cons, Nat.add_comm]

end Tariff

section Runs

variable {World Fate Request Result Drift : Type}

/--
What a call has spent and what it may still spend is covered by its allowance
and what it has been granted.
-/
def Covered (tariff : Tariff Op Reply) (allowance : Nat)
    (trace : List (Entry Op Reply World))
    (rest : Option (Program Op Reply Result)) : Prop :=
  ∃ left, tariff.spent trace + left ≤ allowance + tariff.granted trace ∧
    ∀ program, rest = some program → program.Within tariff Program.nothing left

/-- The calls of a state are covered, and the log is theirs. -/
structure Solvent (tariff : Request → Tariff Op Reply)
    (allowance : Request → Nat)
    (state : State Op Reply World Request Result) : Prop where
  callers : ∀ entry ∈ state.log, entry.caller < state.calls.length
  covered : ∀ (caller : Nat) call, state.calls[caller]? = some call →
    Covered (tariff call.request) (allowance call.request)
      (state.trace caller) call.rest

variable {machine : Machine Op Reply World Fate Request Result Drift}
variable {tariff : Request → Tariff Op Reply} {allowance : Request → Nat}
variable {allowed : State Op Reply World Request Result →
  Move Fate Request Drift → Prop}
variable {source target : State Op Reply World Request Result}

theorem Covered.perform {own : Tariff Op Reply} {limit caller : Nat}
    {trace : List (Entry Op Reply World)} {op : Op}
    {next : Reply op → Program Op Reply Result}
    (covered : Covered own limit trace (some (.perform op next)))
    (reply : Reply op) (before after : World) :
    Covered own limit (⟨caller, op, reply, before, after⟩ :: trace)
      (some (next reply)) := by
  obtain ⟨left, enough, within⟩ := covered
  obtain ⟨affordable, rest⟩ := within _ rfl
  refine ⟨_, ?_, fun program isProgram =>
    Option.some.inj isProgram ▸ rest reply⟩
  rw [Tariff.spent_cons, Tariff.granted_cons]
  dsimp only
  omega

/-- A stopped call spends nothing more. -/
theorem Covered.stop {own : Tariff Op Reply} {limit : Nat}
    {trace : List (Entry Op Reply World)}
    {rest : Option (Program Op Reply Result)}
    (covered : Covered own limit trace rest) :
    Covered own limit trace (none : Option (Program Op Reply Result)) := by
  obtain ⟨left, enough, _⟩ := covered
  exact ⟨left, enough, fun _ isProgram => absurd isProgram (by simp)⟩

/-- Every move keeps all calls covered. -/
theorem Solvent.step
    (within : ∀ request, (machine.program request).Within (tariff request)
      Program.nothing (allowance request))
    (solvent : Solvent tariff allowance source)
    (step : machine.Step allowed source target) :
    Solvent tariff allowance target := by
  obtain ⟨move, advanced, _⟩ := step
  cases Machine.advances_of_advance advanced with
  | arrive request =>
      refine ⟨fun entry member => ?_, fun caller call present => ?_⟩
      · rw [List.length_append]
        exact Nat.lt_add_right _ (solvent.callers entry member)
      · by_cases arrived : caller < source.calls.length
        · rw [List.getElem?_append_left arrived] at present
          exact solvent.covered caller call present
        · have unheard := State.trace_eq_nil solvent.callers
            (Nat.not_lt.mp arrived)
          rw [List.getElem?_append_right (Nat.not_lt.mp arrived)] at present
          obtain rfl := List.mem_singleton.mp (List.mem_of_getElem? present)
          refine ⟨allowance request, ?_, fun program isProgram =>
            Option.some.inj isProgram ▸ within request⟩
          rw [State.trace] at unheard ⊢
          simp [unheard, Tariff.spent]
  | perform caller fate request op next reply world running executed =>
      refine ⟨fun entry member => ?_, fun other call present => ?_⟩
      · rw [List.length_set]
        rcases List.mem_cons.mp member with rfl | old
        · exact (List.getElem?_eq_some_iff.mp running).1
        · exact solvent.callers entry old
      · rw [State.trace]
        rcases getElem?_set_cases present with
          ⟨rfl, rfl⟩ | ⟨different, was⟩
        · rw [List.filter_cons_of_pos (by simp)]
          exact (solvent.covered other _ running).perform reply _ _
        · rw [List.filter_cons_of_neg (by simpa using Ne.symm different)]
          exact solvent.covered other call was
  | crash caller request op next running =>
      refine ⟨fun entry member => ?_, fun other call present => ?_⟩
      · rw [List.length_set]
        exact solvent.callers entry member
      · rcases getElem?_set_cases present with
          ⟨rfl, rfl⟩ | ⟨_, was⟩
        · exact (solvent.covered other _ running).stop
        · exact solvent.covered other call was
  | drift change world drifted => exact ⟨solvent.callers, solvent.covered⟩

/-- In every reachable state all calls are covered. -/
theorem Solvent.of_reaches
    (within : ∀ request, (machine.program request).Within (tariff request)
      Program.nothing (allowance request))
    {world : World}
    (reaches : machine.Reaches allowed (.initial world) target) :
    Solvent tariff allowance target := by
  induction reaches with
  | refl =>
      exact ⟨fun entry member => absurd member (by simp [State.initial]),
        fun caller call present => absurd present (by simp [State.initial])⟩
  | tail _ step ih => exact ih.step within step

namespace Machine

/-- In every run every call keeps to its allowance and its grants. -/
theorem spent_le_of_reaches
    (within : ∀ request, (machine.program request).Within (tariff request)
      Program.nothing (allowance request))
    {world : World} (reaches : machine.Reaches allowed (.initial world) target)
    {caller : Nat} {call : Call Op Reply Request Result}
    (present : target.calls[caller]? = some call) :
    (tariff call.request).spent (target.trace caller) ≤
      allowance call.request +
        (tariff call.request).granted (target.trace caller) := by
  obtain ⟨left, enough, _⟩ :=
    (Solvent.of_reaches within reaches).covered caller call present
  omega

end Machine

end Runs

end PaymentPortal.Interaction
