import Mathlib.Init

/-!
# Interaction programs

A program is a tree of operations.  At every operation the environment
supplies a reply, and the program continues with the subtree for that reply.
Nothing is said here about what an operation does: the same program is run
against a shared world together with other programs, or alone against a
scripted environment.

`interleave` is the parallel composition of two programs of one caller.  The
scheduler of that caller is itself an operation, so every interleaving of the
two programs is one choice of replies.
-/

namespace PaymentPortal.Interaction

/-- A caller that performs operations one at a time and waits for replies. -/
inductive Program (Op : Type) (Reply : Op → Type) (α : Type) where
  | done (value : α)
  | perform (op : Op) (next : Reply op → Program Op Reply α)

namespace Program

variable {Op : Type} {Reply : Op → Type} {α β γ : Type}

/-- Run `program` and continue with its value. -/
def bind (program : Program Op Reply α) (next : α → Program Op Reply β) :
    Program Op Reply β :=
  match program with
  | .done value => next value
  | .perform op rest => .perform op fun reply => (rest reply).bind next

instance : Monad (Program Op Reply) where
  pure := .done
  bind := bind

/-! ## Parallel composition of two programs of one caller -/

/--
Interleave an operation of the left program with the whole right program.

`left` is the composition after the left operation has been answered; the
recursion is on the right program.
-/
def mergeRight (pick : Op) (goesLeft : Reply pick → Bool)
    (op : Op) (next : Reply op → Program Op Reply α)
    (left : Reply op → Program Op Reply β → Program Op Reply (α × β)) :
    Program Op Reply β → Program Op Reply (α × β)
  | .done value =>
      .perform op fun reply => (next reply).bind fun first =>
        .done (first, value)
  | .perform op' next' =>
      .perform pick fun choice =>
        if goesLeft choice then
          .perform op fun reply => left reply (.perform op' next')
        else
          .perform op' fun reply =>
            mergeRight pick goesLeft op next left (next' reply)

/-- Run two programs concurrently; `pick` decides which one moves next. -/
def interleave (pick : Op) (goesLeft : Reply pick → Bool) :
    Program Op Reply α → Program Op Reply β → Program Op Reply (α × β)
  | .done value, right => right.bind fun second => .done (value, second)
  | .perform op next, right =>
      mergeRight pick goesLeft op next
        (fun reply => interleave pick goesLeft (next reply)) right

/-- Run a list of programs concurrently and collect their values in order. -/
def gather (pick : Op) (goesLeft : Reply pick → Bool) :
    List (Program Op Reply α) → Program Op Reply (List α)
  | [] => .done []
  | program :: rest =>
      (interleave pick goesLeft program (gather pick goesLeft rest)).bind
        fun values => .done (values.1 :: values.2)

/-! ### A single program among values -/

variable {pick : Op} {goesLeft : Reply pick → Bool}

theorem bind_assoc (program : Program Op Reply α)
    (first : α → Program Op Reply β) (second : β → Program Op Reply γ) :
    (program.bind first).bind second =
      program.bind fun value => (first value).bind second := by
  induction program with
  | done value => rfl
  | perform op next ih =>
      exact congrArg (Program.perform op) (funext fun reply => ih reply)

/-- A program beside a value runs alone. -/
theorem interleave_done (program : Program Op Reply α) (value : β) :
    interleave pick goesLeft program (.done value) =
      program.bind fun first => .done (first, value) := by
  cases program with
  | done first => rfl
  | perform op next => rfl

theorem gather_done (values : List α) :
    gather pick goesLeft (values.map .done) =
      (.done values : Program Op Reply (List α)) := by
  induction values with
  | nil => rfl
  | cons value rest ih =>
      rw [List.map_cons, gather, ih]
      rfl

/-- A program that is gathered among values runs alone. -/
theorem gather_single (before after : List α) (program : Program Op Reply α) :
    gather pick goesLeft (before.map .done ++ program :: after.map .done) =
      program.bind fun value => .done (before ++ value :: after) := by
  induction before with
  | nil =>
      rw [List.map_nil, List.nil_append, gather, gather_done, interleave_done,
        bind_assoc]
      rfl
  | cons value rest ih =>
      rw [List.map_cons, List.cons_append, gather, ih, interleave, bind_assoc,
        bind_assoc]
      rfl

end Program

end PaymentPortal.Interaction
