import PaymentPortal.Interaction.Machine

/-!
# Contracts

A contract says which replies a program may rely on and what it then performs.
A program that honours its contract keeps to it beside any other programs,
concurrent ones of the same caller included, because it does not matter when
the replies arrive.

`Machine.honoured_of_reaches` reads the contracts of the callers off the log
and the results of every run.
-/

namespace PaymentPortal.Interaction

variable {Op : Type} {Reply : Op → Type}
variable {World Fate Request Result Drift α β ε : Type}

/-- What is relied on in a reply, and what may be performed. -/
structure Contract (Op : Type) (Reply : Op → Type) where
  relies : (op : Op) → Reply op → Prop
  permits : Op → Prop

/--
The program performs only what is permitted and ends as stated, as long as its
replies can be relied on.
-/
def Program.Honours (contract : Contract Op Reply) (ends : α → Prop) :
    Program Op Reply α → Prop
  | .done value => ends value
  | .perform op next => contract.permits op ∧
      ∀ reply, contract.relies op reply → (next reply).Honours contract ends

namespace Program.Honours

variable {contract : Contract Op Reply}

theorem mono {ends weaker : α → Prop} {program : Program Op Reply α}
    (honours : program.Honours contract ends)
    (implies : ∀ value, ends value → weaker value) :
    program.Honours contract weaker := by
  induction program with
  | done value => exact implies value honours
  | perform op next ih =>
      exact ⟨honours.1, fun reply relied => ih reply (honours.2 reply relied)⟩

theorem bind {middle : α → Prop} {ends : β → Prop}
    {program : Program Op Reply α} {next : α → Program Op Reply β}
    (first : program.Honours contract middle)
    (rest : ∀ value, middle value → (next value).Honours contract ends) :
    (program.bind next).Honours contract ends := by
  induction program with
  | done value => exact rest value first
  | perform op after ih =>
      exact ⟨first.1, fun reply relied => ih reply (first.2 reply relied)⟩

/-! ### Parallel composition -/

variable {pick : Op} {goesLeft : Reply pick → Bool}
variable {ends : α → Prop} {otherEnds : β → Prop}

/-- The pair of two values that have ended as stated. -/
abbrev Both (ends : α → Prop) (otherEnds : β → Prop) (values : α × β) :
    Prop :=
  ends values.1 ∧ otherEnds values.2

private theorem mergeRight (silent : contract.permits pick) {op : Op}
    {next : Reply op → Program Op Reply α}
    {left : Reply op → Program Op Reply β → Program Op Reply (α × β)}
    (leftHonours : ∀ reply, contract.relies op reply →
      ∀ right : Program Op Reply β, right.Honours contract otherEnds →
        (left reply right).Honours contract (Both ends otherEnds))
    (honours : (Program.perform op next).Honours contract ends)
    {right : Program Op Reply β}
    (rightHonours : right.Honours contract otherEnds) :
    (mergeRight pick goesLeft op next left right).Honours contract
      (Both ends otherEnds) := by
  induction right with
  | done value =>
      exact ⟨honours.1, fun reply relied =>
        (honours.2 reply relied).bind fun first ended =>
          ⟨ended, rightHonours⟩⟩
  | perform other after ih =>
      refine ⟨silent, fun choice _ => ?_⟩
      by_cases moved : goesLeft choice = true
      · simp only [moved, if_true]
        exact ⟨honours.1, fun reply relied =>
          leftHonours reply relied _ rightHonours⟩
      · simp only [moved]
        exact ⟨rightHonours.1, fun reply relied =>
          ih reply (rightHonours.2 reply relied)⟩

/-- Two programs that run concurrently both keep to the contract. -/
theorem interleave (silent : contract.permits pick)
    {left : Program Op Reply α} {right : Program Op Reply β}
    (honours : left.Honours contract ends)
    (rightHonours : right.Honours contract otherEnds) :
    (interleave pick goesLeft left right).Honours contract
      (Both ends otherEnds) := by
  induction left generalizing right with
  | done value =>
      exact rightHonours.bind fun second ended => ⟨honours, ended⟩
  | perform op next ih =>
      exact mergeRight silent (fun reply relied other otherHonours =>
        ih reply (honours.2 reply relied) otherHonours) honours rightHonours

/-- So do the members of a list. -/
theorem gather (silent : contract.permits pick)
    {programs : List (Program Op Reply α)}
    (honour : ∀ program ∈ programs, program.Honours contract ends) :
    (gather pick goesLeft programs).Honours contract
      (fun values => ∀ value ∈ values, ends value) := by
  induction programs with
  | nil => exact fun value member => absurd member (by simp)
  | cons program rest ih =>
      refine (interleave silent (honour program List.mem_cons_self)
        (ih fun other member =>
          honour other (List.mem_cons_of_mem _ member))).bind ?_
      rintro ⟨value, values⟩ ⟨ended, others⟩
      exact List.forall_mem_cons.mpr ⟨ended, others⟩

end Program.Honours

/-! ## Programs that throw -/

/-- How a program that throws may end. -/
def Outcomes (returns : α → Prop) (throws : ε → Prop) : Except ε α → Prop
  | .ok value => returns value
  | .error error => throws error

/-- The task keeps to the contract, and returns or throws as stated. -/
def Abides (contract : Contract Op Reply) (returns : α → Prop)
    (throws : ε → Prop) (task : ExceptT ε (Program Op Reply) α) : Prop :=
  Program.Honours contract (Outcomes returns throws) task.run

namespace Abides

variable {contract : Contract Op Reply} {returns : α → Prop}
variable {throws : ε → Prop}

theorem pure {value : α} (returned : returns value) :
    Abides contract returns throws
      (Pure.pure value : ExceptT ε (Program Op Reply) α) :=
  returned

theorem throw {error : ε} (thrown : throws error) :
    Abides contract returns throws
      (MonadExcept.throw error : ExceptT ε (Program Op Reply) α) :=
  thrown

/-- A step that has been computed. -/
theorem computed {step : Except ε α} (ends : Outcomes returns throws step) :
    Abides contract returns throws (ExceptT.mk (.done step)) :=
  ends

/-- One operation whose reply is converted into a value or an error. -/
theorem operation {op : Op} {convert : Reply op → Except ε α}
    (permitted : contract.permits op)
    (ends : ∀ reply, contract.relies op reply →
      Outcomes returns throws (convert reply)) :
    Abides contract returns throws
      (ExceptT.mk (.perform op fun reply => .done (convert reply))) :=
  ⟨permitted, ends⟩

theorem mono {weakReturns : α → Prop} {weakThrows : ε → Prop}
    {task : ExceptT ε (Program Op Reply) α}
    (keeps : Abides contract returns throws task)
    (onReturn : ∀ value, returns value → weakReturns value)
    (onThrow : ∀ error, throws error → weakThrows error) :
    Abides contract weakReturns weakThrows task := by
  refine Program.Honours.mono keeps ?_
  rintro (error | value) ended
  · exact onThrow error ended
  · exact onReturn value ended

theorem bind (middle : β → Prop) {task : ExceptT ε (Program Op Reply) β}
    {next : β → ExceptT ε (Program Op Reply) α}
    (first : Abides contract middle throws task)
    (rest : ∀ value, middle value →
      Abides contract returns throws (next value)) :
    Abides contract returns throws (task >>= next) := by
  refine Program.Honours.bind first ?_
  rintro (error | value) ended
  · exact ended
  · exact rest value ended

theorem tryCatch (failing : ε → Prop)
    {task : ExceptT ε (Program Op Reply) α}
    {handler : ε → ExceptT ε (Program Op Reply) α}
    (first : Abides contract returns failing task)
    (handled : ∀ error, failing error →
      Abides contract returns throws (handler error)) :
    Abides contract returns throws (MonadExcept.tryCatch task handler) := by
  refine Program.Honours.bind first ?_
  rintro (error | value) ended
  · exact handled error ended
  · exact ended

theorem map {middle : β → Prop} {task : ExceptT ε (Program Op Reply) β}
    {function : β → α} (first : Abides contract middle throws task)
    (returned : ∀ value, middle value → returns (function value)) :
    Abides contract returns throws (function <$> task) := by
  refine Program.Honours.bind first ?_
  rintro (error | value) ended
  · exact ended
  · exact returned value ended

end Abides

/-- The error of a list of steps is that of one of them. -/
theorem exists_error_of_mapM {step : α → Except ε β} {items : List α} {error : ε}
    (failed : items.mapM step = .error error) :
    ∃ item ∈ items, step item = .error error := by
  induction items with
  | nil => cases failed
  | cons item rest ih =>
      rw [List.mapM_cons] at failed
      cases stepped : step item with
      | error other =>
          rw [stepped] at failed
          obtain rfl := Except.error.inj failed
          exact ⟨item, List.mem_cons_self, stepped⟩
      | ok value =>
          cases others : rest.mapM step with
          | ok values =>
              simp [stepped, others, bind, Except.bind, pure, Except.pure]
                at failed
          | error other =>
              simp only [stepped, others, bind, Except.bind] at failed
              obtain rfl := Except.error.inj failed
              obtain ⟨found, member, isError⟩ := ih others
              exact ⟨found, List.mem_cons_of_mem _ member, isError⟩

/-! ## Runs -/

section Runs

variable (contract : Request → Contract Op Reply)
variable (ends : Request → Result → Prop)

/-- Every caller has kept to its contract, and will. -/
structure Honoured (state : State Op Reply World Request Result) : Prop where
  live : ∀ (caller : Nat) request program,
    state.calls[caller]? = some ⟨request, some program⟩ →
      program.Honours (contract request) (ends request)
  logged : ∀ entry ∈ state.log, ∃ call,
    state.calls[entry.caller]? = some call ∧
      (contract call.request).permits entry.op

variable {contract ends}
variable {machine : Machine Op Reply World Fate Request Result Drift}
variable {allowed : State Op Reply World Request Result →
  Move Fate Request Drift → Prop}
variable {source target : State Op Reply World Request Result}

/-- A call keeps its request. -/
theorem Honoured.logged_set (honoured : Honoured contract ends source)
    {caller : Nat} {request : Request}
    {rest later : Option (Program Op Reply Result)}
    (present : source.calls[caller]? = some ⟨request, rest⟩) :
    ∀ entry ∈ source.log, ∃ call,
      (source.calls.set caller ⟨request, later⟩)[entry.caller]? = some call ∧
        (contract call.request).permits entry.op := by
  intro entry member
  obtain ⟨call, found, permitted⟩ := honoured.logged entry member
  rcases eq_or_ne caller entry.caller with rfl | different
  · obtain rfl := Option.some.inj (found.symm.trans present)
    exact ⟨_, List.getElem?_set_self
      (List.getElem?_eq_some_iff.mp found).1, permitted⟩
  · exact ⟨call, (List.getElem?_set_ne different).trans found, permitted⟩

/-- Every move keeps the contracts. -/
theorem Honoured.step
    (honours : ∀ request,
      (machine.program request).Honours (contract request) (ends request))
    (relied : ∀ request op fate world reply after,
      machine.exec op fate world = some (reply, after) →
        (contract request).relies op reply)
    (honoured : Honoured contract ends source)
    (step : machine.Step allowed source target) :
    Honoured contract ends target := by
  obtain ⟨move, advanced, _⟩ := step
  cases Machine.advances_of_advance advanced with
  | arrive request =>
      refine ⟨fun caller own program present => ?_, fun entry member => ?_⟩
      · rcases getElem?_append_singleton_cases present with was | isNew
        · exact honoured.live caller own program was
        · obtain ⟨rfl, isProgram⟩ := Call.mk.inj isNew
          obtain rfl := Option.some.inj isProgram
          exact honours own
      · obtain ⟨call, found, permitted⟩ := honoured.logged entry member
        refine ⟨call, ?_, permitted⟩
        rw [List.getElem?_append_left (List.getElem?_eq_some_iff.mp found).1]
        exact found
  | perform caller fate request op next reply world running executed =>
      obtain ⟨permitted, rest⟩ := honoured.live caller request _ running
      refine ⟨fun other own program present => ?_, fun entry member => ?_⟩
      · rcases getElem?_set_cases present with ⟨_, isNew⟩ | ⟨_, was⟩
        · obtain ⟨rfl, isProgram⟩ := Call.mk.inj isNew
          obtain rfl := Option.some.inj isProgram
          exact rest reply (relied _ op fate _ reply world executed)
        · exact honoured.live other own program was
      · rcases List.mem_cons.mp member with rfl | old
        · exact ⟨_, List.getElem?_set_self
            (List.getElem?_eq_some_iff.mp running).1, permitted⟩
        · exact honoured.logged_set running entry old
  | crash caller request op next running =>
      refine ⟨fun other own program present => ?_,
        honoured.logged_set running⟩
      rcases getElem?_set_cases present with ⟨_, isNew⟩ | ⟨_, was⟩
      · exact absurd (Call.mk.inj isNew).2 (by simp)
      · exact honoured.live other own program was
  | drift change world drifted => exact ⟨honoured.live, honoured.logged⟩

/-- In every reachable state the callers have kept to their contracts. -/
theorem Machine.honoured_of_reaches
    (honours : ∀ request,
      (machine.program request).Honours (contract request) (ends request))
    (relied : ∀ request op fate world reply after,
      machine.exec op fate world = some (reply, after) →
        (contract request).relies op reply)
    {world : World} (reaches : machine.Reaches allowed (.initial world) target) :
    Honoured contract ends target := by
  induction reaches with
  | refl =>
      exact ⟨fun caller request program present =>
          absurd present (by simp [State.initial]),
        fun entry member => absurd member (by simp [State.initial])⟩
  | tail _ step ih => exact ih.step honours relied step

/-- A call that has ended has ended as its contract says. -/
theorem Honoured.finished (honoured : Honoured contract ends target)
    {caller : Nat} {call : Call Op Reply Request Result} {value : Result}
    (present : target.calls[caller]? = some call)
    (isResult : call.result? = some value) : ends call.request value := by
  obtain ⟨request, rest⟩ := call
  obtain rfl := Call.rest_of_result? isResult
  exact honoured.live caller request _ present

end Runs

end PaymentPortal.Interaction
