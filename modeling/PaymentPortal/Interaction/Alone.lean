import PaymentPortal.Interaction.Machine
import PaymentPortal.Interaction.Throwing

/-!
# Programs that run alone

`runAlone` runs one program while no other caller moves.  The environment
chooses before each operation how the world drifts, and then the fate of the
operation.  `Achieves` is total correctness against every environment that
meets a condition; its rules follow the control flow of the program, so that a
function is verified from the specifications of the functions it calls.
`Achieves.runAlone` reads it back as a statement about runs.
-/

namespace PaymentPortal.Interaction

variable {Op : Type} {Reply : Op → Type}
variable {World Fate Request Result Drift α β ε : Type}

namespace Machine

/-- What the environment chooses for each operation in turn. -/
abbrev Choices (Fate Drift : Type) := Nat → List Drift × Fate

variable (machine : Machine Op Reply World Fate Request Result Drift)

/-- The world drifts several times. -/
def driftAll : List Drift → World → Option World
  | [], world => some world
  | change :: rest, world => machine.drift change world >>= driftAll rest

/-- Run a program while nobody else moves. -/
def runAlone : Program Op Reply α → Choices Fate Drift → World →
    Option (α × World)
  | .done value, _, world => some (value, world)
  | .perform op next, choices, world =>
      machine.driftAll (choices 0).1 world >>= fun here =>
        machine.exec op (choices 0).2 here >>= fun result =>
          runAlone (next result.1) (fun index => choices (index + 1)) result.2

/-- The environment meets the condition at every operation of the run. -/
def Meets (condition : World → Op → Fate → Prop) :
    Program Op Reply α → Choices Fate Drift → World → Prop
  | .done _, _, _ => True
  | .perform op next, choices, world =>
      ∃ here ∈ machine.driftAll (choices 0).1 world,
        condition here op (choices 0).2 ∧
          ∀ result ∈ machine.exec op (choices 0).2 here,
            Meets condition (next result.1) (fun index => choices (index + 1))
              result.2

instance decidableMeets (condition : World → Op → Fate → Prop)
    [∀ world op fate, Decidable (condition world op fate)] :
    ∀ (program : Program Op Reply α) (choices : Choices Fate Drift)
      (world : World), Decidable (machine.Meets condition program choices world)
  | .done _, _, _ => inferInstanceAs (Decidable True)
  | .perform op next, choices, world =>
      haveI := fun result : Reply op × World =>
        decidableMeets condition (next result.1)
          (fun index => choices (index + 1)) result.2
      inferInstanceAs (Decidable (∃ here ∈ machine.driftAll (choices 0).1 world,
        _ ∧ ∀ result ∈ machine.exec op (choices 0).2 here, _))

/--
Against every environment that meets the condition the program runs to its end,
and ends as stated.
-/
def Achieves (condition : World → Op → Fate → Prop)
    (post : World → α → Prop) : Program Op Reply α → World → Prop
  | .done value, world => post world value
  | .perform op next, world =>
      ∀ changes, ∀ here ∈ machine.driftAll changes world,
        ∀ fate, condition here op fate →
          ∃ reply after, machine.exec op fate here = some (reply, after) ∧
            Achieves condition post (next reply) after

variable {machine} {condition : World → Op → Fate → Prop}

theorem Achieves.mono {post weaker : World → α → Prop}
    {program : Program Op Reply α} {world : World}
    (achieves : machine.Achieves condition post program world)
    (implies : ∀ after value, post after value → weaker after value) :
    machine.Achieves condition weaker program world := by
  induction program generalizing world with
  | done value => exact implies world value achieves
  | perform op next ih =>
      intro changes here drifted fate meets
      obtain ⟨reply, after, executed, rest⟩ :=
        achieves changes here drifted fate meets
      exact ⟨reply, after, executed, ih reply rest⟩

theorem Achieves.bind (middle : World → β → Prop) {post : World → α → Prop}
    {program : Program Op Reply β} {next : β → Program Op Reply α}
    {world : World} (first : machine.Achieves condition middle program world)
    (rest : ∀ after value, middle after value →
      machine.Achieves condition post (next value) after) :
    machine.Achieves condition post (program >>= next) world := by
  induction program generalizing world with
  | done value => exact rest world value first
  | perform op continued ih =>
      intro changes here drifted fate meets
      obtain ⟨reply, after, executed, remaining⟩ :=
        first changes here drifted fate meets
      exact ⟨reply, after, executed, ih reply remaining⟩

/-- What a program achieves it does in every run that meets the condition. -/
theorem Achieves.runAlone {post : World → α → Prop}
    {program : Program Op Reply α} {choices : Choices Fate Drift}
    {world : World} (achieves : machine.Achieves condition post program world)
    (meets : machine.Meets condition program choices world) :
    ∃ value after, machine.runAlone program choices world =
      some (value, after) ∧ post after value := by
  induction program generalizing choices world with
  | done value => exact ⟨value, world, rfl, achieves⟩
  | perform op next ih =>
      obtain ⟨here, drifted, isMet, rest⟩ := meets
      obtain ⟨reply, after, executed, remaining⟩ :=
        achieves _ here drifted _ isMet
      obtain ⟨value, last, ran, holds⟩ :=
        ih reply remaining (rest (reply, after) executed)
      refine ⟨value, last, ?_, holds⟩
      rw [Machine.runAlone, Option.mem_def.mp drifted]
      simpa [executed] using ran

/--
Where the environment can go on, what a program achieves in two ways it achieves
in both at once.
-/
theorem Achieves.exists_common {first second : World → α → Prop}
    (invariant : World → Prop)
    (continues : ∀ world op, invariant world → ∃ fate,
      condition world op fate ∧ ∀ result,
        machine.exec op fate world = some result → invariant result.2)
    {program : Program Op Reply α} {world : World} (holds : invariant world)
    (one : machine.Achieves condition first program world)
    (other : machine.Achieves condition second program world) :
    ∃ after value, first after value ∧ second after value := by
  induction program generalizing world with
  | done value => exact ⟨world, value, one, other⟩
  | perform op next ih =>
      obtain ⟨fate, isMet, kept⟩ := continues world op holds
      obtain ⟨reply, after, executed, rest⟩ := one [] world rfl fate isMet
      obtain ⟨sameReply, sameAfter, again, otherRest⟩ :=
        other [] world rfl fate isMet
      obtain ⟨rfl, rfl⟩ :=
        Prod.mk.inj (Option.some.inj (executed.symm.trans again))
      exact ih reply (kept _ executed) rest otherRest

/-! ## Recording -/

section Recording

variable (machine)

/-- The machine with the operations it has executed beside its world. -/
def recording :
    Machine Op Reply (World × List Op) Fate Request Result Drift where
  program := machine.program
  exec op fate recorded := (machine.exec op fate recorded.1).map fun result =>
    (result.1, (result.2, recorded.2 ++ [op]))
  drift change recorded := (machine.drift change recorded.1).map fun world =>
    (world, recorded.2)

/-- The fate fits the operation. -/
def Enabled (world : World) (op : Op) (fate : Fate) : Prop :=
  (machine.exec op fate world).isSome

/-- A drifting world records nothing. -/
theorem driftAll_recording (changes : List Drift) (recorded : World × List Op) :
    machine.recording.driftAll changes recorded =
      (machine.driftAll changes recorded.1).map fun world =>
        (world, recorded.2) := by
  induction changes generalizing recorded with
  | nil => rfl
  | cons change rest ih =>
      change (machine.recording.drift change recorded >>= _) = _
      change (((machine.drift change recorded.1).map _) >>= _) = _
      cases drifted : machine.drift change recorded.1 with
      | none => simp [driftAll, drifted]
      | some world => simp [driftAll, drifted, ih]

end Recording

/-! ## Programs that throw -/

/-- What a task returns and what it throws when it runs alone. -/
def Attains (machine : Machine Op Reply World Fate Request Result Drift)
    (condition : World → Op → Fate → Prop) (returns : World → α → Prop)
    (throws : World → ε → Prop) (task : ExceptT ε (Program Op Reply) α)
    (world : World) : Prop :=
  machine.Achieves condition (Ending returns throws) task.run world

namespace Attains

variable {returns : World → α → Prop} {throws : World → ε → Prop}
variable {world : World}

theorem pure {value : α} (returned : returns world value) :
    machine.Attains condition returns throws
      (Pure.pure value : ExceptT ε (Program Op Reply) α) world :=
  returned

theorem throw {error : ε} (thrown : throws world error) :
    machine.Attains condition returns throws
      (MonadExcept.throw error : ExceptT ε (Program Op Reply) α) world :=
  thrown

/-- A step that has been computed: its value is returned, its error thrown. -/
theorem computed {step : Except ε α} (ends : Ending returns throws world step) :
    machine.Attains condition returns throws (ExceptT.mk (.done step)) world :=
  ends

/-- One operation whose reply is converted into a value or an error. -/
theorem operation {op : Op} {convert : Reply op → Except ε α}
    (performed : ∀ changes, ∀ here ∈ machine.driftAll changes world,
      ∀ fate, condition here op fate →
        ∃ reply after, machine.exec op fate here = some (reply, after) ∧
          Ending returns throws after (convert reply)) :
    machine.Attains condition returns throws
      (ExceptT.mk (.perform op fun reply => .done (convert reply))) world :=
  performed

theorem mono {weakReturns : World → α → Prop} {weakThrows : World → ε → Prop}
    {task : ExceptT ε (Program Op Reply) α}
    (attains : machine.Attains condition returns throws task world)
    (onReturn : ∀ after value, returns after value → weakReturns after value)
    (onThrow : ∀ after error, throws after error → weakThrows after error) :
    machine.Attains condition weakReturns weakThrows task world := by
  apply Achieves.mono attains
  rintro after (error | value) ended
  · exact onThrow after error ended
  · exact onReturn after value ended

theorem bind (middle : World → β → Prop)
    {task : ExceptT ε (Program Op Reply) β}
    {next : β → ExceptT ε (Program Op Reply) α}
    (first : machine.Attains condition middle throws task world)
    (rest : ∀ after value, middle after value →
      machine.Attains condition returns throws (next value) after) :
    machine.Attains condition returns throws (task >>= next) world := by
  apply Achieves.bind _ first
  rintro after (error | value) ended
  · exact ended
  · exact rest after value ended

theorem tryCatch (failing : World → ε → Prop)
    {task : ExceptT ε (Program Op Reply) α}
    {handler : ε → ExceptT ε (Program Op Reply) α}
    (first : machine.Attains condition returns failing task world)
    (handled : ∀ after error, failing after error →
      machine.Attains condition returns throws (handler error) after) :
    machine.Attains condition returns throws
      (MonadExcept.tryCatch task handler) world := by
  apply Achieves.bind _ first
  rintro after (error | value) ended
  · exact handled after error ended
  · exact ended

theorem map {middle : World → β → Prop}
    {task : ExceptT ε (Program Op Reply) β} {function : β → α}
    (first : machine.Attains condition middle throws task world)
    (returned : ∀ after value, middle after value →
      returns after (function value)) :
    machine.Attains condition returns throws (function <$> task) world := by
  apply Achieves.bind _ first
  rintro after (error | value) ended
  · exact ended
  · exact returned after value ended

end Attains

/-! ## Solitary runs are runs -/

/-- A drifting world moves no caller. -/
theorem reaches_of_driftAll {changes : List Drift}
    (state : State Op Reply World Request Result) {here : World}
    (drifted : machine.driftAll changes state.world = some here) :
    machine.Reaches Unrestricted state { state with world := here } := by
  induction changes generalizing state with
  | nil =>
      obtain rfl := Option.some.inj drifted
      exact Relation.ReflTransGen.refl
  | cons change rest ih =>
      obtain ⟨world, changed, remaining⟩ := Option.bind_eq_some_iff.mp drifted
      refine Relation.ReflTransGen.head ⟨.drift change, ?_, trivial⟩
        (ih { state with world := world } remaining)
      rw [advance, changed]
      rfl

/-- A program that has been run alone is a caller that has finished. -/
theorem reaches_of_runAlone {program : Program Op Reply Result}
    {choices : Choices Fate Drift}
    (state : State Op Reply World Request Result) {caller : Nat}
    {request : Request} {value : Result} {after : World}
    (alive : state.calls[caller]? = some ⟨request, some program⟩)
    (ran : machine.runAlone program choices state.world =
      some (value, after)) :
    ∃ target, machine.Reaches Unrestricted state target ∧
      target.world = after ∧
      target.calls[caller]? = some ⟨request, some (.done value)⟩ := by
  induction program generalizing choices state with
  | done result =>
      obtain ⟨rfl, rfl⟩ := Prod.mk.inj (Option.some.inj ran)
      exact ⟨state, Relation.ReflTransGen.refl, rfl, alive⟩
  | perform op next ih =>
      obtain ⟨here, drifted, performed⟩ := Option.bind_eq_some_iff.mp ran
      obtain ⟨⟨reply, world⟩, executed, remaining⟩ :=
        Option.bind_eq_some_iff.mp performed
      obtain ⟨inCalls, _⟩ := List.getElem?_eq_some_iff.mp alive
      obtain ⟨target, reached, rest⟩ := ih reply {
          world := world
          calls := state.calls.set caller ⟨request, some (next reply)⟩
          log := ⟨caller, op, reply, here, world⟩ :: state.log }
        (List.getElem?_set_self inCalls) remaining
      refine ⟨target, ?_, rest⟩
      refine (reaches_of_driftAll state drifted).trans
        (Relation.ReflTransGen.head ⟨.step caller (choices 0).2, ?_, trivial⟩
          reached)
      simp [advance, alive, executed]

end Machine

end PaymentPortal.Interaction
