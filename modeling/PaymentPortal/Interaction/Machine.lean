import Mathlib.Data.List.Forall2
import Mathlib.Logic.Relation
import PaymentPortal.Interaction.Conformance

/-!
# Concurrent callers over a shared world

A machine runs any number of programs against one world.  Requests arrive at
any time; a move executes one operation of one caller, stops a caller for good
or lets the world drift by itself.  What is not determined by the operation
and the world (failures, lost replies, the answers of outside parties) is the
fate of the move, so a run is a list of moves and can be replayed.

The log keeps every executed operation with its reply and the worlds before and
after it, newest first.

`Phased` annotates a state with one phase for each caller, in the discipline of
its request.
`Machine.exists_phased` turns every run into an annotated one, and
`Machine.exists_invariant` is the induction rule for invariants that speak
about the phases.
-/

namespace PaymentPortal.Interaction

/-- How requests run, what operations do and how the world drifts. -/
structure Machine (Op : Type) (Reply : Op → Type)
    (World Fate Request Result Drift : Type) where
  program : Request → Program Op Reply Result
  exec : (op : Op) → Fate → World → Option (Reply op × World)
  drift : Drift → World → Option World

/-- One caller: its request and what is left of its program, if it is alive. -/
structure Call (Op : Type) (Reply : Op → Type) (Request Result : Type) where
  request : Request
  rest : Option (Program Op Reply Result)

/-- One executed operation. -/
structure Entry (Op : Type) (Reply : Op → Type) (World : Type) where
  caller : Nat
  op : Op
  reply : Reply op
  before : World
  after : World

/-- The world, the callers in order of arrival and the log, newest first. -/
structure State (Op : Type) (Reply : Op → Type)
    (World Request Result : Type) where
  world : World
  calls : List (Call Op Reply Request Result)
  log : List (Entry Op Reply World)

/-- One move of a run. -/
inductive Move (Fate Request Drift : Type) where
  | arrive (request : Request)
  | step (caller : Nat) (fate : Fate)
  | crash (caller : Nat)
  | drift (change : Drift)

variable {Op : Type} {Reply : Op → Type}
variable {World Fate Request Result Drift Phase : Type}

namespace Call

/-- The operation the caller performs next, if it is alive and not finished. -/
def nextOp? (call : Call Op Reply Request Result) : Option Op :=
  match call.rest with
  | some (.perform op _) => some op
  | _ => none

/-- The value of a finished call. -/
def result? (call : Call Op Reply Request Result) : Option Result :=
  match call.rest with
  | some (.done value) => some value
  | _ => none

/-- A call with a value has nothing left to do. -/
theorem rest_of_result? {call : Call Op Reply Request Result} {value : Result}
    (isResult : call.result? = some value) : call.rest = some (.done value) := by
  unfold result? at isResult
  split at isResult
  · rename_i outcome finished
    rw [finished, Option.some.inj isResult]
  · exact absurd isResult (by simp)

/-- The call is alive and has operations left. -/
def InProgress (call : Call Op Reply Request Result) : Prop :=
  call.nextOp?.isSome

instance (call : Call Op Reply Request Result) : Decidable call.InProgress :=
  inferInstanceAs (Decidable (call.nextOp?.isSome = true))

end Call

namespace State

/-- No caller has ever arrived and nothing has been logged. -/
def initial (world : World) : State Op Reply World Request Result where
  world := world
  calls := []
  log := []

/-- The operation that caller `caller` performs next. -/
def nextOp? (state : State Op Reply World Request Result) (caller : Nat) :
    Option Op :=
  state.calls[caller]? >>= Call.nextOp?

/-- No call is in progress. -/
def Quiescent (state : State Op Reply World Request Result) : Prop :=
  ∀ call ∈ state.calls, ¬ call.InProgress

instance (state : State Op Reply World Request Result) :
    Decidable state.Quiescent :=
  inferInstanceAs (Decidable (∀ call ∈ state.calls, ¬ call.InProgress))

end State

namespace Machine

variable (machine : Machine Op Reply World Fate Request Result Drift)

/-- Execute one move; `none` when the move is not enabled. -/
def advance (move : Move Fate Request Drift)
    (state : State Op Reply World Request Result) :
    Option (State Op Reply World Request Result) :=
  match move with
  | .arrive request =>
      some { state with
        calls := state.calls ++ [⟨request, some (machine.program request)⟩] }
  | .step caller fate =>
      match state.calls[caller]? with
      | some ⟨request, some (.perform op next)⟩ =>
          match machine.exec op fate state.world with
          | some (reply, world) =>
              some {
                world := world
                calls := state.calls.set caller ⟨request, some (next reply)⟩
                log := ⟨caller, op, reply, state.world, world⟩ :: state.log }
          | none => none
      | _ => none
  | .crash caller =>
      match state.calls[caller]? with
      | some ⟨request, some (.perform _ _)⟩ =>
          some { state with calls := state.calls.set caller ⟨request, none⟩ }
      | _ => none
  | .drift change =>
      (machine.drift change state.world).map fun world =>
        { state with world := world }

/-- What an enabled move makes of the state. -/
inductive Advances (source : State Op Reply World Request Result) :
    Move Fate Request Drift → State Op Reply World Request Result → Prop where
  | arrive (request : Request) :
      Advances source (.arrive request) { source with
        calls := source.calls ++ [⟨request, some (machine.program request)⟩] }
  | perform (caller : Nat) (fate : Fate) (request : Request) (op : Op)
      (next : Reply op → Program Op Reply Result) (reply : Reply op)
      (world : World)
      (running : source.calls[caller]? =
        some ⟨request, some (.perform op next)⟩)
      (executed : machine.exec op fate source.world = some (reply, world)) :
      Advances source (.step caller fate) {
        world := world
        calls := source.calls.set caller ⟨request, some (next reply)⟩
        log := ⟨caller, op, reply, source.world, world⟩ :: source.log }
  | crash (caller : Nat) (request : Request) (op : Op)
      (next : Reply op → Program Op Reply Result)
      (running : source.calls[caller]? =
        some ⟨request, some (.perform op next)⟩) :
      Advances source (.crash caller)
        { source with calls := source.calls.set caller ⟨request, none⟩ }
  | drift (change : Drift) (world : World)
      (drifted : machine.drift change source.world = some world) :
      Advances source (.drift change) { source with world := world }

variable {machine} in
theorem advances_of_advance {move : Move Fate Request Drift}
    {source target : State Op Reply World Request Result}
    (advanced : machine.advance move source = some target) :
    machine.Advances source move target := by
  cases move with
  | arrive request =>
      obtain rfl := Option.some.inj advanced
      exact .arrive request
  | step caller fate =>
      rw [advance] at advanced
      split at advanced
      · rename_i request op next running
        split at advanced
        · rename_i reply world executed
          obtain rfl := Option.some.inj advanced
          exact .perform caller fate request op next reply world running
            executed
        · exact absurd advanced (by simp)
      · exact absurd advanced (by simp)
  | crash caller =>
      rw [advance] at advanced
      split at advanced
      · rename_i request op next running
        obtain rfl := Option.some.inj advanced
        exact .crash caller request op next running
      · exact absurd advanced (by simp)
  | drift change =>
      obtain ⟨world, drifted, rfl⟩ := Option.map_eq_some_iff.mp advanced
      exact .drift change world drifted

/-- One move that meets the condition `allowed`. -/
def Step (allowed : State Op Reply World Request Result →
      Move Fate Request Drift → Prop)
    (source target : State Op Reply World Request Result) : Prop :=
  ∃ move, machine.advance move source = some target ∧ allowed source move

variable {machine} in
/-- Nothing is taken from the log. -/
theorem log_subset_of_step {allowed : State Op Reply World Request Result →
      Move Fate Request Drift → Prop}
    {source target : State Op Reply World Request Result}
    (step : machine.Step allowed source target) : source.log ⊆ target.log := by
  obtain ⟨move, advanced, _⟩ := step
  intro entry member
  cases advances_of_advance advanced with
  | arrive _ => exact member
  | perform _ _ _ _ _ _ _ _ _ => exact List.mem_cons_of_mem _ member
  | crash _ _ _ _ _ => exact member
  | drift _ _ _ => exact member

/-- A run all of whose moves meet the condition `allowed`. -/
def Reaches (allowed : State Op Reply World Request Result →
      Move Fate Request Drift → Prop) :
    State Op Reply World Request Result →
      State Op Reply World Request Result → Prop :=
  Relation.ReflTransGen (machine.Step allowed)

/-- The condition that every move meets. -/
def Unrestricted (_ : State Op Reply World Request Result)
    (_ : Move Fate Request Drift) : Prop :=
  True

instance (state : State Op Reply World Request Result)
    (move : Move Fate Request Drift) : Decidable (Unrestricted state move) :=
  inferInstanceAs (Decidable True)

/--
The condition that every executed operation meets `condition`, in the state
before it, for its caller and with its fate.
-/
def OnSteps (condition : State Op Reply World Request Result →
      Nat → Op → Fate → Prop)
    (state : State Op Reply World Request Result)
    (move : Move Fate Request Drift) : Prop :=
  match move with
  | .step caller fate =>
      ∀ op ∈ state.nextOp? caller, condition state caller op fate
  | _ => True

instance (condition : State Op Reply World Request Result →
      Nat → Op → Fate → Prop)
    [∀ state caller op fate, Decidable (condition state caller op fate)]
    (state : State Op Reply World Request Result)
    (move : Move Fate Request Drift) :
    Decidable (OnSteps condition state move) :=
  match move with
  | .step caller fate => inferInstanceAs
      (Decidable (∀ op ∈ state.nextOp? caller, condition state caller op fate))
  | .arrive _ => inferInstanceAs (Decidable True)
  | .crash _ => inferInstanceAs (Decidable True)
  | .drift _ => inferInstanceAs (Decidable True)

variable {machine}
variable {allowed : State Op Reply World Request Result →
  Move Fate Request Drift → Prop}

/-- The condition speaks about the operation that is executed. -/
theorem OnSteps.of_running {condition : State Op Reply World Request Result →
      Nat → Op → Fate → Prop}
    {state : State Op Reply World Request Result} {caller : Nat} {fate : Fate}
    {request : Request} {op : Op} {next : Reply op → Program Op Reply Result}
    (permitted : OnSteps condition state
      (.step caller fate : Move Fate Request Drift))
    (running : state.calls[caller]? = some ⟨request, some (.perform op next)⟩) :
    condition state caller op fate := by
  apply permitted
  simp [State.nextOp?, running, Call.nextOp?]

variable (machine)

/-- Replay a list of moves, checking `allowed` before each of them. -/
def replay (allowed : State Op Reply World Request Result →
      Move Fate Request Drift → Prop)
    [∀ state move, Decidable (allowed state move)] :
    List (Move Fate Request Drift) →
      State Op Reply World Request Result →
        Option (State Op Reply World Request Result)
  | [], state => some state
  | move :: rest, state =>
      if allowed state move then
        match machine.advance move state with
        | some next => replay allowed rest next
        | none => none
      else none

variable {machine} in
/-- A replayed list of moves is a run. -/
theorem reaches_of_replay
    [∀ state move, Decidable (allowed state move)]
    {moves : List (Move Fate Request Drift)}
    {source target : State Op Reply World Request Result}
    (replayed : machine.replay allowed moves source = some target) :
    machine.Reaches allowed source target := by
  induction moves generalizing source with
  | nil =>
      obtain rfl := Option.some.inj replayed
      exact Relation.ReflTransGen.refl
  | cons move rest ih =>
      rw [replay] at replayed
      split at replayed
      · rename_i permitted
        split at replayed
        · rename_i next advanced
          exact Relation.ReflTransGen.head ⟨move, advanced, permitted⟩
            (ih replayed)
        · exact absurd replayed (by simp)
      · exact absurd replayed (by simp)

end Machine

/-! ## Annotated runs -/

/-- Replacing related members at one position keeps two lists related. -/
theorem forall₂_set {α β : Type} {related : α → β → Prop} :
    ∀ {lefts : List α} {rights : List β} (index : Nat) {left : α} {right : β},
      List.Forall₂ related lefts rights → related left right →
        List.Forall₂ related (lefts.set index left) (rights.set index right)
  | _, _, _, _, _, .nil, _ => .nil
  | _, _, 0, _, _, .cons _ tail, here => .cons here tail
  | _, _, index + 1, _, _, .cons first tail, here =>
      .cons first (forall₂_set index tail here)

/-- A member of an extended list is an old one or the new one. -/
theorem getElem?_append_singleton_cases {α : Type} {members : List α}
    {new found : α} {index : Nat}
    (present : (members ++ [new])[index]? = some found) :
    members[index]? = some found ∨ found = new := by
  rw [List.getElem?_append] at present
  split at present
  · exact .inl present
  · exact .inr (List.mem_singleton.mp (List.mem_of_getElem? present))

/-- A member of an updated list is the new one or an old one elsewhere. -/
theorem getElem?_set_cases {α : Type} {members : List α} {new found : α}
    {index changed : Nat}
    (present : (members.set changed new)[index]? = some found) :
    (index = changed ∧ found = new) ∨
      (index ≠ changed ∧ members[index]? = some found) := by
  by_cases same : changed = index
  · subst same
    rw [List.getElem?_set_self'] at present
    obtain ⟨_, _, rfl⟩ := Option.map_eq_some_iff.mp present
    exact .inl ⟨rfl, rfl⟩
  · rw [List.getElem?_set_ne same] at present
    exact .inr ⟨Ne.symm same, present⟩

section Pairs

variable {α β : Type} {lefts : List α} {rights : List β} {left newLeft : α}
variable {right newRight : β} {index changed : Nat}

/-- Two lists that are extended together have new members at one place. -/
theorem getElem?_append_pair_cases (lengths : lefts.length = rights.length)
    (hasLeft : (lefts ++ [newLeft])[index]? = some left)
    (hasRight : (rights ++ [newRight])[index]? = some right) :
    (index = lefts.length ∧ left = newLeft ∧ right = newRight) ∨
      (lefts[index]? = some left ∧ rights[index]? = some right) := by
  rcases Nat.lt_or_ge index lefts.length with inside | outside
  · rw [List.getElem?_append_left inside] at hasLeft
    rw [List.getElem?_append_left (lengths ▸ inside)] at hasRight
    exact .inr ⟨hasLeft, hasRight⟩
  · rw [List.getElem?_append_right outside] at hasLeft
    rw [List.getElem?_append_right (lengths ▸ outside)] at hasRight
    have new := (List.getElem?_eq_some_iff.mp hasLeft).1
    refine .inl ⟨?_, List.mem_singleton.mp (List.mem_of_getElem? hasLeft),
      List.mem_singleton.mp (List.mem_of_getElem? hasRight)⟩
    rw [List.length_singleton] at new
    omega

/-- Two lists that are updated together have new members at one place. -/
theorem getElem?_set_pair_cases
    (hasLeft : (lefts.set changed newLeft)[index]? = some left)
    (hasRight : (rights.set changed newRight)[index]? = some right) :
    (index = changed ∧ left = newLeft ∧ right = newRight) ∨
      (index ≠ changed ∧ lefts[index]? = some left ∧
        rights[index]? = some right) := by
  rcases getElem?_set_cases hasLeft with ⟨same, isNew⟩ | ⟨different, old⟩
  · rcases getElem?_set_cases hasRight with ⟨_, isNewRight⟩ | ⟨impossible, _⟩
    · exact .inl ⟨same, isNew, isNewRight⟩
    · exact absurd same impossible
  · rcases getElem?_set_cases hasRight with ⟨impossible, _⟩ | ⟨_, oldRight⟩
    · exact absurd impossible different
    · exact .inr ⟨different, old, oldRight⟩

end Pairs

/--
What no two callers own, no two of them own after one has moved to a phase that
owns nothing of the others.
-/
theorem owners_of_move {Phase Item : Type} {Owns : Phase → Item → Prop}
    {Was Now : Nat → Phase → Prop} {caller : Nat} {later : Phase}
    (cases : ∀ other phase, Now other phase →
      (other = caller ∧ phase = later) ∨ (other ≠ caller ∧ Was other phase))
    (owners : ∀ first second firstPhase secondPhase item,
      Was first firstPhase → Was second secondPhase →
        Owns firstPhase item → Owns secondPhase item → first = second)
    (foreign : ∀ other phase item, other ≠ caller → Was other phase →
      Owns phase item → ¬ Owns later item) :
    ∀ first second firstPhase secondPhase item,
      Now first firstPhase → Now second secondPhase →
        Owns firstPhase item → Owns secondPhase item → first = second := by
  intro first second firstPhase secondPhase item firstNow secondNow firstOwns
    secondOwns
  rcases cases first firstPhase firstNow with
    ⟨rfl, rfl⟩ | ⟨firstOther, firstWas⟩
  · rcases cases second secondPhase secondNow with
      ⟨rfl, _⟩ | ⟨secondOther, secondWas⟩
    · rfl
    · exact absurd firstOwns
        (foreign second secondPhase item secondOther secondWas secondOwns)
  · rcases cases second secondPhase secondNow with
      ⟨rfl, rfl⟩ | ⟨_, secondWas⟩
    · exact absurd secondOwns
        (foreign first firstPhase item firstOther firstWas firstOwns)
    · exact owners first second firstPhase secondPhase item firstWas secondWas
        firstOwns secondOwns

/--
A state with one phase per caller, such that what is left of every live
program conforms to the discipline of its request in its phase.
-/
structure Phased (discipline : Request → Discipline Op Reply Phase)
    (finish : Request → Phase → Result → Prop) (World : Type) where
  state : State Op Reply World Request Result
  phases : List Phase
  tracked : List.Forall₂
    (fun call phase => ∀ program, call.rest = some program →
      program.Conforms (discipline call.request) (finish call.request) phase)
    state.calls phases

variable {discipline : Request → Discipline Op Reply Phase}
variable {finish : Request → Phase → Result → Prop}

namespace Phased

/-- The annotated state before the first arrival. -/
def initial (world : World) : Phased discipline finish World where
  state := .initial world
  phases := []
  tracked := List.Forall₂.nil

theorem length_eq (phased : Phased discipline finish World) :
    phased.state.calls.length = phased.phases.length :=
  phased.tracked.length_eq

/-- A live caller conforms to the phase recorded for it. -/
theorem conforms (phased : Phased discipline finish World)
    {caller : Nat} {request : Request} {program : Program Op Reply Result}
    {phase : Phase}
    (alive : phased.state.calls[caller]? = some ⟨request, some program⟩)
    (holds : phased.phases[caller]? = some phase) :
    program.Conforms (discipline request) (finish request) phase := by
  obtain ⟨inCalls, callEq⟩ := List.getElem?_eq_some_iff.mp alive
  obtain ⟨inPhases, phaseEq⟩ := List.getElem?_eq_some_iff.mp holds
  have related := phased.tracked.get inCalls inPhases
  simp only [List.get_eq_getElem, callEq, phaseEq] at related
  exact related program rfl

/-- A finished caller has finished in the phase recorded for it. -/
theorem conforms_done (phased : Phased discipline finish World)
    {caller : Nat} {call : Call Op Reply Request Result} {value : Result}
    {phase : Phase} (present : phased.state.calls[caller]? = some call)
    (isResult : call.result? = some value)
    (holds : phased.phases[caller]? = some phase) :
    (Program.done value : Program Op Reply Result).Conforms
      (discipline call.request) (finish call.request) phase := by
  obtain ⟨request, rest⟩ := call
  obtain rfl := Call.rest_of_result? isResult
  exact phased.conforms present holds

/-- Every caller has a phase. -/
theorem exists_phase (phased : Phased discipline finish World)
    {caller : Nat} {call : Call Op Reply Request Result}
    (present : phased.state.calls[caller]? = some call) :
    ∃ phase, phased.phases[caller]? = some phase := by
  obtain ⟨inCalls, _⟩ := List.getElem?_eq_some_iff.mp present
  have inPhases : caller < phased.phases.length :=
    phased.length_eq ▸ inCalls
  exact ⟨phased.phases[caller], List.getElem?_eq_getElem inPhases⟩

end Phased

/-- One move of an annotated run. -/
inductive PhasedStep
    (machine : Machine Op Reply World Fate Request Result Drift)
    (start ended : Phase)
    (allowed : State Op Reply World Request Result →
      Move Fate Request Drift → Prop)
    (source target : Phased discipline finish World) : Prop where
  | arrive (request : Request)
      (permitted : allowed source.state (.arrive request))
      (state_eq : target.state = { source.state with
        calls := source.state.calls ++
          [⟨request, some (machine.program request)⟩] })
      (phases_eq : target.phases = source.phases ++ [start])
  | perform (caller : Nat) (fate : Fate) (request : Request) (op : Op)
      (next : Reply op → Program Op Reply Result) (reply : Reply op)
      (world : World) (phase after : Phase)
      (permitted : allowed source.state (.step caller fate))
      (running : source.state.calls[caller]? =
        some ⟨request, some (.perform op next)⟩)
      (holds : source.phases[caller]? = some phase)
      (executed : machine.exec op fate source.state.world =
        some (reply, world))
      (moved : (discipline request).step phase op reply after)
      (state_eq : target.state = {
        world := world
        calls := source.state.calls.set caller ⟨request, some (next reply)⟩
        log := ⟨caller, op, reply, source.state.world, world⟩ ::
          source.state.log })
      (phases_eq : target.phases = source.phases.set caller after)
  | crash (caller : Nat) (request : Request) (op : Op)
      (next : Reply op → Program Op Reply Result)
      (permitted : allowed source.state (.crash caller))
      (running : source.state.calls[caller]? =
        some ⟨request, some (.perform op next)⟩)
      (state_eq : target.state = { source.state with
        calls := source.state.calls.set caller ⟨request, none⟩ })
      (phases_eq : target.phases = source.phases.set caller ended)
  | drift (change : Drift) (world : World)
      (permitted : allowed source.state (.drift change))
      (drifted : machine.drift change source.state.world = some world)
      (state_eq : target.state = { source.state with world := world })
      (phases_eq : target.phases = source.phases)

section Log

variable (machine : Machine Op Reply World Fate Request Result Drift)
variable (allowed : State Op Reply World Request Result →
  Move Fate Request Drift → Prop)

/--
Where an entry of the log, with those older than it, comes from: it was there
before the move, or it is the operation that the move performs.
-/
inductive LoggedBy (source target : Phased discipline finish World) :
    Entry Op Reply World → List (Entry Op Reply World) → Prop where
  | earlier {entry : Entry Op Reply World} {older : List (Entry Op Reply World)}
      (suffix : (entry :: older) <:+ source.state.log) :
      LoggedBy source target entry older
  | performed (caller : Nat) (fate : Fate) (request : Request) (op : Op)
      (next : Reply op → Program Op Reply Result) (reply : Reply op)
      (phase after : Phase)
      (permitted : allowed source.state (.step caller fate))
      (running : source.state.calls[caller]? =
        some ⟨request, some (.perform op next)⟩)
      (holds : source.phases[caller]? = some phase)
      (executed : machine.exec op fate source.state.world =
        some (reply, target.state.world))
      (moved : (discipline request).step phase op reply after) :
      LoggedBy source target
        ⟨caller, op, reply, source.state.world, target.state.world⟩
        source.state.log

variable {machine allowed} {start ended : Phase}
variable {source target : Phased discipline finish World}

/-- An annotated move is one of the machine. -/
theorem PhasedStep.step
    (step : PhasedStep machine start ended allowed source target) :
    machine.Step allowed source.state target.state := by
  cases step with
  | arrive request permitted state_eq phases_eq =>
      exact ⟨.arrive request, by rw [Machine.advance, state_eq], permitted⟩
  | perform caller fate request op next reply world phase after permitted
      running holds executed moved state_eq phases_eq =>
      refine ⟨.step caller fate, ?_, permitted⟩
      simp only [Machine.advance, running, executed, state_eq]
  | crash caller request op next permitted running state_eq phases_eq =>
      refine ⟨.crash caller, ?_, permitted⟩
      simp only [Machine.advance, running, state_eq]
  | drift change world permitted drifted state_eq phases_eq =>
      refine ⟨.drift change, ?_, permitted⟩
      simp only [Machine.advance, drifted, Option.map_some, state_eq]

/-- The log grows by performed operations only. -/
theorem PhasedStep.loggedBy
    (step : PhasedStep machine start ended allowed source target)
    {entry : Entry Op Reply World} {older : List (Entry Op Reply World)}
    (suffix : (entry :: older) <:+ target.state.log) :
    LoggedBy machine allowed source target entry older := by
  cases step with
  | arrive request permitted state_eq phases_eq =>
      rw [state_eq] at suffix
      exact .earlier suffix
  | perform caller fate request op next reply world phase after permitted
      running holds executed moved state_eq phases_eq =>
      have sameWorld : target.state.world = world := by rw [state_eq]
      subst sameWorld
      rw [state_eq] at suffix
      rcases List.suffix_cons_iff.mp suffix with same | inLog
      · obtain ⟨rfl, rfl⟩ := List.cons.inj same
        exact .performed caller fate request op next reply phase after permitted
          running holds executed moved
      · exact .earlier inLog
  | crash caller request op next permitted running state_eq phases_eq =>
      rw [state_eq] at suffix
      exact .earlier suffix
  | drift change world permitted drifted state_eq phases_eq =>
      rw [state_eq] at suffix
      exact .earlier suffix

/-- Nothing is taken from the log. -/
theorem PhasedStep.log_subset
    (step : PhasedStep machine start ended allowed source target) :
    source.state.log ⊆ target.state.log :=
  Machine.log_subset_of_step step.step

theorem PhasedStep.loggedBy_of_mem
    (step : PhasedStep machine start ended allowed source target)
    {entry : Entry Op Reply World} (member : entry ∈ target.state.log) :
    ∃ older, LoggedBy machine allowed source target entry older := by
  obtain ⟨newer, older, split⟩ := List.append_of_mem member
  exact ⟨older, step.loggedBy ⟨newer, split.symm⟩⟩

end Log

namespace Machine

variable {machine : Machine Op Reply World Fate Request Result Drift}
variable {start : Phase} (ended : Phase)
variable {allowed : State Op Reply World Request Result →
  Move Fate Request Drift → Prop}

/-- Every move of a run can be annotated. -/
theorem exists_phasedStep
    (conforms : ∀ request,
      (machine.program request).Conforms (discipline request)
        (finish request) start)
    (source : Phased discipline finish World)
    {target : State Op Reply World Request Result}
    (step : machine.Step allowed source.state target) :
    ∃ phased : Phased discipline finish World,
      phased.state = target ∧
        PhasedStep machine start ended allowed source phased := by
  obtain ⟨move, advanced, permitted⟩ := step
  cases advances_of_advance advanced with
  | arrive request =>
      refine ⟨⟨_, source.phases ++ [start], ?_⟩, rfl,
        .arrive request permitted rfl rfl⟩
      refine List.rel_append source.tracked (.cons ?_ .nil)
      intro program isProgram
      obtain rfl := Option.some.inj isProgram
      exact conforms request
  | perform caller fate request op next reply world running executed =>
      obtain ⟨phase, holds⟩ := source.exists_phase running
      obtain ⟨after, moved, remaining⟩ :=
        source.conforms running holds phase
          ((discipline request).grows_refl phase) reply
      refine ⟨⟨_, source.phases.set caller after, ?_⟩, rfl,
        .perform caller fate request op next reply world phase after
          permitted running holds executed moved rfl rfl⟩
      apply forall₂_set caller source.tracked
      intro program isProgram
      obtain rfl := Option.some.inj isProgram
      exact remaining
  | crash caller request op next running =>
      refine ⟨⟨_, source.phases.set caller ended, ?_⟩, rfl,
        .crash caller request op next permitted running rfl rfl⟩
      apply forall₂_set caller source.tracked
      intro program isProgram
      exact absurd isProgram (by simp)
  | drift change world drifted =>
      exact ⟨⟨{ source.state with world := world }, source.phases,
        source.tracked⟩, rfl, .drift change world permitted drifted rfl rfl⟩

/-- Every run from an annotated state can be annotated. -/
theorem exists_phased
    (conforms : ∀ request,
      (machine.program request).Conforms (discipline request)
        (finish request) start)
    (source : Phased discipline finish World)
    {target : State Op Reply World Request Result}
    (reaches : machine.Reaches allowed source.state target) :
    ∃ phased : Phased discipline finish World,
      phased.state = target ∧
        Relation.ReflTransGen (PhasedStep machine start ended allowed)
          source phased := by
  induction reaches with
  | refl => exact ⟨source, rfl, Relation.ReflTransGen.refl⟩
  | tail _ step ih =>
      obtain ⟨phased, rfl, annotated⟩ := ih
      obtain ⟨next, reached, moved⟩ :=
        exists_phasedStep ended conforms phased step
      exact ⟨next, reached, annotated.tail moved⟩

/--
The invariant rule: what holds of the annotated initial state and is preserved
by every annotated move holds of some annotation of every reachable state.
-/
theorem exists_invariant
    {Invariant : Phased discipline finish World → Prop}
    (conforms : ∀ request,
      (machine.program request).Conforms (discipline request)
        (finish request) start)
    {world : World}
    (initially : Invariant (.initial world))
    (preserved : ∀ source target, Invariant source →
      PhasedStep machine start ended allowed source target → Invariant target)
    {target : State Op Reply World Request Result}
    (reaches : machine.Reaches allowed (.initial world) target) :
    ∃ phased, phased.state = target ∧ Invariant phased := by
  obtain ⟨phased, reached, annotated⟩ :=
    exists_phased ended conforms (.initial world) reaches
  refine ⟨phased, reached, ?_⟩
  clear reached
  induction annotated with
  | refl => exact initially
  | tail _ moved ih => exact preserved _ _ ih moved

/-- The invariant rule, for a step that may use that its source is reached. -/
theorem exists_invariant_of_reaches
    {Invariant : Phased discipline finish World → Prop}
    (conforms : ∀ request,
      (machine.program request).Conforms (discipline request)
        (finish request) start)
    {world : World}
    (initially : Invariant (.initial world))
    (preserved : ∀ source target,
      machine.Reaches allowed (.initial world) source.state →
        Invariant source → PhasedStep machine start ended allowed source target →
          Invariant target)
    {target : State Op Reply World Request Result}
    (reaches : machine.Reaches allowed (.initial world) target) :
    ∃ phased, phased.state = target ∧ Invariant phased := by
  induction reaches with
  | refl => exact ⟨.initial world, rfl, initially⟩
  | tail earlier step ih =>
      obtain ⟨phased, rfl, holds⟩ := ih
      obtain ⟨next, reached, moved⟩ :=
        exists_phasedStep ended conforms phased step
      exact ⟨next, reached, preserved phased next earlier holds moved⟩

end Machine

end PaymentPortal.Interaction
