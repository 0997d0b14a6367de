import PaymentPortal.Interaction.Machine

/-!
# The traces of the callers

The operations of one caller are its trace.  `Traced` relates the trace of every
caller to its phase; the operations of the others do not matter to it.

`Machine.exists_passes` leads from an entry of the log back to the state in which
its operation was performed.

A caller whose operations have all left the world alone could as well have
done nothing: `Machine.reaches_without` takes them out of the run.
-/

namespace PaymentPortal.Interaction

variable {Op : Type} {Reply : Op → Type}
variable {World Fate Request Result Drift Phase : Type}

namespace State

/-- The operations of one caller, newest first. -/
def trace (state : State Op Reply World Request Result) (caller : Nat) :
    List (Entry Op Reply World) :=
  state.log.filter fun entry => entry.caller == caller

variable {state : State Op Reply World Request Result} {caller : Nat}

theorem mem_trace {entry : Entry Op Reply World} :
    entry ∈ state.trace caller ↔ entry ∈ state.log ∧ entry.caller = caller := by
  rw [trace, List.mem_filter, beq_iff_eq]

/-- A caller that has not arrived has no trace. -/
theorem trace_eq_nil
    (callers : ∀ entry ∈ state.log, entry.caller < state.calls.length)
    (absent : state.calls.length ≤ caller) : state.trace caller = [] := by
  apply List.filter_eq_nil_iff.mpr
  intro entry member same
  have arrived := callers entry member
  rw [beq_iff_eq.mp same] at arrived
  exact absurd absent (Nat.not_le.mpr arrived)

end State

/-- The call as it was when it arrived. -/
def Call.onArrival (machine : Machine Op Reply World Fate Request Result Drift)
    (call : Call Op Reply Request Result) : Call Op Reply Request Result :=
  ⟨call.request, some (machine.program call.request)⟩

/-- The state, had the call of `caller` arrived but done nothing so far. -/
def State.without (machine : Machine Op Reply World Fate Request Result Drift)
    (caller : Nat) (state : State Op Reply World Request Result) :
    State Op Reply World Request Result where
  world := state.world
  calls := state.calls.modify caller (Call.onArrival machine)
  log := state.log.filter fun entry => entry.caller != caller

/-! ## Traces and phases -/

section Traced

variable {discipline : Request → Discipline Op Reply Phase}
variable {finish : Request → Phase → Result → Prop}

/-- What the trace of each caller is in its phase. -/
structure Traced (Holds : Request → List (Entry Op Reply World) → Phase → Prop)
    (phased : Phased discipline finish World) : Prop where
  callers : ∀ entry ∈ phased.state.log,
    entry.caller < phased.state.calls.length
  holds : ∀ (caller : Nat) call phase,
    phased.state.calls[caller]? = some call →
    phased.phases[caller]? = some phase →
      Holds call.request (phased.state.trace caller) phase

variable {Holds : Request → List (Entry Op Reply World) → Phase → Prop}

theorem traced_initial (world : World) :
    Traced Holds (.initial world : Phased discipline finish World) where
  callers := fun entry member =>
    absurd member (by simp [Phased.initial, State.initial])
  holds := fun caller call phase present =>
    absurd present (by simp [Phased.initial, State.initial])

variable {machine : Machine Op Reply World Fate Request Result Drift}
variable {start ended : Phase}
variable {allowed : State Op Reply World Request Result →
  Move Fate Request Drift → Prop}

/-- Only the operations of a caller itself matter to its trace. -/
theorem PhasedStep.traced {source target : Phased discipline finish World}
    (step : PhasedStep machine start ended allowed source target)
    (traced : Traced Holds source)
    (starts : ∀ request, Holds request [] start)
    (stops : ∀ request trace phase,
      Holds request trace phase → Holds request trace ended)
    (performs : ∀ caller fate request op reply phase after,
      machine.exec op fate source.state.world =
        some (reply, target.state.world) →
      (discipline request).step phase op reply after →
      Holds request (source.state.trace caller) phase →
        Holds request
          (⟨caller, op, reply, source.state.world, target.state.world⟩ ::
            source.state.trace caller) after) :
    Traced Holds target := by
  cases step with
  | arrive request permitted state_eq phases_eq =>
      refine ⟨fun entry member => ?_, fun caller call phase present holds => ?_⟩
      · rw [state_eq] at member ⊢
        rw [List.length_append]
        exact Nat.lt_add_right _ (traced.callers entry member)
      · have sameTrace :
            target.state.trace caller = source.state.trace caller := by
          rw [State.trace, state_eq, State.trace]
        rw [state_eq] at present
        rw [phases_eq] at holds
        rw [sameTrace]
        rcases getElem?_append_pair_cases source.length_eq present holds with
          ⟨rfl, _, rfl⟩ | ⟨was, wasHolds⟩
        · rw [State.trace_eq_nil traced.callers (Nat.le_refl _)]
          exact starts call.request
        · exact traced.holds caller call phase was wasHolds
  | perform caller fate request op next reply world phase after permitted
      running phaseHolds executed moved state_eq phases_eq =>
      have sameWorld : target.state.world = world := by rw [state_eq]
      subst sameWorld
      refine ⟨fun entry member => ?_, fun other call phase present holds => ?_⟩
      · rw [state_eq] at member ⊢
        rw [List.length_set]
        rcases List.mem_cons.mp member with rfl | old
        · exact (List.getElem?_eq_some_iff.mp running).1
        · exact traced.callers entry old
      · rw [State.trace, state_eq]
        rw [state_eq] at present
        rw [phases_eq] at holds
        rcases getElem?_set_pair_cases present holds with
          ⟨rfl, rfl, rfl⟩ | ⟨different, was, wasHolds⟩
        · rw [List.filter_cons_of_pos (by simp)]
          exact performs other fate request op reply _ _ executed moved
            (traced.holds other _ _ running phaseHolds)
        · rw [List.filter_cons_of_neg (by simpa using Ne.symm different)]
          exact traced.holds other call phase was wasHolds
  | crash caller request op next permitted running state_eq phases_eq =>
      refine ⟨fun entry member => ?_, fun other call phase present holds => ?_⟩
      · rw [state_eq] at member ⊢
        rw [List.length_set]
        exact traced.callers entry member
      · have sameTrace :
            target.state.trace other = source.state.trace other := by
          rw [State.trace, state_eq, State.trace]
        rw [state_eq] at present
        rw [phases_eq] at holds
        rw [sameTrace]
        rcases getElem?_set_pair_cases present holds with
          ⟨rfl, rfl, rfl⟩ | ⟨_, was, wasHolds⟩
        · obtain ⟨was, wasHolds⟩ := source.exists_phase running
          exact stops request _ was (traced.holds other _ was running wasHolds)
        · exact traced.holds other call phase was wasHolds
  | drift change world permitted drifted state_eq phases_eq =>
      refine ⟨fun entry member => ?_, fun other call phase present holds => ?_⟩
      · rw [state_eq] at member ⊢
        exact traced.callers entry member
      · rw [State.trace, state_eq]
        rw [state_eq] at present
        rw [phases_eq] at holds
        exact traced.holds other call phase present holds

end Traced

/-! ## Looking back -/

namespace Machine

variable {machine : Machine Op Reply World Fate Request Result Drift}
variable {allowed : State Op Reply World Request Result →
  Move Fate Request Drift → Prop}
variable {start source target : State Op Reply World Request Result}

/-- A caller keeps its request. -/
theorem exists_call_of_step (step : machine.Step allowed source target)
    {caller : Nat} {call : Call Op Reply Request Result}
    (present : source.calls[caller]? = some call) :
    ∃ later, target.calls[caller]? = some later ∧
      later.request = call.request := by
  obtain ⟨move, advanced, _⟩ := step
  obtain ⟨inCalls, _⟩ := List.getElem?_eq_some_iff.mp present
  have kept : ∀ (changed : Nat) (request : Request)
      (was rest : Option (Program Op Reply Result)),
      source.calls[changed]? = some ⟨request, was⟩ →
      ∃ later, (source.calls.set changed ⟨request, rest⟩)[caller]? =
        some later ∧ later.request = call.request := by
    intro changed request was rest running
    by_cases same : changed = caller
    · subst same
      obtain rfl := Option.some.inj (running.symm.trans present)
      exact ⟨_, List.getElem?_set_self inCalls, rfl⟩
    · exact ⟨call, by rw [List.getElem?_set_ne same, present], rfl⟩
  cases advances_of_advance advanced with
  | arrive request =>
      exact ⟨call, by rw [List.getElem?_append_left inCalls, present], rfl⟩
  | perform other fate request op next reply world running executed =>
      exact kept other request _ _ running
  | crash other request op next running =>
      exact kept other request _ _ running
  | drift change world drifted => exact ⟨call, present, rfl⟩

theorem exists_call_of_reaches (reaches : machine.Reaches allowed source target)
    {caller : Nat} {call : Call Op Reply Request Result}
    (present : source.calls[caller]? = some call) :
    ∃ later, target.calls[caller]? = some later ∧
      later.request = call.request := by
  induction reaches with
  | refl => exact ⟨call, present, rfl⟩
  | tail _ step ih =>
      obtain ⟨middle, inMiddle, same⟩ := ih
      obtain ⟨later, inLater, still⟩ := exists_call_of_step step inMiddle
      exact ⟨later, inLater, still.trans same⟩

/-- The state that a run has passed when it performed an operation. -/
structure Passes (machine : Machine Op Reply World Fate Request Result Drift)
    (allowed : State Op Reply World Request Result →
      Move Fate Request Drift → Prop)
    (start target : State Op Reply World Request Result)
    (entry : Entry Op Reply World) (older : List (Entry Op Reply World))
    (earlier : State Op Reply World Request Result) (fate : Fate) : Prop where
  reached : machine.Reaches allowed start earlier
  continued : machine.Reaches allowed earlier target
  log_eq : earlier.log = older
  world_eq : earlier.world = entry.before
  running : ∃ request next, earlier.calls[entry.caller]? =
    some ⟨request, some (.perform entry.op next)⟩
  permitted : allowed earlier (.step entry.caller fate)

/-- Every logged operation was performed in a state the run has passed. -/
theorem exists_passes (reaches : machine.Reaches allowed start target)
    (unlogged : start.log = []) {entry : Entry Op Reply World}
    {newer older : List (Entry Op Reply World)}
    (split : target.log = newer ++ entry :: older) :
    ∃ earlier fate, Passes machine allowed start target entry older earlier
      fate := by
  induction reaches generalizing newer with
  | refl =>
      rw [unlogged] at split
      exact absurd split (by simp)
  | @tail middle target earlier step ih =>
      have later : ∀ {newer}, middle.log = newer ++ entry :: older →
          ∃ earlier fate, Passes machine allowed start target entry older
            earlier fate := by
        intro newer split
        obtain ⟨found, fate, passes⟩ := ih split
        exact ⟨found, fate, { passes with
          continued := passes.continued.tail step }⟩
      obtain ⟨move, advanced, permitted⟩ := id step
      cases advances_of_advance advanced with
      | arrive _ | crash _ _ _ _ _ | drift _ _ _ => exact later split
      | perform caller fate request op next reply world running executed =>
          rcases newer with _ | ⟨newest, newer⟩
          · obtain ⟨rfl, rfl⟩ := List.cons.inj split
            exact ⟨middle, fate, {
              reached := earlier
              continued := Relation.ReflTransGen.single step
              log_eq := rfl
              world_eq := rfl
              running := ⟨request, next, running⟩
              permitted := permitted }⟩
          · exact later (List.cons.inj split).2

end Machine

/-! ## Taking a caller out of a run -/

section Modify

variable {α : Type} {change : α → α}

theorem modify_append_of_fixed {new : α} (fixed : change new = new)
    (members : List α) (index : Nat) :
    (members ++ [new]).modify index change =
      members.modify index change ++ [new] := by
  induction members generalizing index with
  | nil => cases index <;> simp [fixed]
  | cons member rest ih => cases index <;> simp [ih]

theorem modify_set_self {members : List α} {old : α} {index : Nat} (new : α)
    (same : change new = change old) (present : members[index]? = some old) :
    (members.set index new).modify index change =
      members.modify index change := by
  induction members generalizing index with
  | nil => rfl
  | cons member rest ih =>
      cases index with
      | zero =>
          obtain rfl := Option.some.inj present
          simp [same]
      | succ index => simpa using ih present

theorem modify_set_of_ne {index changed : Nat} (different : changed ≠ index)
    (new : α) (members : List α) :
    (members.set changed new).modify index change =
      (members.modify index change).set changed new := by
  induction members generalizing index changed with
  | nil => simp
  | cons member rest ih =>
      cases changed with
      | zero => cases index <;> simp_all
      | succ changed =>
          cases index with
          | zero => rfl
          | succ index => simpa using ih fun same => different (by rw [same])

end Modify

namespace Machine

variable {machine : Machine Op Reply World Fate Request Result Drift}
variable {source target : State Op Reply World Request Result} {caller : Nat}

/-- Whatever a call has done, it has arrived in the same way. -/
theorem modify_onArrival {calls : List (Call Op Reply Request Result)}
    {request : Request} {was rest : Option (Program Op Reply Result)}
    (running : calls[caller]? = some ⟨request, was⟩) :
    (calls.set caller ⟨request, rest⟩).modify caller (Call.onArrival machine) =
      calls.modify caller (Call.onArrival machine) := by
  apply modify_set_self _ _ running
  rfl

/-- The other calls are what they are. -/
theorem getElem?_without {other : Nat} (different : other ≠ caller) :
    (source.without machine caller).calls[other]? = source.calls[other]? := by
  rw [State.without, List.getElem?_modify_ne _ _ different.symm]

/-- A move is taken along, or it is one of the idle caller itself. -/
theorem step_without (step : machine.Step Unrestricted source target)
    (idle : ∀ entry ∈ target.log, entry.caller = caller →
      entry.after = entry.before) :
    source.without machine caller = target.without machine caller ∨
      machine.Step Unrestricted (source.without machine caller)
        (target.without machine caller) := by
  obtain ⟨move, advanced, _⟩ := step
  cases advances_of_advance advanced with
  | arrive request =>
      refine .inr ⟨.arrive request, ?_, trivial⟩
      rw [advance, State.without, State.without, modify_append_of_fixed rfl]
  | perform other fate request op next reply world running executed =>
      by_cases same : other = caller
      · subst same
        have sameWorld : world = source.world := idle _ List.mem_cons_self rfl
        left
        rw [State.without, State.without, modify_onArrival running,
          List.filter_cons_of_neg (by simp), sameWorld]
      · refine .inr ⟨.step other fate, ?_, trivial⟩
        rw [advance, getElem?_without same, running]
        dsimp only
        rw [State.without, executed, State.without, modify_set_of_ne same,
          List.filter_cons_of_pos (by simpa using same)]
  | crash other request op next running =>
      by_cases same : other = caller
      · subst same
        left
        rw [State.without, State.without, modify_onArrival running]
      · refine .inr ⟨.crash other, ?_, trivial⟩
        rw [advance, getElem?_without same, running]
        dsimp only
        rw [State.without, State.without, modify_set_of_ne same]
  | drift change world drifted =>
      refine .inr ⟨.drift change, ?_, trivial⟩
      rw [advance, State.without, drifted]
      rfl

/-- A caller that has left the world alone can be taken out of the run. -/
theorem reaches_without {world : World}
    {state : State Op Reply World Request Result}
    (reaches : machine.Reaches Unrestricted (.initial world) state)
    (idle : ∀ entry ∈ state.log, entry.caller = caller →
      entry.after = entry.before) :
    machine.Reaches Unrestricted (.initial world)
      (state.without machine caller) := by
  induction reaches with
  | refl =>
      have unchanged : (State.initial world).without machine caller =
          State.initial world := by
        simp [State.without, State.initial]
      rw [unchanged]
      exact Relation.ReflTransGen.refl
  | tail _ step ih =>
      have earlier := ih fun entry member =>
        idle entry (log_subset_of_step step member)
      rcases step_without step idle with same | moved
      · exact same ▸ earlier
      · exact earlier.tail moved

end Machine

end PaymentPortal.Interaction
