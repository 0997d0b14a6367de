import PaymentPortal.Interaction.Throwing
import PaymentPortal.Interaction.Traces

/-!
# Phases that the trace determines

A derived discipline says what is permitted in a phase and how the phase goes
on; the phase of a caller is then a function of its trace.  So its guarantees
can be read off the log, without annotating the run: `Guided.of_reaches` gives
them for every reachable state.
-/

namespace PaymentPortal.Interaction

variable {Op : Type} {Reply : Op → Type} {Phase : Type}
variable {World Fate Request Result Drift : Type}

/-- The discipline of what is permitted and how it goes on. -/
def Discipline.derived (permits : Phase → Op → Prop)
    (next : Phase → (op : Op) → Reply op → Phase) :
    Discipline Op Reply Phase :=
  .solitary fun phase op reply after =>
    permits phase op ∧ after = next phase op reply

/-- The phase after a trace, which holds the newest operation first. -/
def phaseAfter (next : Phase → (op : Op) → Reply op → Phase) (start : Phase) :
    List (Entry Op Reply World) → Phase
  | [] => start
  | entry :: older => next (phaseAfter next start older) entry.op entry.reply

/-- The entries of one caller. -/
def ownEntries (caller : Nat) (log : List (Entry Op Reply World)) :
    List (Entry Op Reply World) :=
  log.filter fun entry => entry.caller == caller

/-- The newest entry is one of its caller. -/
theorem ownEntries_cons_self {entry : Entry Op Reply World} {caller : Nat}
    (own : entry.caller = caller) (older : List (Entry Op Reply World)) :
    ownEntries caller (entry :: older) = entry :: ownEntries caller older :=
  List.filter_cons_of_pos (by simpa using own)

/-- It is none of the others. -/
theorem ownEntries_cons_of_ne {entry : Entry Op Reply World} {caller : Nat}
    (other : entry.caller ≠ caller) (older : List (Entry Op Reply World)) :
    ownEntries caller (entry :: older) = ownEntries caller older :=
  List.filter_cons_of_neg (by simpa using other)

/-- The trace of a caller is what the log holds of it. -/
theorem ownEntries_log (state : State Op Reply World Request Result)
    (caller : Nat) : ownEntries caller state.log = state.trace caller :=
  rfl

section Guided

variable (permits : Request → Phase → Op → Prop)
variable (next : Request → Phase → (op : Op) → Reply op → Phase)
variable (start : Phase) (finish : Request → Phase → Result → Prop)

/--
Every logged operation was permitted in the phase of its caller, and what is
left of a live call conforms to the phase that its trace determines.
-/
structure Guided (state : State Op Reply World Request Result) : Prop where
  callers : ∀ entry ∈ state.log, entry.caller < state.calls.length
  live : ∀ (caller : Nat) request program,
    state.calls[caller]? = some ⟨request, some program⟩ →
      program.Conforms (.derived (permits request) (next request))
        (finish request)
        (phaseAfter (next request) start (state.trace caller))
  logged : ∀ entry older, (entry :: older) <:+ state.log →
    ∃ call, state.calls[entry.caller]? = some call ∧
      permits call.request
        (phaseAfter (next call.request) start
          (ownEntries entry.caller older)) entry.op

variable {permits next start finish}
variable {machine : Machine Op Reply World Fate Request Result Drift}
variable {allowed : State Op Reply World Request Result →
  Move Fate Request Drift → Prop}
variable {source target : State Op Reply World Request Result}

/-- What was logged stays so when the calls keep their requests. -/
theorem Guided.logged_of_step (guided : Guided permits next start finish source)
    (step : machine.Step allowed source target)
    {entry : Entry Op Reply World} {older : List (Entry Op Reply World)}
    (suffix : (entry :: older) <:+ source.log) :
    ∃ call, target.calls[entry.caller]? = some call ∧
      permits call.request
        (phaseAfter (next call.request) start
          (ownEntries entry.caller older)) entry.op := by
  obtain ⟨call, present, permitted⟩ := guided.logged entry older suffix
  obtain ⟨later, stays, same⟩ := Machine.exists_call_of_step step present
  exact ⟨later, stays, same ▸ permitted⟩

/-- Every move keeps the callers guided. -/
theorem Guided.step
    (conforms : ∀ request, (machine.program request).Conforms
      (.derived (permits request) (next request)) (finish request) start)
    (guided : Guided permits next start finish source)
    (step : machine.Step allowed source target) :
    Guided permits next start finish target := by
  obtain ⟨move, advanced, allowedMove⟩ := id step
  cases Machine.advances_of_advance advanced with
  | arrive request =>
      refine ⟨fun entry member => ?_, fun caller own program present => ?_,
        fun entry older suffix => guided.logged_of_step step suffix⟩
      · rw [List.length_append]
        exact Nat.lt_add_right _ (guided.callers entry member)
      · by_cases arrived : caller < source.calls.length
        · rw [List.getElem?_append_left arrived] at present
          exact guided.live caller own program present
        · rw [List.getElem?_append_right (Nat.not_lt.mp arrived)] at present
          have isNew := List.mem_singleton.mp (List.mem_of_getElem? present)
          obtain ⟨rfl, isProgram⟩ := Call.mk.inj isNew
          obtain rfl := Option.some.inj isProgram
          have silent : source.trace caller = [] :=
            State.trace_eq_nil guided.callers (Nat.not_lt.mp arrived)
          rw [← ownEntries_log] at silent ⊢
          rw [silent]
          exact conforms own
  | perform caller fate request op rest reply world running executed =>
      have conforming := guided.live caller request _ running
      obtain ⟨after, ⟨permitted, rfl⟩, remaining⟩ := conforming _ rfl reply
      refine ⟨fun entry member => ?_, fun other own program present => ?_,
        fun entry older suffix => ?_⟩
      · rw [List.length_set]
        rcases List.mem_cons.mp member with rfl | old
        · exact (List.getElem?_eq_some_iff.mp running).1
        · exact guided.callers entry old
      · rcases getElem?_set_cases present with ⟨rfl, isNew⟩ | ⟨different, was⟩
        · obtain ⟨rfl, isProgram⟩ := Call.mk.inj isNew
          obtain rfl := Option.some.inj isProgram
          rw [← ownEntries_log, ownEntries_cons_self (by rfl)]
          exact remaining
        · rw [← ownEntries_log, ownEntries_cons_of_ne (Ne.symm different)]
          exact guided.live other own program was
      · rcases List.suffix_cons_iff.mp suffix with same | old
        · obtain ⟨rfl, rfl⟩ := List.cons.inj same
          exact ⟨_, List.getElem?_set_self
            (List.getElem?_eq_some_iff.mp running).1, permitted⟩
        · exact guided.logged_of_step step old
  | crash caller request op rest running =>
      refine ⟨fun entry member => ?_, fun other own program present => ?_,
        fun entry older suffix => guided.logged_of_step step suffix⟩
      · rw [List.length_set]
        exact guided.callers entry member
      · rcases getElem?_set_cases present with ⟨_, isNew⟩ | ⟨_, was⟩
        · exact absurd (Call.mk.inj isNew).2 (by simp)
        · exact guided.live other own program was
  | drift change world drifted =>
      exact ⟨guided.callers, guided.live, guided.logged⟩

/-- The callers of every reachable state are guided. -/
theorem Guided.of_reaches
    (conforms : ∀ request, (machine.program request).Conforms
      (.derived (permits request) (next request)) (finish request) start)
    {world : World} (reaches : machine.Reaches allowed (.initial world) target) :
    Guided permits next start finish target := by
  induction reaches with
  | refl =>
      exact ⟨fun entry member => absurd member (by simp [State.initial]),
        fun caller own program present =>
          absurd present (by simp [State.initial]),
        fun entry older suffix =>
          absurd suffix (by simp [State.initial])⟩
  | tail _ step ih => exact ih.step conforms step

/-- A call that has ended has ended in the phase of its trace. -/
theorem Guided.finished (guided : Guided permits next start finish target)
    {caller : Nat} {call : Call Op Reply Request Result} {value : Result}
    (present : target.calls[caller]? = some call)
    (isResult : call.result? = some value) :
    finish call.request
      (phaseAfter (next call.request) start (target.trace caller)) value := by
  obtain ⟨request, rest⟩ := call
  obtain rfl := Call.rest_of_result? isResult
  exact guided.live caller request _ present _ rfl

end Guided

/-! ## Looking into the log -/

namespace Machine

variable {machine : Machine Op Reply World Fate Request Result Drift}
variable {allowed : State Op Reply World Request Result →
  Move Fate Request Drift → Prop}
variable {target : State Op Reply World Request Result} {world : World}

/-- Every logged operation was executed by the machine. -/
theorem executed_of_reaches
    (reaches : machine.Reaches allowed (.initial world) target) :
    ∀ entry ∈ target.log, ∃ fate,
      machine.exec entry.op fate entry.before =
        some (entry.reply, entry.after) := by
  induction reaches with
  | refl => exact fun entry member => absurd member (by simp [State.initial])
  | @tail source target _ step ih =>
      obtain ⟨move, advanced, _⟩ := step
      cases advances_of_advance advanced with
      | arrive _ | crash _ _ _ _ _ | drift _ _ _ => exact ih
      | perform caller fate request op next reply after running executed =>
          intro entry member
          rcases List.mem_cons.mp member with rfl | old
          · exact ⟨fate, executed⟩
          · exact ih entry old

/-- What was so, and what no drift ends, has been ended by an operation. -/
theorem exists_loss {holds : World → Prop}
    (kept : ∀ change here after, machine.drift change here = some after →
      holds here → holds after)
    (reaches : machine.Reaches allowed (.initial world) target)
    (before : holds world) (now : ¬ holds target.world) :
    ∃ entry older, (entry :: older) <:+ target.log ∧
      holds entry.before ∧ ¬ holds entry.after := by
  induction reaches with
  | refl => exact absurd before now
  | @tail source target _ step ih =>
      obtain ⟨move, advanced, _⟩ := step
      cases advances_of_advance advanced with
      | arrive _ | crash _ _ _ _ _ => exact ih now
      | perform caller fate request op next reply after running executed =>
          by_cases held : holds source.world
          · exact ⟨_, source.log, List.suffix_refl _, held, now⟩
          · obtain ⟨entry, older, suffix, lost⟩ := ih held
            exact ⟨entry, older, suffix.trans (List.suffix_cons _ _), lost⟩
      | drift change after drifted =>
          exact ih fun held => now (kept change _ after drifted held)

end Machine

end PaymentPortal.Interaction
