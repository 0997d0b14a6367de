import Mathlib.Data.List.Nodup
import PaymentPortal.Interaction.Machine

/-!
# Machines in stages

A staged machine answers a request, or admits it to a second machine, on the
advice of a first machine that it may consult before.  Its runs project onto
runs of both: what the second machine guarantees in all of its runs holds of
every request that is admitted (`Machine.exists_projected`).

Every request has a call of the first machine, which stays idle when it is not
consulted.  Calls of the second machine are numbered by their admission.
-/

namespace PaymentPortal.Interaction

variable {OpA OpB : Type} {ReplyA : OpA → Type} {ReplyB : OpB → Type}
variable {WorldA WorldB FateA FateB RequestA RequestB ResultA ResultB : Type}
variable {DriftA DriftB Request Result α β : Type}

/-- The replies of two kinds of operations. -/
abbrev SumReply (ReplyA : OpA → Type) (ReplyB : OpB → Type) : OpA ⊕ OpB → Type
  | .inl op => ReplyA op
  | .inr op => ReplyB op

/-- A program of the first kind. -/
def Program.inFirst (ReplyB : OpB → Type) :
    Program OpA ReplyA α → Program (OpA ⊕ OpB) (SumReply ReplyA ReplyB) α
  | .done value => .done value
  | .perform op next =>
      .perform (.inl op) fun reply => (next reply).inFirst ReplyB

/-- A program of the second kind. -/
def Program.inSecond (ReplyA : OpA → Type) :
    Program OpB ReplyB α → Program (OpA ⊕ OpB) (SumReply ReplyA ReplyB) α
  | .done value => .done value
  | .perform op next =>
      .perform (.inr op) fun reply => (next reply).inSecond ReplyA

/-- What becomes of a request. -/
inductive Verdict (RequestB ResultB Result : Type) where
  | close (result : Result)
  | forward (request : RequestB) (answer : ResultB → Result)

/-- How the verdict on a request is found. -/
inductive Route (ResultA RequestB ResultB Result : Type) where
  | decided (verdict : Verdict RequestB ResultB Result)
  | consult (next : ResultA → Verdict RequestB ResultB Result)

/-- What the stages make of a request. -/
structure Staging
    (RequestA ResultA RequestB ResultB Request Result : Type) where
  front : Request → RequestA
  route : Request → Route ResultA RequestB ResultB Result

variable (first : Machine OpA ReplyA WorldA FateA RequestA ResultA DriftA)
variable (second : Machine OpB ReplyB WorldB FateB RequestB ResultB DriftB)
variable (staging : Staging RequestA ResultA RequestB ResultB Request Result)

/-- What is left of an admitted request. -/
def Program.answering (ReplyA : OpA → Type) (answer : ResultB → Result)
    (program : Program OpB ReplyB ResultB) :
    Program (OpA ⊕ OpB) (SumReply ReplyA ReplyB) Result :=
  (program.inSecond ReplyA).bind fun value => .done (answer value)

/-- What is left of a request on which the verdict is known. -/
def Verdict.program (ReplyA : OpA → Type) :
    Verdict RequestB ResultB Result →
      Program (OpA ⊕ OpB) (SumReply ReplyA ReplyB) Result
  | .close result => .done result
  | .forward request answer => (second.program request).answering ReplyA answer

/-- What is left of a request while the first machine is consulted. -/
def Program.consulting
    (next : ResultA → Verdict RequestB ResultB Result)
    (program : Program OpA ReplyA ResultA) :
    Program (OpA ⊕ OpB) (SumReply ReplyA ReplyB) Result :=
  (program.inFirst ReplyB).bind fun value => (next value).program second ReplyA

/-- The first machine, then the second one. -/
def Machine.staged :
    Machine (OpA ⊕ OpB) (SumReply ReplyA ReplyB) (WorldA × WorldB)
      (FateA ⊕ FateB) Request Result (DriftA ⊕ DriftB) where
  program request :=
    match staging.route request with
    | .decided verdict => verdict.program second ReplyA
    | .consult next =>
        (first.program (staging.front request)).consulting second next
  exec
    | .inl op, .inl fate, worlds =>
        (first.exec op fate worlds.1).map fun result =>
          (result.1, result.2, worlds.2)
    | .inr op, .inr fate, worlds =>
        (second.exec op fate worlds.2).map fun result =>
          (result.1, worlds.1, result.2)
    | _, _, _ => none
  drift
    | .inl change, worlds =>
        (first.drift change worlds.1).map fun world => (world, worlds.2)
    | .inr change, worlds =>
        (second.drift change worlds.2).map fun world => (worlds.1, world)

theorem Program.done_or_perform (program : Program OpA ReplyA α) :
    (∃ value, program = .done value) ∨
      ∃ op next, program = .perform op next := by
  cases program with
  | done value => exact .inl ⟨value, rfl⟩
  | perform op next => exact .inr ⟨op, next, rfl⟩

/-! ## Projections -/

/-- A state of the staged machine. -/
abbrev StagedState (ReplyA : OpA → Type) (ReplyB : OpB → Type)
    (WorldA WorldB Request Result : Type) :=
  State (OpA ⊕ OpB) (SumReply ReplyA ReplyB) (WorldA × WorldB) Request Result

/-- The entry as one of the first machine. -/
def firstView? :
    Entry (OpA ⊕ OpB) (SumReply ReplyA ReplyB) (WorldA × WorldB) →
      Option (Entry OpA ReplyA WorldA)
  | ⟨caller, .inl op, reply, before, after⟩ =>
      some ⟨caller, op, reply, before.1, after.1⟩
  | ⟨_, .inr _, _, _, _⟩ => none

/-- The entry as one of the second machine. -/
def secondView? (admitted : List Nat) :
    Entry (OpA ⊕ OpB) (SumReply ReplyA ReplyB) (WorldA × WorldB) →
      Option (Entry OpB ReplyB WorldB)
  | ⟨_, .inl _, _, _, _⟩ => none
  | ⟨caller, .inr op, reply, before, after⟩ =>
      some ⟨admitted.idxOf caller, op, reply, before.2, after.2⟩

/-- The call of the second machine that serves a caller. -/
def servedCall (admitted : List Nat)
    (calls : List (Call OpB ReplyB RequestB ResultB)) (caller : Nat) :
    Option (Call OpB ReplyB RequestB ResultB) :=
  if caller ∈ admitted then calls[admitted.idxOf caller]? else none

/-- The verdict has been found. -/
inductive Decides (route : Route ResultA RequestB ResultB Result)
    (consulted : Option (Program OpA ReplyA ResultA))
    (verdict : Verdict RequestB ResultB Result) : Prop where
  | atOnce (isRoute : route = .decided verdict)
  | advised (next : ResultA → Verdict RequestB ResultB Result)
      (value : ResultA) (isRoute : route = .consult next)
      (isDone : consulted = some (.done value)) (isVerdict : next value = verdict)

/-- How far a request has come, with its calls of the two machines. -/
inductive Stands (route : Route ResultA RequestB ResultB Result) :
    Option (Program OpA ReplyA ResultA) →
      Option (Call OpB ReplyB RequestB ResultB) →
      Option (Program (OpA ⊕ OpB) (SumReply ReplyA ReplyB) Result) →
        Prop where
  | consulting (next : ResultA → Verdict RequestB ResultB Result) (op : OpA)
      (rest : ReplyA op → Program OpA ReplyA ResultA)
      (isRoute : route = .consult next) :
      Stands route (some (.perform op rest)) none
        (some ((Program.perform op rest).consulting second next))
  | stopped : Stands route none none none
  | closed (consulted : Option (Program OpA ReplyA ResultA)) (result : Result)
      (decides : Decides route consulted (.close result)) :
      Stands route consulted none (some (.done result))
  | admitted (consulted : Option (Program OpA ReplyA ResultA))
      (request : RequestB) (answer : ResultB → Result)
      (rest : Option (Program OpB ReplyB ResultB))
      (decides : Decides route consulted (.forward request answer)) :
      Stands route consulted (some ⟨request, rest⟩)
        (rest.map (Program.answering ReplyA answer))

/-- The two projections of a state, except for one caller. -/
structure ProjectedBut (skipped : Nat → Prop)
    (state : StagedState ReplyA ReplyB WorldA WorldB Request Result)
    (admitted : List Nat) (one : State OpA ReplyA WorldA RequestA ResultA)
    (two : State OpB ReplyB WorldB RequestB ResultB) : Prop where
  world : state.world = (one.world, two.world)
  firstLog : one.log = state.log.filterMap firstView?
  secondLog : two.log = state.log.filterMap (secondView? admitted)
  firstLength : one.calls.length = state.calls.length
  secondLength : two.calls.length = admitted.length
  distinct : admitted.Nodup
  within : ∀ caller ∈ admitted, caller < state.calls.length
  served : ∀ entry ∈ state.log, entry.op.isRight → entry.caller ∈ admitted
  stands : ∀ caller call, ¬ skipped caller →
    state.calls[caller]? = some call →
      ∃ consulted, one.calls[caller]? =
        some ⟨staging.front call.request, consulted⟩ ∧
          Stands second (staging.route call.request) consulted
            (servedCall admitted two.calls caller) call.rest

/-- The two projections of a state. -/
abbrev Projected
    (state : StagedState ReplyA ReplyB WorldA WorldB Request Result)
    (admitted : List Nat) (one : State OpA ReplyA WorldA RequestA ResultA)
    (two : State OpB ReplyB WorldB RequestB ResultB) : Prop :=
  ProjectedBut second staging (fun _ => False) state admitted one two

/-! ## Calls that serve -/

section Served

variable {admitted : List Nat} {caller other : Nat}
variable {calls : List (Call OpB ReplyB RequestB ResultB)}
variable {new : Call OpB ReplyB RequestB ResultB}

theorem servedCall_of_absent (absent : caller ∉ admitted) :
    servedCall admitted calls caller = none :=
  if_neg absent

theorem mem_of_servedCall {call : Call OpB ReplyB RequestB ResultB}
    (isServed : servedCall admitted calls caller = some call) :
    caller ∈ admitted ∧ calls[admitted.idxOf caller]? = some call := by
  rw [servedCall] at isServed
  split at isServed
  · next member => exact ⟨member, isServed⟩
  · exact absurd isServed (by simp)

/-- The caller that is admitted is served by the new call. -/
theorem servedCall_append_self (absent : caller ∉ admitted)
    (length_eq : calls.length = admitted.length) :
    servedCall (admitted ++ [caller]) (calls ++ [new]) caller = some new := by
  rw [servedCall, if_pos (by simp), List.idxOf_append, if_neg absent,
    List.idxOf_cons_self, Nat.zero_add, ← length_eq]
  simp

/-- The others are served by the calls they had. -/
theorem servedCall_append_of_ne (different : other ≠ caller)
    (length_eq : calls.length = admitted.length) :
    servedCall (admitted ++ [caller]) (calls ++ [new]) other =
      servedCall admitted calls other := by
  by_cases member : other ∈ admitted
  · rw [servedCall, servedCall, if_pos (List.mem_append_left _ member),
      if_pos member, List.idxOf_append, if_pos member,
      List.getElem?_append_left]
    rw [length_eq]
    exact List.idxOf_lt_length_of_mem member
  · have absent : other ∉ admitted ++ [caller] := by
      simp [member, different]
    rw [servedCall_of_absent member, servedCall_of_absent absent]

theorem servedCall_set_self (member : caller ∈ admitted)
    (length_eq : calls.length = admitted.length) :
    servedCall admitted (calls.set (admitted.idxOf caller) new) caller =
      some new := by
  rw [servedCall, if_pos member, List.getElem?_set_self]
  rw [length_eq]
  exact List.idxOf_lt_length_of_mem member

theorem servedCall_set_of_ne (different : other ≠ caller) :
    servedCall admitted (calls.set (admitted.idxOf caller) new) other =
      servedCall admitted calls other := by
  by_cases isServed : other ∈ admitted
  · rw [servedCall, servedCall, if_pos isServed, if_pos isServed,
      List.getElem?_set_ne]
    exact fun same => different ((List.idxOf_inj isServed).mp same.symm)
  · rw [servedCall_of_absent isServed, servedCall_of_absent isServed]

end Served

/-! ## Moves -/

section Moves

variable {first second staging}
variable {source target state :
  StagedState ReplyA ReplyB WorldA WorldB Request Result}
variable {admitted : List Nat} {one : State OpA ReplyA WorldA RequestA ResultA}
variable {two : State OpB ReplyB WorldB RequestB ResultB}
variable {caller : Nat} {skipped : Nat → Prop}

/-- Later admissions do not renumber those that have been served. -/
theorem filterMap_secondView?_append
    {log : List
      (Entry (OpA ⊕ OpB) (SumReply ReplyA ReplyB) (WorldA × WorldB))}
    (served : ∀ entry ∈ log, entry.op.isRight → entry.caller ∈ admitted)
    (more : List Nat) :
    log.filterMap (secondView? (admitted ++ more)) =
      log.filterMap (secondView? admitted) := by
  refine List.filterMap_congr fun entry member => ?_
  obtain ⟨caller, op | op, reply, before, after⟩ := entry
  · rfl
  · have isServed := served _ member rfl
    rw [secondView?, secondView?, List.idxOf_append, if_pos isServed]

/-- The caller that was left out stands where it should. -/
theorem ProjectedBut.settle
    (projected : ProjectedBut second staging (· = caller) state admitted one
      two)
    {call : Call (OpA ⊕ OpB) (SumReply ReplyA ReplyB) Request Result}
    (present : state.calls[caller]? = some call)
    {consulted : Option (Program OpA ReplyA ResultA)}
    (consults : one.calls[caller]? =
      some ⟨staging.front call.request, consulted⟩)
    (stands : Stands second (staging.route call.request) consulted
      (servedCall admitted two.calls caller) call.rest) :
    Projected second staging state admitted one two :=
  { projected with
    stands := by
      intro other found _ isFound
      by_cases same : other = caller
      · subst same
        obtain rfl := Option.some.inj (isFound.symm.trans present)
        exact ⟨consulted, consults, stands⟩
      · exact projected.stands other found same isFound }

/-- Once the verdict is known, it is carried out. -/
theorem ProjectedBut.carryOut
    (projected : ProjectedBut second staging (· = caller) state admitted one
      two)
    {call : Call (OpA ⊕ OpB) (SumReply ReplyA ReplyB) Request Result}
    (present : state.calls[caller]? = some call) (idle : caller ∉ admitted)
    {consulted : Option (Program OpA ReplyA ResultA)}
    (consults : one.calls[caller]? =
      some ⟨staging.front call.request, consulted⟩)
    {verdict : Verdict RequestB ResultB Result}
    (decides : Decides (staging.route call.request) consulted verdict)
    (isRest : call.rest = some (verdict.program second ReplyA)) :
    ∃ further last, second.Reaches Machine.Unrestricted two last ∧
      Projected second staging state further one last := by
  cases verdict with
  | close result =>
      refine ⟨admitted, two, .refl, projected.settle present consults ?_⟩
      rw [servedCall_of_absent idle, isRest]
      exact .closed consulted result decides
  | forward request answer =>
      refine ⟨admitted ++ [caller], { two with
        calls := two.calls ++ [⟨request, some (second.program request)⟩] },
        .single ⟨.arrive request, rfl, trivial⟩, ?_⟩
      exact {
        world := projected.world
        firstLog := projected.firstLog
        secondLog := projected.secondLog.trans
          (filterMap_secondView?_append projected.served _).symm
        firstLength := projected.firstLength
        secondLength := by simp [projected.secondLength]
        distinct := List.nodup_append.mpr ⟨projected.distinct,
          List.nodup_singleton _, fun old isOld new isNew same =>
            idle (List.mem_singleton.mp isNew ▸ same ▸ isOld)⟩
        within := by
          intro other member
          rcases List.mem_append.mp member with old | new
          · exact projected.within other old
          · obtain rfl := List.mem_singleton.mp new
            exact (List.getElem?_eq_some_iff.mp present).1
        served := fun entry member isSecond =>
          List.mem_append_left _ (projected.served entry member isSecond)
        stands := by
          intro other found _ isFound
          by_cases same : other = caller
          · subst same
            obtain rfl := Option.some.inj (isFound.symm.trans present)
            refine ⟨consulted, consults, ?_⟩
            rw [servedCall_append_self idle projected.secondLength, isRest]
            exact .admitted consulted request answer _ decides
          · obtain ⟨rest, isFirst, stands⟩ :=
              projected.stands other found same isFound
            refine ⟨rest, isFirst, ?_⟩
            rw [servedCall_append_of_ne same projected.secondLength]
            exact stands }

/-- The first machine is consulted further, or its verdict is carried out. -/
theorem ProjectedBut.consult
    (projected : ProjectedBut second staging (· = caller) state admitted one
      two)
    {call : Call (OpA ⊕ OpB) (SumReply ReplyA ReplyB) Request Result}
    (present : state.calls[caller]? = some call) (idle : caller ∉ admitted)
    {consulted : Program OpA ReplyA ResultA}
    (consults : one.calls[caller]? =
      some ⟨staging.front call.request, some consulted⟩)
    {next : ResultA → Verdict RequestB ResultB Result}
    (isRoute : staging.route call.request = .consult next)
    (isRest : call.rest = some (consulted.consulting second next)) :
    ∃ further last, second.Reaches Machine.Unrestricted two last ∧
      Projected second staging state further one last := by
  obtain ⟨value, rfl⟩ | ⟨op, rest, rfl⟩ := consulted.done_or_perform
  · exact projected.carryOut present idle consults
      (.advised next value isRoute rfl rfl) isRest
  · refine ⟨admitted, two, .refl, projected.settle present consults ?_⟩
    rw [servedCall_of_absent idle, isRest]
    exact .consulting next op rest isRoute

variable (first) in
/-- A request arrives, and with it a call of the first machine. -/
theorem ProjectedBut.arrive
    (projected : Projected second staging state admitted one two)
    (request : Request) :
    ∃ further last, second.Reaches Machine.Unrestricted two last ∧
      Projected second staging
        { state with calls := state.calls ++
          [⟨request, some ((first.staged second staging).program request)⟩] }
        further
        { one with calls := one.calls ++
          [⟨staging.front request,
            some (first.program (staging.front request))⟩] }
        last := by
  have idle : state.calls.length ∉ admitted := fun member =>
    Nat.lt_irrefl _ (projected.within _ member)
  have stays : ∀ other call, other ≠ state.calls.length →
      (state.calls ++ [⟨request, some
        ((first.staged second staging).program request)⟩])[other]? =
          some call →
      ∃ consulted, (one.calls ++ [⟨staging.front request,
          some (first.program (staging.front request))⟩])[other]? =
        some ⟨staging.front call.request, consulted⟩ ∧
          Stands second (staging.route call.request) consulted
            (servedCall admitted two.calls other) call.rest := by
    intro other call different isFound
    have inCalls : other < state.calls.length := by
      have isIndex := (List.getElem?_eq_some_iff.mp isFound).1
      rw [List.length_append, List.length_singleton] at isIndex
      omega
    rw [List.getElem?_append_left inCalls] at isFound
    obtain ⟨consulted, isFirst, stands⟩ :=
      projected.stands other call id isFound
    refine ⟨consulted, ?_, stands⟩
    rw [List.getElem?_append_left (projected.firstLength ▸ inCalls), isFirst]
  have arrived : ProjectedBut second staging (· = state.calls.length)
      { state with calls := state.calls ++
        [⟨request, some ((first.staged second staging).program request)⟩] }
      admitted
      { one with calls := one.calls ++
        [⟨staging.front request,
          some (first.program (staging.front request))⟩] } two := {
    world := projected.world
    firstLog := projected.firstLog
    secondLog := projected.secondLog
    firstLength := by simp [projected.firstLength]
    secondLength := projected.secondLength
    distinct := projected.distinct
    within := fun other member => by
      rw [List.length_append]
      exact Nat.lt_add_right _ (projected.within other member)
    served := projected.served
    stands := fun other call different isFound =>
      stays other call different isFound }
  have isOwn : (state.calls ++ [⟨request, some
      ((first.staged second staging).program request)⟩])[state.calls.length]? =
        some ⟨request, some
          ((first.staged second staging).program request)⟩ :=
    List.getElem?_concat_length
  have isFirst : (one.calls ++ [⟨staging.front request,
      some (first.program (staging.front request))⟩])[state.calls.length]? =
        some ⟨staging.front request,
          some (first.program (staging.front request))⟩ := by
    rw [← projected.firstLength]
    exact List.getElem?_concat_length
  cases isRoute : staging.route request with
  | decided verdict =>
      refine arrived.carryOut isOwn idle isFirst (.atOnce isRoute) ?_
      rw [Machine.staged]
      simp only [isRoute]
  | consult next =>
      refine arrived.consult isOwn idle isFirst isRoute ?_
      rw [Machine.staged]
      simp only [isRoute]

/-- A caller that performs an operation of the first kind consults it. -/
theorem Stands.of_perform_inl
    {route : Route ResultA RequestB ResultB Result}
    {consulted : Option (Program OpA ReplyA ResultA)}
    {served : Option (Call OpB ReplyB RequestB ResultB)}
    {rest : Option (Program (OpA ⊕ OpB) (SumReply ReplyA ReplyB) Result)}
    (stands : Stands second route consulted served rest) {op : OpA}
    {next : ReplyA op → Program (OpA ⊕ OpB) (SumReply ReplyA ReplyB) Result}
    (running : rest = some (.perform (.inl op) next)) :
    ∃ verdict restA, route = .consult verdict ∧
      consulted = some (.perform op restA) ∧ served = none ∧
      next = fun reply => (restA reply).consulting second verdict := by
  cases stands with
  | consulting verdict other restA isRoute =>
      cases running
      exact ⟨verdict, restA, isRoute, rfl, rfl, rfl⟩
  | stopped => cases running
  | closed consulted result decides => cases running
  | admitted consulted request answer restB decides =>
      rcases restB with _ | _ | _ <;> cases running

/-- A caller that performs one of the second kind has been admitted. -/
theorem Stands.of_perform_inr
    {route : Route ResultA RequestB ResultB Result}
    {consulted : Option (Program OpA ReplyA ResultA)}
    {served : Option (Call OpB ReplyB RequestB ResultB)}
    {rest : Option (Program (OpA ⊕ OpB) (SumReply ReplyA ReplyB) Result)}
    (stands : Stands second route consulted served rest) {op : OpB}
    {next : ReplyB op → Program (OpA ⊕ OpB) (SumReply ReplyA ReplyB) Result}
    (running : rest = some (.perform (.inr op) next)) :
    ∃ request answer restB, Decides route consulted (.forward request answer) ∧
      served = some ⟨request, some (.perform op restB)⟩ ∧
      next = fun reply => (restB reply).answering ReplyA answer := by
  cases stands with
  | consulting verdict other restA isRoute => cases running
  | stopped => cases running
  | closed consulted result decides => cases running
  | admitted consulted request answer restB decides =>
      rcases restB with _ | _ | ⟨other, restB⟩ <;> cases running
      exact ⟨request, answer, restB, decides, rfl, rfl⟩

/-- An operation of the first kind is performed by both. -/
theorem ProjectedBut.performFirst
    (projected : Projected second staging state admitted one two)
    {request : Request} {op : OpA}
    {next : ReplyA op → Program (OpA ⊕ OpB) (SumReply ReplyA ReplyB) Result}
    (running : state.calls[caller]? =
      some ⟨request, some (.perform (.inl op) next)⟩)
    {fate : FateA} {reply : ReplyA op} {world : WorldA}
    (executed : first.exec op fate one.world = some (reply, world)) :
    ∃ further moved last, first.Step Machine.Unrestricted one moved ∧
      second.Reaches Machine.Unrestricted two last ∧
      Projected second staging {
        world := (world, two.world)
        calls := state.calls.set caller ⟨request, some (next reply)⟩
        log := ⟨caller, .inl op, reply, state.world, (world, two.world)⟩ ::
          state.log } further moved last := by
  obtain ⟨consulted, consults, stands⟩ :=
    projected.stands caller _ id running
  obtain ⟨verdict, restA, isRoute, rfl, unserved, rfl⟩ :=
    stands.of_perform_inl rfl
  have isIndex : caller < state.calls.length :=
    (List.getElem?_eq_some_iff.mp running).1
  have idle : caller ∉ admitted := by
    intro member
    rw [servedCall, if_pos member, List.getElem?_eq_none_iff,
      projected.secondLength] at unserved
    exact absurd (List.idxOf_lt_length_of_mem member) (Nat.not_lt.mpr unserved)
  have moved : ProjectedBut second staging (· = caller) {
      world := (world, two.world)
      calls := state.calls.set caller
        ⟨request, some ((restA reply).consulting second verdict)⟩
      log := ⟨caller, .inl op, reply, state.world, (world, two.world)⟩ ::
        state.log } admitted {
      world := world
      calls := one.calls.set caller
        ⟨staging.front request, some (restA reply)⟩
      log := ⟨caller, op, reply, one.world, world⟩ :: one.log } two := {
    world := rfl
    firstLog := by
      rw [List.filterMap_cons, firstView?, projected.firstLog,
        projected.world]
    secondLog := projected.secondLog
    firstLength := by simp [projected.firstLength]
    secondLength := projected.secondLength
    distinct := projected.distinct
    within := fun other member => by
      rw [List.length_set]
      exact projected.within other member
    served := by
      intro entry member isSecond
      rcases List.mem_cons.mp member with rfl | older
      · exact absurd isSecond (by simp)
      · exact projected.served entry older isSecond
    stands := by
      intro other call different isFound
      rw [List.getElem?_set_ne (Ne.symm different)] at isFound ⊢
      exact projected.stands other call id isFound }
  have isOwn : (state.calls.set caller
      ⟨request, some ((restA reply).consulting second verdict)⟩)[caller]? =
        some ⟨request, some ((restA reply).consulting second verdict)⟩ :=
    List.getElem?_set_self isIndex
  have isFirst : (one.calls.set caller
      ⟨staging.front request, some (restA reply)⟩)[caller]? =
        some ⟨staging.front request, some (restA reply)⟩ :=
    List.getElem?_set_self (projected.firstLength ▸ isIndex)
  have stepped : first.Step Machine.Unrestricted one {
      world := world
      calls := one.calls.set caller
        ⟨staging.front request, some (restA reply)⟩
      log := ⟨caller, op, reply, one.world, world⟩ :: one.log } := by
    refine ⟨.step caller fate, ?_, trivial⟩
    simp only [Machine.advance, consults, executed]
  obtain ⟨further, last, reached, carried⟩ :=
    moved.consult isOwn idle isFirst isRoute rfl
  exact ⟨further, _, last, stepped, reached, carried⟩

/-- An operation of the second kind is performed by the call that serves. -/
theorem ProjectedBut.performSecond
    (projected : Projected second staging state admitted one two)
    {request : Request} {op : OpB}
    {next : ReplyB op → Program (OpA ⊕ OpB) (SumReply ReplyA ReplyB) Result}
    (running : state.calls[caller]? =
      some ⟨request, some (.perform (.inr op) next)⟩)
    {fate : FateB} {reply : ReplyB op} {world : WorldB}
    (executed : second.exec op fate two.world = some (reply, world)) :
    ∃ last, second.Step Machine.Unrestricted two last ∧
      Projected second staging {
        world := (one.world, world)
        calls := state.calls.set caller ⟨request, some (next reply)⟩
        log := ⟨caller, .inr op, reply, state.world, (one.world, world)⟩ ::
          state.log } admitted one last := by
  obtain ⟨consulted, consults, stands⟩ :=
    projected.stands caller _ id running
  obtain ⟨inner, answer, restB, decides, isServed, rfl⟩ :=
    stands.of_perform_inr rfl
  obtain ⟨member, isServed⟩ := mem_of_servedCall isServed
  refine ⟨{
    world := world
    calls := two.calls.set (admitted.idxOf caller)
      ⟨inner, some (restB reply)⟩
    log := ⟨admitted.idxOf caller, op, reply, two.world, world⟩ :: two.log },
    ⟨.step (admitted.idxOf caller) fate, ?_, trivial⟩, {
    world := rfl
    firstLog := projected.firstLog
    secondLog := by
      rw [List.filterMap_cons, secondView?, projected.secondLog,
        projected.world]
    firstLength := by simp [projected.firstLength]
    secondLength := by simp [projected.secondLength]
    distinct := projected.distinct
    within := fun other isAdmitted => by
      rw [List.length_set]
      exact projected.within other isAdmitted
    served := by
      intro entry isEntry isSecond
      rcases List.mem_cons.mp isEntry with rfl | older
      · exact member
      · exact projected.served entry older isSecond
    stands := ?_ }⟩
  · simp only [Machine.advance, isServed, executed]
  · intro other call _ isFound
    rcases eq_or_ne other caller with rfl | different
    · rw [List.getElem?_set_self
        (List.getElem?_eq_some_iff.mp running).1] at isFound
      obtain rfl := Option.some.inj isFound
      refine ⟨consulted, consults, ?_⟩
      rw [servedCall_set_self member projected.secondLength]
      exact .admitted consulted inner answer _ decides
    · rw [List.getElem?_set_ne (Ne.symm different)] at isFound
      rw [servedCall_set_of_ne different]
      exact projected.stands other call id isFound

variable (first) in
/-- A caller that stops stops the call of the machine that it is in. -/
theorem ProjectedBut.crash
    (projected : Projected second staging state admitted one two)
    {request : Request} {op : OpA ⊕ OpB}
    {next : SumReply ReplyA ReplyB op →
      Program (OpA ⊕ OpB) (SumReply ReplyA ReplyB) Result}
    (running : state.calls[caller]? = some ⟨request, some (.perform op next)⟩) :
    ∃ moved last, first.Reaches Machine.Unrestricted one moved ∧
      second.Reaches Machine.Unrestricted two last ∧
      Projected second staging
        { state with calls := state.calls.set caller ⟨request, none⟩ }
        admitted moved last := by
  obtain ⟨consulted, consults, stands⟩ :=
    projected.stands caller _ id running
  have isIndex : caller < state.calls.length :=
    (List.getElem?_eq_some_iff.mp running).1
  cases op with
  | inl op =>
      obtain ⟨verdict, restA, isRoute, rfl, unserved, rfl⟩ :=
        stands.of_perform_inl rfl
      refine ⟨{ one with
          calls := one.calls.set caller ⟨staging.front request, none⟩ }, two,
        .single ⟨.crash caller, ?_, trivial⟩, .refl, { projected with
        firstLength := by simp [projected.firstLength]
        within := fun other member => by
          rw [List.length_set]
          exact projected.within other member
        stands := ?_ }⟩
      · simp only [Machine.advance, consults]
      · intro other call _ isFound
        rcases eq_or_ne other caller with rfl | different
        · rw [List.getElem?_set_self isIndex] at isFound
          obtain rfl := Option.some.inj isFound
          refine ⟨none, List.getElem?_set_self
            (projected.firstLength ▸ isIndex), ?_⟩
          rw [unserved]
          exact .stopped
        · rw [List.getElem?_set_ne (Ne.symm different)] at isFound ⊢
          exact projected.stands other call id isFound
  | inr op =>
      obtain ⟨inner, answer, restB, decides, isServed, rfl⟩ :=
        stands.of_perform_inr rfl
      obtain ⟨member, isServed⟩ := mem_of_servedCall isServed
      refine ⟨one, { two with
          calls := two.calls.set (admitted.idxOf caller) ⟨inner, none⟩ }, .refl,
        .single ⟨.crash (admitted.idxOf caller), ?_, trivial⟩, { projected with
        firstLength := by simp [projected.firstLength]
        secondLength := by simp [projected.secondLength]
        within := fun other isAdmitted => by
          rw [List.length_set]
          exact projected.within other isAdmitted
        stands := ?_ }⟩
      · simp only [Machine.advance, isServed]
      · intro other call _ isFound
        rcases eq_or_ne other caller with rfl | different
        · rw [List.getElem?_set_self isIndex] at isFound
          obtain rfl := Option.some.inj isFound
          refine ⟨consulted, consults, ?_⟩
          rw [servedCall_set_self member projected.secondLength]
          exact .admitted consulted inner answer none decides
        · rw [List.getElem?_set_ne (Ne.symm different)] at isFound
          rw [servedCall_set_of_ne different]
          exact projected.stands other call id isFound

end Moves

/-! ## Runs -/

section Runs

variable {first second staging}
variable {source target :
  StagedState ReplyA ReplyB WorldA WorldB Request Result}
variable {worldA : WorldA} {worldB : WorldB}
variable {allowed :
  StagedState ReplyA ReplyB WorldA WorldB Request Result →
    Move (FateA ⊕ FateB) Request (DriftA ⊕ DriftB) → Prop}

/-- Every move of the staged machine is made of moves of both. -/
theorem Projected.step {admitted : List Nat}
    {one : State OpA ReplyA WorldA RequestA ResultA}
    {two : State OpB ReplyB WorldB RequestB ResultB}
    (projected : Projected second staging source admitted one two)
    (step : (first.staged second staging).Step allowed source target) :
    ∃ further moved last, first.Reaches Machine.Unrestricted one moved ∧
      second.Reaches Machine.Unrestricted two last ∧
      Projected second staging target further moved last := by
  obtain ⟨move, advanced, _⟩ := step
  have worlds := projected.world
  cases Machine.advances_of_advance advanced with
  | arrive request =>
      obtain ⟨further, last, reached, arrived⟩ :=
        ProjectedBut.arrive first projected request
      exact ⟨further, _, last, .single ⟨.arrive _, rfl, trivial⟩, reached,
        arrived⟩
  | perform caller fate request op next reply world running executed =>
      rcases op with op | op <;> rcases fate with fate | fate <;>
        simp only [Machine.staged, reduceCtorEq] at executed
      · obtain ⟨⟨reply, after⟩, ran, same⟩ := Option.map_eq_some_iff.mp executed
        obtain ⟨rfl, rfl⟩ := Prod.mk.inj same
        rw [worlds] at ran
        obtain ⟨further, moved, last, stepped, reached, performed⟩ :=
          projected.performFirst running ran
        refine ⟨further, moved, last, .single stepped, reached, ?_⟩
        rw [worlds] at performed ⊢
        exact performed
      · obtain ⟨⟨reply, after⟩, ran, same⟩ := Option.map_eq_some_iff.mp executed
        obtain ⟨rfl, rfl⟩ := Prod.mk.inj same
        rw [worlds] at ran
        obtain ⟨last, stepped, performed⟩ :=
          projected.performSecond running ran
        refine ⟨admitted, one, last, .refl, .single stepped, ?_⟩
        rw [worlds] at performed ⊢
        exact performed
  | crash caller request op next running =>
      obtain ⟨moved, last, stepped, reached, stopped⟩ :=
        ProjectedBut.crash first projected running
      exact ⟨admitted, moved, last, stepped, reached, stopped⟩
  | drift change world drifted =>
      rcases change with change | change
      · obtain ⟨after, ran, rfl⟩ := Option.map_eq_some_iff.mp drifted
        rw [worlds] at ran
        refine ⟨admitted, { one with world := after }, two,
          .single ⟨.drift change, ?_, trivial⟩, .refl,
          { projected with world := by rw [worlds] }⟩
        simp [Machine.advance, ran]
      · obtain ⟨after, ran, rfl⟩ := Option.map_eq_some_iff.mp drifted
        rw [worlds] at ran
        refine ⟨admitted, one, { two with world := after }, .refl,
          .single ⟨.drift change, ?_, trivial⟩,
          { projected with world := by rw [worlds] }⟩
        simp [Machine.advance, ran]

/--
Every run of a staged machine is made of a run of the first machine and a run
of the second one, in which the admitted requests arrive as they are admitted.
-/
theorem Machine.exists_projected
    (reaches : (first.staged second staging).Reaches allowed
      (.initial (worldA, worldB)) target) :
    ∃ admitted one two,
      first.Reaches Machine.Unrestricted (.initial worldA) one ∧
      second.Reaches Machine.Unrestricted (.initial worldB) two ∧
      Projected second staging target admitted one two := by
  induction reaches with
  | refl =>
      exact ⟨[], .initial worldA, .initial worldB, .refl, .refl, {
        world := rfl
        firstLog := rfl
        secondLog := rfl
        firstLength := rfl
        secondLength := rfl
        distinct := List.nodup_nil
        within := nofun
        served := nofun
        stands := nofun }⟩
  | tail _ step ih =>
      obtain ⟨admitted, one, two, reachedOne, reachedTwo, projected⟩ := ih
      obtain ⟨further, moved, last, movedOne, movedTwo, next⟩ :=
        projected.step step
      exact ⟨further, moved, last, reachedOne.trans movedOne,
        reachedTwo.trans movedTwo, next⟩

/-! ## Looking at a request -/

variable {admitted : List Nat} {one : State OpA ReplyA WorldA RequestA ResultA}
variable {two : State OpB ReplyB WorldB RequestB ResultB} {caller : Nat}

/-- A request that has been answered was answered by the call that serves. -/
theorem Program.answering_eq_done {answer : ResultB → Result} {result : Result}
    {rest : Option (Program OpB ReplyB ResultB)}
    (isDone : rest.map (Program.answering ReplyA answer) =
      some (.done result)) :
    ∃ value, rest = some (.done value) ∧ result = answer value := by
  rcases rest with _ | value | ⟨op, next⟩ <;> cases isDone
  exact ⟨value, rfl, rfl⟩

/-- An admitted request has a call of the second machine. -/
theorem Projected.exists_served
    (projected : Projected second staging target admitted one two)
    (member : caller ∈ admitted) :
    ∃ call own consulted answer, target.calls[caller]? = some call ∧
      two.calls[admitted.idxOf caller]? = some own ∧
      one.calls[caller]? = some ⟨staging.front call.request, consulted⟩ ∧
      Decides (staging.route call.request) consulted
        (.forward own.request answer) ∧
      ∀ result, call.result? = some result →
        ∃ value, own.result? = some value ∧ result = answer value := by
  obtain ⟨own, isOwn⟩ : ∃ own, two.calls[admitted.idxOf caller]? = some own :=
    ⟨_, List.getElem?_eq_getElem (projected.secondLength ▸
      List.idxOf_lt_length_of_mem member)⟩
  have within := projected.within caller member
  have present := List.getElem?_eq_getElem within
  obtain ⟨consulted, consults, stands⟩ :=
    projected.stands caller _ id present
  rw [servedCall, if_pos member, isOwn] at stands
  generalize target.calls[caller] = call at present consults stands
  obtain ⟨request, rest⟩ := call
  cases stands with
  | admitted _ inner answer left decides =>
      refine ⟨_, _, consulted, answer, present, isOwn, consults, decides,
        fun result isResult => ?_⟩
      obtain ⟨value, rfl, isAnswer⟩ :=
        Program.answering_eq_done (Call.rest_of_result? isResult)
      exact ⟨value, rfl, isAnswer⟩

/-- What the others have been answered was decided before. -/
theorem Projected.closed
    (projected : Projected second staging target admitted one two)
    (absent : caller ∉ admitted)
    {call : Call (OpA ⊕ OpB) (SumReply ReplyA ReplyB) Request Result}
    (present : target.calls[caller]? = some call) {result : Result}
    (isResult : call.result? = some result) :
    ∃ consulted, one.calls[caller]? =
      some ⟨staging.front call.request, consulted⟩ ∧
      Decides (staging.route call.request) consulted (.close result) := by
  obtain ⟨consulted, consults, stands⟩ :=
    projected.stands caller call id present
  rw [servedCall_of_absent absent, Call.rest_of_result? isResult] at stands
  cases stands with
  | closed _ _ decides => exact ⟨consulted, consults, decides⟩

end Runs

end PaymentPortal.Interaction
