import PaymentPortal.Interaction.OnceCell
import PaymentPortal.Model.ConnectionPool

/-!
# One connection pool for a process

However calls and jobs are interleaved, and however often the credentials cannot
be loaded, the process fills one cell: at most one pool is made, whoever gets a
pool gets that one, and a failure leaves the cell empty for the next call.
-/

namespace PaymentPortal.Guarantees

open PaymentPortal.Interaction
open PaymentPortal.Model
open PaymentPortal.Model.KnexProcess

variable {Failure : Type}

/-! ## The invariant -/

/-- What the stage of an initialisation says about the two variables. -/
def StageHolds (knexInstance : Option KnexInstance)
    (knexInitPromise : Option Nat) (number : Nat) :
    Initialisation Failure → Prop
  | .loading | .loaded _ =>
    knexInstance = none ∧ knexInitPromise = some number
  | .failing _ => knexInitPromise = some number
  | .opened knex | .fulfilled knex => knexInstance = some knex
  | .rejected _ => knexInitPromise ≠ some number

/-- What the promise of a call is. -/
def PromiseHolds (knexInstance : Option KnexInstance) (started : Nat) :
    KnexPromise → Prop
  | .resolved knex => knexInstance = some knex
  | .initialisation number => number < started

theorem PromiseHolds.mono {before after : Option KnexInstance}
    {started later : Nat} {promise : KnexPromise}
    (holds : PromiseHolds before started promise)
    (kept : ∀ knex, before = some knex → after = some knex)
    (grown : started ≤ later) : PromiseHolds after later promise := by
  cases promise with
  | resolved knex => exact kept knex holds
  | initialisation number => exact Nat.lt_of_lt_of_le holds grown

/-- The invariant of a process. -/
structure PoolCoherent (process : KnexProcess Failure) : Prop where
  instances : process.instances = process.knexInstance.toList
  promised : ∀ number, process.knexInitPromise = some number →
    number < process.initialisations.length
  stages : ∀ number stage, process.initialisations[number]? = some stage →
    StageHolds process.knexInstance process.knexInitPromise number stage
  promises : ∀ call ∈ process.calls,
    PromiseHolds process.knexInstance process.initialisations.length
      call.promise
  results : ∀ call ∈ process.calls, ∀ knex,
    call.result = some (.ok knex) → process.knexInstance = some knex

section Steps

variable {process next : KnexProcess Failure}

theorem poolCoherent_boot (env : KnexEnv) :
    PoolCoherent (boot env : KnexProcess Failure) := by
  unfold boot
  split <;> constructor <;> simp [createInstance, blank]

/-- While one initialisation is to make the instance, all others have failed. -/
theorem PoolCoherent.other_rejected (coherent : PoolCoherent process)
    {number other : Nat} {stage : Initialisation Failure}
    (vacant : process.knexInstance = none)
    (current : process.knexInitPromise = some number)
    (found : process.initialisations[other]? = some stage)
    (different : other ≠ number) : ∃ failure, stage = .rejected failure := by
  have holds := coherent.stages other stage found
  rw [vacant, current] at holds
  cases stage with
  | rejected failure => exact ⟨failure, rfl⟩
  | loading => exact absurd (Option.some.inj holds.2).symm different
  | loaded connection => exact absurd (Option.some.inj holds.2).symm different
  | failing failure => exact absurd (Option.some.inj holds).symm different
  | opened knex => cases holds
  | fulfilled knex => cases holds

/-- The stages after one of them has moved on. -/
theorem stages_set {stages : List (Initialisation Failure)} {number : Nat}
    {new : Initialisation Failure} {knexInstance : Option KnexInstance}
    {knexInitPromise : Option Nat}
    (others : ∀ other stage, other ≠ number → stages[other]? = some stage →
      StageHolds knexInstance knexInitPromise other stage)
    (self : StageHolds knexInstance knexInitPromise number new)
    (other : Nat) (stage : Initialisation Failure)
    (found : (stages.set number new)[other]? = some stage) :
    StageHolds knexInstance knexInitPromise other stage := by
  by_cases same : other = number
  · subst same
    rw [List.getElem?_set_self'] at found
    obtain ⟨_, _, rfl⟩ := Option.map_eq_some_iff.mp found
    exact self
  · rw [List.getElem?_set_ne (Ne.symm same)] at found
    exact others other stage same found

/-- A stage that moves on without touching the variables. -/
theorem PoolCoherent.advance (coherent : PoolCoherent process) {number : Nat}
    {stage : Initialisation Failure}
    (holds : StageHolds process.knexInstance process.knexInitPromise number
      stage) : PoolCoherent (process.advance number stage) where
  instances := coherent.instances
  promised := by simpa [KnexProcess.advance] using coherent.promised
  stages := stages_set
    (fun other stage _ => coherent.stages other stage) holds
  promises call among :=
    (coherent.promises call among).mono (fun _ => id) (by simp [KnexProcess.advance])
  results := coherent.results

/-- The one initialisation under way makes the instance. -/
theorem PoolCoherent.createInstance (coherent : PoolCoherent process)
    {number : Nat} {stage : Initialisation Failure} {config : KnexConfig}
    (vacant : process.knexInstance = none)
    (current : process.knexInitPromise = some number)
    (holds : StageHolds (some ⟨process.instances.length, config⟩)
      (some number) number stage) :
    PoolCoherent ((process.createInstance config).2.advance number stage) where
  instances := by
    have none_made := coherent.instances
    rw [vacant] at none_made
    simp [KnexProcess.createInstance, KnexProcess.advance, none_made]
  promised := by
    simpa [KnexProcess.createInstance, KnexProcess.advance]
      using coherent.promised
  stages := by
    apply stages_set
    · intro other stage different found
      obtain ⟨failure, rfl⟩ :=
        coherent.other_rejected vacant current found different
      exact coherent.stages other _ found
    · simpa [KnexProcess.createInstance, KnexProcess.advance, current]
        using holds
  promises call among :=
    (coherent.promises call among).mono
      (fun knex made => nomatch vacant.symm.trans made)
      (by simp [KnexProcess.createInstance, KnexProcess.advance])
  results call among knex result :=
    nomatch vacant.symm.trans (coherent.results call among knex result)

/-- The callback of `catch`: the initialisation that fails is the current one. -/
theorem PoolCoherent.onFailure (coherent : PoolCoherent process)
    {number : Nat} {failure : Failure}
    (current : process.knexInitPromise = some number) :
    PoolCoherent (process.onFailure number failure) where
  instances := coherent.instances
  promised := by simp [KnexProcess.onFailure, KnexProcess.advance]
  stages := by
    apply stages_set
    · intro other stage different found
      have holds := coherent.stages other stage found
      rw [current] at holds
      cases stage with
      | loading => exact absurd (Option.some.inj holds.2).symm different
      | loaded connection =>
          exact absurd (Option.some.inj holds.2).symm different
      | failing failure => exact absurd (Option.some.inj holds).symm different
      | opened knex => exact holds
      | fulfilled knex => exact holds
      | rejected failure => exact nofun
    · exact nofun
  promises call among :=
    (coherent.promises call among).mono (fun _ => id)
      (by simp [KnexProcess.onFailure, KnexProcess.advance])
  results := coherent.results

/-- A new initialisation starts where there is neither instance nor promise. -/
theorem PoolCoherent.startInitialisation (coherent : PoolCoherent process)
    (vacant : process.knexInstance = none)
    (idle : process.knexInitPromise = none) :
    PoolCoherent process.startInitialisation where
  instances := coherent.instances
  promised := by simp [KnexProcess.startInitialisation]
  stages := by
    intro number stage found
    simp only [KnexProcess.startInitialisation] at found ⊢
    rw [List.getElem?_append] at found
    split at found
    next old =>
      have holds := coherent.stages number stage found
      rw [vacant, idle] at holds
      cases stage with
      | rejected failure =>
          exact fun same => absurd (Option.some.inj same) (by omega)
      | loading => cases holds.2
      | loaded connection => cases holds.2
      | failing failure => cases holds
      | opened knex => cases holds
      | fulfilled knex => cases holds
    next new =>
      obtain ⟨inside, rfl⟩ := List.getElem?_eq_some_iff.mp found
      have last : number = process.initialisations.length := by
        rw [List.length_singleton] at inside
        omega
      simp [StageHolds, vacant, last]
  promises call among :=
    (coherent.promises call among).mono (fun _ => id)
      (by simp [KnexProcess.startInitialisation])
  results := coherent.results

/-- A call keeps the invariant and gets a promise that the process knows. -/
theorem PoolCoherent.getKnex (coherent : PoolCoherent process) :
    PoolCoherent process.getKnex.2 ∧
      PromiseHolds process.getKnex.2.knexInstance
        process.getKnex.2.initialisations.length process.getKnex.1 := by
  cases vacant : process.knexInstance with
  | some knex =>
      simpa [KnexProcess.getKnex, vacant, PromiseHolds] using coherent
  | none =>
    cases idle : process.knexInitPromise with
    | some number =>
        simpa [KnexProcess.getKnex, vacant, idle, PromiseHolds]
          using ⟨coherent, coherent.promised number idle⟩
    | none =>
        simpa [KnexProcess.getKnex, vacant, idle, PromiseHolds,
          KnexProcess.startInitialisation]
          using coherent.startInitialisation vacant idle

/-- A caller that goes on has got the instance, if it got one. -/
theorem PoolCoherent.settled (coherent : PoolCoherent process)
    {promise : KnexPromise} {knex : KnexInstance}
    (holds : PromiseHolds process.knexInstance process.initialisations.length
      promise)
    (settled : process.settled? promise = some (.ok knex)) :
    process.knexInstance = some knex := by
  cases promise with
  | resolved made =>
      cases settled
      exact holds
  | initialisation number =>
      simp only [settled?] at settled
      split at settled
      · rename_i made found
        cases settled
        exact coherent.stages number _ found
      · cases settled
      · cases settled

/-- One move keeps the invariant. -/
theorem PoolCoherent.step (coherent : PoolCoherent process)
    {move : KnexProcess.Move Failure}
    (stepped : process.step move = some next) : PoolCoherent next := by
  cases move with
  | call =>
      obtain ⟨kept, holds⟩ := coherent.getKnex
      cases stepped
      refine { kept with promises := ?_, results := ?_ }
      · intro call among
        rcases List.mem_append.mp among with old | new
        · exact kept.promises call old
        · cases List.mem_singleton.mp new
          exact holds
      · intro call among knex result
        rcases List.mem_append.mp among with old | new
        · exact kept.results call old knex result
        · cases List.mem_singleton.mp new
          cases result
  | credentials number answer =>
      simp only [KnexProcess.step] at stepped
      split at stepped
      · rename_i connection found
        have holds := coherent.stages number _ found
        cases stepped
        exact coherent.advance holds
      · rename_i failure found
        cases stepped
        exact coherent.advance (coherent.stages number _ found).2
      · cases stepped
  | connect number opening =>
      simp only [KnexProcess.step] at stepped
      split at stepped
      · rename_i connection found
        obtain ⟨vacant, current⟩ := coherent.stages number _ found
        cases stepped
        cases opening with
        | knexThrows failure => exact coherent.advance current
        | succeeds => exact coherent.createInstance vacant current rfl
        | modelThrows failure => exact coherent.createInstance vacant current rfl
      · cases stepped
  | settle number =>
      simp only [KnexProcess.step] at stepped
      split at stepped
      · rename_i knex found
        have holds := coherent.stages number _ found
        cases stepped
        exact coherent.advance holds
      · rename_i failure found
        cases stepped
        exact coherent.onFailure (coherent.stages number _ found)
      · cases stepped
  | resume number =>
      simp only [KnexProcess.step] at stepped
      split at stepped
      · rename_i promise found
        obtain ⟨result, settled, rfl⟩ := Option.map_eq_some_iff.mp stepped
        have holds := coherent.promises _ (List.mem_of_getElem? found)
        refine { coherent with promises := ?_, results := ?_ }
        · intro call among
          rcases List.mem_or_eq_of_mem_set among with old | rfl
          · exact coherent.promises call old
          · exact holds
        · intro call among knex received
          rcases List.mem_or_eq_of_mem_set among with old | rfl
          · exact coherent.results call old knex received
          · cases received
            exact coherent.settled holds settled
      · cases stepped

/-- A run keeps the invariant. -/
theorem PoolCoherent.run (coherent : PoolCoherent process)
    {moves : List (KnexProcess.Move Failure)}
    (ran : KnexProcess.run moves process = some next) : PoolCoherent next := by
  induction moves generalizing process with
  | nil =>
      cases ran
      exact coherent
  | cons move rest ih =>
      obtain ⟨middle, stepped, later⟩ := Option.bind_eq_some_iff.mp ran
      exact ih (coherent.step stepped) later

end Steps

/-! ## The cell -/

/-- What the two variables of the module stand for. -/
def poolCell (process : KnexProcess Failure) : OnceCell KnexInstance :=
  match process.knexInstance, process.knexInitPromise with
  | some knex, _ => .filled knex
  | none, some _ => .busy
  | none, none => .vacant

theorem poolCell_eq_filled {process : KnexProcess Failure}
    {knex : KnexInstance} :
    poolCell process = .filled knex ↔ process.knexInstance = some knex := by
  unfold poolCell
  split <;> simp_all

/-- A move of the process is a step of the cell, or leaves it as it is. -/
theorem poolCell_step {process next : KnexProcess Failure}
    (coherent : PoolCoherent process) {move : KnexProcess.Move Failure}
    (stepped : process.step move = some next) :
    OnceCell.Steps (poolCell process) (poolCell next) := by
  cases move with
  | call =>
      cases stepped
      cases vacant : process.knexInstance with
      | some knex =>
          simp only [vacant, poolCell]
          exact .refl
      | none =>
        cases idle : process.knexInitPromise with
        | some number =>
            simp only [vacant, idle, poolCell]
            exact .refl
        | none =>
            simp only [startInitialisation, vacant, idle, poolCell]
            exact .single .begin
  | credentials number answer =>
      simp only [KnexProcess.step] at stepped
      split at stepped <;> cases stepped <;> exact .refl
  | connect number opening =>
      simp only [KnexProcess.step] at stepped
      split at stepped
      · rename_i connection found
        obtain ⟨vacant, current⟩ := coherent.stages number _ found
        have busy : poolCell process = .busy := by
          simp [poolCell, vacant, current]
        cases stepped
        rw [busy]
        cases opening with
        | knexThrows failure =>
            have same : poolCell (process.onCredentials number connection
                (.knexThrows failure)) = .busy := busy
            rw [same]
        | succeeds => exact .single (.fill _)
        | modelThrows failure => exact .single (.fill _)
      · cases stepped
  | settle number =>
      simp only [KnexProcess.step] at stepped
      split at stepped
      · cases stepped
        exact .refl
      · rename_i failure found
        have current : process.knexInitPromise = some number :=
          coherent.stages number _ found
        cases stepped
        cases vacant : process.knexInstance with
        | some knex =>
            simp only [KnexProcess.onFailure, KnexProcess.advance, vacant,
              poolCell]
            exact .refl
        | none =>
            simp only [KnexProcess.onFailure, KnexProcess.advance, vacant,
              current, poolCell]
            exact .single .abort
      · cases stepped
  | resume number =>
      simp only [KnexProcess.step] at stepped
      split at stepped
      · obtain ⟨result, _, rfl⟩ := Option.map_eq_some_iff.mp stepped
        exact .refl
      · cases stepped

/-- A run of the process is a run of the cell. -/
theorem poolCell_run {process next : KnexProcess Failure}
    (coherent : PoolCoherent process)
    {moves : List (KnexProcess.Move Failure)}
    (ran : KnexProcess.run moves process = some next) :
    OnceCell.Steps (poolCell process) (poolCell next) := by
  induction moves generalizing process with
  | nil =>
      cases ran
      exact .refl
  | cons move rest ih =>
      obtain ⟨middle, stepped, later⟩ := Option.bind_eq_some_iff.mp ran
      exact (poolCell_step coherent stepped).trans
        (ih (coherent.step stepped) later)

/-- Once made, the instance stays. -/
theorem knexInstance_stays {process next : KnexProcess Failure}
    (coherent : PoolCoherent process)
    {moves : List (KnexProcess.Move Failure)}
    (ran : KnexProcess.run moves process = some next)
    {knex : KnexInstance} (made : process.knexInstance = some knex) :
    next.knexInstance = some knex := by
  have steps := poolCell_run coherent ran
  rw [poolCell_eq_filled.mpr made] at steps
  exact poolCell_eq_filled.mp steps.of_filled

/-! ## Calls that can still succeed -/

/-- Some continuation hands an instance to the call at the position. -/
def CallSucceeds (process : KnexProcess Failure) (position : Nat) : Prop :=
  ∃ moves next knex, KnexProcess.run moves process = some next ∧
    (next.calls[position]?).bind KnexCall.result = some (.ok knex)

/-- A call that is made now can succeed. -/
def NextCallSucceeds (process : KnexProcess Failure) : Prop :=
  ∃ next, process.step .call = some next ∧
    CallSucceeds next process.calls.length

section Continuations

variable {process next : KnexProcess Failure} {position : Nat}

theorem CallSucceeds.of_step {move : KnexProcess.Move Failure}
    (stepped : process.step move = some next)
    (succeeds : CallSucceeds next position) :
    CallSucceeds process position := by
  obtain ⟨moves, last, knex, ran, received⟩ := succeeds
  exact ⟨move :: moves, last, knex, by simp [KnexProcess.run, stepped, ran],
    received⟩

/-- A call whose promise is fulfilled only has to go on. -/
theorem callSucceeds_of_settled {promise : KnexPromise} {knex : KnexInstance}
    (waiting : process.calls[position]? = some ⟨promise, none⟩)
    (settled : process.settled? promise = some (.ok knex)) :
    CallSucceeds process position := by
  have inside := (List.getElem?_eq_some_iff.mp waiting).1
  have stepped : process.step (.resume position) = some { process with
      calls := process.calls.set position ⟨promise, some (.ok knex)⟩ } := by
    simp only [KnexProcess.step, waiting, settled, Option.map_some]
  refine .of_step stepped ⟨[], _, knex, rfl, ?_⟩
  simp [inside]

/-- With the credentials there, only jobs that succeed are missing. -/
theorem callSucceeds_of_loaded {number : Nat}
    {connection : RdsConnectionConfig}
    (waiting : process.calls[position]? = some ⟨.initialisation number, none⟩)
    (loaded : process.initialisations[number]? = some (.loaded connection)) :
    CallSucceeds process position := by
  have inside := (List.getElem?_eq_some_iff.mp loaded).1
  have connected : process.step (.connect number .succeeds) =
      some (process.onCredentials number connection .succeeds) := by
    simp only [KnexProcess.step, loaded]
  have settled : (process.onCredentials number connection .succeeds).step
      (.settle number) = some ((process.onCredentials number connection
        .succeeds).advance number (.fulfilled
          (process.createInstance (rdsKnexConfig connection)).1)) := by
    simp [KnexProcess.step, onCredentials, KnexProcess.createInstance,
      KnexProcess.advance, inside]
  refine .of_step connected (.of_step settled ?_)
  apply callSucceeds_of_settled
  · exact waiting
  · simp only [settled?, KnexProcess.advance, onCredentials,
      KnexProcess.createInstance, List.set_set]
    rw [List.getElem?_set_self inside]

/-- An initialisation that is still loading may load the credentials. -/
theorem callSucceeds_of_loading {number : Nat}
    (waiting : process.calls[position]? = some ⟨.initialisation number, none⟩)
    (loading : process.initialisations[number]? = some .loading) :
    CallSucceeds process position := by
  have inside := (List.getElem?_eq_some_iff.mp loading).1
  let connection : RdsConnectionConfig := ⟨"", 0, "", "", "", true, []⟩
  have stepped : process.step (.credentials number (.ok connection)) =
      some (process.advance number (.loaded connection)) := by
    simp only [KnexProcess.step, loading]
  have loaded : (process.advance number (.loaded connection)).initialisations[
      number]? = some (.loaded connection) := List.getElem?_set_self inside
  exact .of_step stepped (callSucceeds_of_loaded waiting loaded)

/-- Unless the initialisation under way is failing, a call can succeed. -/
theorem PoolCoherent.nextCallSucceeds (coherent : PoolCoherent process)
    (sound : ∀ number failure, process.knexInitPromise = some number →
      process.initialisations[number]? ≠ some (.failing failure)) :
    NextCallSucceeds process := by
  refine ⟨_, rfl, ?_⟩
  cases vacant : process.knexInstance with
  | some knex =>
      exact callSucceeds_of_settled List.getElem?_concat_length rfl
  | none =>
    cases current : process.knexInitPromise with
    | none =>
        apply callSucceeds_of_loading
        · exact List.getElem?_concat_length
        · exact List.getElem?_concat_length
    | some number =>
        have inside := coherent.promised number current
        have found := List.getElem?_eq_getElem inside
        have holds := coherent.stages number _ found
        cases stage : process.initialisations[number] with
        | loading =>
            rw [stage] at found
            exact callSucceeds_of_loading List.getElem?_concat_length found
        | loaded connection =>
            rw [stage] at found
            exact callSucceeds_of_loaded List.getElem?_concat_length found
        | failing failure =>
            rw [stage] at found
            exact absurd found (sound number failure current)
        | opened knex =>
            rw [stage] at holds
            cases vacant.symm.trans holds
        | fulfilled knex =>
            rw [stage] at holds
            cases vacant.symm.trans holds
        | rejected failure =>
            rw [stage] at holds
            exact absurd current holds

/-- After the callback of `catch` the next call can succeed. -/
theorem PoolCoherent.succeeds_after_failure (coherent : PoolCoherent process)
    {number : Nat} {failure : Failure}
    (current : process.knexInitPromise = some number) :
    NextCallSucceeds (process.onFailure number failure) :=
  (coherent.onFailure current).nextCallSucceeds
    (fun _ _ promised => nomatch promised)

end Continuations

/-! ## The guarantee -/

/-- One pool: what holds of a process at any time. -/
structure SinglePool (process : KnexProcess Failure) : Prop where
  atMostOne : process.instances.length ≤ 1
  shared : ∀ call ∈ process.calls, ∀ knex,
    call.result = some (.ok knex) → ∀ moves later,
      KnexProcess.run moves process = some later → later.instances = [knex]
  retriable : ∀ number next failure,
    process.step (.settle number) = some next →
      next.initialisations[number]? = some (.rejected failure) →
        NextCallSucceeds next
  recoverable : ∃ moves later, KnexProcess.run moves process = some later ∧
    NextCallSucceeds later

theorem PoolCoherent.retriable {process next : KnexProcess Failure}
    (coherent : PoolCoherent process) {number : Nat} {failure : Failure}
    (settled : process.step (.settle number) = some next)
    (rejected : next.initialisations[number]? = some (.rejected failure)) :
    NextCallSucceeds next := by
  simp only [KnexProcess.step] at settled
  split at settled
  · rename_i knex found
    have inside := (List.getElem?_eq_some_iff.mp found).1
    cases settled
    rw [KnexProcess.advance, List.getElem?_set_self inside] at rejected
    cases rejected
  · rename_i other found
    cases settled
    exact coherent.succeeds_after_failure (coherent.stages number _ found)
  · cases settled

theorem PoolCoherent.recoverable {process : KnexProcess Failure}
    (coherent : PoolCoherent process) :
    ∃ moves later, KnexProcess.run moves process = some later ∧
      NextCallSucceeds later := by
  by_cases failing : ∃ (number : Nat) (failure : Failure),
      process.initialisations[number]? = some (.failing failure)
  · obtain ⟨number, failure, found⟩ := failing
    refine ⟨[.settle number], process.onFailure number failure, ?_,
      coherent.succeeds_after_failure (coherent.stages number _ found)⟩
    simp [KnexProcess.run, KnexProcess.step, found]
  · exact ⟨[], process, rfl, coherent.nextCallSucceeds
      (fun number failure _ found => failing ⟨number, failure, found⟩)⟩

/--
However calls and jobs are interleaved and whatever fails, a process has one
pool, and after a failure a later call can get it.
-/
theorem getKnex_single_pool (env : KnexEnv)
    (moves : List (KnexProcess.Move Failure)) (process : KnexProcess Failure)
    (ran : KnexProcess.run moves (boot env) = some process) :
    SinglePool process := by
  have coherent := (poolCoherent_boot env).run ran
  constructor
  · rw [coherent.instances]
    cases process.knexInstance <;> simp
  · intro call among knex received moves later continued
    have made := coherent.results call among knex received
    rw [(coherent.run continued).instances,
      knexInstance_stays coherent continued made]
    rfl
  · exact fun number next failure => coherent.retriable
  · exact coherent.recoverable

/-- Two callers share a failure, and two later ones the pool. -/
theorem getKnex_single_pool_after_failure :
    ∃ process : KnexProcess String, SinglePool process ∧
      process.calls.map KnexCall.result =
        [some (.error "denied"), some (.error "denied"),
          some (.ok ⟨0, rdsKnexConfig ⟨"proxy", 5432, "app", "pw", "db", true,
            []⟩⟩), none] := by
  let connection : RdsConnectionConfig :=
    ⟨"proxy", 5432, "app", "pw", "db", true, []⟩
  exact ⟨_, getKnex_single_pool
    ⟨none, none, none, none, none, some "production", some "arn", none,
      fun _ => none⟩
    [.call, .call, .credentials 0 (.error "denied"), .settle 0, .resume 0,
      .resume 1, .call, .credentials 1 (.ok connection), .connect 1 .succeeds,
      .call, .settle 1, .resume 2] _ rfl, rfl⟩

end PaymentPortal.Guarantees
