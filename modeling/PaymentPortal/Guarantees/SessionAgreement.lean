import PaymentPortal.Guarantees.StatusPairs
import PaymentPortal.Protocol.Acquisition
import PaymentPortal.Protocol.Competition
import PaymentPortal.Protocol.History

/-!
# Agreement of concurrent initPayment calls

Any number of `initPayment` calls for one obligation, started on a store without
an active row of it, agree on one session while the database answers: the first
attempt that is activated stays `initiated`, and no other attempt is active next
to it.  So all calls that succeed return its token, and every other attempt
they have recorded ends up `failed`.

Requests of other kinds, or for other obligations, may run as well, as long as
they leave the rows of the obligation alone.
-/

namespace PaymentPortal.Guarantees

open PaymentPortal.Interaction
open PaymentPortal.Model
open PaymentPortal.Protocol

/-! ## Runs -/

/-- The caller is an `initPayment` call for the obligation. -/
def CompetesFor (obligation : Obligation) (state : PortalState) (caller : Nat) :
    Prop :=
  ∃ request ∈ requestOf? state caller, obligation? request = some obligation

instance (obligation : Obligation) (state : PortalState) (caller : Nat) :
    Decidable (CompetesFor obligation state caller) :=
  inferInstanceAs (Decidable (∃ _ ∈ _, _))

/-- The rows of an obligation. -/
def attemptsFor (obligation : Obligation) (table : Table) : List Transaction :=
  table.rows.filter fun row => row.obligation == obligation

def isStatement : Op → Bool
  | .db _ => true
  | _ => false

/--
No session of the obligation is as old as a token may be, the statements of its
calls are executed, so that they fail by a constraint only, and the other calls
leave its rows alone.
-/
def Undisturbed (config : Config) (obligation : Obligation)
    (state : PortalState) (caller : Nat) (op : Op) (fate : Fate) : Prop :=
  (∀ row ∈ attemptsFor obligation state.world.table,
    row.transactionStatus = some .initiated →
      state.world.now - row.createdAt < MAX_TOKEN_AGE_MS) ∧
  (CompetesFor obligation state caller → isStatement op = true →
    isExecuted fate = true) ∧
  (¬ CompetesFor obligation state caller →
    ∀ after ∈ (exec config.xmlFormats op fate state.world).map Prod.snd,
      attemptsFor obligation after.table =
        attemptsFor obligation state.world.table)

instance (config : Config) (obligation : Obligation) (state : PortalState)
    (caller : Nat) (op : Op) (fate : Fate) :
    Decidable (Undisturbed config obligation state caller op fate) :=
  inferInstanceAs (Decidable ((∀ _ ∈ _, _) ∧ (_ → _ → _) ∧
    (_ → ∀ _ ∈ _, _)))

def crashes? : PortalMove → Option Nat
  | .crash caller => some caller
  | _ => none

/-- The move does not disturb the obligation, and no call for it crashes. -/
def Concurrent (config : Config) (obligation : Obligation)
    (state : PortalState) (move : PortalMove) : Prop :=
  Machine.OnSteps (Undisturbed config obligation) state move ∧
    ∀ caller ∈ crashes? move, ¬ CompetesFor obligation state caller

instance (config : Config) (obligation : Obligation) (state : PortalState)
    (move : PortalMove) : Decidable (Concurrent config obligation state move) :=
  inferInstanceAs (Decidable (_ ∧ ∀ _ ∈ _, _))

/-! ## Agreement -/

/-- The call has returned this session. -/
def Opened (obligation : Obligation) (state : PortalState) (caller : Nat)
    (session : InitPaymentResponse) : Prop :=
  ∃ call, state.calls[caller]? = some call ∧
    obligation? call.request = some obligation ∧
      call.result? = some (.ok (.session session))

/-- All calls for the obligation have finished. -/
def Finished (obligation : Obligation) (state : PortalState) : Prop :=
  ∀ call ∈ state.calls, obligation? call.request = some obligation →
    ¬ call.InProgress

/-- The row is an attempt that the calls have recorded since `start`. -/
structure NewAttempt (start : World) (obligation : Obligation)
    (state : PortalState) (row : Transaction) : Prop where
  member : row ∈ state.world.table.rows
  obligation_eq : row.obligation = obligation
  new : row ∉ start.table.rows

/--
All calls that succeed return one token, no two rows are active at once, and
when all calls have finished either none has succeeded and all attempts have
failed, or the token is on the only `initiated` row and the others have failed.
-/
structure SessionAgreement (start : World) (obligation : Obligation)
    (state : PortalState) : Prop where
  sameToken : ∀ first second firstSession secondSession,
    Opened obligation state first firstSession →
    Opened obligation state second secondSession →
      firstSession.token = secondSession.token
  oneActive : ∀ first ∈ state.world.table.rows,
    ∀ second ∈ state.world.table.rows,
      first.obligation = obligation → second.obligation = obligation →
        first.Active → second.Active → first = second
  settled : Finished obligation state →
    ((∀ caller session, ¬ Opened obligation state caller session) ∧
      ∀ row, NewAttempt start obligation state row →
        row.transactionStatus = some .failed) ∨
    ∃ caller session, Opened obligation state caller session ∧
      ∃ row ∈ state.world.table.rows, row.obligation = obligation ∧
        row.transactionStatus = some .initiated ∧
        row.paygovToken = some session.token ∧
        (∀ other ∈ state.world.table.rows, other.obligation = obligation →
          other.transactionStatus = some .initiated → other = row) ∧
        ∀ other, NewAttempt start obligation state other → other ≠ row →
          other.transactionStatus = some .failed

/-! ## Callers and phases -/

/-- A call for the obligation is in this phase. -/
def At (obligation : Obligation)
    (calls : List (Call Op Reply Request Outcome)) (phases : List Opening)
    (caller : Nat) (phase : Opening) : Prop :=
  ∃ call, calls[caller]? = some call ∧
    obligation? call.request = some obligation ∧
      phases[caller]? = some phase

section Callers

variable {obligation : Obligation} {request : Request}
variable {calls : List (Call Op Reply Request Outcome)}
variable {phases : List Opening} {caller changed : Nat}
variable {phase later : Opening}
variable {was rest : Option (Program Op Reply Outcome)}

theorem At.unique (here : At obligation calls phases caller phase)
    (holds : phases[caller]? = some later) : phase = later := by
  obtain ⟨call, _, _, held⟩ := here
  exact Option.some.inj (held.symm.trans holds)

/-- A caller that moves is in its new phase, the others are where they were. -/
theorem at_set_cases
    (here : At obligation (calls.set changed ⟨request, rest⟩)
      (phases.set changed later) caller phase) :
    (caller = changed ∧ phase = later ∧
        obligation? request = some obligation) ∨
      (caller ≠ changed ∧ At obligation calls phases caller phase) := by
  obtain ⟨call, present, competes, holds⟩ := here
  rcases getElem?_set_pair_cases present holds with
    ⟨same, rfl, isLater⟩ | ⟨different, was, held⟩
  · exact .inl ⟨same, isLater, competes⟩
  · exact .inr ⟨different, call, was, competes, held⟩

theorem At.set_of_ne (here : At obligation calls phases caller phase)
    (different : caller ≠ changed) :
    At obligation (calls.set changed ⟨request, rest⟩)
      (phases.set changed later) caller phase := by
  obtain ⟨call, present, competes, holds⟩ := here
  refine ⟨call, ?_, competes, ?_⟩
  · rw [List.getElem?_set_ne different.symm]
    exact present
  · rw [List.getElem?_set_ne different.symm]
    exact holds

theorem at_set_self (running : calls[changed]? = some ⟨request, was⟩)
    (holds : phases[changed]? = some phase)
    (competes : obligation? request = some obligation) :
    At obligation (calls.set changed ⟨request, rest⟩)
      (phases.set changed later) changed later := by
  refine ⟨⟨request, rest⟩, ?_, competes, ?_⟩
  · exact List.getElem?_set_self (List.getElem?_eq_some_iff.mp running).1
  · exact List.getElem?_set_self (List.getElem?_eq_some_iff.mp holds).1

/-- A call that arrives is in the phase that calls start in. -/
theorem at_append_cases {call : Call Op Reply Request Outcome}
    (lengths : calls.length = phases.length)
    (here : At obligation (calls ++ [call]) (phases ++ [later]) caller phase) :
    At obligation calls phases caller phase ∨ phase = later := by
  obtain ⟨found, present, competes, holds⟩ := here
  rcases getElem?_append_pair_cases lengths present holds with
    ⟨_, _, isLater⟩ | ⟨was, held⟩
  · exact .inr isLater
  · exact .inl ⟨found, was, competes, held⟩

theorem At.append {call : Call Op Reply Request Outcome}
    (here : At obligation calls phases caller phase) :
    At obligation (calls ++ [call]) (phases ++ [later]) caller phase := by
  obtain ⟨found, present, competes, holds⟩ := here
  refine ⟨found, ?_, competes, ?_⟩
  · rw [List.getElem?_append_left (List.getElem?_eq_some_iff.mp present).1]
    exact present
  · rw [List.getElem?_append_left (List.getElem?_eq_some_iff.mp holds).1]
    exact holds

end Callers

/-! ## The invariant -/

/-- A state with the phases of its `initPayment` calls. -/
abbrev Competition := Phased opening closes World

/-- A call for the obligation is in this phase of the competition. -/
abbrev Competes (obligation : Obligation) (competition : Competition) :
    Nat → Opening → Prop :=
  At obligation competition.state.calls competition.phases

/-- The calls for the obligation keep out of each other's way. -/
structure Agreeing (start : World) (obligation : Obligation)
    (competition : Competition) : Prop where
  alive : ∀ call ∈ competition.state.calls,
    obligation? call.request = some obligation → call.rest ≠ none
  joined : ∀ caller phase, Competes obligation competition caller phase →
    Joined competition.state.world obligation phase
  owners : ∀ first second firstPhase secondPhase id,
    Competes obligation competition first firstPhase →
    Competes obligation competition second secondPhase →
    firstPhase.owned? = some id → secondPhase.owned? = some id →
      first = second
  rows : ∀ row ∈ competition.state.world.table.rows,
    row.obligation = obligation → row ∈ start.table.rows ∨
      row.transactionStatus = some .failed ∨
        ∃ caller phase, Competes obligation competition caller phase ∧
          phase.Owns row

variable {start : World} {obligation : Obligation}
variable {source target : Competition}

theorem agreeing_initial (start : World) (obligation : Obligation) :
    Agreeing start obligation (.initial start) where
  alive := fun call member =>
    absurd member (by simp [Phased.initial, State.initial])
  joined := by
    rintro caller phase ⟨call, present, _⟩
    exact absurd present (by simp [Phased.initial, State.initial])
  owners := by
    rintro first second firstPhase secondPhase id ⟨call, present, _⟩
    exact absurd present (by simp [Phased.initial, State.initial])
  rows := fun row member _ => .inl member

/-- An active row is being recorded, or it leads the obligation. -/
theorem Agreeing.standing (agreeing : Agreeing start obligation source)
    (free : ∀ row ∈ start.table.rows, row.obligation = obligation →
      ¬ row.Active) {row : Transaction}
    (member : row ∈ source.state.world.table.rows)
    (isObligation : row.obligation = obligation) (active : row.Active) :
    row.transactionStatus = some .received ∨
      Leads source.state.world obligation row := by
  rcases agreeing.rows row member isObligation with
    former | failed | ⟨caller, phase, competes, owns⟩
  · exact absurd active (free row former isObligation)
  · exact absurd ((Transaction.active_iff failed).mp active) (by decide)
  · cases phase with
    | holding data | started data token => exact .inl owns.2
    | activated data token =>
        obtain ⟨_, initiated, hasToken, valid⟩ := owns
        exact .inr ⟨member, isObligation, initiated, token, hasToken, valid⟩
    | reading | weighing _ _ | abandoned | rejected | astray | stopped =>
        exact owns.elim

/-- What a request relies on survives what the others do. -/
theorem joined_of_kept {before after : World} {phase : Opening}
    (joined : Joined before obligation phase)
    (kept : ∀ row ∈ before.table.rows, row.obligation = obligation →
      row.transactionStatus = some .initiated ∨
        phase.owned? = some row.agencyTrackingId →
      row ∈ after.table.rows) :
    Joined after obligation phase where
  followed := joined.followed
  owns := by
    intro id owned
    obtain ⟨row, member, isObligation, isId, owns⟩ := joined.owns id owned
    exact ⟨row, kept row member isObligation (.inr owns.owned?_eq),
      isObligation, isId, owns⟩
  found := by
    intro row clock weighing
    obtain ⟨leads, young⟩ := joined.found row clock weighing
    have stays := kept row leads.member leads.obligation_eq (.inl leads.initiated)
    exact ⟨⟨stays, leads.obligation_eq, leads.initiated, leads.token⟩, young⟩

/-- A move that leaves the rows of the obligation and its calls alone. -/
theorem Agreeing.aside (agreeing : Agreeing start obligation source)
    (rows_iff : ∀ row, row.obligation = obligation →
      (row ∈ target.state.world.table.rows ↔
        row ∈ source.state.world.table.rows))
    (alive : ∀ call ∈ target.state.calls,
      obligation? call.request = some obligation → call.rest ≠ none)
    (back : ∀ caller phase, Competes obligation target caller phase →
      Competes obligation source caller phase ∨ phase = .reading)
    (forth : ∀ caller phase, Competes obligation source caller phase →
      Competes obligation target caller phase) :
    Agreeing start obligation target where
  alive := alive
  joined := by
    intro caller phase here
    rcases back caller phase here with was | rfl
    · apply joined_of_kept (agreeing.joined caller phase was)
      exact fun row member isObligation _ =>
        (rows_iff row isObligation).mpr member
    · exact joined_of_idle (by simp) rfl (by simp)
  owners := by
    intro first second firstPhase secondPhase id firstHere secondHere
      firstOwned secondOwned
    rcases back first firstPhase firstHere with firstWas | rfl
    · rcases back second secondPhase secondHere with secondWas | rfl
      · exact agreeing.owners first second firstPhase secondPhase id firstWas
          secondWas firstOwned secondOwned
      · exact absurd secondOwned (by simp [Opening.owned?])
    · exact absurd firstOwned (by simp [Opening.owned?])
  rows := by
    intro row member isObligation
    rcases agreeing.rows row ((rows_iff row isObligation).mp member)
      isObligation with former | failed | ⟨caller, phase, was, owns⟩
    · exact .inl former
    · exact .inr (.inl failed)
    · exact .inr (.inr ⟨caller, phase, forth caller phase was, owns⟩)

/-- A call for something else moves on and leaves the obligation alone. -/
theorem Agreeing.elsewhere (agreeing : Agreeing start obligation source)
    {caller : Nat} {request : Request} {later : Opening}
    {was rest : Option (Program Op Reply Outcome)}
    (foreign : obligation? request ≠ some obligation)
    (running : source.state.calls[caller]? = some ⟨request, was⟩)
    (rows_iff : ∀ row, row.obligation = obligation →
      (row ∈ target.state.world.table.rows ↔
        row ∈ source.state.world.table.rows))
    (calls_eq : target.state.calls =
      source.state.calls.set caller ⟨request, rest⟩)
    (phases_eq : target.phases = source.phases.set caller later) :
    Agreeing start obligation target := by
  apply agreeing.aside rows_iff
  · intro call member isCall
    rw [calls_eq] at member
    rcases List.mem_or_eq_of_mem_set member with old | rfl
    · exact agreeing.alive call old isCall
    · exact absurd isCall foreign
  · intro other reached there
    rw [Competes, calls_eq, phases_eq] at there
    rcases at_set_cases there with ⟨_, _, isCall⟩ | ⟨_, stayed⟩
    · exact absurd isCall foreign
    · exact .inl stayed
  · intro other reached here
    rw [Competes, calls_eq, phases_eq]
    refine here.set_of_ne ?_
    rintro rfl
    obtain ⟨call, present, isCall, _⟩ := here
    obtain rfl := Option.some.inj (running.symm.trans present)
    exact foreign isCall

/-- An operation of one of the calls for the obligation. -/
theorem Agreeing.compete (agreeing : Agreeing start obligation source)
    {caller : Nat} {request : Request} {op : Op} {reply : Reply op}
    {next : Reply op → Program Op Reply Outcome} {world : World}
    {phase later : Opening}
    (competes : obligation? request = some obligation)
    (running : source.state.calls[caller]? =
      some ⟨request, some (.perform op next)⟩)
    (holds : source.phases[caller]? = some phase)
    (competed : Competed obligation source.state.world world phase later)
    (state_eq : target.state = {
      world := world
      calls := source.state.calls.set caller ⟨request, some (next reply)⟩
      log := ⟨caller, op, reply, source.state.world, world⟩ ::
        source.state.log })
    (phases_eq : target.phases = source.phases.set caller later) :
    Agreeing start obligation target := by
  have here : Competes obligation source caller phase :=
    ⟨_, running, competes, holds⟩
  have cases : ∀ other reached, Competes obligation target other reached →
      (other = caller ∧ reached = later) ∨
        (other ≠ caller ∧ Competes obligation source other reached) := by
    intro other reached there
    rw [Competes, state_eq, phases_eq] at there
    rcases at_set_cases there with ⟨same, isLater, _⟩ | stayed
    · exact .inl ⟨same, isLater⟩
    · exact .inr stayed
  have others : ∀ other reached, Competes obligation source other reached →
      other ≠ caller → Competes obligation target other reached := by
    intro other reached was different
    rw [Competes, state_eq, phases_eq]
    exact was.set_of_ne different
  have now : Competes obligation target caller later := by
    rw [Competes, state_eq, phases_eq]
    exact at_set_self running holds competes
  -- An attempt that comes to be owned is new, so no other call owns it.
  have foreign : ∀ other reached id, other ≠ caller →
      Competes obligation source other reached → reached.owned? = some id →
        later.owned? ≠ some id := by
    intro other reached id different was owned isOwned
    rcases competed.fresh id isOwned with before | new
    · exact different (agreeing.owners other caller reached phase id was here
        owned before)
    · obtain ⟨row, member, _, isId, _⟩ :=
        (agreeing.joined other reached was).owns id owned
      exact new row member isId
  refine ⟨?_, ?_, ?_, ?_⟩
  · intro call member isCall
    rw [state_eq] at member
    rcases List.mem_or_eq_of_mem_set member with old | rfl
    · exact agreeing.alive call old isCall
    · simp
  · intro other reached there
    rw [state_eq]
    rcases cases other reached there with ⟨rfl, rfl⟩ | ⟨different, was⟩
    · exact competed.joined
    · apply joined_of_kept (agreeing.joined other reached was)
      intro row member isObligation relied
      apply competed.kept row member isObligation
      rcases relied with initiated | owned
      · exact .inl (by simp [initiated])
      · refine .inr fun owns => different ?_
        exact agreeing.owners other caller reached phase _ was here owned owns
  · exact owners_of_move cases agreeing.owners foreign
  · intro row member isObligation
    rw [state_eq] at member
    rcases competed.stems row member isObligation with
      ⟨old, kept⟩ | failed | owns
    · rcases agreeing.rows row old isObligation with
        former | failed | ⟨other, reached, was, owns⟩
      · exact .inl former
      · exact .inr (.inl failed)
      · by_cases same : other = caller
        · subst same
          obtain rfl := was.unique holds
          exact .inr (.inr ⟨other, later, now, kept owns⟩)
        · exact .inr (.inr ⟨other, reached, others other reached was same, owns⟩)
    · exact .inr (.inl failed)
    · exact .inr (.inr ⟨caller, later, now, owns⟩)

theorem mem_attemptsFor {table : Table} {row : Transaction}
    (isObligation : row.obligation = obligation) :
    row ∈ attemptsFor obligation table ↔ row ∈ table.rows := by
  rw [attemptsFor, List.mem_filter]
  exact and_iff_left (beq_iff_eq.mpr isObligation)

variable {config : Config}

/-- One operation, of a call for the obligation or of another one. -/
theorem Agreeing.perform (agreeing : Agreeing start obligation source)
    (free : ∀ row ∈ start.table.rows, row.obligation = obligation →
      ¬ row.Active)
    {caller : Nat} {fate : Fate} {request : Request} {op : Op}
    {reply : Reply op} {next : Reply op → Program Op Reply Outcome}
    {world : World} {phase later : Opening}
    (undisturbed : Undisturbed config obligation source.state caller op fate)
    (running : source.state.calls[caller]? =
      some ⟨request, some (.perform op next)⟩)
    (holds : source.phases[caller]? = some phase)
    (executed : exec config.xmlFormats op fate source.state.world =
      some (reply, world))
    (opens : Opens request phase op reply later)
    (state_eq : target.state = {
      world := world
      calls := source.state.calls.set caller ⟨request, some (next reply)⟩
      log := ⟨caller, op, reply, source.state.world, world⟩ ::
        source.state.log })
    (phases_eq : target.phases = source.phases.set caller later) :
    Agreeing start obligation target := by
  obtain ⟨young, answered, aside⟩ := undisturbed
  have isRequest : requestOf? source.state caller = some request :=
    requestOf?_of_present running
  by_cases competes : obligation? request = some obligation
  · refine agreeing.compete competes running holds ?_ state_eq phases_eq
    cases request with
    | initPayment client order =>
        obtain rfl := Option.some.inj competes
        apply competed_of_opens opens executed
        · rintro statement rfl
          exact answered ⟨_, isRequest, rfl⟩ rfl
        · exact agreeing.joined caller phase ⟨_, running, rfl, holds⟩
        · exact fun row member isObligation active =>
            agreeing.standing free member isObligation active
        · exact fun row member isObligation =>
            young row ((mem_attemptsFor isObligation).mpr member)
    | processPayment _ _ | getDetails _ _ | cancelExpiredTransactions =>
        exact absurd competes (by simp [obligation?])
  · have foreign : ¬ CompetesFor obligation source.state caller := by
      rintro ⟨found, isFound, isObligation⟩
      obtain rfl := Option.some.inj (isRequest.symm.trans isFound)
      exact competes isObligation
    have same := aside foreign world (by rw [executed]; rfl)
    apply agreeing.elsewhere competes running _ (by rw [state_eq]) phases_eq
    intro row isObligation
    rw [state_eq, ← mem_attemptsFor isObligation, same,
      mem_attemptsFor isObligation]

/-- Every concurrent move keeps the calls out of each other's way. -/
theorem Agreeing.step (agreeing : Agreeing start obligation source)
    (free : ∀ row ∈ start.table.rows, row.obligation = obligation →
      ¬ row.Active)
    (step : PhasedStep (portal config) .reading .stopped
      (Concurrent config obligation) source target) :
    Agreeing start obligation target := by
  cases step with
  | arrive request permitted state_eq phases_eq =>
      apply agreeing.aside
      · intro row isObligation
        rw [state_eq]
      · intro call member isCall
        rw [state_eq] at member
        rcases List.mem_append.mp member with old | new
        · exact agreeing.alive call old isCall
        · obtain rfl := List.mem_singleton.mp new
          simp
      · intro caller phase there
        rw [Competes, state_eq, phases_eq] at there
        exact at_append_cases source.length_eq there
      · intro caller phase was
        rw [Competes, state_eq, phases_eq]
        exact was.append
  | perform caller fate request op next reply world phase after permitted
      running holds executed moved state_eq phases_eq =>
      exact agreeing.perform free (permitted.1.of_running running) running holds
        executed moved state_eq phases_eq
  | crash caller request op next permitted running state_eq phases_eq =>
      have isRequest : requestOf? source.state caller = some request :=
        requestOf?_of_present running
      have foreign : obligation? request ≠ some obligation := fun competes =>
        permitted.2 caller rfl ⟨request, isRequest, competes⟩
      apply agreeing.elsewhere foreign running _ (by rw [state_eq]) phases_eq
      intro row isObligation
      rw [state_eq]
  | drift change world permitted drifted state_eq phases_eq =>
      have sameTable := table_eq_of_drift drifted
      apply agreeing.aside
      · intro row isObligation
        rw [state_eq, sameTable]
      · intro call member isCall
        rw [state_eq] at member
        exact agreeing.alive call member isCall
      · intro caller phase there
        rw [Competes, state_eq, phases_eq] at there
        exact .inl there
      · intro caller phase was
        rw [Competes, state_eq, phases_eq]
        exact was

/-! ## What the calls return -/

/-- A finished call ends as its phase says. -/
theorem answers_of_result {caller : Nat}
    {call : Call Op Reply Request Outcome} {outcome : Outcome}
    (present : source.state.calls[caller]? = some call)
    (competes : obligation? call.request = some obligation)
    (isResult : call.result? = some outcome) :
    ∃ phase, Competes obligation source caller phase ∧
      phase.Answers outcome := by
  obtain ⟨phase, holds⟩ := source.exists_phase present
  refine ⟨phase, ⟨call, present, competes, holds⟩, ?_⟩
  exact source.conforms_done present isResult holds phase rfl
    (by simp [competes])

/-- The session that a call has returned is that of the leading row. -/
theorem Agreeing.leads_of_opened (agreeing : Agreeing start obligation source)
    {caller : Nat} {session : InitPaymentResponse}
    (opened : Opened obligation source.state caller session) :
    ∃ row, Leads source.state.world obligation row ∧
      row.paygovToken = some session.token := by
  obtain ⟨call, present, competes, isResult⟩ := opened
  obtain ⟨phase, here, answers⟩ :=
    answers_of_result present competes isResult
  have joined := agreeing.joined caller phase here
  cases phase with
  | weighing row clock =>
      obtain ⟨leads, _⟩ := joined.found row clock rfl
      obtain ⟨other, same, hasToken⟩ := answers _ rfl
      obtain rfl := Response.session.inj same
      exact ⟨row, leads, hasToken⟩
  | activated data token =>
      obtain ⟨row, member, isObligation, _, _, initiated, hasToken, valid⟩ :=
        joined.owns _ rfl
      obtain ⟨other, same, isToken⟩ := answers
      obtain rfl := Response.session.inj (Except.ok.inj same)
      exact ⟨row, ⟨member, isObligation, initiated, token, hasToken, valid⟩,
        hasToken.trans (congrArg some isToken.symm)⟩
  | holding _ | started _ _ | stopped => exact answers.elim
  | astray => exact absurd rfl joined.followed
  | reading | abandoned | rejected =>
      obtain ⟨error, impossible⟩ := answers
      exact absurd impossible (by simp)

/-- When all calls have finished, an attempt that one of them owns is open. -/
theorem Agreeing.opened_of_owns (agreeing : Agreeing start obligation source)
    (finished : Finished obligation source.state) {row : Transaction}
    (member : row ∈ source.state.world.table.rows)
    (isObligation : row.obligation = obligation) {caller : Nat}
    {phase : Opening} (here : Competes obligation source caller phase)
    (owns : phase.Owns row) :
    Leads source.state.world obligation row ∧
      ∃ session, Opened obligation source.state caller session ∧
        row.paygovToken = some session.token := by
  obtain ⟨call, present, competes, holds⟩ := here
  have inCalls := List.mem_of_getElem? present
  obtain ⟨outcome, isResult⟩ : ∃ outcome, call.result? = some outcome := by
    have living := agreeing.alive call inCalls competes
    have idle := finished call inCalls competes
    obtain ⟨request, rest⟩ := call
    rcases rest with _ | (outcome | ⟨op, next⟩)
    · exact absurd rfl living
    · exact ⟨outcome, rfl⟩
    · exact absurd rfl idle
  obtain ⟨reached, there, answers⟩ :=
    answers_of_result present competes isResult
  obtain rfl := there.unique holds
  cases reached with
  | activated data token =>
      obtain ⟨_, initiated, hasToken, valid⟩ := owns
      obtain ⟨session, rfl, isToken⟩ := answers
      exact ⟨⟨member, isObligation, initiated, token, hasToken, valid⟩,
        session, ⟨call, present, competes, isResult⟩,
        hasToken.trans (congrArg some isToken.symm)⟩
  | holding _ | started _ _ => exact answers.elim
  | reading | weighing _ _ | abandoned | rejected | astray | stopped =>
      exact owns.elim

/-- A new attempt has failed, or it leads and its call has succeeded. -/
theorem Agreeing.failed_or_leads (agreeing : Agreeing start obligation source)
    (finished : Finished obligation source.state) {row : Transaction}
    (recorded : NewAttempt start obligation source.state row) :
    row.transactionStatus = some .failed ∨
      Leads source.state.world obligation row := by
  rcases agreeing.rows row recorded.member recorded.obligation_eq with
    former | failed | ⟨caller, phase, here, owns⟩
  · exact absurd former recorded.new
  · exact .inl failed
  · exact .inr (agreeing.opened_of_owns finished recorded.member
      recorded.obligation_eq here owns).1

/-- Calls that keep out of each other's way agree. -/
theorem Agreeing.agreement (agreeing : Agreeing start obligation source)
    (free : ∀ row ∈ start.table.rows, row.obligation = obligation →
      ¬ row.Active) : SessionAgreement start obligation source.state where
  sameToken := by
    intro first second firstSession secondSession firstOpened secondOpened
    obtain ⟨row, leads, hasFirst⟩ := agreeing.leads_of_opened firstOpened
    obtain ⟨other, otherLeads, hasSecond⟩ :=
      agreeing.leads_of_opened secondOpened
    obtain rfl := leads.eq_of_active otherLeads.member
      otherLeads.obligation_eq otherLeads.active
    exact Option.some.inj (hasFirst.symm.trans hasSecond)
  oneActive := by
    intro first firstIn second secondIn firstOf secondOf firstActive
      secondActive
    exact source.state.world.table.eq_of_active firstIn secondIn firstActive
      secondActive (firstOf.trans secondOf.symm)
  settled := by
    intro finished
    by_cases led : ∃ row, Leads source.state.world obligation row
    · obtain ⟨row, leads⟩ := led
      right
      rcases agreeing.rows row leads.member leads.obligation_eq with
        former | failed | ⟨caller, phase, here, owns⟩
      · exact absurd leads.active (free row former leads.obligation_eq)
      · exact absurd (failed.symm.trans leads.initiated) (by simp)
      · obtain ⟨_, session, opened, hasToken⟩ := agreeing.opened_of_owns
          finished leads.member leads.obligation_eq here owns
        refine ⟨caller, session, opened, row, leads.member,
          leads.obligation_eq, leads.initiated, hasToken, ?_, ?_⟩
        · intro other otherIn isObligation initiated
          exact leads.eq_of_active otherIn isObligation
            ((Transaction.active_iff initiated).mpr (by decide))
        · intro other recorded different
          rcases agreeing.failed_or_leads finished recorded with
            failed | otherLeads
          · exact failed
          · exact absurd (leads.eq_of_active otherLeads.member
              otherLeads.obligation_eq otherLeads.active) different
    · left
      constructor
      · intro caller session opened
        obtain ⟨row, leads, _⟩ := agreeing.leads_of_opened opened
        exact led ⟨row, leads⟩
      · intro row recorded
        rcases agreeing.failed_or_leads finished recorded with failed | leads
        · exact failed
        · exact absurd ⟨row, leads⟩ led

/--
From a store without an active row of the obligation, in every concurrent run
of any number of `initPayment` calls for it, in every state of the run, the
calls agree on one session.
-/
theorem initPayment_agrees {state : PortalState}
    (free : ∀ row ∈ start.table.rows, row.obligation = obligation →
      ¬ row.Active)
    (reaches : (portal config).Reaches (Concurrent config obligation)
      (.initial start) state) : SessionAgreement start obligation state := by
  obtain ⟨competition, rfl, agreeing⟩ := Machine.exists_invariant .stopped
    portal_opens (agreeing_initial start obligation)
    (fun _ _ agreeing step => agreeing.step free step) reaches
  exact agreeing.agreement free

/-! ## A sample run -/

/-- The token that a call has returned, if it has returned one. -/
def returnedToken? (call : Call Op Reply Request Outcome) : Option String :=
  match call.result? with
  | some (.ok (.session session)) => some session.token
  | _ => none

/--
Two calls look at once, one of them is rejected by the index and the other one
is refused by Pay.gov; a third call opens a session and a fourth one finds it.
-/
def competingCalls : List PortalMove :=
  [.arrive (.initPayment sampleClient sampleOrder),
    .arrive (.initPayment sampleClient sampleOrder)] ++
  meets 0 [.read, .executed []] ++ meets 1 [.read, .executed []] ++
  meets 0 [.generated "A1", .executed []] ++
  meets 1 [.generated "A2", .executed [], .executed []] ++
  meets 0 [.executed [], .refused .schemaViolation .delivered, .executed [],
    .executed []] ++
  initiates 2 "A3" firstToken ++
  .arrive (.initPayment sampleClient sampleOrder) ::
    meets 3 [.read, .executed [], .read]

/-- The last two calls of the sample run return one token. -/
theorem initPayment_agrees_sample : ∃ state,
    (portal sampleConfig).replay
      (Concurrent sampleConfig ⟨"dawson", "ref"⟩) competingCalls
      (.initial (World.fresh sampleNow)) = some state ∧
    state.calls.map returnedToken? =
      [none, none, some firstToken, some firstToken] ∧
    state.world.table.rows.map Transaction.transactionStatus =
      [some .failed, some .initiated] ∧
    SessionAgreement (World.fresh sampleNow) ⟨"dawson", "ref"⟩ state := by
  have replayed : (((portal sampleConfig).replay
      (Concurrent sampleConfig ⟨"dawson", "ref"⟩) competingCalls
      (.initial (World.fresh sampleNow))).map fun state =>
        (state.calls.map returnedToken?,
          state.world.table.rows.map Transaction.transactionStatus)) =
      some ([none, none, some firstToken, some firstToken],
        [some .failed, some .initiated]) := by
    decide
  obtain ⟨state, reached, found⟩ := Option.map_eq_some_iff.mp replayed
  obtain ⟨tokens, statuses⟩ := Prod.mk.inj found
  refine ⟨state, reached, tokens, statuses, ?_⟩
  apply initPayment_agrees _ (Machine.reaches_of_replay reached)
  exact fun row member => absurd member (by simp [World.fresh, Table.empty])

end PaymentPortal.Guarantees
