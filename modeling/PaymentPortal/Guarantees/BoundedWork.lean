import PaymentPortal.Guarantees.StatusPairs
import PaymentPortal.Protocol.History
import PaymentPortal.Protocol.UseCases.Work

/-!
# Bounded work

No request can be driven into unbounded traffic, whatever the other requests
do and whatever fails: the retry loop of `postHttpRequest` is the only loop
around Pay.gov, and every query of a use case is made a fixed number of times.
Only the refresh of `getDetails` grows with the rows that it reads.
-/

namespace PaymentPortal.Guarantees

open PaymentPortal.Interaction
open PaymentPortal.Model
open PaymentPortal.Model.GetDetails
open PaymentPortal.Protocol

/-- The operation is one HTTP request to Pay.gov. -/
def isPayGovCall : Op → Bool
  | .fetch _ => true
  | _ => false

/--
How many statements an operation sends at most.  The claim is a transaction:
`BEGIN`, the locking read, the read of the siblings, the update with the read of
the updated row, `COMMIT`.
-/
def statementsSent : Op → Nat
  | .db (.claimForProcessing _) => 6
  | .db _ => 1
  | _ => 0

/-- How many requests to Pay.gov a trace holds. -/
def payGovCalls (trace : List LogEntry) : Nat :=
  trace.countP fun entry => isPayGovCall entry.op

/-- How many statements the operations of a trace send at most. -/
def statements (trace : List LogEntry) : Nat :=
  (trace.map fun entry => statementsSent entry.op).sum

/-- How many rows of the queries for a reference id are to be refreshed. -/
def rowsToRefresh (trace : List LogEntry) : Nat :=
  (trace.map fun entry => (rowsRead entry.op entry.reply).countP
    fun row => (refreshId row).isSome).sum

theorem rowsToRefresh_cons (entry : LogEntry) (trace : List LogEntry) :
    rowsToRefresh (entry :: trace) = (rowsRead entry.op entry.reply).countP
      (fun row => (refreshId row).isSome) + rowsToRefresh trace := by
  rw [rowsToRefresh, List.map_cons, List.sum_cons, rowsToRefresh]

/-- How often a request may do what. -/
structure WorkLimit where
  attempts : Nat
  statements : Nat
  deriving DecidableEq, Repr

/-- The limits of a request that has read `rows` rows to refresh. -/
def workLimit (rows : Nat) : Request → WorkLimit
  | .initPayment .. => ⟨2, 8⟩
  | .processPayment .. => ⟨2, 10⟩
  | .getDetails .. => ⟨2 * rows, 1 + 2 * rows⟩
  | .cancelExpiredTransactions => ⟨0, 1⟩

/-- What the queries for a reference id grant. -/
theorem granted_refreshes (rates : Rates) (trace : List LogEntry) :
    (Tariff.mk rates.cost rates.refreshes).granted trace =
      rowsToRefresh trace *
        (PAYGOV_MAX_ATTEMPTS * rates.attempt + 2 * rates.statement) := by
  induction trace with
  | nil => simp [Tariff.granted, rowsToRefresh]
  | cons entry rest ih =>
      rw [Tariff.granted_cons, ih, rowsToRefresh_cons, Nat.add_mul]
      exact congrArg (· + _) (rates.sum_refresh _)

/--
At any rates the calls of a run stay within the allowance of their requests and
what their reads grant.
-/
theorem spent_le {config : Config} {now : Int} {state : PortalState}
    {allowed : PortalState → PortalMove → Prop} (rates : Rates)
    (reaches : Reachable config allowed now state)
    {caller : Nat} {call : Call Op Reply Request Outcome}
    (present : state.calls[caller]? = some call) :
    (Tariff.mk rates.cost rates.refreshes).spent (state.trace caller) ≤
      rates.allowance call.request +
        (rates.tariff call.request).granted (state.trace caller) := by
  have bounded := Machine.spent_le_of_reaches (within_allowance rates config)
    reaches present
  cases requested : call.request <;> rwa [requested] at bounded

/-- With a price on the attempts only these are counted. -/
theorem spent_attempts (grant : (op : Op) → Reply op → Nat)
    (trace : List LogEntry) :
    (Tariff.mk (Rates.cost ⟨0, 0, 0, 1⟩) grant).spent trace =
      payGovCalls trace := by
  refine Tariff.spent_eq_countP _ (fun op => ?_) trace
  rcases op with _ | _ | _ | statement | _
  case db => cases statement <;> rfl
  all_goals rfl

/-- The rates of the statements: a claim is six of them. -/
theorem spent_statements (grant : (op : Op) → Reply op → Nat)
    (trace : List LogEntry) :
    (Tariff.mk (Rates.cost ⟨0, 1, 6, 0⟩) grant).spent trace =
      statements trace := by
  have priced : Rates.cost ⟨0, 1, 6, 0⟩ = statementsSent := by
    funext op
    rcases op with _ | _ | _ | statement | _
    case db => cases statement <;> rfl
    all_goals rfl
  rw [Tariff.spent, priced, statements]

/--
In every run every call stays within the limits of its request, of attempts to
reach Pay.gov and of statements.
-/
theorem work_bounded {config : Config} {now : Int} {state : PortalState}
    {allowed : PortalState → PortalMove → Prop}
    (reaches : Reachable config allowed now state)
    {caller : Nat} {call : Call Op Reply Request Outcome}
    (present : state.calls[caller]? = some call) :
    payGovCalls (state.trace caller) ≤ (workLimit
        (rowsToRefresh (state.trace caller)) call.request).attempts ∧
      statements (state.trace caller) ≤ (workLimit
        (rowsToRefresh (state.trace caller)) call.request).statements := by
  have attempts := spent_le ⟨0, 0, 0, 1⟩ reaches present
  have sent := spent_le ⟨0, 1, 6, 0⟩ reaches present
  rw [spent_attempts] at attempts
  rw [spent_statements] at sent
  generalize call.request = request at attempts sent
  have free : ∀ trace : List LogEntry, ∀ cost : Op → Nat,
      (Tariff.mk cost fun _ _ => 0).granted trace = 0 := by
    intro trace cost
    simp [Tariff.granted]
  cases request <;>
    simp only [Rates.allowance, Rates.tariff, free, granted_refreshes,
      workLimit, PAYGOV_MAX_ATTEMPTS] at * <;> omega

/-! ## A run that reaches the limits -/

/--
A payment that dies in its claim, and ten minutes later a request that retires
it, starts a session with a retry and cannot store the token.  The next session
is completed with a retry, and the answer cannot be stored.
-/
def busyRun : List PortalMove :=
  initiates 0 "A1" firstToken ++ claims 1 firstToken ++
    [.crash 1, .drift (.tick 600000),
      .arrive (.initPayment sampleClient sampleOrder)] ++
    meets 2 [.read, .executed [], .read, .read, .executed [], .executed [],
      .generated "A2", .executed [], .executed [],
      .unreached ⟨"FetchError", false⟩, .issued secondToken .delivered,
      .failed (.other "08006"), .executed [], .executed []] ++
    initiates 3 "A3" thirdToken ++ claims 4 thirdToken ++
    meets 4 [.unreached ⟨"FetchError", false⟩,
      .completed (sampleResponse "P1" .Success) .delivered,
      .failed (.other "08006"), .executed [], .executed []]

/--
The third call of the sample run exhausts the limits of `initPayment`, the fifth
those of `processPayment`.
-/
theorem work_bounded_sample : ∃ state initiating processing,
    (portal sampleConfig).replay Machine.Unrestricted busyRun
      (.initial (World.fresh sampleNow)) = some state ∧
    state.calls[2]? = some initiating ∧ state.calls[4]? = some processing ∧
    initiating.result?.isSome = true ∧ processing.result?.isSome = true ∧
    payGovCalls (state.trace 2) = 2 ∧ statements (state.trace 2) = 8 ∧
    payGovCalls (state.trace 4) = 2 ∧ statements (state.trace 4) = 10 ∧
    statements (state.trace 2) ≤ (workLimit
        (rowsToRefresh (state.trace 2)) initiating.request).statements ∧
    statements (state.trace 4) ≤ (workLimit
        (rowsToRefresh (state.trace 4)) processing.request).statements := by
  have replayed : (((portal sampleConfig).replay Machine.Unrestricted busyRun
      (.initial (World.fresh sampleNow))).bind fun state =>
        state.calls[2]?.bind fun initiating =>
          state.calls[4]?.map fun processing =>
            (initiating.result?.isSome, processing.result?.isSome,
              payGovCalls (state.trace 2), statements (state.trace 2),
              payGovCalls (state.trace 4), statements (state.trace 4))) =
      some (true, true, 2, 8, 2, 10) := by
    decide +kernel
  obtain ⟨state, reached, found⟩ := Option.bind_eq_some_iff.mp replayed
  obtain ⟨initiating, second, found⟩ := Option.bind_eq_some_iff.mp found
  obtain ⟨processing, fourth, counted⟩ := Option.map_eq_some_iff.mp found
  simp only [Prod.mk.injEq] at counted
  obtain ⟨ended, served, attempts, sent, others, more⟩ := counted
  have reaches := Machine.reaches_of_replay reached
  exact ⟨state, initiating, processing, reached, second, fourth, ended, served,
    attempts, sent, others, more, (work_bounded reaches second).2,
    (work_bounded reaches fourth).2⟩

end PaymentPortal.Guarantees
