import PaymentPortal.Guarantees.Refresh
import PaymentPortal.Protocol.Consulted

/-!
# Row shape and failed calls of getDetails

In every reachable state the status of a row tells which of its token and its
tracking id it has.  So at most one row of a transaction reference is ever
eligible for a refresh: a `getDetails` call asks Pay.gov one query at most, and
one that throws has changed nothing, unless a statement of it failed behind a
commit.
-/

namespace PaymentPortal.Guarantees

open PaymentPortal.Interaction
open PaymentPortal.Model
open PaymentPortal.Protocol

/-- The shape of a row in its status. -/
structure Shaped (row : Transaction) : Prop where
  tracked : row.paygovTrackingId ≠ none →
    row.transactionStatus = some .pending ∨
      row.transactionStatus = some .processed ∨
      row.transactionStatus = some .failed
  answered : row.transactionStatus = some .pending ∨
      row.transactionStatus = some .processed →
    row.paygovToken ≠ none ∧ row.paygovTrackingId ≠ none
  unanswered : row.transactionStatus = some .initiated ∨
      row.transactionStatus = some .processing ∨
      row.transactionStatus = some .cancelled →
    row.paygovToken ≠ none ∧ row.paygovTrackingId = none

/--
Pay.gov was asked at most one query: a single HTTP attempt or retries of it, of
which only the newest can have been answered.
-/
structure OneQuery (trace : List LogEntry) : Prop where
  same : ∃ tcsAppId trackingId, ∀ entry ∈ attempts trace,
    entry.op = .fetch (.getDetails tcsAppId trackingId)
  bounded : (attempts trace).length ≤ PAYGOV_MAX_ATTEMPTS
  retried : ∀ entry ∈ (attempts trace).tail, isAnswered entry = false

/-- The caller is a `getDetails` call. -/
def AsksDetails (state : PortalState) (caller : Nat) : Prop :=
  ∃ client order, requestOf? state caller = some (.getDetails client order)

/-- The call has ended with an error. -/
def HasThrown (state : PortalState) (caller : Nat) : Prop :=
  ∃ error, state.calls[caller]? >>= Call.result? = some (.error error)

variable {config : Config} {now : Int} {state : PortalState}

/-- Coherent rows have the shape of their status. -/
theorem shaped_of_coherent {world : World} {row : Transaction}
    (coherent : Coherent config world row) : Shaped row where
  tracked := coherent.untracked
  answered := by
    intro paid
    refine ⟨?_, coherent.tracked paid⟩
    rcases paid with status | status <;>
      exact coherent.token (by simp [status]) (by simp [status])
  unanswered := by
    intro unpaid
    constructor
    · rcases unpaid with status | status | status <;>
        exact coherent.token (by simp [status]) (by simp [status])
    · by_contra tracked
      have answered := coherent.untracked tracked
      rcases unpaid with status | status | status <;>
        exact absurd answered (by simp [Answered, status])

theorem oneQuery_of_consulted {trace : List LogEntry}
    (consulted : Consulted config trace) : OneQuery trace := by
  rcases consulted with unasked | ⟨query, asked⟩
  · constructor
    · exact ⟨"", "", by simp [unasked]⟩
    · simp [unasked]
    · simp [unasked]
  · exact ⟨⟨_, _, asked.same⟩, asked.bounded, asked.retried⟩

/-- A call that ends with an error has changed nothing, or not unnoticed. -/
theorem idle_of_concludes {trace : List LogEntry} {phase : Consultation}
    {request : Request} {error : PortalError}
    (remembered : Remembered config trace phase)
    (concluded : concludes request phase (.error error)) :
    Idle trace ∨ ∃ entry ∈ trace, FailsCommitted entry := by
  cases remembered with
  | reading unasked idle => exact .inl idle
  | surveyed surveyed unasked idle => exact .inl idle
  | stopped consulted => exact concluded.elim
  | @asking query progress asked unanswered effect =>
      cases progress with
      | unanswered | rejected | missed => exact .inl effect
      | unstored => exact effect
      | unread => exact .inr effect
      | lost => exact effect.elim
      | answered result | written => exact concluded.elim
      | returned =>
          obtain ⟨response, impossible⟩ := concluded
          exact absurd impossible (by simp)

/--
In every reachable state all rows have the shape of their status, every
`getDetails` call has asked Pay.gov at most one query, and one that has thrown
has left the world as it was, unless a statement of it failed behind a commit:
the same run without the call leads to the same world.
-/
theorem details_throw_unchanged
    (reaches : Reachable config Machine.Unrestricted now state) :
    (∀ row ∈ state.world.table.rows, Shaped row) ∧
      ∀ caller, AsksDetails state caller →
        OneQuery (state.trace caller) ∧
          (HasThrown state caller →
            (∀ entry ∈ state.trace caller, ¬ FailsCommitted entry) →
              Idle (state.trace caller) ∧
                Reachable config Machine.Unrestricted now
                  (state.without (portal config) caller)) := by
  constructor
  · obtain ⟨annotated, rfl, sound⟩ := exists_sound reaches
    intro row member
    exact shaped_of_coherent (sound.rows row member)
  · obtain ⟨phased, same, traced⟩ := exists_remembered reaches
    subst same
    rintro caller ⟨client, order, isDetails⟩
    obtain ⟨⟨_, _⟩, present, rfl⟩ := Option.map_eq_some_iff.mp isDetails
    obtain ⟨phase, holds⟩ := phased.exists_phase present
    have remembered := traced.holds caller _ phase present holds client order rfl
    refine ⟨oneQuery_of_consulted remembered.consulted, ?_⟩
    rintro ⟨error, threw⟩ uncommitted
    have concluded : concludes (.getDetails client order) phase
        (.error error) := by
      rw [present] at threw
      exact phased.conforms_done present threw holds phase rfl
    have idle : Idle (phased.state.trace caller) := by
      rcases idle_of_concludes remembered concluded with
        idle | ⟨entry, member, fails⟩
      · exact idle
      · exact absurd fails (uncommitted entry member)
    refine ⟨idle, Machine.reaches_without reaches fun entry member own => ?_⟩
    exact idle entry (State.mem_trace.mpr ⟨member, own⟩)

/-- A `getDetails` call that does not reach Pay.gov in either attempt. -/
def unreachedRefresh : List PortalMove :=
  settlingPayment ++ .arrive (.getDetails sampleClient ⟨"ref"⟩) :: meets 2 [
    .executed [], .unreached ⟨"FetchError", false⟩,
    .unreached ⟨"FetchError", false⟩]

/-- The call has thrown after two attempts and without a failed statement. -/
def UnreachedTwice (state : PortalState) : Prop :=
  requestOf? state 2 = some (.getDetails sampleClient ⟨"ref"⟩) ∧
    state.calls[2]? >>= Call.result? =
      some (.error (.payGov GetDetails.PAYGOV_RETRY_MESSAGE 500)) ∧
    (attempts (state.trace 2)).length = 2 ∧
    ∀ entry ∈ state.trace 2, isFailed entry = false

instance (state : PortalState) : Decidable (UnreachedTwice state) :=
  inferInstanceAs (Decidable (_ ∧ _ ∧ _ ∧ ∀ _ ∈ _, _))

/-- The sample call throws; without it the run leads to the same world. -/
theorem details_throw_unchanged_sample : ∃ state,
    (portal sampleConfig).replay Machine.Unrestricted unreachedRefresh
      (.initial (World.fresh sampleNow)) = some state ∧
    HasThrown state 2 ∧ (attempts (state.trace 2)).length = 2 ∧
    OneQuery (state.trace 2) ∧ Idle (state.trace 2) ∧
    Reachable sampleConfig Machine.Unrestricted sampleNow
      (state.without (portal sampleConfig) 2) := by
  have replayed : (((portal sampleConfig).replay Machine.Unrestricted
      unreachedRefresh (.initial (World.fresh sampleNow))).map fun state =>
        decide (UnreachedTwice state)) = some true := by
    decide
  obtain ⟨state, reached, decided⟩ := Option.map_eq_some_iff.mp replayed
  obtain ⟨isDetails, threw, twice, unfailed⟩ := of_decide_eq_true decided
  have unchanged := (details_throw_unchanged
    (Machine.reaches_of_replay reached)).2 2 ⟨_, _, isDetails⟩
  obtain ⟨oneQuery, without⟩ := unchanged
  obtain ⟨idle, reachable⟩ := without ⟨_, threw⟩ fun entry member fails =>
    absurd fails.failed (by simp [unfailed entry member])
  exact ⟨state, reached, ⟨_, threw⟩, twice, oneQuery, idle, reachable⟩

end PaymentPortal.Guarantees
