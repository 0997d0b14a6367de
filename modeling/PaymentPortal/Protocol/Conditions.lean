import PaymentPortal.Protocol.Invariant

/-!
# What a move may do to a payment

The moves that decide about a payment are the failure writes, the guarded
writes and the completions that Pay.gov accepts.  `fails?`, `marks?`, `guards?`
and `accepts?` recognise them by the operation and its fate, so that a
condition on a run can speak about the move and the state before it.
-/

namespace PaymentPortal.Protocol

open PaymentPortal.Interaction
open PaymentPortal.Model

/-- The row that a failure write takes effect on. -/
def fails? : Op → Fate → Option String
  | .db (.updateToFailed id _ _), .executed _ => some id
  | .db (.updateToFailed id _ _), .replyLost _ => some id
  | _, _ => none

/-- The token whose completion Pay.gov accepts, whether paid or settling. -/
def accepts? : Op → Fate → Option String
  | .fetch (.completeOnlineCollectionWithDetails _ token),
      .completed response _ =>
      if parseTransactionStatus response.transaction_status = .failed then none
      else some token
  | _, _ => none

/-- The statement is executed, and its reply arrives. -/
def isExecuted : Fate → Bool
  | .executed _ => true
  | _ => false

/-- The statement takes effect, whether its reply arrives or not. -/
def isCommitted : Fate → Bool
  | .executed _ => true
  | .replyLost _ => true
  | _ => false

/-- The row of a failure write. -/
def marks? : Op → Option String
  | .db (.updateToFailed id _ _) => some id
  | _ => none

/-- The row of a guarded write, and the status it expects. -/
def guards? : Op → Option (String × TransactionStatus)
  | .db (.updateAfterPayGovResponseIf id _ expected) => some (id, expected)
  | _ => none

/-- The answer that a guarded write stores. -/
def guardedPatch? : Op → Option PayGovResponsePatch
  | .db (.updateAfterPayGovResponseIf _ patch _) => some patch
  | _ => none

/-- The answer to a completion arrives and passes its response schema. -/
def isDelivered (formats : XmlFormats) : Fate → Bool
  | .completed response .delivered =>
      decide (responseText formats response.soap ≠ .schemaViolation)
  | _ => false

variable {config : Config} {formats : XmlFormats} {fate : Fate}
variable {before after : World}

theorem exists_locked (isExecuted : isExecuted fate = true) :
    ∃ locked, fate = .executed locked := by
  cases fate with
  | executed locked => exact ⟨locked, rfl⟩
  | read | chosen _ | generated _ | failed _ | replyLost _ | unreached _
  | refused _ _ | issued _ _ | completed _ _ | reported _ _ _ _ _ _ =>
      exact absurd isExecuted (by simp [Protocol.isExecuted])

/-- A statement that is not committed leaves the world alone. -/
theorem same_of_uncommitted {statement : Statement}
    {reply : Reply (.db statement)}
    (executed : exec formats (.db statement) fate before = some (reply, after))
    (uncommitted : isCommitted fate = false) : after = before := by
  cases statementStep_of_execStatement executed with
  | returned _ _ _ isExecuted _ =>
      exact absurd uncommitted (by simp [isExecuted, isCommitted])
  | rejected _ _ _ _ => rfl
  | failed _ _ => rfl
  | replyLost _ _ _ isLost _ =>
      exact absurd uncommitted (by simp [isLost, isCommitted])

/-- A failure write without effect leaves the world alone. -/
theorem same_of_fails? {id : String} {code : Option Int}
    {detail : Option String}
    {reply : Reply (.db (.updateToFailed id code detail))}
    (executed : exec formats (.db (.updateToFailed id code detail)) fate
      before = some (reply, after))
    (ineffective : fails? (.db (.updateToFailed id code detail)) fate ≠
      some id) : after = before := by
  apply same_of_uncommitted executed
  cases fate <;> first | rfl | exact absurd rfl ineffective

/-- A guarded write that finds another status matches no row. -/
theorem outrun_of_exec {id : String} {patch : PayGovResponsePatch}
    {expected : TransactionStatus}
    {reply : Reply (.db (.updateAfterPayGovResponseIf id patch expected))}
    (isExecuted : isExecuted fate = true)
    (left : ∀ row ∈ before.table.rows, row.agencyTrackingId = id →
      row.transactionStatus ≠ some expected)
    (executed : exec formats
      (.db (.updateAfterPayGovResponseIf id patch expected)) fate before =
        some (reply, after)) :
    reply = .ok none ∧ after.table = before.table := by
  obtain ⟨locked, rfl⟩ := exists_locked isExecuted
  have unselected : ∀ row ∈ before.table.rows,
      hasIdAndStatus id expected row = false := by
    intro row member
    have := left row member
    simp only [hasIdAndStatus, Bool.and_eq_false_iff, beq_eq_false_iff_ne]
    tauto
  have empty : before.table.rows.filter (hasIdAndStatus id expected) = [] :=
    List.filter_eq_nil_iff.mpr fun row member => by
      simp [unselected row member]
  simp only [exec, execStatement, Statement.run, Table.updateReturning,
    Table.update?_of_unselected unselected, empty, List.map_nil,
    List.head?_nil, Option.some.injEq, Prod.mk.injEq] at executed
  obtain ⟨rfl, rfl⟩ := executed
  exact ⟨rfl, rfl⟩

/-- A guarded write of a covered status is executed without a conflict. -/
theorem ne_error_of_exec {id : String} {patch : PayGovResponsePatch}
    {expected : TransactionStatus}
    {reply : Reply (.db (.updateAfterPayGovResponseIf id patch expected))}
    (covered : expected ∈ Transaction.COVERED_STATUSES)
    (isExecuted : isExecuted fate = true)
    (executed : exec formats
      (.db (.updateAfterPayGovResponseIf id patch expected)) fate before =
        some (reply, after)) (error : SqlState) :
    reply ≠ .error error := by
  obtain ⟨locked, rfl⟩ := exists_locked isExecuted
  have active : ∀ row ∈ before.table.rows,
      hasIdAndStatus id expected row = true →
        (payGovResponsePatch patch row).Active → row.Active := by
    intro row member selected _
    have found : row.transactionStatus = some expected := by
      simpa [hasIdAndStatus] using (Bool.and_eq_true_iff.mp selected).2
    exact List.any_eq_true.mpr ⟨expected, covered, by simp [found]⟩
  obtain ⟨table, updated⟩ : ∃ table, before.table.update? before.now
      (hasIdAndStatus id expected) (payGovResponsePatch patch) = some table :=
    Table.exists_update? (fun _ => rfl) (fun _ => rfl) active
  simp only [exec, execStatement, Statement.run, Table.updateReturning,
    updated, Option.some.injEq, Prod.mk.injEq] at executed
  rintro rfl
  exact absurd executed.1 (by simp)

/-- What an operation adds to the completions, and with which fate. -/
theorem completions_of_exec {op : Op} {reply : Reply op}
    (executed : exec formats op fate before = some (reply, after)) :
    after.payGov.completions = before.payGov.completions ∨
      ∃ tcsAppId token response delivery,
        op = .fetch (.completeOnlineCollectionWithDetails tcsAppId token) ∧
          fate = .completed response delivery ∧
          after.table = before.table ∧
          after.payGov.completions =
            ⟨token, response.paygov_tracking_id,
              response.transaction_status⟩ :: before.payGov.completions := by
  cases op with
  | now | pick | generateAgencyTrackingId =>
      left
      rw [same_of_passive (by trivial) executed]
  | db statement =>
      obtain ⟨_, payGov, _⟩ := tableStep_of_execStatement executed
      left
      rw [payGov]
  | fetch soap =>
      rcases fetchStep_of_execFetch executed with
        rfl | ⟨params, token, payGov, rfl, issues, rfl⟩ |
          ⟨tcsAppId, token, response, delivery, payGov, rfl, rfl, completes,
            rfl⟩
      · exact .inl rfl
      · exact .inl (PayGov.issued_of_issue? issues).2.1
      · exact .inr ⟨tcsAppId, token, response, delivery, rfl, rfl, rfl,
          (PayGov.completions_of_complete? completes).2.1⟩

/-- A token is accepted because it was before, or by this very operation. -/
theorem accepted_of_exec {op : Op} {reply : Reply op} {token : String}
    (executed : exec formats op fate before = some (reply, after))
    (accepted : after.payGov.Accepted token) :
    before.payGov.Accepted token ∨
      (accepts? op fate = some token ∧ after.table = before.table) := by
  obtain ⟨completion, member, isToken, unfailed⟩ := accepted
  rcases completions_of_exec executed with
    same | ⟨tcsAppId, other, response, delivery, rfl, rfl, sameTable, added⟩
  · exact .inl ⟨completion, same ▸ member, isToken, unfailed⟩
  · rcases List.mem_cons.mp (added ▸ member) with rfl | old
    · refine .inr ⟨?_, sameTable⟩
      have notFailed :
          parseTransactionStatus response.transaction_status ≠ .failed :=
        unfailed
      rw [accepts?, if_neg notFailed]
      exact congrArg some isToken
    · exact .inl ⟨completion, old, isToken, unfailed⟩

theorem op_of_accepts? {op : Op} {token : String}
    (accepts : accepts? op fate = some token) :
    ∃ tcsAppId,
      op = .fetch (.completeOnlineCollectionWithDetails tcsAppId token) := by
  unfold accepts? at accepts
  split at accepts
  · rename_i tcsAppId completed response delivery
    split at accepts
    · exact absurd accepts (by simp)
    · obtain rfl := Option.some.inj accepts
      exact ⟨tcsAppId, rfl⟩
  · exact absurd accepts (by simp)

/-- A token that is accepted belongs to the row the request has claimed. -/
theorem exists_claimed_of_accepts? {op : Op} {reply : Reply op}
    {request : Request} {stage next : Stage} {token : String}
    (knows : Knows before request stage)
    (permitted : Permitted config request stage op reply next)
    (accepts : accepts? op fate = some token) :
    ∃ row ∈ before.table.rows, row.paygovToken = some token ∧ row.Claimed := by
  obtain ⟨tcsAppId, rfl⟩ := op_of_accepts? accepts
  obtain ⟨row, _, holding, hasToken⟩ := holding_of_completion knows permitted
  obtain ⟨current, member, evolves⟩ := holding.seen
  exact ⟨current, member, evolves.token token hasToken,
    (Transaction.claimed_of_processing holding.processing).of_evolves evolves⟩

/-- Nothing is accepted while nobody performs an operation. -/
theorem accepted_of_drift {change : Drift} {token : String}
    (drifted : drift change before = some after)
    (accepted : after.payGov.Accepted token) :
    before.payGov.Accepted token ∧ after.table = before.table := by
  cases change with
  | tick ms =>
      obtain rfl := Option.some.inj drifted
      exact ⟨accepted, rfl⟩
  | settle trackingId status =>
      obtain rfl := Option.some.inj drifted
      obtain ⟨completion, member, isToken, unfailed⟩ := accepted
      obtain ⟨old, oldIn, rfl⟩ := List.mem_map.mp member
      refine ⟨⟨old, oldIn, by simpa using isToken, fun failed => ?_⟩, rfl⟩
      have kept := PayGov.settleOne_outcome trackingId status old
        (by simp [failed])
      exact unfailed (kept.trans failed)

/-! ## Rows with an accepted token -/

/-- The statuses of a row whose token Pay.gov may have accepted. -/
def Underway (row : Transaction) : Prop :=
  row.transactionStatus = some .processing ∨
    row.transactionStatus = some .pending ∨
    row.transactionStatus = some .processed

theorem Underway.active {row : Transaction} (underway : Underway row) :
    row.Active := by
  rcases underway with status | status | status <;>
    exact (Transaction.active_iff status).mpr (by decide)

/-- What is reported for an accepted token is not a failure. -/
theorem Records.unfailed {payGov : PayGov} {token : String}
    {patch : PayGovResponsePatch} (records : Records payGov token patch)
    (accepted : payGov.Accepted token) :
    patch.transactionStatus = .pending ∨
      patch.transactionStatus = .processed := by
  obtain ⟨status, ⟨completion, member, isToken, _, outcome⟩, isStatus⟩ :=
    records.reported
  obtain ⟨other, otherIn, otherToken, unfailed⟩ := accepted
  obtain rfl := payGov.completion_eq member otherIn
    (isToken.trans otherToken.symm)
  rcases records.status_cases with pending | processed | failed
  · exact .inl pending
  · exact .inr processed
  · rcases outcome with pending | same
    · exact absurd ((isStatus.trans pending).symm.trans failed) (by simp)
    · exact absurd (same.trans (isStatus.symm.trans failed)) unfailed

/-- Only a failure write takes a row with an accepted token out of the way. -/
theorem Rewrites.underway {config : Config} {world : World}
    {owner : String → Prop} {statement : Statement}
    {row changed : Transaction} {token : String}
    (rewrites : Rewrites config world owner statement row changed)
    (hasToken : row.paygovToken = some token)
    (accepted : world.payGov.Accepted token) (underway : Underway row) :
    Underway changed ∨ ∃ code detail,
      statement = .updateToFailed row.agencyTrackingId code detail := by
  cases rewrites with
  | activated isId owned received valid issued =>
      exact absurd underway (by simp [Underway, received])
  | refreshed isId rowToken tracked records =>
      obtain rfl := Option.some.inj (rowToken.symm.trans hasToken)
      left
      rcases records.unfailed accepted with status | status <;>
        simp [Underway, payGovResponsePatch, status]
  | stored isId rowToken processing records =>
      obtain rfl := Option.some.inj (rowToken.symm.trans hasToken)
      left
      rcases records.unfailed accepted with status | status <;>
        simp [Underway, payGovResponsePatch, status]
  | claimed rowToken claimable resolves => exact .inl (.inl rfl)
  | failed isId guarded => exact .inr ⟨_, _, by rw [isId]⟩
  | swept initiated expired =>
      exact absurd underway (by simp [Underway, initiated])
  | cancelled isId initiated expired =>
      exact absurd underway (by simp [Underway, initiated])

end PaymentPortal.Protocol
