import PaymentPortal.Model.Portal

/-!
# What a statement changes

`Changes` says for each statement which rows it may change and what it makes of
them; `TableStep` says it of the whole table.  Everything later modules know
about the writers is derived from these two.
-/

namespace PaymentPortal.Protocol

open PaymentPortal.Model

/-- A row that a claim may flip at the instant `now`. -/
structure Claimable (now : Int) (row : Transaction) : Prop where
  status : row.transactionStatus = some .initiated ∨
    (row.transactionStatus = some .processing ∧
      PROCESSING_STALE_MS ≤ now - row.lastUpdatedAt)
  age : now - row.createdAt ≤ MAX_TOKEN_AGE_MS

/-- `Changes now statement row changed`: it makes `changed` of `row`. -/
inductive Changes (now : Int) :
    Statement → Transaction → Transaction → Prop where
  | activated {row : Transaction} {id paygovToken : String}
      (isId : row.agencyTrackingId = id) :
      Changes now (.updateToInitiated id paygovToken) row
        (set_last_updated_at now row (initiatedPatch paygovToken row))
  | refreshed {row : Transaction} {id : String} {patch : PayGovResponsePatch}
      (isId : row.agencyTrackingId = id) :
      Changes now (.updateAfterPayGovResponse id patch) row
        (set_last_updated_at now row (payGovResponsePatch patch row))
  | stored {row : Transaction} {id : String} {patch : PayGovResponsePatch}
      {expected : TransactionStatus} (isId : row.agencyTrackingId = id)
      (found : row.transactionStatus = some expected) :
      Changes now (.updateAfterPayGovResponseIf id patch expected) row
        (set_last_updated_at now row (payGovResponsePatch patch row))
  | claimed {row : Transaction} {paygovToken : String}
      (hasToken : row.paygovToken = some paygovToken)
      (claimable : Claimable now row) :
      Changes now (.claimForProcessing paygovToken) row
        (set_last_updated_at now row (processingPatch row))
  | failed {row : Transaction} {id : String} {code : Option Int}
      {detail : Option String} (isId : row.agencyTrackingId = id) :
      Changes now (.updateToFailed id code detail) row
        (set_last_updated_at now row (failedPatch code detail row))
  | swept {row : Transaction} {limit : Nat}
      (initiated : row.transactionStatus = some .initiated)
      (expired : MAX_TOKEN_AGE_MS < now - row.createdAt) :
      Changes now (.cancelExpiredBatch limit) row
        (set_last_updated_at now row (cancelledPatch row))
  | cancelled {row : Transaction} {id : String}
      (isId : row.agencyTrackingId = id)
      (initiated : row.transactionStatus = some .initiated) :
      Changes now (.updateToCancelled id) row
        (set_last_updated_at now row (cancelledPatch row))

/-- What a statement makes of the table. -/
inductive TableStep (now : Int) (statement : Statement)
    (before after : Table) : Prop where
  | inserted (data : ReceivedTransactionParams)
      (is_insert : statement = .createReceived data)
      (fresh : ∀ row ∈ before.rows,
        row.agencyTrackingId ≠ data.agencyTrackingId)
      (rows_eq : after.rows = before.rows ++ [receivedRow now data])
  | mapped (change : Transaction → Transaction)
      (rows_eq : after.rows = before.rows.map change)
      (changes : ∀ row ∈ before.rows,
        change row = row ∨ Changes now statement row (change row))

theorem TableStep.same (now : Int) (statement : Statement) (table : Table) :
    TableStep now statement table table :=
  .mapped id (by simp) fun _ _ => .inl rfl

/-! ## Updates -/

/-- An update changes the rows it selects and no others. -/
theorem TableStep.of_update {now : Int} {statement : Statement}
    {selects : Transaction → Bool} {patch : Transaction → Transaction}
    {before after : Table}
    (updated : before.update? now selects patch = some after)
    (changes : ∀ row ∈ before.rows, selects row = true →
      Changes now statement row (set_last_updated_at now row (patch row))) :
    TableStep now statement before after := by
  refine .mapped (Table.updateRow now selects patch)
    (Table.rows_of_update? updated) ?_
  intro row member
  by_cases selected : selects row = true
  · right
    simpa [Table.updateRow, selected] using changes row member selected
  · left
    simp [Table.updateRow, selected]

theorem TableStep.of_updateWhere {now : Int} {statement : Statement}
    {selects : Transaction → Bool} {patch : Transaction → Transaction}
    {before after : Table} {count : Nat}
    (updated : before.updateWhere now selects patch = .ok (count, after))
    (changes : ∀ row ∈ before.rows, selects row = true →
      Changes now statement row (set_last_updated_at now row (patch row))) :
    TableStep now statement before after := by
  unfold Table.updateWhere at updated
  split at updated
  · rename_i table accepted
    obtain ⟨_, rfl⟩ := Prod.mk.inj (Except.ok.inj updated)
    exact .of_update accepted changes
  · exact absurd updated (by simp)

/-! ## Inserts and sweeps -/

/-- The primary key rejects an insert of an id that is in use. -/
theorem fresh_of_insert? {now : Int} {data : ReceivedTransactionParams}
    {before after : Table}
    (inserted : before.insert? (receivedRow now data) = some after) :
    ∀ row ∈ before.rows, row.agencyTrackingId ≠ data.agencyTrackingId := by
  intro row member
  exact (Table.exists_insert?_iff.mp ⟨after, inserted⟩ row member).1

/-- A sweep picks expired `initiated` rows only. -/
theorem cancellable_of_swept {now : Int} {limit : Nat}
    {locked : List String} {table : Table} {row : Transaction}
    (member : row ∈ table.rows)
    (swept : row.agencyTrackingId ∈ table.sweepIds now limit locked) :
    row.transactionStatus = some .initiated ∧
      MAX_TOKEN_AGE_MS < now - row.createdAt := by
  obtain ⟨picked, pickedIn, sameId⟩ := List.mem_map.mp swept
  obtain ⟨selected, _⟩ := List.mem_filter.mp (List.mem_of_mem_take pickedIn)
  obtain ⟨pickedRow, cancellable⟩ := Table.mem_select.mp selected
  obtain rfl := table.eq_of_id_eq pickedRow member sameId
  obtain ⟨initiated, expired⟩ :
      picked.transactionStatus = some .initiated ∧
        picked.createdAt < now - MAX_TOKEN_AGE_MS := by
    simpa [isCancellable] using cancellable
  exact ⟨initiated, by omega⟩

/-! ## The claim -/

/-- Without a rejection the row is claimable. -/
theorem claimable_of_claimRejection? {table : Table} {now : Int}
    {paygovToken : String} {row : Transaction}
    (accepted : table.claimRejection? now paygovToken row = none) :
    Claimable now row := by
  unfold Table.claimRejection? at accepted
  split at accepted
  · exact absurd accepted (by simp)
  rename_i noSibling
  split at accepted
  · exact absurd accepted (by simp)
  rename_i notInFlight
  split at accepted
  · exact absurd accepted (by simp)
  rename_i open_
  dsimp only at accepted
  split at accepted
  · exact absurd accepted (by simp)
  rename_i young
  refine ⟨?_, not_lt.mp young⟩
  by_cases processing : row.transactionStatus = some .processing
  · right
    have stale : isStaleProcessingTransaction now row = true := by
      by_contra fresh
      exact notInFlight ⟨processing, Bool.eq_false_of_not_eq_true fresh⟩
    exact (isStaleProcessingTransaction_iff now row).mp stale
  · left
    by_contra notInitiated
    exact open_ ⟨processing, notInitiated⟩

/-- The row a query by token returns. -/
theorem find?_hasToken {table : Table} {token : String} {row : Transaction}
    (found : table.rows.find? (hasToken token) = some row) :
    row ∈ table.rows ∧ row.paygovToken = some token := by
  refine ⟨List.mem_of_find?_eq_some found, ?_⟩
  simpa [hasToken] using List.find?_some found

/-- What a claim does, and what it returns. -/
theorem claimForProcessing_cases {now : Int} {paygovToken : String}
    {before after : Table} {result : Except PortalError (Option Transaction)}
    (ran : before.claimForProcessing now paygovToken = .ok (result, after)) :
    (after = before ∧ ∀ claimed, result ≠ .ok (some claimed)) ∨
      ∃ row ∈ before.rows, row.paygovToken = some paygovToken ∧
        Claimable now row ∧
        before.update? now (hasId row.agencyTrackingId) processingPatch =
          some after ∧
        result = .ok (some
          (set_last_updated_at now row (processingPatch row))) := by
  unfold Table.claimForProcessing at ran
  split at ran
  · obtain ⟨rfl, rfl⟩ := Prod.mk.inj (Except.ok.inj ran)
    exact .inl ⟨rfl, by simp⟩
  rename_i row found
  obtain ⟨member, hasToken⟩ := find?_hasToken found
  split at ran
  · obtain ⟨rfl, rfl⟩ := Prod.mk.inj (Except.ok.inj ran)
    exact .inl ⟨rfl, by simp⟩
  rename_i accepted
  split at ran
  · rename_i table updated
    obtain ⟨rfl, rfl⟩ := Prod.mk.inj (Except.ok.inj ran)
    refine .inr ⟨row, member, hasToken,
      claimable_of_claimRejection? accepted, updated, ?_⟩
    have changed : set_last_updated_at now row (processingPatch row) ∈
        table.rows := by
      rw [Table.rows_of_update? updated]
      refine List.mem_map.mpr ⟨row, member, ?_⟩
      simp [Table.updateRow, hasId]
    have sameId : (set_last_updated_at now row
        (processingPatch row)).agencyTrackingId = row.agencyTrackingId := by
      simp [processingPatch]
    congr 2
    cases returned : table.rows.find? (hasId row.agencyTrackingId) with
    | none =>
        have missing := List.find?_eq_none.mp returned _ changed
        exact absurd sameId (by simpa [hasId] using missing)
    | some other =>
        have isId := List.find?_some returned
        refine congrArg some (table.eq_of_id_eq
          (List.mem_of_find?_eq_some returned) changed ?_)
        simpa [hasId, processingPatch] using isId
  · exact absurd ran (by simp)

/-! ## All statements -/

/-- Every statement makes a step of the table. -/
theorem tableStep_of_run {now : Int} {locked : List String}
    {before after : Table} {statement : Statement}
    {result : statement.Result}
    (ran : statement.run now locked before = .ok (result, after)) :
    TableStep now statement before after := by
  cases statement with
  | createReceived data =>
      simp only [Statement.run] at ran
      split at ran
      · rename_i table accepted
        obtain ⟨_, rfl⟩ := Prod.mk.inj (Except.ok.inj ran)
        exact .inserted data rfl (fresh_of_insert? accepted)
          (Table.rows_of_insert? accepted)
      · exact absurd ran (by simp)
  | updateToInitiated agencyTrackingId paygovToken =>
      exact .of_updateWhere ran fun row member selected =>
        .activated (by simpa [hasId] using selected)
  | findByPaygovToken token =>
      obtain ⟨_, rfl⟩ := Prod.mk.inj (Except.ok.inj ran)
      exact .same _ _ _
  | findByReferenceId transactionReferenceId =>
      obtain ⟨_, rfl⟩ := Prod.mk.inj (Except.ok.inj ran)
      exact .same _ _ _
  | findById agencyTrackingId =>
      obtain ⟨_, rfl⟩ := Prod.mk.inj (Except.ok.inj ran)
      exact .same _ _ _
  | updateAfterPayGovResponse agencyTrackingId patch =>
      exact .of_updateWhere ran fun row member selected =>
        .refreshed (by simpa [hasId] using selected)
  | updateAfterPayGovResponseIf agencyTrackingId patch expected =>
      simp only [Statement.run, Table.updateReturning] at ran
      split at ran
      · rename_i table accepted
        obtain ⟨_, rfl⟩ := Prod.mk.inj (Except.ok.inj ran)
        refine .of_update accepted fun row member selected => ?_
        obtain ⟨isId, found⟩ : row.agencyTrackingId = agencyTrackingId ∧
            row.transactionStatus = some expected := by
          simpa [hasIdAndStatus] using selected
        exact .stored isId found
      · exact absurd ran (by simp)
  | findPendingOrProcessedByReferenceId clientName transactionReferenceId =>
      obtain ⟨_, rfl⟩ := Prod.mk.inj (Except.ok.inj ran)
      exact .same _ _ _
  | claimForProcessing paygovToken =>
      rcases claimForProcessing_cases ran with
        ⟨rfl, _⟩ | ⟨row, member, hasToken, claimable, updated, _⟩
      · exact .same _ _ _
      · refine .of_update updated fun other otherIn selected => ?_
        obtain rfl : other = row :=
          before.eq_of_id_eq otherIn member (by simpa [hasId] using selected)
        exact .claimed hasToken claimable
  | findByReferenceIdAndTransactionStatus clientName transactionReferenceId
      transactionStatus =>
      obtain ⟨_, rfl⟩ := Prod.mk.inj (Except.ok.inj ran)
      exact .same _ _ _
  | updateToFailed agencyTrackingId returnCode returnDetail =>
      exact .of_updateWhere ran fun row member selected =>
        .failed (by simpa [hasId] using selected)
  | cancelExpiredBatch limit =>
      simp only [Statement.run, Table.cancelExpiredBatch] at ran
      split at ran
      · rename_i table accepted
        obtain ⟨_, rfl⟩ := Prod.mk.inj (Except.ok.inj ran)
        refine .of_update accepted fun row member selected => ?_
        obtain ⟨initiated, expired⟩ := cancellable_of_swept member
          (List.contains_iff_mem.mp selected)
        exact .swept initiated expired
      · exact absurd ran (by simp)
  | updateToCancelled agencyTrackingId =>
      refine .of_updateWhere ran fun row member selected => ?_
      obtain ⟨isId, initiated⟩ : row.agencyTrackingId = agencyTrackingId ∧
          row.transactionStatus = some .initiated := by
        simpa [hasIdAndStatus] using selected
      exact .cancelled isId initiated

/-- What a statement answers and what it makes of the world, by its fate. -/
inductive StatementStep (statement : Statement) (fate : Fate) (before : World) :
    Except SqlState statement.Result → World → Prop where
  | returned (locked : List String) (result : statement.Result) (table : Table)
      (is_executed : fate = .executed locked)
      (ran : statement.run before.now locked before.table =
        .ok (result, table)) :
      StatementStep statement fate before (.ok result)
        { before with table := table }
  | rejected (locked : List String) (error : SqlState)
      (is_executed : fate = .executed locked)
      (ran : statement.run before.now locked before.table = .error error) :
      StatementStep statement fate before (.error error) before
  | failed (error : SqlState) (is_failed : fate = .failed error) :
      StatementStep statement fate before (.error error) before
  | replyLost (error : SqlState) (result : statement.Result) (table : Table)
      (is_lost : fate = .replyLost error)
      (ran : statement.run before.now [] before.table = .ok (result, table)) :
      StatementStep statement fate before (.error error)
        { before with table := table }

section Executed

variable {statement : Statement} {fate : Fate} {before after : World}
variable {reply : Except SqlState statement.Result}

theorem statementStep_of_execStatement
    (executed : execStatement statement fate before = some (reply, after)) :
    StatementStep statement fate before reply after := by
  cases fate with
  | executed locked =>
      simp only [execStatement] at executed
      split at executed
      · rename_i result table ran
        obtain ⟨rfl, rfl⟩ := Prod.mk.inj (Option.some.inj executed)
        exact .returned locked result table rfl ran
      · rename_i error ran
        obtain ⟨rfl, rfl⟩ := Prod.mk.inj (Option.some.inj executed)
        exact .rejected locked error rfl ran
  | failed error =>
      simp only [execStatement] at executed
      split at executed
      · exact absurd executed (by simp)
      · obtain ⟨rfl, rfl⟩ := Prod.mk.inj (Option.some.inj executed)
        exact .failed error rfl
  | replyLost error =>
      simp only [execStatement] at executed
      split at executed
      · exact absurd executed (by simp)
      · split at executed
        · rename_i result table ran
          obtain ⟨rfl, rfl⟩ := Prod.mk.inj (Option.some.inj executed)
          exact .replyLost error result table rfl ran
        · exact absurd executed (by simp)
  | read | chosen _ | generated _ | unreached _ | refused _ _ | issued _ _
  | completed _ _ | reported _ _ _ _ _ _ =>
      exact absurd executed (by simp [execStatement])

/-- Executing a statement makes a step of the table and changes nothing else. -/
theorem tableStep_of_execStatement
    (executed : execStatement statement fate before = some (reply, after)) :
    after.now = before.now ∧ after.payGov = before.payGov ∧
      TableStep before.now statement before.table after.table := by
  cases statementStep_of_execStatement executed with
  | returned _ _ _ _ ran => exact ⟨rfl, rfl, tableStep_of_run ran⟩
  | rejected _ _ _ _ => exact ⟨rfl, rfl, .same _ _ _⟩
  | failed _ _ => exact ⟨rfl, rfl, .same _ _ _⟩
  | replyLost _ _ _ _ ran => exact ⟨rfl, rfl, tableStep_of_run ran⟩

end Executed

end PaymentPortal.Protocol
