import PaymentPortal.Protocol.WorldSteps

/-!
# What a request learns from a reply

A reply that leads to a new stage tells the request what that stage says:
the row it has been given is in the table, the claimed row is `processing`, the
token was issued, the answer was reported.
-/

namespace PaymentPortal.Protocol

open PaymentPortal.Interaction
open PaymentPortal.Model

variable {config : Config} {formats : XmlFormats} {before after : World}
variable {fate : Fate}

/-! ## Replies of the database -/

/-- A result is that of the statement, executed at that instant. -/
theorem run_of_execStatement {statement : Statement}
    {result : statement.Result}
    (executed : execStatement statement fate before =
      some (.ok result, after)) :
    ∃ locked, statement.run before.now locked before.table =
        .ok (result, after.table) ∧
      after = { before with table := after.table } := by
  cases statementStep_of_execStatement executed with
  | returned locked _ _ _ ran => exact ⟨locked, ran, rfl⟩

/-- An insert that returned has added the attempt. -/
theorem inserted_of_exec {data : ReceivedTransactionParams}
    (executed : execStatement (.createReceived data) fate before =
      some (.ok (), after)) :
    (∀ row ∈ before.table.rows,
      row.agencyTrackingId ≠ data.agencyTrackingId) ∧
      after.table.rows =
        before.table.rows ++ [receivedRow before.now data] := by
  obtain ⟨locked, ran, _⟩ := run_of_execStatement executed
  simp only [Statement.run] at ran
  split at ran
  · rename_i table accepted
    obtain ⟨_, rfl⟩ := Prod.mk.inj (Except.ok.inj ran)
    exact ⟨fresh_of_insert? accepted, Table.rows_of_insert? accepted⟩
  · exact absurd ran (by simp)

theorem receivedRow_mem_of_exec {data : ReceivedTransactionParams}
    (executed : execStatement (.createReceived data) fate before =
      some (.ok (), after)) :
    receivedRow before.now data ∈ after.table.rows := by
  rw [(inserted_of_exec executed).2]
  exact List.mem_append_right _ List.mem_cons_self

/-- A claim that returned a row has flipped it. -/
theorem claimed_of_exec {token : String} {claimed : Transaction}
    (executed : execStatement (.claimForProcessing token) fate before =
      some (.ok (.ok (some claimed)), after)) :
    ∃ row ∈ before.table.rows, row.paygovToken = some token ∧
      Claimable before.now row ∧
      claimed = { processingPatch row with lastUpdatedAt := before.now } ∧
      claimed ∈ after.table.rows := by
  obtain ⟨locked, ran, _⟩ := run_of_execStatement executed
  rcases claimForProcessing_cases ran with
    ⟨_, missed⟩ | ⟨row, member, hasToken, claimable, updated, returned⟩
  · exact absurd rfl (missed claimed)
  · have same := Option.some.inj (Except.ok.inj returned)
    rw [set_last_updated_at_stamped (by simp [processingPatch])] at same
    refine ⟨row, member, hasToken, claimable, same, ?_⟩
    rw [Table.rows_of_update? updated, same]
    refine List.mem_map.mpr ⟨row, member, ?_⟩
    simp only [Table.updateRow, hasId, beq_self_eq_true, if_true]
    exact set_last_updated_at_stamped (by simp [processingPatch])

/-- A query returns rows of the table. -/
theorem mem_of_execFindByPaygovToken {token : String} {row : Transaction}
    (executed : execStatement (.findByPaygovToken token) fate before =
      some (.ok (some row), after)) :
    row ∈ before.table.rows ∧ row.paygovToken = some token ∧
      after = before := by
  obtain ⟨locked, ran, same⟩ := run_of_execStatement executed
  obtain ⟨found, table⟩ := Prod.mk.inj (Except.ok.inj ran)
  obtain ⟨member, hasToken⟩ := find?_hasToken found
  exact ⟨member, hasToken, by rw [same, ← table]⟩

theorem mem_execFindByReferenceId {transactionReferenceId : String}
    {rows : List Transaction}
    (executed : execStatement (.findByReferenceId transactionReferenceId) fate
      before = some (.ok rows, after)) :
    (∀ row, row ∈ rows ↔ row ∈ before.table.rows ∧
      row.transactionReferenceId = transactionReferenceId) ∧
      after = before := by
  obtain ⟨locked, ran, same⟩ := run_of_execStatement executed
  obtain ⟨found, table⟩ := Prod.mk.inj (Except.ok.inj ran)
  refine ⟨?_, by rw [same, ← table]⟩
  intro row
  rw [← found, Table.mem_select, beq_iff_eq]

theorem mem_of_execLookup {clientName transactionReferenceId : String}
    {statuses : List TransactionStatus} {row : Transaction}
    (executed : execStatement (.findByReferenceIdAndTransactionStatus
      clientName transactionReferenceId statuses) fate before =
        some (.ok (some row), after)) :
    row ∈ before.table.rows ∧
      row.obligation = ⟨clientName, transactionReferenceId⟩ ∧
      after = before := by
  obtain ⟨locked, ran, same⟩ := run_of_execStatement executed
  obtain ⟨found, table⟩ := Prod.mk.inj (Except.ok.inj ran)
  obtain ⟨member, selected⟩ :=
    Table.mem_select.mp (List.mem_of_head? found)
  refine ⟨member, ?_, by rw [same, ← table]⟩
  simp only [Bool.and_eq_true, beq_iff_eq] at selected
  simp [Transaction.obligation, selected]

/-- A failure write that returned has marked the row. -/
theorem failed_of_exec {id : String} {code : Option Int}
    {detail : Option String} {count : Nat}
    (executed : exec formats (.db (.updateToFailed id code detail)) fate
      before = some (.ok count, after)) :
    ∀ row ∈ before.table.rows, row.agencyTrackingId = id →
      ∃ later ∈ after.table.rows, later.agencyTrackingId = id ∧
        later.transactionStatus = some .failed := by
  intro row member isId
  obtain ⟨locked, ran, _⟩ := run_of_execStatement executed
  simp only [Statement.run, Table.updateWhere] at ran
  split at ran
  · rename_i table updated
    obtain ⟨_, sameTable⟩ := Prod.mk.inj (Except.ok.inj ran)
    rw [← sameTable, Table.rows_of_update? updated]
    refine ⟨_, List.mem_map_of_mem member, ?_, ?_⟩ <;>
      simp [Table.updateRow, hasId, isId, failedPatch]
  · exact absurd ran (by simp)

/-- A guarded write that returned a row has stored the answer in it. -/
theorem stored_of_exec {id : String} {patch : PayGovResponsePatch}
    {expected : TransactionStatus} {stored : Transaction}
    (executed : exec formats
      (.db (.updateAfterPayGovResponseIf id patch expected)) fate before =
        some (.ok (some stored), after)) :
    stored ∈ after.table.rows ∧ stored.agencyTrackingId = id ∧
      stored.transactionStatus = some patch.transactionStatus ∧
      ∃ row ∈ before.table.rows, row.agencyTrackingId = id ∧
        row.transactionStatus = some expected := by
  obtain ⟨locked, ran, _⟩ := run_of_execStatement executed
  simp only [Statement.run, Table.updateReturning] at ran
  split at ran
  · rename_i table updated
    obtain ⟨returned, sameTable⟩ := Prod.mk.inj (Except.ok.inj ran)
    obtain ⟨row, selected, rfl⟩ :=
      List.mem_map.mp (List.mem_of_head? returned)
    obtain ⟨member, isSelected⟩ := List.mem_filter.mp selected
    obtain ⟨isId, found⟩ : row.agencyTrackingId = id ∧
        row.transactionStatus = some expected := by
      simpa [hasIdAndStatus] using isSelected
    refine ⟨?_, ?_, ?_, row, member, isId, found⟩
    · rw [← sameTable, Table.rows_of_update? updated]
      exact List.mem_map_of_mem member
    · simp [Table.updateRow, isSelected, payGovResponsePatch, isId]
    · simp [Table.updateRow, isSelected, payGovResponsePatch]
  · exact absurd ran (by simp)

/-! ## Replies of Pay.gov -/

/-- What arrives is what was sent or a refusal. -/
theorem deliver_cases {sent text arrived : ResponseText} {delivery : Delivery}
    (read : text = sent ∨ text = .schemaViolation)
    (delivered : deliver text delivery = .ok arrived) :
    arrived = sent ∨ arrived.isRefusal = true := by
  rcases delivery with _ | (_ | message) | error
  · obtain rfl := Except.ok.inj delivered
    rcases read with rfl | rfl
    · exact .inl rfl
    · exact .inr rfl
  · obtain rfl := Except.ok.inj delivered
    exact .inr rfl
  · obtain rfl := Except.ok.inj delivered
    exact .inr rfl
  · exact absurd delivered (by simp [deliver])

/-- A refusal never turns into a response element. -/
theorem refusal_of_refused {soap : SoapRequest} {text arrived : ResponseText}
    {delivery : Delivery}
    (executed : execFetch formats soap (.refused text delivery) before =
      some (.ok arrived, after)) : arrived.isRefusal = true := by
  simp only [execFetch] at executed
  split at executed
  · rename_i refusal
    rcases deliver_cases (.inl rfl) (Prod.mk.inj (Option.some.inj executed)).1
      with rfl | refused
    · exact refusal
    · exact refused
  · exact absurd executed (by simp)

/-- A token that arrives has been issued for the attempt. -/
theorem issued_of_exec {params : StartOnlineCollectionParams} {token : String}
    (executed : execFetch formats (.startOnlineCollection params) fate before =
      some (.ok (.startOnlineCollectionResponse token), after)) :
    after.payGov.IssuedFor token params.agency_tracking_id := by
  cases fate with
  | unreached error => exact absurd executed (by simp [execFetch])
  | refused text delivery =>
      exact absurd (refusal_of_refused executed)
        (by simp [ResponseText.isRefusal])
  | issued other delivery =>
      obtain ⟨payGov, issues, same⟩ := Option.map_eq_some_iff.mp executed
      obtain ⟨delivered, rfl⟩ := Prod.mk.inj same
      rcases deliver_cases (responseText_issueResponse formats other) delivered
        with text | refused
      · obtain rfl := ResponseText.startOnlineCollectionResponse.inj text
        rw [PayGov.IssuedFor, (PayGov.issued_of_issue? issues).1]
        exact List.mem_cons_self
      · exact absurd refused (by simp [ResponseText.isRefusal])
  | read | chosen _ | generated _ | executed _ | failed _ | replyLost _
  | completed _ _ | reported _ _ _ _ _ _ =>
      exact absurd executed (by simp [execFetch])

/-- A completion response that arrives reports the completion it made. -/
theorem reported_of_execCompletion {tcsAppId token : String}
    {result : CompleteOnlineCollectionWithDetailsResponse}
    (executed : execFetch formats
      (.completeOnlineCollectionWithDetails tcsAppId token) fate before =
        some (.ok (.completeOnlineCollectionWithDetailsResponse result),
          after)) :
    Reported after.payGov token result.paygov_tracking_id
      result.transaction_status := by
  cases fate with
  | unreached error => exact absurd executed (by simp [execFetch])
  | refused text delivery =>
      exact absurd (refusal_of_refused executed)
        (by simp [ResponseText.isRefusal])
  | completed response delivery =>
      obtain ⟨payGov, completes, same⟩ := Option.map_eq_some_iff.mp executed
      obtain ⟨delivered, rfl⟩ := Prod.mk.inj same
      rcases deliver_cases (response.responseText_soap formats) delivered with
        text | refused
      · obtain rfl :=
          ResponseText.completeOnlineCollectionWithDetailsResponse.inj text
        refine ⟨⟨token, response.paygov_tracking_id,
          response.transaction_status⟩, ?_, rfl, rfl, .inr rfl⟩
        rw [(PayGov.completions_of_complete? completes).2.1]
        exact List.mem_cons_self
      · exact absurd refused (by simp [ResponseText.isRefusal])
  | read | chosen _ | generated _ | executed _ | failed _ | replyLost _
  | issued _ _ | reported _ _ _ _ _ _ =>
      exact absurd executed (by simp [execFetch])

/-- A status that arrives is that of the completion with the tracking id. -/
theorem reported_of_execGetDetails {tcsAppId trackingId : String}
    {result : PayGovGetDetailsTransaction}
    (executed : execFetch formats (.getDetails tcsAppId trackingId) fate
      before = some (.ok (.getDetailsResponse result), after)) :
    result.paygov_tracking_id = trackingId ∧ after = before ∧
      ∃ completion ∈ before.payGov.completions,
        completion.paygovTrackingId = trackingId ∧
          completion.status = result.transaction_status := by
  cases fate with
  | unreached error => exact absurd executed (by simp [execFetch])
  | refused text delivery =>
      exact absurd (refusal_of_refused executed)
        (by simp [ResponseText.isRefusal])
  | reported agency_tracking_id transaction_amount payment_type
      transaction_date payment_date delivery =>
      obtain ⟨completion, found, same⟩ := Option.map_eq_some_iff.mp executed
      obtain ⟨delivered, rfl⟩ := Prod.mk.inj same
      rcases deliver_cases (DetailsAnswer.responseText_soap formats _) delivered
        with text | refused
      · obtain rfl := ResponseText.getDetailsResponse.inj text
        refine ⟨rfl, rfl, completion, List.mem_of_find?_eq_some found, ?_, rfl⟩
        simpa using List.find?_some found
      · exact absurd refused (by simp [ResponseText.isRefusal])
  | read | chosen _ | generated _ | executed _ | failed _ | replyLost _
  | issued _ _ | completed _ _ =>
      exact absurd executed (by simp [execFetch])

/-! ## Stages -/

variable {request : Request} {stage next : Stage}

/-- A row is refreshed under its own tracking id. -/
theorem paygovTrackingId_of_refreshId {row : Transaction} {trackingId : String}
    (refreshed : GetDetails.refreshId row = some trackingId) :
    row.paygovTrackingId = some trackingId := by
  unfold GetDetails.refreshId at refreshed
  split at refreshed
  · exact absurd refreshed (by simp)
  · rename_i own tracked
    split at refreshed
    · exact absurd refreshed (by simp)
    · rw [tracked, refreshed]

/-- An HTTP attempt leaves the table alone. -/
theorem FetchStep.table_eq {soap : SoapRequest}
    (step : FetchStep soap fate before after) : after.table = before.table := by
  cases step with
  | same same => rw [same]
  | issued _ _ _ _ _ after_eq => rw [after_eq]
  | completed _ _ _ _ _ _ _ _ after_eq => rw [after_eq]

theorem Untouched.of_table_eq {data : ReceivedTransactionParams}
    (untouched : Untouched before request data)
    (table_eq : after.table = before.table) :
    Untouched after request data := by
  obtain ⟨row, member, rest⟩ := untouched
  exact ⟨row, table_eq ▸ member, rest⟩

/-- What is known in the stage after an operation. -/
theorem knows_of_permitted {op : Op} {reply : Reply op}
    (coherent : ∀ row ∈ before.table.rows, Coherent config before row)
    (knows : Knows before request stage) (later : before ≤ after)
    (permitted : Permitted config request stage op reply next)
    (executed : exec formats op fate before = some (reply, after)) :
    Knows after request next := by
  cases permitted with
  | passive _ passive =>
      obtain rfl := same_of_passive passive executed
      exact knows
  | look inFlight =>
      obtain ⟨member, isObligation, rfl⟩ := mem_of_execLookup executed
      exact ⟨seen_of_mem member, inFlight, congrArg some isObligation.symm,
        List.pairwise_singleton _ _⟩
  | clock =>
      obtain ⟨seen, inFlight, sameObligation, ordered⟩ := knows
      obtain ⟨rfl, rfl⟩ := now_of_exec executed
      refine ⟨seen, inFlight, sameObligation, List.pairwise_cons.mpr
        ⟨fun clock read => ?_, ordered⟩⟩
      rcases List.mem_cons.mp read with rfl | earlier
      · exact le_rfl
      · exact (List.pairwise_cons.mp ordered).1 clock earlier
  | insert fits =>
      refine ⟨_, receivedRow_mem_of_exec executed, rfl, rfl, ?_⟩
      simp [obligation?, Transaction.obligation, receivedRow, fits.clientName,
        fits.transactionReferenceId]
  | start own =>
      refine ⟨Untouched.of_table_eq knows
        (fetchStep_of_execFetch executed).table_eq, ?_⟩
      exact own ▸ issued_of_exec executed
  | startUnanswered own =>
      exact Untouched.of_table_eq knows
        (fetchStep_of_execFetch executed).table_eq
  | activateFailed _ =>
      obtain ⟨⟨row, member, isId, _⟩, _⟩ := knows
      obtain ⟨current, currentIn, evolves⟩ := later.rows row member
      exact ⟨current, currentIn, evolves.id_eq.trans isId⟩
  | load =>
      obtain ⟨member, hasToken, rfl⟩ := mem_of_execFindByPaygovToken executed
      exact ⟨seen_of_mem member, hasToken, by simp [hasToken]⟩
  | claim resolved =>
      obtain ⟨row, member, hasToken, claimable, rfl, claimedIn⟩ :=
        claimed_of_exec executed
      exact {
        seen := seen_of_mem claimedIn
        processing := rfl
        token := hasToken
        hasToken := by simp [processingPatch, hasToken] }
  | complete =>
      exact ⟨Holding.mono knows later, _, knows.token,
        reported_of_execCompletion executed⟩
  | completeUnanswered missed => exact Holding.mono knows later
  | persistFailed => exact knows.1.mono later
  | survey =>
      obtain ⟨members, rfl⟩ := mem_execFindByReferenceId executed
      exact ⟨fun row member => seen_of_mem ((members row).mp member).1,
        fun row result member => absurd member (by simp)⟩
  | @answer _ _ rows answers row _ trackingId result surveyed refreshed =>
      obtain ⟨isId, rfl, completion, completionIn, completionId, isStatus⟩ :=
        reported_of_execGetDetails executed
      refine ⟨knows.1, fun other answer member => ?_⟩
      rcases List.mem_cons.mp member with same | old
      · obtain ⟨rfl, rfl⟩ := Prod.mk.inj same
        refine ⟨surveyed, ?_, completion.token, completion, completionIn, rfl,
          completionId.trans isId.symm, .inr ?_⟩
        · exact isId ▸ paygovTrackingId_of_refreshId refreshed
        · exact congrArg parseTransactionStatus isStatus
      · exact knows.2 other answer old
  | unanswered surveyed refreshed =>
      obtain rfl | ⟨_, _, _, impossible, _⟩ | ⟨_, _, _, _, _, impossible, _⟩ :=
        fetchStep_of_execFetch executed
      · exact knows
      · exact absurd impossible (by simp)
      · exact absurd impossible (by simp)
  | store answered =>
      exact ⟨fun row member => (knows.1 row member).mono later,
        fun row result member => (knows.2 row result member).imp_right
          fun heard => heard.mono later⟩
  | retire _ | abandon _ | failFee _ | markFailed | markUnrecorded =>
      unfold Stage.unlessFailed
      split <;> trivial
  | lookMissed | cancel _ _ _ | insertFailed _ | activate _ | loadMissed
  | claimFailed _ _ | persist | outrun | sweep => trivial

/-- An attempt is owned because it was before, or because it is new. -/
theorem owns_of_permitted {op : Op} {reply : Reply op} {id : String}
    (permitted : Permitted config request stage op reply next)
    (executed : exec formats op fate before = some (reply, after))
    (owns : Owns next id) :
    Owns stage id ∨ ∀ row ∈ before.table.rows, row.agencyTrackingId ≠ id := by
  obtain ⟨data, owned, rfl⟩ := owns
  cases permitted with
  | passive _ passive => exact .inl ⟨data, owned, rfl⟩
  | insert fits =>
      obtain rfl := Option.some.inj owned
      exact .inr (inserted_of_exec executed).1
  | start own | startUnanswered own | activateFailed _ =>
      exact .inl ⟨data, owned, rfl⟩
  | retire _ | abandon _ | failFee _ | markFailed | markUnrecorded =>
      rw [Stage.owned?_unlessFailed rfl] at owned
      exact absurd owned (by simp)
  | look _ | lookMissed | clock | cancel _ _ _ | insertFailed _ | activate _
  | load | loadMissed | claim _ | claimFailed _ _ | complete
  | completeUnanswered _ | persist | outrun | persistFailed | survey
  | answer _ _ | unanswered _ _ | store _ | sweep =>
      exact absurd owned (by simp [Stage.owned?])

end PaymentPortal.Protocol
