import PaymentPortal.Protocol.Annotated
import PaymentPortal.Protocol.Coherence

/-!
# What a request knows in each stage

`Knows` says for each stage what is true of the world while a request is in it.
Apart from the attempts it owns, a request only knows lower bounds: the rows it
has read have evolved, the answers it has seen stay true.
-/

namespace PaymentPortal.Protocol

open PaymentPortal.Interaction
open PaymentPortal.Model

/-- The obligation that an `initPayment` is for. -/
def obligation? : Request → Option Obligation
  | .initPayment client order =>
      some ⟨client.clientName, order.transactionReferenceId⟩
  | _ => none

/-- The token that a `processPayment` is for. -/
def token? : Request → Option String
  | .processPayment _ order => some order.token
  | _ => none

/-- Some version of the row has been read: the table holds a later one. -/
def Seen (world : World) (row : Transaction) : Prop :=
  ∃ current ∈ world.table.rows, row.Evolves current

theorem Seen.mono {before after : World} {row : Transaction}
    (seen : Seen before row) (later : before ≤ after) : Seen after row := by
  obtain ⟨current, member, evolves⟩ := seen
  obtain ⟨next, nextIn, further⟩ := later.rows current member
  exact ⟨next, nextIn, evolves.trans further⟩

theorem seen_of_mem {world : World} {row : Transaction}
    (member : row ∈ world.table.rows) : Seen world row :=
  ⟨row, member, .refl row⟩

/-- The version the table holds of a row that has been read. -/
theorem Seen.evolves {world : World} {row current : Transaction}
    (seen : Seen world row) (member : current ∈ world.table.rows)
    (sameId : current.agencyTrackingId = row.agencyTrackingId) :
    row.Evolves current := by
  obtain ⟨other, otherIn, evolves⟩ := seen
  obtain rfl := world.table.eq_of_id_eq otherIn member
    (evolves.id_eq.trans sameId.symm)
  exact evolves

/-- The own attempt still is as it was inserted. -/
def Untouched (world : World) (request : Request)
    (data : ReceivedTransactionParams) : Prop :=
  ∃ row ∈ world.table.rows, row.agencyTrackingId = data.agencyTrackingId ∧
    row.transactionStatus = some .received ∧
    obligation? request = some row.obligation

/-- The row was claimed for the token of the request. -/
structure Holding (world : World) (request : Request) (row : Transaction) :
    Prop where
  seen : Seen world row
  processing : row.transactionStatus = some .processing
  token : row.paygovToken = token? request
  hasToken : row.paygovToken ≠ none

/-- An answer seen for a surveyed row. -/
structure Heard (world : World) (row : Transaction)
    (result : PayGovGetDetailsTransaction) : Prop where
  tracked : row.paygovTrackingId = some result.paygov_tracking_id
  reported : ∃ token, Reported world.payGov token result.paygov_tracking_id
    result.transaction_status

/-- What is true of the world while a request is in a stage. -/
def Knows (world : World) (request : Request) : Stage → Prop
  | .reading => True
  | .weighing row clocks => Seen world row ∧
      (row.transactionStatus = some .initiated ∨
        row.transactionStatus = some .processing) ∧
      obligation? request = some row.obligation ∧
      (world.now :: clocks).Pairwise (· ≥ ·)
  | .collecting data => Untouched world request data
  | .activating data token => Untouched world request data ∧
      world.payGov.IssuedFor token data.agencyTrackingId
  | .abandoning data => ∃ row ∈ world.table.rows,
      row.agencyTrackingId = data.agencyTrackingId
  | .loaded row => Seen world row ∧ row.paygovToken = token? request ∧
      row.paygovToken ≠ none
  | .completing row => Holding world request row
  | .persisting row result => Holding world request row ∧
      ∃ token, row.paygovToken = some token ∧
        Reported world.payGov token result.paygov_tracking_id
          result.transaction_status
  | .failing row => Holding world request row
  | .outrun => True
  | .refreshing rows answers => (∀ row ∈ rows, Seen world row) ∧
      ∀ row result, (row, result) ∈ answers → row ∈ rows ∧
        Heard world row result
  | .closing => True
  | .stopped => True

/-- The attempts that a request in this stage has inserted itself. -/
def Owns (stage : Stage) (id : String) : Prop :=
  ∃ data, stage.owned? = some data ∧ data.agencyTrackingId = id

theorem Holding.mono {before after : World} {request : Request}
    {row : Transaction} (holding : Holding before request row)
    (later : before ≤ after) : Holding after request row :=
  { holding with seen := holding.seen.mono later }

theorem Heard.mono {before after : World} {row : Transaction}
    {result : PayGovGetDetailsTransaction} (heard : Heard before row result)
    (later : before ≤ after) : Heard after row result where
  tracked := heard.tracked
  reported := by
    obtain ⟨token, reported⟩ := heard.reported
    exact ⟨token, reported.mono later.payGov⟩

/--
Knowledge survives whatever moves the world upwards, provided that nobody else
touches the attempts the request owns.
-/
theorem Knows.mono {before after : World} {request : Request} {stage : Stage}
    (knows : Knows before request stage) (later : before ≤ after)
    (untouched : ∀ data, stage.owned? = some data →
      Untouched before request data → Untouched after request data) :
    Knows after request stage := by
  cases stage with
  | reading => trivial
  | weighing row clocks =>
      obtain ⟨seen, inFlight, sameObligation, ordered⟩ := knows
      obtain ⟨past, sorted⟩ := List.pairwise_cons.mp ordered
      exact ⟨seen.mono later, inFlight, sameObligation, List.pairwise_cons.mpr
        ⟨fun clock read => (past clock read).trans later.now, sorted⟩⟩
  | collecting data => exact untouched data rfl knows
  | activating data token =>
      exact ⟨untouched data rfl knows.1, later.payGov.issued knows.2⟩
  | abandoning data =>
      obtain ⟨row, member, isId⟩ := knows
      obtain ⟨current, currentIn, evolves⟩ := later.rows row member
      exact ⟨current, currentIn, evolves.id_eq.trans isId⟩
  | loaded row => exact ⟨knows.1.mono later, knows.2⟩
  | completing row => exact Holding.mono knows later
  | persisting row result =>
      obtain ⟨holding, token, hasToken, reported⟩ := knows
      exact ⟨holding.mono later, token, hasToken,
        reported.mono later.payGov⟩
  | failing row => exact Holding.mono knows later
  | outrun => trivial
  | refreshing rows answers =>
      refine ⟨fun row member => (knows.1 row member).mono later, ?_⟩
      intro row result member
      obtain ⟨surveyed, heard⟩ := knows.2 row result member
      exact ⟨surveyed, heard.mono later⟩
  | closing => trivial
  | stopped => trivial

/-- An owned attempt is in the table. -/
theorem Knows.exists_owned {world : World} {request : Request} {stage : Stage}
    {data : ReceivedTransactionParams} (knows : Knows world request stage)
    (owned : stage.owned? = some data) :
    ∃ row ∈ world.table.rows,
      row.agencyTrackingId = data.agencyTrackingId := by
  cases stage with
  | collecting own =>
      obtain rfl := Option.some.inj owned
      obtain ⟨row, member, isId, _⟩ := knows
      exact ⟨row, member, isId⟩
  | activating own token =>
      obtain rfl := Option.some.inj owned
      obtain ⟨⟨row, member, isId, _⟩, _⟩ := knows
      exact ⟨row, member, isId⟩
  | abandoning own =>
      obtain rfl := Option.some.inj owned
      exact knows
  | reading | weighing _ _ | loaded _ | completing _ | persisting _ _
  | failing _ | outrun | refreshing _ _ | closing | stopped =>
      exact absurd owned (by simp [Stage.owned?])

/-- A token belongs to one row only. -/
theorem eq_of_token {config : Config} {world : World}
    (coherent : ∀ row ∈ world.table.rows, Coherent config world row)
    {first second : Transaction} {token : String}
    (firstIn : first ∈ world.table.rows) (secondIn : second ∈ world.table.rows)
    (firstToken : first.paygovToken = some token)
    (secondToken : second.paygovToken = some token) : first = second :=
  world.table.eq_of_id_eq firstIn secondIn
    (((coherent first firstIn).issued token firstToken).unique
      ((coherent second secondIn).issued token secondToken))

/-! ## What a permitted statement makes of a row -/

variable {config : Config} {world : World} {request : Request}
variable {stage after : Stage} {statement : Statement}
variable {reply : Reply (.db statement)} {row changed : Transaction}

/-- A row that has once been further than `received` stays further. -/
theorem Seen.not_received {read : Transaction} {status : TransactionStatus}
    (seen : Seen world read) (member : row ∈ world.table.rows)
    (sameId : row.agencyTrackingId = read.agencyTrackingId)
    (has : read.transactionStatus = some status)
    (leads : status.leadsTo .received = false) :
    row.transactionStatus ≠ some .received := by
  intro received
  obtain ⟨reached, hasReached, toReached⟩ :=
    (seen.evolves member sameId).status status has
  obtain rfl := Option.some.inj (hasReached.symm.trans received)
  exact absurd (leads.symm.trans toReached) (by simp)

/-- A row that has once had a token is not `received`. -/
theorem Seen.not_received_of_token {read : Transaction}
    (coherent : Coherent config world row)
    (seen : Seen world read) (member : row ∈ world.table.rows)
    (sameId : row.agencyTrackingId = read.agencyTrackingId)
    (hasToken : read.paygovToken ≠ none) :
    row.transactionStatus ≠ some .received := by
  intro received
  obtain ⟨token, has⟩ := Option.ne_none_iff_exists'.mp hasToken
  have still := (seen.evolves member sameId).token token has
  exact absurd (still.symm.trans (coherent.received received)) (by simp)

/-- A failing write hits no `received` row but one of the request's own. -/
theorem rewrites_of_failed {owner : String → Prop} {id : String}
    {code : Option Int} {detail : Option String}
    (changes : Changes world.now (.updateToFailed id code detail) row changed)
    (guarded : row.agencyTrackingId = id →
      row.transactionStatus = some .received → owner id) :
    Rewrites config world owner (.updateToFailed id code detail) row
      changed := by
  cases changes with
  | failed isId =>
      rw [set_last_updated_at_stamped (by simp [failedPatch])]
      exact .failed isId (guarded isId)

/-- The token of an own untouched attempt was issued for it. -/
theorem rewrites_of_activated {data : ReceivedTransactionParams}
    {token : String} (valid : token.length = 32)
    (member : row ∈ world.table.rows) (untouched : Untouched world request data)
    (issued : world.payGov.IssuedFor token data.agencyTrackingId)
    (changes : Changes world.now
      (.updateToInitiated data.agencyTrackingId token) row changed) :
    Rewrites config world (Owns (.activating data token))
      (.updateToInitiated data.agencyTrackingId token) row changed := by
  cases changes with
  | activated isId =>
      obtain ⟨own, ownIn, ownId, received, _⟩ := untouched
      obtain rfl := world.table.eq_of_id_eq ownIn member (ownId.trans isId.symm)
      rw [set_last_updated_at_stamped (by simp [initiatedPatch])]
      exact .activated isId ⟨data, rfl, rfl⟩ received valid (isId ▸ issued)

/-- The token of a row that has been read belongs to the row. -/
theorem Holding.token_of_row {read : Transaction} {token : String}
    (holding : Holding world request read) (member : row ∈ world.table.rows)
    (sameId : row.agencyTrackingId = read.agencyTrackingId)
    (hasToken : read.paygovToken = some token) :
    row.paygovToken = some token :=
  (holding.seen.evolves member sameId).token token hasToken

/-- The response that `processPayment` records has been reported. -/
theorem records_responsePatch {token : String}
    {result : CompleteOnlineCollectionWithDetailsResponse}
    (reported : Reported world.payGov token result.paygov_tracking_id
      result.transaction_status) :
    Records world.payGov token (ProcessPayment.responsePatch result) where
  reported := ⟨result.transaction_status, reported, rfl⟩
  derived := rfl

/-- The answer that `getDetails` records has been reported. -/
theorem records_refreshPatch (read : Transaction) {token : String}
    {result : PayGovGetDetailsTransaction}
    (reported : Reported world.payGov token result.paygov_tracking_id
      result.transaction_status) :
    Records world.payGov token (GetDetails.refreshPatch read result) where
  reported := ⟨result.transaction_status, reported, rfl⟩
  derived := rfl

theorem Records.uncancelled {payGov : PayGov} {token : String}
    {patch : PayGovResponsePatch} (records : Records payGov token patch)
    (row : Transaction) :
    (payGovResponsePatch patch row).transactionStatus ≠ some .cancelled := by
  rcases records.status_cases with same | same | same <;>
    simp [payGovResponsePatch, same]

/-- The guarded write of a claimed row's response. -/
theorem rewrites_of_stored {owner : String → Prop} {read : Transaction}
    {result : CompleteOnlineCollectionWithDetailsResponse}
    (member : row ∈ world.table.rows)
    (knows : Knows world request (.persisting read result))
    (changes : Changes world.now
      (.updateAfterPayGovResponseIf read.agencyTrackingId
        (ProcessPayment.responsePatch result) .processing) row changed) :
    Rewrites config world owner
      (.updateAfterPayGovResponseIf read.agencyTrackingId
        (ProcessPayment.responsePatch result) .processing) row changed := by
  obtain ⟨holding, token, hasToken, reported⟩ := knows
  have records := records_responsePatch reported
  cases changes with
  | stored isId found =>
      rw [set_last_updated_at_stamped (records.uncancelled row)]
      exact .stored isId (holding.token_of_row member isId hasToken) found
        records

/-- The unguarded write of a refreshed row's answer. -/
theorem rewrites_of_refreshed {owner : String → Prop} {read : Transaction}
    {result : PayGovGetDetailsTransaction}
    (coherent : Coherent config world row) (member : row ∈ world.table.rows)
    (seen : Seen world read) (heard : Heard world read result)
    (changes : Changes world.now
      (.updateAfterPayGovResponse read.agencyTrackingId
        (GetDetails.refreshPatch read result)) row changed) :
    Rewrites config world owner
      (.updateAfterPayGovResponse read.agencyTrackingId
        (GetDetails.refreshPatch read result)) row changed := by
  obtain ⟨token, reported⟩ := heard.reported
  have records := records_refreshPatch read reported
  cases changes with
  | refreshed isId =>
      have tracked :=
        (seen.evolves member isId).trackingId _ heard.tracked
      have hasToken : row.paygovToken = some token :=
        reported.token_of_row coherent tracked
      rw [set_last_updated_at_stamped (records.uncancelled row)]
      exact .refreshed isId hasToken tracked records

/-- A claim hits the row whose fee has been resolved. -/
theorem rewrites_of_claimed {owner : String → Prop} {read : Transaction}
    {token : String} (coherent : ∀ row ∈ world.table.rows,
      Coherent config world row) (member : row ∈ world.table.rows)
    (seen : Seen world read) (hasToken : read.paygovToken = some token)
    (resolves : FeeResolves config read)
    (changes : Changes world.now (.claimForProcessing token) row changed) :
    Rewrites config world owner (.claimForProcessing token) row changed := by
  cases changes with
  | claimed rowToken claimable =>
      obtain ⟨current, currentIn, evolves⟩ := seen
      obtain rfl := eq_of_token coherent currentIn member
        (evolves.token token hasToken) rowToken
      rw [set_last_updated_at_stamped (by simp [processingPatch])]
      exact .claimed rowToken claimable ((feeResolves_iff evolves).mpr resolves)

/--
What a request knows turns every change it may make into a rewrite: the rows
it fails without having inserted them are not `received`, what it records has
been reported, and what it claims has a fee.
-/
theorem rewrites_of_changes
    (coherent : ∀ row ∈ world.table.rows, Coherent config world row)
    (member : row ∈ world.table.rows) (knows : Knows world request stage)
    (permitted : Permitted config request stage (.db statement) reply after)
    (changes : Changes world.now statement row changed) :
    Rewrites config world (Owns stage) statement row changed := by
  cases permitted with
  | passive _ passive => cases changes <;> exact absurd passive id
  | look | lookMissed | load | loadMissed | survey => cases changes
  | insert | insertFailed => cases changes
  | cancel initiated read expired =>
      obtain ⟨seen, _, _, ordered⟩ := knows
      cases changes with
      | cancelled isId stillInitiated =>
          rw [set_last_updated_at_kept rfl (by simp [stillInitiated])]
          refine .cancelled isId stillInitiated ?_
          rw [(seen.evolves member isId).createdAt_eq]
          have := (List.pairwise_cons.mp ordered).1 _ read
          omega
  | retire dead =>
      obtain ⟨seen, inFlight, _, _⟩ := knows
      refine rewrites_of_failed changes fun isId received => ?_
      rcases inFlight with initiated | processing
      · exact absurd received (seen.not_received member isId initiated rfl)
      · exact absurd received (seen.not_received member isId processing rfl)
  | activate valid | activateFailed valid =>
      exact rewrites_of_activated valid member knows.1 knows.2 changes
  | abandon owned =>
      exact rewrites_of_failed changes fun _ _ => ⟨_, owned, rfl⟩
  | failFee unresolved =>
      obtain ⟨seen, _, hasToken⟩ := knows
      exact rewrites_of_failed changes fun isId received =>
        absurd received (seen.not_received_of_token (coherent row member)
          member isId hasToken)
  | claim resolved | claimFailed resolved _ =>
      obtain ⟨seen, hasToken, _⟩ := knows
      exact rewrites_of_claimed coherent member seen hasToken ⟨_, resolved⟩
        changes
  | markFailed =>
      exact rewrites_of_failed changes fun isId received =>
        absurd received (knows.seen.not_received member isId knows.processing
          rfl)
  | persist | outrun | persistFailed =>
      exact rewrites_of_stored member knows changes
  | markUnrecorded =>
      exact rewrites_of_failed changes fun isId received =>
        absurd received (knows.seen.not_received member isId knows.processing
          rfl)
  | store answered =>
      obtain ⟨surveyed, heard⟩ := knows.2 _ _ answered
      exact rewrites_of_refreshed (coherent row member) member
        (knows.1 _ surveyed) heard changes
  | sweep =>
      cases changes with
      | swept initiated expired =>
          rw [set_last_updated_at_kept rfl (by simp [initiated])]
          exact .swept initiated expired

end PaymentPortal.Protocol
