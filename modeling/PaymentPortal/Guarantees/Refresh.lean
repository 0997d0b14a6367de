import PaymentPortal.Guarantees.FinalSuccess

/-!
# Monotone refreshes

Once `getDetails` has stored `processed` or `failed` in a row, no other
`getDetails` moves the row to another status, in every run in which a `pending`
answer is stored only if no other `getDetails` has stored one of the two in the
row since the answer was fetched.

The write of an answer does not look at the row again, so the use case does not
ensure this: a `pending` answer that was fetched before the payment settled may
be stored after the final one.
-/

namespace PaymentPortal.Guarantees

open PaymentPortal.Interaction
open PaymentPortal.Model
open PaymentPortal.Protocol

def isGetDetails : Request → Bool
  | .getDetails _ _ => true
  | _ => false

/-- The row that a refresh writes to, and the answer it stores. -/
def refreshes? : Op → Option (String × PayGovResponsePatch)
  | .db (.updateAfterPayGovResponse id patch) => some (id, patch)
  | _ => none

/-- The answer of Pay.gov that arrives with the entry. -/
def answer? : LogEntry → Option PayGovGetDetailsTransaction
  | ⟨_, .fetch (.getDetails _ _), .ok (.getDetailsResponse result), _, _⟩ =>
      some result
  | _ => none

/-- The statuses that a payment ends with at Pay.gov. -/
def FINAL_OUTCOMES : List TransactionStatus := [.processed, .failed]

/-- A refresh leaves the row with this final outcome. -/
def StoresFinal (entry : LogEntry) (id : String) (status : TransactionStatus) :
    Prop :=
  (∃ refresh ∈ refreshes? entry.op, refresh.1 = id ∧
    refresh.2.transactionStatus = status) ∧
  ∃ row ∈ entry.after.table.rows, row.agencyTrackingId = id ∧
    row.transactionStatus = some status

instance (entry : LogEntry) (id : String) (status : TransactionStatus) :
    Decidable (StoresFinal entry id status) :=
  inferInstanceAs (Decidable (_ ∧ _))

/--
A row in which `getDetails` has stored a final outcome is never moved to
another status by another `getDetails`.
-/
def MonotoneRefresh (state : PortalState) : Prop :=
  ∀ entry older, (entry :: older) <:+ state.log →
    ∀ request ∈ requestOf? state entry.caller, isGetDetails request = true →
      ∀ earlier ∈ older, earlier.caller ≠ entry.caller →
        ∀ id, ∀ status ∈ FINAL_OUTCOMES, StoresFinal earlier id status →
          ∀ old ∈ entry.before.table.rows, old.agencyTrackingId = id →
            ∀ new ∈ entry.after.table.rows, new.agencyTrackingId = id →
              new ≠ old → new.transactionStatus = some status

/-- The caller has fetched a `pending` answer under the tracking id. -/
def fetchedPending (caller : Nat) (trackingId : String) (entry : LogEntry) :
    Bool :=
  match answer? entry with
  | some result => decide (entry.caller = caller ∧
      result.paygov_tracking_id = trackingId ∧
      parseTransactionStatus result.transaction_status = .pending)
  | none => false

/--
A `pending` answer is stored only if no other `getDetails` has stored a final
outcome in the row since the answer was fetched.
-/
def RefreshSafe (state : PortalState) (caller : Nat) (op : Op) (fate : Fate) :
    Prop :=
  isCommitted fate = true →
    ∀ refresh ∈ refreshes? op, refresh.2.transactionStatus = .pending →
      ∀ entry ∈ since (fetchedPending caller refresh.2.paygovTrackingId)
          state.log,
        entry.caller ≠ caller → ∀ status ∈ FINAL_OUTCOMES,
          ¬ StoresFinal entry refresh.1 status

instance (state : PortalState) (caller : Nat) (op : Op) (fate : Fate) :
    Decidable (RefreshSafe state caller op fate) :=
  inferInstanceAs (Decidable (_ → ∀ _ ∈ _, _ → ∀ _ ∈ _, _ → ∀ _ ∈ _, _))

variable {config : Config} {request : Request} {stage next : Stage}
variable {op : Op} {reply : Reply op} {fate : Fate} {before after : World}
variable {caller : Nat} {id : String} {status : TransactionStatus}

/-! ## Single operations -/

theorem op_of_refreshes? {patch : PayGovResponsePatch}
    (refreshes : refreshes? op = some (id, patch)) :
    op = .db (.updateAfterPayGovResponse id patch) := by
  unfold refreshes? at refreshes
  split at refreshes
  · obtain ⟨rfl, rfl⟩ := Prod.mk.inj (Option.some.inj refreshes)
    rfl
  · exact absurd refreshes (by simp)

/-- An answer is known because it was before, or because it has arrived. -/
theorem answered_of_permitted {rows : List Transaction}
    {answers : List (Transaction × PayGovGetDetailsTransaction)}
    {row : Transaction} {result : PayGovGetDetailsTransaction}
    (permitted : Permitted config request stage op reply
      (.refreshing rows answers)) (known : (row, result) ∈ answers) :
    (∃ answers, stage = .refreshing rows answers ∧ (row, result) ∈ answers) ∨
      answer? ⟨caller, op, reply, before, after⟩ = some result := by
  generalize refreshing : Stage.refreshing rows answers = later at permitted
  cases permitted with
  | passive _ _ => exact .inl ⟨answers, refreshing.symm, known⟩
  | survey =>
      obtain ⟨_, rfl⟩ := Stage.refreshing.inj refreshing
      exact absurd known (by simp)
  | answer surveyed refreshed =>
      obtain ⟨rfl, rfl⟩ := Stage.refreshing.inj refreshing
      rcases List.mem_cons.mp known with same | old
      · obtain ⟨_, rfl⟩ := Prod.mk.inj same
        exact .inr rfl
      · exact .inl ⟨_, rfl, old⟩
  | unanswered _ _ | store _ =>
      obtain ⟨rfl, rfl⟩ := Stage.refreshing.inj refreshing
      exact .inl ⟨_, rfl, known⟩
  | retire _ | abandon _ | failFee _ | markFailed | markUnrecorded =>
      unfold Stage.unlessFailed at refreshing
      split at refreshing <;> exact absurd refreshing (by simp)
  | look _ | lookMissed | clock | cancel _ _ _ | insert _ | insertFailed _
  | start _ | startUnanswered _ | activate _ | activateFailed _ | load
  | loadMissed | claim _ | claimFailed _ _ | complete | completeUnanswered _
  | persist | outrun | persistFailed | sweep =>
      exact absurd refreshing (by simp)

/-- `getDetails` changes a row by storing an answer that it has been given. -/
theorem stored_of_rewrites {statement : Statement}
    {reply : Reply (.db statement)} {owner : String → Prop}
    {old new : Transaction}
    (permitted : Permitted config request stage (.db statement) reply next)
    (getDetails : isGetDetails request = true)
    (rewrites : Rewrites config before owner statement old new) :
    ∃ rows answers row result, stage = .refreshing rows answers ∧
      (row, result) ∈ answers ∧ old.agencyTrackingId = row.agencyTrackingId ∧
      statement = .updateAfterPayGovResponse row.agencyTrackingId
        (GetDetails.refreshPatch row result) ∧
      new.transactionStatus =
        some (parseTransactionStatus result.transaction_status) := by
  cases permitted with
  | passive _ passive => cases rewrites <;> exact False.elim passive
  | survey => cases rewrites
  | store answered =>
      cases rewrites with
      | refreshed isId hasToken tracked records =>
          exact ⟨_, _, _, _, rfl, answered, isId, rfl, rfl⟩
  | look _ | lookMissed | cancel _ _ _ | retire _ | insert _ | insertFailed _
  | activate _ | activateFailed _ | abandon _ | load | loadMissed | failFee _
  | claim _ | claimFailed _ _ | markFailed | persist | outrun | persistFailed
  | markUnrecorded | sweep =>
      exact absurd getDetails (by simp [isGetDetails])

/-- A final outcome that is stored is that of the row's completion. -/
theorem completion_of_storesFinal {entry : LogEntry}
    (lawful : Lawful config request entry)
    (stores : StoresFinal entry id status)
    (final : status ∈ FINAL_OUTCOMES) :
    ∃ row ∈ entry.before.table.rows, row.agencyTrackingId = id ∧
      ∃ completion ∈ entry.before.payGov.completions,
        row.paygovTrackingId = some completion.paygovTrackingId ∧
          completion.outcome = status := by
  obtain ⟨⟨⟨own, patch⟩, refreshes, rfl, isStatus⟩, _⟩ := stores
  obtain ⟨caller, op, reply, before, after⟩ := entry
  obtain ⟨stage, next, fate, knows, permitted, _⟩ := lawful.performed
  obtain rfl : op = .db (.updateAfterPayGovResponse own patch) :=
    op_of_refreshes? refreshes
  cases permitted with
  | passive _ passive => exact False.elim passive
  | @store _ _ rows answers row result _ answered =>
      obtain ⟨surveyed, heard⟩ := knows.2 row result answered
      obtain ⟨current, member, evolves⟩ := knows.1 row surveyed
      obtain ⟨token, completion, completionIn, _, isId, outcome⟩ :=
        heard.reported
      refine ⟨current, member, evolves.id_eq, completion, completionIn, ?_, ?_⟩
      · rw [isId]
        exact evolves.trackingId _ heard.tracked
      · have parsed : parseTransactionStatus result.transaction_status =
            status := isStatus
        rcases outcome with pending | same
        · rw [← parsed, pending] at final
          exact absurd final (by decide)
        · exact same.trans parsed

/-- A `pending` answer comes from a completion that is still `pending`. -/
theorem completion_of_fetchedPending {entry : LogEntry} {trackingId : String}
    (lawful : Lawful config request entry)
    (fetched : fetchedPending caller trackingId entry = true) :
    ∃ completion ∈ entry.before.payGov.completions,
      completion.paygovTrackingId = trackingId ∧
        completion.outcome = .pending := by
  unfold fetchedPending at fetched
  split at fetched
  · rename_i result answered
    obtain ⟨_, isId, pending⟩ := of_decide_eq_true fetched
    unfold answer? at answered
    split at answered
    · obtain rfl := Option.some.inj answered
      obtain ⟨stage, next, fate, _, _, executed⟩ := lawful.performed
      obtain ⟨sameId, _, completion, member, completionId, isStatus⟩ :=
        reported_of_execGetDetails executed
      refine ⟨completion, member, completionId.trans (sameId.symm.trans isId),
        ?_⟩
      rw [Completion.outcome, isStatus]
      exact pending
    · exact absurd answered (by simp)
  · exact absurd fetched (by simp)

/-- Pay.gov does not revise a final outcome. -/
theorem outcome_eq_of_extends {payGov later : PayGov}
    (extended : payGov.Extends later) {completion other : Completion}
    (completionIn : completion ∈ payGov.completions)
    (otherIn : other ∈ later.completions)
    (sameId : other.paygovTrackingId = completion.paygovTrackingId)
    (final : completion.outcome ∈ FINAL_OUTCOMES) :
    other.outcome = completion.outcome := by
  obtain ⟨now, nowIn, evolves⟩ := extended.completions completion completionIn
  obtain rfl := later.completion_eq_of_trackingId otherIn nowIn
    (sameId.trans evolves.trackingId_eq.symm)
  rcases evolves.outcome with pending | same
  · rw [pending] at final
    exact absurd final (by decide)
  · exact same

/-! ## The invariant -/

/-- The invariant of runs in which every move is refresh safe. -/
structure RefreshInvariant (annotated : Annotated config) : Prop
    extends Recorded annotated where
  asked : ∀ (caller : Nat) rows answers,
    annotated.phases[caller]? = some (.refreshing rows answers) →
      ∀ row result, (row, result) ∈ answers →
        ∃ entry ∈ annotated.state.log, entry.caller = caller ∧
          answer? entry = some result
  monotone : MonotoneRefresh annotated.state

variable {source target : Annotated config} {world : World}

/-- A refresh safe answer is not `pending` after a final outcome. -/
theorem not_pending_of_storesFinal (invariant : RefreshInvariant source)
    {rows : List Transaction}
    {answers : List (Transaction × PayGovGetDetailsTransaction)}
    {row : Transaction} {result : PayGovGetDetailsTransaction}
    (holds : source.phases[caller]? = some (.refreshing rows answers))
    (answered : (row, result) ∈ answers)
    (safe : RefreshSafe source.state caller
      (.db (.updateAfterPayGovResponse row.agencyTrackingId
        (GetDetails.refreshPatch row result))) fate)
    (committed : isCommitted fate = true) {earlier : LogEntry}
    (member : earlier ∈ source.state.log) (another : earlier.caller ≠ caller)
    (stores : StoresFinal earlier row.agencyTrackingId status)
    (final : status ∈ FINAL_OUTCOMES) {completion : Completion}
    (completionIn : completion ∈ earlier.before.payGov.completions)
    (isId : completion.paygovTrackingId = result.paygov_tracking_id)
    (isFinal : completion.outcome = status) :
    parseTransactionStatus result.transaction_status ≠ .pending := by
  intro pending
  obtain ⟨asked, askedIn, own, isAnswer⟩ :=
    invariant.asked caller rows answers holds row result answered
  have fetched :
      fetchedPending caller result.paygov_tracking_id asked = true := by
    simp [fetchedPending, isAnswer, own, pending]
  obtain ⟨latest, found⟩ := Option.isSome_iff_exists.mp
    (List.find?_isSome.mpr ⟨asked, askedIn, fetched⟩)
  have latestFetched := List.find?_some found
  rcases mem_since_or_older invariant.chronological.ordered found member with
    inSince | same | older
  · exact safe committed _ rfl pending earlier inSince another status final
      stores
  · obtain ⟨⟨⟨id, patch⟩, refreshes, _⟩, _⟩ := stores
    obtain ⟨caller, op, reply, before, after⟩ := earlier
    obtain rfl : op = .db (.updateAfterPayGovResponse id patch) :=
      op_of_refreshes? refreshes
    rw [← same] at latestFetched
    exact absurd latestFetched (by simp [fetchedPending, answer?])
  · -- Pay.gov was asked after it had reported the final outcome.
    obtain ⟨_, _, lawful⟩ :=
      invariant.lawful latest (List.mem_of_find?_eq_some found)
    obtain ⟨other, otherIn, otherId, otherPending⟩ :=
      completion_of_fetchedPending lawful latestFetched
    have within := invariant.chronological.within earlier member
    have same := outcome_eq_of_extends (within.trans older).payGov completionIn
      otherIn (otherId.trans isId.symm) (isFinal ▸ final)
    rw [otherPending, isFinal] at same
    rw [← same] at final
    exact absurd final (by decide)

/-- A refresh safe `getDetails` leaves a final outcome alone. -/
theorem final_of_exec {rest : Reply op → Program Op Reply Outcome}
    (invariant : RefreshInvariant source)
    (running : source.state.calls[caller]? =
      some ⟨request, some (.perform op rest)⟩)
    (holds : source.phases[caller]? = some stage)
    (executed : exec config.xmlFormats op fate source.state.world =
      some (reply, world))
    (moved : Permitted config request stage op reply next)
    (safe : RefreshSafe source.state caller op fate)
    (getDetails : isGetDetails request = true) {earlier : LogEntry}
    (member : earlier ∈ source.state.log) (another : earlier.caller ≠ caller)
    (stores : StoresFinal earlier id status) (final : status ∈ FINAL_OUTCOMES)
    {old new : Transaction} (oldIn : old ∈ source.state.world.table.rows)
    (oldId : old.agencyTrackingId = id) (newIn : new ∈ world.table.rows)
    (newId : new.agencyTrackingId = id) (different : new ≠ old) :
    new.transactionStatus = some status := by
  have known := invariant.knows caller _ stage running holds
  have lawful := invariant.toSound.lawful running holds executed moved
  obtain ⟨owner, statement, isOp, rewrite⟩ :=
    lawful.rewritten oldIn newIn (newId.trans oldId.symm) different
  obtain rfl : op = .db statement := isOp
  obtain ⟨rows, answers, row, result, rfl, answered, isId, rfl, isStatus⟩ :=
    stored_of_rewrites moved getDetails rewrite
  have committed : isCommitted fate = true := by
    by_contra uncommitted
    obtain rfl := same_of_uncommitted executed
      (Bool.eq_false_of_not_eq_true uncommitted)
    exact different (source.state.world.table.eq_of_id_eq newIn oldIn
      (newId.trans oldId.symm))
  -- The row has the tracking id of the completion that was final before.
  obtain ⟨_, _, earlierLawful⟩ := invariant.lawful earlier member
  obtain ⟨first, firstIn, firstId, completion, completionIn, tracked,
    isFinal⟩ := completion_of_storesFinal earlierLawful stores final
  have upwards : earlier.before ≤ source.state.world :=
    (invariant.chronological.within earlier member).trans
      (invariant.chronological.present earlier member)
  have oldTracked := (upwards.evolved firstIn oldIn
    (oldId.trans firstId.symm)).trackingId _ tracked
  obtain ⟨surveyed, heard⟩ := known.2 row result answered
  have rowTracked := ((known.1 row surveyed).evolves oldIn isId).trackingId _
    heard.tracked
  have sameId := Option.some.inj (oldTracked.symm.trans rowTracked)
  have unpending := not_pending_of_storesFinal invariant holds answered safe
    committed member another (isId ▸ oldId ▸ stores) final completionIn sameId
    isFinal
  obtain ⟨token, reported, reportedIn, _, reportedId, outcome⟩ :=
    heard.reported
  have same := outcome_eq_of_extends upwards.payGov completionIn reportedIn
    (reportedId.trans sameId.symm) (isFinal ▸ final)
  rcases outcome with pending | isParsed
  · exact absurd pending unpending
  · rw [isStatus, ← isParsed, same, isFinal]

/-- Every answer that a request knows has arrived with an entry. -/
theorem RefreshInvariant.asked_step (invariant : RefreshInvariant source)
    {allowed : PortalState → PortalMove → Prop}
    (step : AnnotatedStep config allowed source target) :
    ∀ (caller : Nat) rows answers,
      target.phases[caller]? = some (.refreshing rows answers) →
        ∀ row result, (row, result) ∈ answers →
          ∃ entry ∈ target.state.log, entry.caller = caller ∧
            answer? entry = some result := by
  intro caller rows answers holds row result known
  have kept : ∀ {answers}, source.phases[caller]? =
      some (.refreshing rows answers) → (row, result) ∈ answers →
      ∃ entry ∈ target.state.log, entry.caller = caller ∧
        answer? entry = some result := by
    intro answers before known
    obtain ⟨entry, member, rest⟩ :=
      invariant.asked caller rows answers before row result known
    exact ⟨entry, step.log_subset member, rest⟩
  cases step with
  | arrive request permitted state_eq phases_eq =>
      rw [phases_eq] at holds
      rcases getElem?_append_singleton_cases holds with before | impossible
      · exact kept before known
      · exact absurd impossible (by simp)
  | perform other fate request op rest reply world stage next permitted
      running was executed moved state_eq phases_eq =>
      rw [phases_eq] at holds
      rcases getElem?_set_cases holds with ⟨rfl, rfl⟩ | ⟨_, before⟩
      · rcases answered_of_permitted moved known with
          ⟨earlier, rfl, inEarlier⟩ | arrived
        · exact kept was inEarlier
        · rw [state_eq]
          exact ⟨_, List.mem_cons_self, rfl, arrived⟩
      · exact kept before known
  | crash other request op rest permitted running state_eq phases_eq =>
      rw [phases_eq] at holds
      rcases getElem?_set_cases holds with ⟨_, impossible⟩ | ⟨_, before⟩
      · exact absurd impossible (by simp)
      · exact kept before known
  | drift change world permitted drifted state_eq phases_eq =>
      rw [phases_eq] at holds
      exact kept holds known

/-- Every refresh safe move keeps the invariant. -/
theorem RefreshInvariant.step (invariant : RefreshInvariant source)
    (step : AnnotatedStep config (Machine.OnSteps RefreshSafe) source target) :
    RefreshInvariant target := by
  refine ⟨invariant.toRecorded.step step, invariant.asked_step step, ?_⟩
  intro entry older suffix own isOwn
  cases step.loggedBy suffix with
  | earlier was =>
      rw [invariant.requestOf?_eq step (was.subset List.mem_cons_self)]
        at isOwn
      exact invariant.monotone entry older was own isOwn
  | performed caller fate request op rest reply stage next permitted running
      holds executed moved =>
      intro getDetails earlier member another id status final stores row rowIn
        isId new newIn newId different
      have isRequest := requestOf?_of_running step running
      obtain rfl := Option.some.inj (isRequest.symm.trans isOwn)
      exact final_of_exec invariant running holds executed moved
        (permitted.of_running running) getDetails member another stores final
        rowIn isId newIn newId different

theorem refreshInvariant_initial (now : Int) :
    RefreshInvariant (.initial (World.fresh now) : Annotated config) where
  toRecorded := recorded_initial now
  asked := fun caller rows answers holds =>
    absurd holds (by simp [Phased.initial])
  monotone := fun entry older suffix =>
    absurd suffix (by simp [Phased.initial, State.initial])

/--
In every run of refresh safe moves no `getDetails` moves a row away from a
final outcome that another `getDetails` has stored in it.
-/
theorem refreshes_monotone {now : Int} {state : PortalState}
    (reaches : Reachable config (Machine.OnSteps RefreshSafe) now state) :
    MonotoneRefresh state := by
  obtain ⟨annotated, rfl, invariant⟩ := exists_annotated
    (refreshInvariant_initial now)
    (fun _ _ invariant step => invariant.step step) reaches
  exact invariant.monotone

/-- A payment that Pay.gov is still settling. -/
def settlingPayment : List PortalMove :=
  initiates 0 "A1" firstToken ++ claims 1 firstToken ++ meets 1 [
    .completed (sampleResponse "P1" .Pending) .delivered, .executed [],
    .executed []]

/-- `getDetails` by `caller` up to Pay.gov's answer. -/
def asks (caller : Nat) : List PortalMove :=
  .arrive (.getDetails sampleClient ⟨"ref"⟩) :: meets caller [
    .executed [], .reported none none none none none .delivered]

/-- The answer of one `getDetails` is stored before the next one asks. -/
def refreshedTwice : List PortalMove :=
  settlingPayment ++ asks 2 ++ meets 2 [.executed []] ++
    [.drift (.settle "P1" .Success)] ++ asks 3 ++ meets 3 [.executed []]

/-- Both answers of the sample run are stored, the final one last. -/
theorem refreshes_monotone_sample : ∃ state,
    (portal sampleConfig).replay (Machine.OnSteps RefreshSafe) refreshedTwice
      (.initial (World.fresh sampleNow)) = some state ∧
    ProcessedIn "A1" state.world.table ∧ MonotoneRefresh state := by
  have replayed : (((portal sampleConfig).replay (Machine.OnSteps RefreshSafe)
      refreshedTwice (.initial (World.fresh sampleNow))).map fun state =>
        decide (ProcessedIn "A1" state.world.table)) = some true := by
    decide
  obtain ⟨state, reached, processed⟩ := Option.map_eq_some_iff.mp replayed
  exact ⟨state, reached, of_decide_eq_true processed,
    refreshes_monotone (Machine.reaches_of_replay reached)⟩

/-- A `pending` answer is stored after the final one that was fetched later. -/
def refreshedLate : List PortalMove :=
  settlingPayment ++ asks 2 ++ [.drift (.settle "P1" .Success)] ++ asks 3 ++
    meets 3 [.executed []] ++ meets 2 [.executed []]

/-- The entry moves a row back that an earlier one has left `processed`. -/
def MovesBack (earlier entry : LogEntry) : Prop :=
  ∃ old ∈ entry.before.table.rows,
    StoresFinal earlier old.agencyTrackingId .processed ∧
      old.transactionStatus = some .processed ∧
      ∃ new ∈ entry.after.table.rows,
        new.agencyTrackingId = old.agencyTrackingId ∧
          new.transactionStatus = some .pending

instance (earlier entry : LogEntry) : Decidable (MovesBack earlier entry) :=
  inferInstanceAs (Decidable (∃ _ ∈ _, _ ∧ _ ∧ ∃ _ ∈ _, _))

/-- The newest operation is a `getDetails` that moves a row back. -/
def RefreshesBack (state : PortalState) : Prop :=
  ∃ entry ∈ state.log.head?,
    (∃ request ∈ requestOf? state entry.caller, isGetDetails request = true) ∧
      ∃ earlier ∈ state.log.tail, earlier.caller ≠ entry.caller ∧
        MovesBack earlier entry

instance (state : PortalState) : Decidable (RefreshesBack state) :=
  inferInstanceAs (Decidable (∃ _ ∈ _, _ ∧ ∃ _ ∈ _, _))

/-- The `processed` row is moved back to `pending`. -/
theorem refreshes_monotone_fails : ∃ state,
    Reachable sampleConfig Machine.Unrestricted sampleNow state ∧
      ¬ MonotoneRefresh state := by
  have replayed : (((portal sampleConfig).replay Machine.Unrestricted
      refreshedLate (.initial (World.fresh sampleNow))).map fun state =>
        decide (RefreshesBack state)) = some true := by
    decide
  obtain ⟨state, reached, back⟩ := Option.map_eq_some_iff.mp replayed
  obtain ⟨entry, newest, ⟨request, isRequest, getDetails⟩, earlier, member,
    another, old, oldIn, stores, processed, new, newIn, newId, pending⟩ :=
    of_decide_eq_true back
  refine ⟨state, Machine.reaches_of_replay reached, fun monotone => ?_⟩
  have split := List.eq_cons_of_mem_head? newest
  have kept := monotone entry state.log.tail (split ▸ List.suffix_rfl) request
    isRequest getDetails earlier member another _ .processed (by decide) stores
    old oldIn rfl new newIn newId ?_
  · exact absurd (pending.symm.trans kept) (by simp)
  · rintro rfl
    exact absurd (pending.symm.trans processed) (by simp)

end PaymentPortal.Guarantees
