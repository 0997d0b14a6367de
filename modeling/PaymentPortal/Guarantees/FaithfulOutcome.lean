import PaymentPortal.Guarantees.Retirement

/-!
# Faithful outcomes

A row that `processPayment` has marked `failed` belongs to a token that Pay.gov
has not charged and never will, in every run in which Pay.gov accepts a
completion only while the row is still claimed, the answer to an accepted
completion arrives, passes its schema and is stored without a database error,
and no caller marks a row `failed` for whose token another caller's completion
has been accepted.

The use cases cannot tell a completion that was refused from one whose answer
was lost: the HTTP client sends it again, Pay.gov answers the used token with a
fault, and the fault marks the charged row `failed`.  An answer that arrives but
violates its schema, as one does whose tracking id looks like a number, has the
same end.
-/

namespace PaymentPortal.Guarantees

open PaymentPortal.Interaction
open PaymentPortal.Model
open PaymentPortal.Protocol

/-- The row is recorded as failed. -/
def IsFailed (row : Transaction) : Prop :=
  row.transactionStatus = some .failed ∨ row.paymentStatus = .failed

instance (row : Transaction) : Decidable (IsFailed row) :=
  inferInstanceAs (Decidable (_ ∨ _))

/-- Pay.gov has not charged the tokens of rows `processPayment` left failed. -/
def FaithfulOutcome (state : PortalState) : Prop :=
  ∀ entry ∈ state.log, ∀ request ∈ requestOf? state entry.caller,
    isProcessPayment request = true →
      ∀ row ∈ entry.after.table.rows, row ∉ entry.before.table.rows →
        IsFailed row →
          ∀ token ∈ row.paygovToken, ¬ state.world.payGov.Charged token

instance (state : PortalState) : Decidable (FaithfulOutcome state) :=
  inferInstanceAs (Decidable (∀ _ ∈ _, ∀ _ ∈ _, _ → ∀ _ ∈ _, _ → _))

/-- Pay.gov accepts the token by this operation. -/
def AcceptsToken (entry : LogEntry) (token : String) : Prop :=
  ¬ entry.before.payGov.Accepted token ∧ entry.after.payGov.Accepted token

instance (entry : LogEntry) (token : String) :
    Decidable (AcceptsToken entry token) :=
  inferInstanceAs (Decidable (_ ∧ _))

/-- Pay.gov accepts a completion only while its row is `processing`. -/
def AcceptsInTime (state : PortalState) (op : Op) (fate : Fate) : Prop :=
  ∀ token ∈ accepts? op fate, ∀ row ∈ state.world.table.rows,
    row.paygovToken = some token → row.transactionStatus = some .processing

/-- The answer to an accepted completion arrives and passes its schema. -/
def AnswerArrives (formats : XmlFormats) (op : Op) (fate : Fate) : Prop :=
  ∀ token ∈ accepts? op fate, isDelivered formats fate = true

/-- A guarded write of an answer that is not a failure meets no error. -/
def AnswerStored (op : Op) (fate : Fate) : Prop :=
  ∀ patch ∈ guardedPatch? op, patch.transactionStatus ≠ .failed →
    isExecuted fate = true

/--
`processPayment` marks a row `failed` only if no other caller's completion of
its token has been accepted.
-/
def FailsAlone (state : PortalState) (caller : Nat) (op : Op) (fate : Fate) :
    Prop :=
  ∀ request ∈ requestOf? state caller, isProcessPayment request = true →
    ∀ id ∈ fails? op fate, ∀ row ∈ state.world.table.rows,
      row.agencyTrackingId = id → ∀ token ∈ row.paygovToken,
        ∀ entry ∈ state.log, AcceptsToken entry token → entry.caller = caller

/-- The condition on one operation under which outcomes are faithful. -/
def FaithfulSafe (config : Config) (state : PortalState) (caller : Nat)
    (op : Op) (fate : Fate) : Prop :=
  AcceptsInTime state op fate ∧ AnswerArrives config.xmlFormats op fate ∧
    AnswerStored op fate ∧ FailsAlone state caller op fate

instance (state : PortalState) (op : Op) (fate : Fate) :
    Decidable (AcceptsInTime state op fate) :=
  inferInstanceAs (Decidable (∀ _ ∈ _, ∀ _ ∈ _, _ → _))

instance (formats : XmlFormats) (op : Op) (fate : Fate) :
    Decidable (AnswerArrives formats op fate) :=
  inferInstanceAs (Decidable (∀ _ ∈ _, _))

instance (op : Op) (fate : Fate) : Decidable (AnswerStored op fate) :=
  inferInstanceAs (Decidable (∀ _ ∈ _, _ → _))

instance (state : PortalState) (caller : Nat) (op : Op) (fate : Fate) :
    Decidable (FailsAlone state caller op fate) :=
  inferInstanceAs (Decidable (∀ _ ∈ _, _ → ∀ _ ∈ _, ∀ _ ∈ _, _ → ∀ _ ∈ _,
    ∀ _ ∈ _, _ → _))

instance (config : Config) (state : PortalState) (caller : Nat) (op : Op)
    (fate : Fate) : Decidable (FaithfulSafe config state caller op fate) :=
  inferInstanceAs (Decidable (_ ∧ _ ∧ _ ∧ _))

variable {config : Config} {request : Request} {stage next : Stage}
variable {op : Op} {reply : Reply op} {fate : Fate} {before after : World}
variable {formats : XmlFormats}

/-! ## Callers whose completion has been accepted -/

/-- The stages of a caller whose completion has been accepted. -/
def HasAnswer : Stage → Prop
  | .persisting _ result =>
      parseTransactionStatus result.transaction_status ≠ .failed
  | .outrun => True
  | .closing => True
  | .stopped => True
  | _ => False

/-- A caller whose completion is accepted gets its answer. -/
theorem hasAnswer_of_accepts {token : String}
    (permitted : Permitted config request stage op reply next)
    (executed : exec formats op fate before = some (reply, after))
    (accepts : accepts? op fate = some token)
    (arrives : AnswerArrives formats op fate) : HasAnswer next := by
  have delivered := arrives token accepts
  unfold accepts? at accepts
  split at accepts
  · rename_i tcsAppId submitted response delivery
    split at accepts
    · exact absurd accepts (by simp)
    rename_i unfailed
    cases delivery with
    | unusable message => exact absurd delivered (by simp [isDelivered])
    | lost error => exact absurd delivered (by simp [isDelivered])
    | delivered =>
        have read := (response.responseText_soap formats).resolve_right
          (of_decide_eq_true delivered)
        obtain ⟨payGov, _, answer⟩ := Option.map_eq_some_iff.mp executed
        obtain ⟨isReply, _⟩ := Prod.mk.inj answer
        rw [read] at isReply
        cases permitted with
        | passive _ passive => exact absurd passive id
        | complete =>
            obtain rfl :=
              ResponseText.completeOnlineCollectionWithDetailsResponse.inj
                (Except.ok.inj isReply)
            exact unfailed
        | completeUnanswered missed =>
            exact absurd isReply.symm (missed _)
  · exact absurd accepts (by simp)

/-- A caller that has its answer stores it and marks nothing `failed`. -/
theorem hasAnswer_of_permitted (hasAnswer : HasAnswer stage)
    (permitted : Permitted config request stage op reply next)
    (executed : exec formats op fate before = some (reply, after))
    (stored : AnswerStored op fate) : HasAnswer next ∧ marks? op = none := by
  cases permitted with
  | @passive _ _ op _ _ passive =>
      refine ⟨hasAnswer, ?_⟩
      cases op with
      | db statement =>
          cases statement <;> first | rfl | exact False.elim passive
      | now | pick | generateAgencyTrackingId | fetch _ => rfl
  | persist | outrun => exact ⟨trivial, rfl⟩
  | persistFailed =>
      have isExecuted := stored _ rfl hasAnswer
      exact absurd rfl (ne_error_of_exec (by decide) isExecuted executed _)
  | abandon owned =>
      cases stage <;> first
        | exact False.elim hasAnswer
        | exact absurd owned (by simp [Stage.owned?])
  | look _ | lookMissed | clock | cancel _ _ _ | retire _ | insert _
  | insertFailed _ | start _ | startUnanswered _ | activate _ | activateFailed _
  | load | loadMissed | failFee _ | claim _ | claimFailed _ _ | complete
  | completeUnanswered _ | markFailed | markUnrecorded | survey | answer _ _
  | unanswered _ _ | store _ | sweep => exact False.elim hasAnswer

/-- A failure write with an effect is the only write that fails a paid row. -/
theorem fails_of_new {row : Transaction} {token : String} {caller : Nat}
    (lawful : Lawful config request ⟨caller, op, reply, before, after⟩)
    (executed : exec formats op fate before = some (reply, after))
    (member : row ∈ after.table.rows) (new : row ∉ before.table.rows)
    (failed : row.transactionStatus = some .failed)
    (hasToken : row.paygovToken = some token)
    (accepted : before.payGov.Accepted token) :
    ∃ code detail, op = .db (.updateToFailed row.agencyTrackingId code detail) ∧
      fails? op fate = some row.agencyTrackingId ∧
      ∃ old ∈ before.table.rows,
        old.agencyTrackingId = row.agencyTrackingId ∧
          old.paygovToken = some token := by
  rcases lawful.added_cases member new with
    ⟨data, _, rfl⟩ | ⟨old, oldIn, owner, statement, isOp, rewrite⟩
  · exact absurd failed (by simp [receivedRow])
  have unfailed : ∀ {other patch}, other = token →
      Records before.payGov other patch →
        patch.transactionStatus ≠ .failed := by
    rintro other patch rfl records isFailed
    rcases records.unfailed accepted with status | status <;>
      exact absurd (status.symm.trans isFailed) (by simp)
  obtain rfl : op = .db statement := isOp
  cases rewrite with
  | activated _ _ _ _ _ => exact absurd failed (by simp [initiatedPatch])
  | refreshed isId rowToken tracked records =>
      have sameToken := Option.some.inj (rowToken.symm.trans hasToken)
      exact absurd (Option.some.inj failed) (unfailed sameToken records)
  | stored isId rowToken processing records =>
      have sameToken := Option.some.inj (rowToken.symm.trans hasToken)
      exact absurd (Option.some.inj failed) (unfailed sameToken records)
  | claimed _ _ _ => exact absurd failed (by simp [processingPatch])
  | @failed _ id code detail isId guarded =>
      subst isId
      refine ⟨code, detail, rfl, ?_, old, oldIn, rfl, hasToken⟩
      by_contra ineffective
      obtain rfl := same_of_fails? executed ineffective
      exact new member
  | swept _ _ => exact absurd failed (by simp [cancelledPatch])
  | cancelled _ _ _ => exact absurd failed (by simp [cancelledPatch])

/-! ## The invariant -/

/-- The tokens of rows that `processPayment` left failed are not accepted. -/
def Faithful (state : PortalState) : Prop :=
  ∀ entry ∈ state.log, ∀ request ∈ requestOf? state entry.caller,
    isProcessPayment request = true →
      ∀ row ∈ entry.after.table.rows, row ∉ entry.before.table.rows →
        row.transactionStatus = some .failed →
          ∀ token ∈ row.paygovToken, ¬ state.world.payGov.Accepted token

/-- The invariant of runs in which every move is faithful safe. -/
structure FaithfulInvariant (annotated : Annotated config) : Prop
    extends Recorded annotated where
  accepted : ∀ token, annotated.state.world.payGov.Accepted token →
    ∃ entry ∈ annotated.state.log, AcceptsToken entry token
  answered : ∀ entry ∈ annotated.state.log, ∀ token, AcceptsToken entry token →
    ∀ stage ∈ annotated.phases[entry.caller]?, HasAnswer stage
  faithful : Faithful annotated.state

variable {source target : Annotated config} {caller : Nat} {world : World}

/-- A row that was left failed is not `processing` any more. -/
theorem not_processing_of_failed (recorded : Recorded source) {entry : LogEntry}
    (member : entry ∈ source.state.log) {row : Transaction}
    (left : row ∈ entry.after.table.rows)
    (failed : row.transactionStatus = some .failed) {token : String}
    (hasToken : row.paygovToken = some token) :
    ∃ current ∈ source.state.world.table.rows,
      current.paygovToken = some token ∧
        current.transactionStatus ≠ some .processing := by
  obtain ⟨current, currentIn, evolves⟩ :=
    (recorded.chronological.present entry member).rows row left
  obtain ⟨reached, hasReached, leads⟩ := evolves.status .failed failed
  refine ⟨current, currentIn, evolves.token token hasToken, ?_⟩
  rintro processing
  obtain rfl := Option.some.inj (hasReached.symm.trans processing)
  exact absurd leads (by decide)

/-- Every token is accepted in time. -/
theorem processing_of_accepted
    (step : AnnotatedStep config (Machine.OnSteps (FaithfulSafe config)) source
      target)
    {token : String} (accepted : target.state.world.payGov.Accepted token)
    (unaccepted : ¬ source.state.world.payGov.Accepted token)
    {row : Transaction} (member : row ∈ source.state.world.table.rows)
    (hasToken : row.paygovToken = some token) :
    row.transactionStatus = some .processing := by
  cases step with
  | arrive request permitted state_eq phases_eq =>
      rw [state_eq] at accepted
      exact absurd accepted unaccepted
  | perform caller fate request op rest reply world stage next permitted
      running holds executed moved state_eq phases_eq =>
      have safe : FaithfulSafe config source.state caller op fate :=
        permitted.of_running running
      rw [state_eq] at accepted
      rcases accepted_of_exec executed accepted with before | ⟨accepts, _⟩
      · exact absurd before unaccepted
      · exact safe.1 token accepts row member hasToken
  | crash caller request op rest permitted running state_eq phases_eq =>
      rw [state_eq] at accepted
      exact absurd accepted unaccepted
  | drift change world permitted drifted state_eq phases_eq =>
      rw [state_eq] at accepted
      exact absurd (accepted_of_drift drifted accepted).1 unaccepted

/-- No token of a row that was left failed is accepted afterwards. -/
theorem FaithfulInvariant.faithful_later (invariant : FaithfulInvariant source)
    (step : AnnotatedStep config (Machine.OnSteps (FaithfulSafe config)) source
      target)
    {entry : LogEntry} (member : entry ∈ source.state.log)
    (found : requestOf? target.state entry.caller = some request)
    (process : isProcessPayment request = true) {row : Transaction}
    (left : row ∈ entry.after.table.rows)
    (new : row ∉ entry.before.table.rows)
    (failed : row.transactionStatus = some .failed) {token : String}
    (hasToken : row.paygovToken = some token) :
    ¬ target.state.world.payGov.Accepted token := by
  intro accepted
  rw [invariant.requestOf?_eq step member] at found
  have unaccepted := invariant.faithful entry member request found process row
    left new failed token hasToken
  obtain ⟨current, currentIn, currentToken, unclaimed⟩ :=
    not_processing_of_failed invariant.toRecorded member left failed hasToken
  exact unclaimed
    (processing_of_accepted step accepted unaccepted currentIn currentToken)

/-- What a faithful safe operation of `processPayment` leaves failed. -/
theorem unaccepted_of_exec {rest : Reply op → Program Op Reply Outcome}
    (invariant : FaithfulInvariant source)
    (running : source.state.calls[caller]? =
      some ⟨request, some (.perform op rest)⟩)
    (holds : source.phases[caller]? = some stage)
    (executed : exec config.xmlFormats op fate source.state.world =
      some (reply, world))
    (moved : Permitted config request stage op reply next)
    (safe : FaithfulSafe config source.state caller op fate)
    (process : isProcessPayment request = true) {row : Transaction}
    (left : row ∈ world.table.rows)
    (new : row ∉ source.state.world.table.rows)
    (failed : row.transactionStatus = some .failed) {token : String}
    (hasToken : row.paygovToken = some token) :
    ¬ world.payGov.Accepted token := by
  intro accepted
  obtain ⟨_, _, stored, alone⟩ := safe
  have before : source.state.world.payGov.Accepted token := by
    rcases accepted_of_exec executed accepted with before | ⟨_, sameTable⟩
    · exact before
    · exact absurd (sameTable ▸ left) new
  have lawful := invariant.toSound.lawful running holds executed moved
  obtain ⟨code, detail, rfl, fails, old, oldIn, oldId, oldToken⟩ :=
    fails_of_new lawful executed left new failed hasToken before
  obtain ⟨entry, member, accepts⟩ := invariant.accepted token before
  have own : entry.caller = caller :=
    alone request (requestOf?_of_present running) process _ fails old oldIn
      oldId token oldToken entry member accepts
  have hasAnswer := invariant.answered entry member token accepts stage
    (own ▸ holds)
  exact absurd (hasAnswer_of_permitted hasAnswer moved executed stored).2
    (by simp [marks?])

/-- Callers whose completion has been accepted have their answer. -/
theorem FaithfulInvariant.answered_perform
    (invariant : FaithfulInvariant source)
    (holds : source.phases[caller]? = some stage)
    (executed : exec config.xmlFormats op fate source.state.world =
      some (reply, world))
    (moved : Permitted config request stage op reply next)
    (safe : FaithfulSafe config source.state caller op fate) {entry : LogEntry}
    (member : entry ∈ (⟨caller, op, reply, source.state.world, world⟩ ::
      source.state.log)) {token : String} (accepts : AcceptsToken entry token)
    {reached : Stage}
    (phase : (source.phases.set caller next)[entry.caller]? = some reached) :
    HasAnswer reached := by
  obtain ⟨_, arrives, stored, _⟩ := safe
  rcases List.mem_cons.mp member with rfl | old
  · have isNext : reached = next := by
      rcases getElem?_set_cases phase with ⟨_, same⟩ | ⟨different, _⟩
      · exact same
      · exact absurd rfl different
    subst isNext
    rcases accepted_of_exec executed accepts.2 with before | ⟨isAccept, _⟩
    · exact absurd before accepts.1
    · exact hasAnswer_of_accepts moved executed isAccept arrives
  · rcases getElem?_set_cases phase with ⟨own, rfl⟩ | ⟨_, was⟩
    · have hasAnswer := invariant.answered entry old token accepts stage
        (own ▸ holds)
      exact (hasAnswer_of_permitted hasAnswer moved executed stored).1
    · exact invariant.answered entry old token accepts reached was

/-- Every move has callers with accepted completions know their answer. -/
theorem FaithfulInvariant.answered_step (invariant : FaithfulInvariant source)
    (step : AnnotatedStep config (Machine.OnSteps (FaithfulSafe config)) source
      target)
    {entry : LogEntry} (member : entry ∈ target.state.log) {token : String}
    (accepts : AcceptsToken entry token) {reached : Stage}
    (phase : target.phases[entry.caller]? = some reached) :
    HasAnswer reached := by
  cases step with
  | arrive request permitted state_eq phases_eq =>
      rw [state_eq] at member
      have arrived := invariant.caller_lt member
      rw [phases_eq, List.getElem?_append_left
        (source.length_eq ▸ arrived)] at phase
      exact invariant.answered entry member token accepts reached phase
  | perform caller fate request op rest reply world stage next permitted
      running holds executed moved state_eq phases_eq =>
      rw [state_eq] at member
      rw [phases_eq] at phase
      exact invariant.answered_perform holds executed moved
        (permitted.of_running running) member accepts phase
  | crash caller request op rest permitted running state_eq phases_eq =>
      rw [state_eq] at member
      rw [phases_eq] at phase
      rcases getElem?_set_cases phase with ⟨_, rfl⟩ | ⟨_, was⟩
      · trivial
      · exact invariant.answered entry member token accepts reached was
  | drift change world permitted drifted state_eq phases_eq =>
      rw [state_eq] at member
      rw [phases_eq] at phase
      exact invariant.answered entry member token accepts reached phase

/-- Every accepted token has been accepted by a logged operation. -/
theorem FaithfulInvariant.accepted_step (invariant : FaithfulInvariant source)
    (step : AnnotatedStep config (Machine.OnSteps (FaithfulSafe config)) source
      target)
    {token : String} (accepted : target.state.world.payGov.Accepted token) :
    ∃ entry ∈ target.state.log, AcceptsToken entry token := by
  cases step with
  | arrive request permitted state_eq phases_eq =>
      rw [state_eq] at accepted ⊢
      exact invariant.accepted token accepted
  | perform caller fate request op rest reply world stage next permitted
      running holds executed moved state_eq phases_eq =>
      rw [state_eq] at accepted ⊢
      by_cases before : source.state.world.payGov.Accepted token
      · obtain ⟨entry, member, accepts⟩ := invariant.accepted token before
        exact ⟨entry, List.mem_cons_of_mem _ member, accepts⟩
      · exact ⟨_, List.mem_cons_self, before, accepted⟩
  | crash caller request op rest permitted running state_eq phases_eq =>
      rw [state_eq] at accepted ⊢
      exact invariant.accepted token accepted
  | drift change world permitted drifted state_eq phases_eq =>
      rw [state_eq] at accepted ⊢
      exact invariant.accepted token (accepted_of_drift drifted accepted).1

/-- Every faithful safe move keeps the invariant. -/
theorem FaithfulInvariant.step (invariant : FaithfulInvariant source)
    (step : AnnotatedStep config (Machine.OnSteps (FaithfulSafe config)) source
      target) : FaithfulInvariant target := by
  refine ⟨invariant.toRecorded.step step,
    fun token accepted => invariant.accepted_step step accepted,
    fun entry member token accepts stage phase =>
      invariant.answered_step step member accepts phase, ?_⟩
  intro entry member own found process row left new failed token hasToken
  obtain ⟨older, logged⟩ := step.loggedBy_of_mem member
  cases logged with
  | earlier suffix =>
      exact invariant.faithful_later step (suffix.subset List.mem_cons_self)
        found process left new failed hasToken
  | performed caller fate request op rest reply stage next permitted running
      holds executed moved =>
      have same := requestOf?_of_running step running
      obtain rfl := Option.some.inj (same.symm.trans found)
      exact unaccepted_of_exec invariant running holds executed moved
        (permitted.of_running running) process left new failed hasToken

theorem faithfulInvariant_initial (now : Int) :
    FaithfulInvariant (.initial (World.fresh now) : Annotated config) where
  toRecorded := recorded_initial now
  accepted := by
    rintro token ⟨completion, member, _⟩
    exact absurd member (by simp [Phased.initial, State.initial, World.fresh,
      PayGov.empty])
  answered := fun entry member =>
    absurd member (by simp [Phased.initial, State.initial])
  faithful := fun entry member =>
    absurd member (by simp [Phased.initial, State.initial])

/-- What `processPayment` leaves recorded as failed has the status `failed`. -/
theorem failed_of_isFailed {entry : LogEntry}
    (lawful : Lawful config request entry)
    (process : isProcessPayment request = true) {row : Transaction}
    (left : row ∈ entry.after.table.rows)
    (new : row ∉ entry.before.table.rows) (isFailed : IsFailed row) :
    row.transactionStatus = some .failed := by
  rcases isFailed with failed | failed
  · exact failed
  obtain ⟨owner, step⟩ := lawful.worldStep
  obtain ⟨status, has, derived⟩ :=
    (step.coherent lawful.coherent row left).status
  have uncancelled := (claimed_of_processPayment lawful process left
    new).ne_cancelled
  rw [failed] at derived
  cases status with
  | failed => exact has
  | cancelled => exact absurd has uncancelled
  | received | initiated | processing | processed | pending =>
      exact absurd derived (by decide)

/-- Pay.gov refuses a completion, and the row is marked `failed`. -/
def refusedPayment : List PortalMove :=
  initiates 0 "A1" firstToken ++ claims 1 firstToken ++ meets 1 [
    .refused (.fault (.service "Card declined" 4001)) .delivered, .executed [],
    .executed [], .executed []]

/--
Pay.gov charges the token and its answer is lost; the completion is sent again
and answered with a fault.
-/
def lostAnswer : List PortalMove :=
  initiates 0 "A1" firstToken ++ claims 1 firstToken ++ meets 1 [
    .completed (sampleResponse "P1" .Success) (.lost ⟨"FetchError", false⟩),
    .refused (.fault (.service "Token already used" 4019)) .delivered,
    .executed []]

/-- So is one whose answer arrives with a tracking id of digits. -/
example : ((portal sampleConfig).replay Machine.Unrestricted
    (initiates 0 "A1" firstToken ++ claims 1 firstToken ++ meets 1 [
      .completed (sampleResponse "12345678" .Success) .delivered,
      .executed []]) (.initial (World.fresh sampleNow))).map
        (fun state => decide (FaithfulOutcome state)) = some false := by
  decide

end PaymentPortal.Guarantees
