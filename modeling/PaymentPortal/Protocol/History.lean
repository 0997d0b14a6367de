import PaymentPortal.Interaction.Traces
import PaymentPortal.Protocol.Invariant

/-!
# History

What the log of a reachable state says.  Every entry was performed by the
request of its caller, with the knowledge of its stage and on coherent rows;
every completion that was sent to Pay.gov follows a claim of the same caller.
-/

namespace PaymentPortal.Protocol

open PaymentPortal.Interaction
open PaymentPortal.Model

/-- An entry of the log of the portal. -/
abbrev LogEntry := Entry Op Reply World

/-- The request of a caller. -/
def requestOf? (state : PortalState) (caller : Nat) : Option Request :=
  state.calls[caller]?.map Call.request

theorem requestOf?_of_present {state : PortalState} {caller : Nat}
    {call : Call Op Reply Request Outcome}
    (present : state.calls[caller]? = some call) :
    requestOf? state caller = some call.request := by
  rw [requestOf?, present]
  rfl

/-- The entry was performed by `request`, within its discipline. -/
structure Lawful (config : Config) (request : Request) (entry : LogEntry) :
    Prop where
  coherent : ∀ row ∈ entry.before.table.rows, Coherent config entry.before row
  performed : ∃ stage next fate, Knows entry.before request stage ∧
    Permitted config request stage entry.op entry.reply next ∧
    exec config.xmlFormats entry.op fate entry.before =
      some (entry.reply, entry.after)

/-- The entry is a claim of `token` that committed the version `row`. -/
structure Claims (entry : LogEntry) (token : String) (row : Transaction) :
    Prop where
  op_eq : entry.op = .db (.claimForProcessing token)
  added : row ∈ entry.after.table.rows
  new : row ∉ entry.before.table.rows

/-- The entry is a claim of `token` that returned `row` to its caller. -/
def Returns (entry : LogEntry) (token : String) (row : Transaction) : Prop :=
  ∃ caller before after, entry = ⟨caller, .db (.claimForProcessing token),
    .ok (.ok (some row)), before, after⟩

/-- The entry sends a completion of `token` to Pay.gov. -/
def Submits (entry : LogEntry) (token : String) : Prop :=
  ∃ tcsAppId, entry.op =
    .fetch (.completeOnlineCollectionWithDetails tcsAppId token)

variable {config : Config} {request : Request} {entry : LogEntry}

/-! ## Lawful entries -/

theorem Lawful.worldStep (lawful : Lawful config request entry) :
    ∃ owner, WorldStep config owner (some entry.op) entry.before
      entry.after := by
  obtain ⟨stage, next, fate, knows, permitted, executed⟩ := lawful.performed
  exact ⟨_, worldStep_of_exec lawful.coherent knows permitted executed⟩

theorem Lawful.le (lawful : Lawful config request entry) :
    entry.before ≤ entry.after := by
  obtain ⟨owner, step⟩ := lawful.worldStep
  exact step.le lawful.coherent

/-- A new version of a row was made by the statement of the entry. -/
theorem Lawful.rewritten (lawful : Lawful config request entry)
    {old new : Transaction} (oldIn : old ∈ entry.before.table.rows)
    (newIn : new ∈ entry.after.table.rows)
    (sameId : new.agencyTrackingId = old.agencyTrackingId)
    (different : new ≠ old) :
    ∃ owner statement, entry.op = .db statement ∧
      Rewrites config entry.before owner statement old new := by
  obtain ⟨owner, step⟩ := lawful.worldStep
  rcases step.kept_or_rewritten oldIn with
    kept | ⟨statement, isOp, changed, changedIn, rewrite⟩
  · exact absurd (entry.after.table.eq_of_id_eq newIn kept sameId) different
  · have changedId := (rewrite.evolves (lawful.coherent old oldIn)).id_eq
    obtain rfl := entry.after.table.eq_of_id_eq newIn changedIn
      (sameId.trans changedId.symm)
    exact ⟨owner, statement, Option.some.inj isOp, rewrite⟩

/-- A version that an operation adds is that of a row it has found or new. -/
theorem Lawful.added_cases (lawful : Lawful config request entry)
    {new : Transaction} (newIn : new ∈ entry.after.table.rows)
    (notOld : new ∉ entry.before.table.rows) :
    (∃ data, entry.op = .db (.createReceived data) ∧
      new = receivedRow entry.before.now data) ∨
      ∃ old ∈ entry.before.table.rows, ∃ owner statement,
        entry.op = .db statement ∧
          Rewrites config entry.before owner statement old new := by
  obtain ⟨owner, step⟩ := lawful.worldStep
  rcases step.rows with
    ⟨data, is_insert, _, rows_eq⟩ | ⟨change, rows_eq, rewrites⟩
  · rcases List.mem_append.mp (rows_eq ▸ newIn) with old | added
    · exact absurd old notOld
    · exact .inl ⟨data, Option.some.inj is_insert, List.mem_singleton.mp added⟩
  · obtain ⟨old, oldIn, rfl⟩ := List.mem_map.mp (rows_eq ▸ newIn)
    rcases rewrites old oldIn with same | ⟨statement, isOp, rewrite⟩
    · rw [same] at notOld
      exact absurd oldIn notOld
    · exact .inr ⟨old, oldIn, owner, statement, Option.some.inj isOp, rewrite⟩

/-- What a claim has found and what it has made of it. -/
theorem Lawful.claimed (lawful : Lawful config request entry) {token : String}
    {row : Transaction} (claims : Claims entry token row) :
    ∃ old ∈ entry.before.table.rows, old.paygovToken = some token ∧
      Claimable entry.before.now old ∧
      row = { processingPatch old with lastUpdatedAt := entry.before.now } := by
  rcases lawful.added_cases claims.added claims.new with
    ⟨data, isInsert, _⟩ | ⟨old, oldIn, owner, statement, isOp, rewrite⟩
  · exact absurd (claims.op_eq.symm.trans isInsert) (by simp)
  · obtain rfl := Op.db.inj (claims.op_eq.symm.trans isOp)
    cases rewrite with
    | claimed hasToken claimable resolves =>
        exact ⟨old, oldIn, hasToken, claimable, rfl⟩

theorem Lawful.processing_of_claims (lawful : Lawful config request entry)
    {token : String} {row : Transaction} (claims : Claims entry token row) :
    row.transactionStatus = some .processing ∧
      row.paygovToken = some token ∧
      row.lastUpdatedAt = entry.before.now := by
  obtain ⟨old, _, hasToken, _, rfl⟩ := lawful.claimed claims
  exact ⟨rfl, hasToken, rfl⟩

/-- A claim whose reply is a row has committed it. -/
theorem claims_of_exec {formats : XmlFormats} {caller : Nat} {token : String}
    {claimed : Transaction} {fate : Fate} {before after : World}
    (executed : exec formats (.db (.claimForProcessing token)) fate before =
      some (.ok (.ok (some claimed)), after)) :
    Claims ⟨caller, .db (.claimForProcessing token),
      .ok (.ok (some claimed)), before, after⟩ token claimed := by
  obtain ⟨row, member, hasToken, claimable, rfl, added⟩ :=
    claimed_of_exec executed
  refine ⟨rfl, added, fun old => ?_⟩
  have same := before.table.eq_of_id_eq old member rfl
  rcases claimable.status with initiated | ⟨_, stale⟩
  · rw [← same] at initiated
    exact absurd initiated (by simp [processingPatch])
  · rw [← same] at stale
    exact absurd stale (by simp [PROCESSING_STALE_MS])

theorem Lawful.claims_of_returns (lawful : Lawful config request entry)
    {token : String} {row : Transaction} (returns : Returns entry token row) :
    Claims entry token row := by
  obtain ⟨caller, before, after, rfl⟩ := returns
  obtain ⟨stage, next, fate, knows, permitted, executed⟩ := lawful.performed
  exact claims_of_exec executed

/-- What an older entry has claimed is found `processing` or later. -/
theorem Lawful.claimed_later {older newer : LogEntry}
    (lawful : Lawful config request older) {token : String} {row : Transaction}
    (claims : Claims older token row) (later : older.after ≤ newer.before) :
    ∃ current ∈ newer.before.table.rows, row.Evolves current ∧
      current.paygovToken = some token ∧ current.Claimed := by
  obtain ⟨processing, hasToken, _⟩ := lawful.processing_of_claims claims
  obtain ⟨current, currentIn, evolves⟩ := later.rows row claims.added
  exact ⟨current, currentIn, evolves, evolves.token token hasToken,
    (Transaction.claimed_of_processing processing).of_evolves evolves⟩

/-! ## Recorded states -/

/-- The invariant of the log. -/
structure Recorded (annotated : Annotated config) : Prop
    extends Sound annotated where
  lawful : ∀ entry ∈ annotated.state.log, ∃ request,
    requestOf? annotated.state entry.caller = some request ∧
      Lawful config request entry
  claimed : ∀ (caller : Nat) stage row,
    annotated.phases[caller]? = some stage → stage.claimed? = some row →
      ∃ entry ∈ annotated.state.log, entry.caller = caller ∧
        ∃ token, row.paygovToken = some token ∧ Claims entry token row
  submitted : ∀ entry ∈ annotated.state.log, ∀ token, Submits entry token →
    ∃ claim ∈ annotated.state.log, claim.caller = entry.caller ∧
      claim.after ≤ entry.before ∧ ∃ row, Claims claim token row

variable {allowed : PortalState → PortalMove → Prop}
variable {source target : Annotated config}

/-- An operation of a request is lawful. -/
theorem Sound.lawful (sound : Sound source) {caller : Nat} {op : Op}
    {rest : Reply op → Program Op Reply Outcome} {reply : Reply op}
    {fate : Fate} {stage next : Stage} {world : World}
    (running : source.state.calls[caller]? =
      some ⟨request, some (.perform op rest)⟩)
    (holds : source.phases[caller]? = some stage)
    (executed : exec config.xmlFormats op fate source.state.world =
      some (reply, world))
    (moved : Permitted config request stage op reply next) :
    Lawful config request ⟨caller, op, reply, source.state.world, world⟩ where
  coherent := sound.rows
  performed := ⟨stage, next, fate, sound.knows caller _ stage running holds,
    moved, executed⟩

/-- A caller keeps its request. -/
theorem requestOf?_of_step
    (step : AnnotatedStep config allowed source target) {caller : Nat}
    (found : requestOf? source.state caller = some request) :
    requestOf? target.state caller = some request := by
  obtain ⟨call, present, rfl⟩ := Option.map_eq_some_iff.mp found
  obtain ⟨later, inTarget, same⟩ := Machine.exists_call_of_step step.step present
  exact (requestOf?_of_present inTarget).trans (congrArg some same)

/-- A row is held because it was held before, or because it was claimed. -/
theorem claimed_of_permitted {formats : XmlFormats} {op : Op} {reply : Reply op}
    {fate : Fate} {before after : World} {stage next : Stage}
    {row : Transaction} (caller : Nat)
    (permitted : Permitted config request stage op reply next)
    (executed : exec formats op fate before = some (reply, after))
    (held : next.claimed? = some row) :
    stage.claimed? = some row ∨ ∃ token, row.paygovToken = some token ∧
      Claims ⟨caller, op, reply, before, after⟩ token row := by
  cases permitted with
  | passive _ _ => exact .inl held
  | claim resolved =>
      obtain rfl := Option.some.inj held
      refine .inr ⟨_, ?_, claims_of_exec executed⟩
      obtain ⟨_, _, hasToken, _, rfl, _⟩ := claimed_of_exec executed
      exact hasToken
  | complete | completeUnanswered _ | persistFailed => exact .inl held
  | retire _ | abandon _ | failFee _ | markFailed | markUnrecorded =>
      rw [Stage.claimed?_unlessFailed rfl] at held
      exact absurd held (by simp)
  | look _ | lookMissed | clock | cancel _ _ _ | insert _ | insertFailed _
  | start _ | startUnanswered _ | activate _ | activateFailed _ | load
  | loadMissed | claimFailed _ _ | persist | outrun | survey | answer _ _
  | unanswered _ _ | store _ | sweep =>
      exact absurd held (by simp [Stage.claimed?])

theorem recorded_initial (now : Int) :
    Recorded (.initial (World.fresh now) : Annotated config) where
  toSound := sound_initial now
  lawful := fun entry member =>
    absurd member (by simp [Phased.initial, State.initial])
  claimed := fun caller stage row holds =>
    absurd holds (by simp [Phased.initial])
  submitted := fun entry member =>
    absurd member (by simp [Phased.initial, State.initial])

/-- What a caller holds as claimed it has claimed by a logged operation. -/
theorem Recorded.claimed_step (recorded : Recorded source)
    (step : AnnotatedStep config allowed source target) {caller : Nat}
    {stage : Stage} {row : Transaction}
    (holds : target.phases[caller]? = some stage)
    (held : stage.claimed? = some row) :
    ∃ entry ∈ target.state.log, entry.caller = caller ∧
      ∃ token, row.paygovToken = some token ∧ Claims entry token row := by
  have kept : ∀ {stage}, source.phases[caller]? = some stage →
      stage.claimed? = some row →
      ∃ entry ∈ target.state.log, entry.caller = caller ∧
        ∃ token, row.paygovToken = some token ∧ Claims entry token row := by
    intro stage before held
    obtain ⟨entry, member, rest⟩ :=
      recorded.claimed caller stage row before held
    exact ⟨entry, step.log_subset member, rest⟩
  cases step with
  | arrive request permitted state_eq phases_eq =>
      rw [phases_eq] at holds
      rcases getElem?_append_singleton_cases holds with before | rfl
      · exact kept before held
      · exact absurd held (by simp [Stage.claimed?])
  | perform other fate request op next reply world was after permitted running
      otherHolds executed moved state_eq phases_eq =>
      rw [phases_eq] at holds
      rcases getElem?_set_cases holds with ⟨rfl, rfl⟩ | ⟨_, before⟩
      · rcases claimed_of_permitted caller moved executed held with
          before | ⟨token, hasToken, claims⟩
        · exact kept otherHolds before
        · refine ⟨_, ?_, rfl, token, hasToken, claims⟩
          rw [state_eq]
          exact List.mem_cons_self
      · exact kept before held
  | crash other request op next permitted running state_eq phases_eq =>
      rw [phases_eq] at holds
      rcases getElem?_set_cases holds with ⟨_, rfl⟩ | ⟨_, before⟩
      · exact absurd held (by simp [Stage.claimed?])
      · exact kept before held
  | drift change world permitted drifted state_eq phases_eq =>
      rw [phases_eq] at holds
      exact kept holds held

/-- A completion is sent by a caller that has claimed the token before. -/
theorem Recorded.claim_of_submits (recorded : Recorded source) {caller : Nat}
    {op : Op} {rest : Reply op → Program Op Reply Outcome} {reply : Reply op}
    {stage next : Stage} {world : World} {token : String}
    (running : source.state.calls[caller]? =
      some ⟨request, some (.perform op rest)⟩)
    (holds : source.phases[caller]? = some stage)
    (moved : Permitted config request stage op reply next)
    (submits : Submits ⟨caller, op, reply, source.state.world, world⟩ token) :
    ∃ claim ∈ source.state.log, claim.caller = caller ∧
      claim.after ≤ source.state.world ∧ ∃ row, Claims claim token row := by
  have known := recorded.knows caller _ stage running holds
  obtain ⟨tcsAppId, isOp⟩ := submits
  obtain rfl : op =
      .fetch (.completeOnlineCollectionWithDetails tcsAppId token) := isOp
  obtain ⟨row, rfl, _, hasToken⟩ := holding_of_completion known moved
  obtain ⟨claim, claimIn, sameCaller, other, hasOther, claims⟩ :=
    recorded.claimed caller _ row holds rfl
  obtain rfl := Option.some.inj (hasToken.symm.trans hasOther)
  exact ⟨claim, claimIn, sameCaller,
    recorded.chronological.present claim claimIn, row, claims⟩

/-- Every move of the portal keeps the records. -/
theorem Recorded.step (recorded : Recorded source)
    (step : AnnotatedStep config allowed source target) : Recorded target where
  toSound := recorded.toSound.step step
  lawful := by
    intro entry member
    obtain ⟨older, logged⟩ := step.loggedBy_of_mem member
    cases logged with
    | earlier suffix =>
        obtain ⟨request, found, lawful⟩ :=
          recorded.lawful entry (suffix.subset List.mem_cons_self)
        exact ⟨request, requestOf?_of_step step found, lawful⟩
    | performed caller fate request op next reply stage after permitted running
        holds executed moved =>
        exact ⟨request, requestOf?_of_step step
          (requestOf?_of_present running),
          recorded.toSound.lawful running holds executed moved⟩
  claimed := fun caller stage row holds held =>
    recorded.claimed_step step holds held
  submitted := by
    intro entry member token submits
    obtain ⟨older, logged⟩ := step.loggedBy_of_mem member
    cases logged with
    | earlier suffix =>
        obtain ⟨claim, claimIn, rest⟩ := recorded.submitted entry
          (suffix.subset List.mem_cons_self) token submits
        exact ⟨claim, step.log_subset claimIn, rest⟩
    | performed caller fate request op next reply stage after permitted running
        holds executed moved =>
        obtain ⟨claim, claimIn, rest⟩ :=
          recorded.claim_of_submits running holds moved submits
        exact ⟨claim, step.log_subset claimIn, rest⟩

/-- The caller of an entry has arrived. -/
theorem Recorded.caller_lt (recorded : Recorded source)
    (member : entry ∈ source.state.log) :
    entry.caller < source.state.calls.length := by
  obtain ⟨request, found, _⟩ := recorded.lawful entry member
  obtain ⟨call, isCall, _⟩ := Option.map_eq_some_iff.mp found
  exact (List.getElem?_eq_some_iff.mp isCall).1

/-- The caller of an entry keeps its request. -/
theorem Recorded.requestOf?_eq (recorded : Recorded source)
    (step : AnnotatedStep config allowed source target)
    (member : entry ∈ source.state.log) :
    requestOf? target.state entry.caller =
      requestOf? source.state entry.caller := by
  obtain ⟨request, found, _⟩ := recorded.lawful entry member
  rw [found]
  exact requestOf?_of_step step found

/-- Versions with one token are versions of the row that has it now. -/
theorem Recorded.exists_common (recorded : Recorded source)
    {other : LogEntry} {first second : Transaction} {token : String}
    (member : entry ∈ source.state.log) (otherIn : other ∈ source.state.log)
    (firstIn : first ∈ entry.after.table.rows)
    (secondIn : second ∈ other.after.table.rows)
    (firstToken : first.paygovToken = some token)
    (secondToken : second.paygovToken = some token) :
    ∃ current, first.Evolves current ∧ second.Evolves current := by
  obtain ⟨current, currentIn, evolves⟩ :=
    (recorded.chronological.present entry member).rows first firstIn
  obtain ⟨same, sameIn, otherEvolves⟩ :=
    (recorded.chronological.present other otherIn).rows second secondIn
  obtain rfl := eq_of_token recorded.rows currentIn sameIn
    (evolves.token token firstToken) (otherEvolves.token token secondToken)
  exact ⟨current, evolves, otherEvolves⟩

/-- The caller of an operation keeps its request. -/
theorem requestOf?_of_running
    (step : AnnotatedStep config allowed source target) {caller : Nat}
    {rest : Option (Program Op Reply Outcome)}
    (running : source.state.calls[caller]? = some ⟨request, rest⟩) :
    requestOf? target.state caller = some request :=
  requestOf?_of_step step (requestOf?_of_present running)

/-- Every reachable state has a recorded annotation. -/
theorem exists_recorded {now : Int} {state : PortalState}
    (reaches : Reachable config allowed now state) :
    ∃ annotated : Annotated config, annotated.state = state ∧
      Recorded annotated :=
  exists_annotated (recorded_initial now)
    (fun _ _ recorded step => recorded.step step) reaches

end PaymentPortal.Protocol
