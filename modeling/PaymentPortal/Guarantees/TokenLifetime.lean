import PaymentPortal.Guarantees.StatusPairs
import PaymentPortal.Protocol.UseCases.InitCalm

/-!
# The lifetime of a token

`initPayment`, the claim and the sweep each compare the age of a token with its
time to live.  At every instant but one they agree: the token is live for all
of them or expired for all of them.  At the age of exactly the time to live
`initPayment` neither reuses nor cancels the attempt, but marks it failed.
-/

namespace PaymentPortal.Guarantees

open PaymentPortal.Interaction
open PaymentPortal.Model
open PaymentPortal.Protocol
open PaymentPortal.Model.InitPayment
open PaymentPortal.Protocol.InitAlone (Never)
open PaymentPortal.Protocol.InitCalm

/-- The session is handed out again, may be claimed and is not swept. -/
structure Live (config : Config) (client : ClientPermission)
    (order : InitPaymentRequest) (row : Transaction) (token : String)
    (world : World) : Prop where
  reused : Settles config world.now
    (fun after session => session.token = token ∧ after.table = world.table)
    Never (initPayment config client order) world
  accepted : ∃ claimed after,
    world.table.claimForProcessing world.now token =
      .ok (.ok (some claimed), after) ∧
      claimed.agencyTrackingId = row.agencyTrackingId
  unswept : ∀ limit locked,
    row.agencyTrackingId ∉ world.table.sweepIds world.now limit locked

/-- The attempt is cancelled, its token cannot be claimed, and it is swept. -/
structure Expired (config : Config) (client : ClientPermission)
    (order : InitPaymentRequest) (row : Transaction) (token : String)
    (world : World) : Prop where
  cancelled : Settles config world.now
    (fun after _ => HasStatus row.agencyTrackingId .cancelled after.table)
    (fun after _ => HasStatus row.agencyTrackingId .cancelled after.table)
    (initPayment config client order) world
  gone : ∃ message, world.table.claimForProcessing world.now token =
    .ok (.error (.gone message), world.table)
  swept : ∀ limit, world.table.rows.length ≤ limit →
    row.agencyTrackingId ∈ world.table.sweepIds world.now limit []

/-- The world as it is, at another instant. -/
def atInstant (instant : Int) (world : World) : World :=
  { world with now := instant }

variable {table : Table} {now : Int} {token : String} {row : Transaction}

/-! ## The claim -/

/-- The attempt in flight has no paid sibling. -/
theorem findPendingOrProcessed_eq_none (member : row ∈ table.rows)
    (initiated : row.transactionStatus = some .initiated) :
    table.findPendingOrProcessed row.clientName row.transactionReferenceId
      (some token) = none := by
  refine List.head?_eq_none_iff.mpr (List.eq_nil_iff_forall_not_mem.mpr ?_)
  intro paid selected
  obtain ⟨paidIn, isPaid⟩ := Table.mem_select.mp selected
  simp only [isPaidAttempt, Bool.and_eq_true, beq_iff_eq] at isPaid
  obtain ⟨⟨⟨status, sameClient⟩, sameReference⟩, _⟩ := isPaid
  obtain ⟨reached, isReached, has⟩ := Transaction.statusIn_iff.mp status
  have active : row.Active :=
    (Transaction.active_iff initiated).mpr (by decide)
  have paidActive : paid.Active := by
    refine (Transaction.active_iff has).mpr ?_
    simp only [List.mem_cons, List.not_mem_nil, or_false] at isReached
    rcases isReached with rfl | rfl <;> decide
  obtain rfl := table.eq_of_active paidIn member paidActive active
    (by simp [Transaction.obligation, sameClient, sameReference])
  exact absurd status (by simp [Transaction.statusIn_iff, initiated])

/-- The claim of an `initiated` row is a matter of its age. -/
theorem claimRejection?_eq (member : row ∈ table.rows)
    (initiated : row.transactionStatus = some .initiated) :
    table.claimRejection? now token row =
      if MAX_TOKEN_AGE_MS < now - row.createdAt then
        some (.gone TOKEN_EXPIRED_MESSAGE)
      else none := by
  simp [Table.claimRejection?, findPendingOrProcessed_eq_none member initiated,
    initiated]

/-- A row of which the token is not too old is claimed. -/
theorem claimForProcessing_of_young
    (found : table.rows.find? (hasToken token) = some row)
    (initiated : row.transactionStatus = some .initiated)
    (young : now - row.createdAt ≤ MAX_TOKEN_AGE_MS) :
    ∃ claimed after, table.claimForProcessing now token =
      .ok (.ok (some claimed), after) ∧
      claimed.agencyTrackingId = row.agencyTrackingId := by
  have member := (find?_hasToken found).1
  have active : row.Active :=
    (Transaction.active_iff initiated).mpr (by decide)
  obtain ⟨after, updated⟩ : ∃ after, table.update? now
      (hasId row.agencyTrackingId) processingPatch = some after := by
    refine Table.exists_update? (fun _ => rfl) (fun _ => rfl) ?_
    intro other otherIn selected _
    have isId : other.agencyTrackingId = row.agencyTrackingId := by
      simpa [hasId] using selected
    exact table.eq_of_id_eq member otherIn isId.symm ▸ active
  obtain ⟨changed, changedIn, isId, _⟩ := hasStatus_of_update? updated member
    (by simp [hasId]) rfl rfl
  have selected : hasId row.agencyTrackingId changed = true := by
    simpa [hasId] using isId
  obtain ⟨claimed, isClaimed⟩ := Option.isSome_iff_exists.mp
    (List.find?_isSome.mpr ⟨changed, changedIn, selected⟩)
  have claimedId := List.find?_some isClaimed
  refine ⟨claimed, after, ?_, by simpa [hasId] using claimedId⟩
  simp only [Table.claimForProcessing, found,
    claimRejection?_eq member initiated, if_neg (not_lt.mpr young), updated,
    isClaimed]

theorem claimForProcessing_of_old
    (found : table.rows.find? (hasToken token) = some row)
    (initiated : row.transactionStatus = some .initiated)
    (old : MAX_TOKEN_AGE_MS < now - row.createdAt) :
    table.claimForProcessing now token =
      .ok (.error (.gone TOKEN_EXPIRED_MESSAGE), table) := by
  have member := (find?_hasToken found).1
  simp only [Table.claimForProcessing, found,
    claimRejection?_eq member initiated, if_pos old]

/-! ## The sweep -/

theorem not_mem_sweepIds (member : row ∈ table.rows)
    (young : now - row.createdAt ≤ MAX_TOKEN_AGE_MS) (limit : Nat)
    (locked : List String) :
    row.agencyTrackingId ∉ table.sweepIds now limit locked := by
  intro swept
  have old := (cancellable_of_swept member swept).2
  omega

/-- A sweep that may take all rows takes the expired ones. -/
theorem mem_sweepIds (member : row ∈ table.rows)
    (initiated : row.transactionStatus = some .initiated)
    (old : MAX_TOKEN_AGE_MS < now - row.createdAt) {limit : Nat}
    (enough : table.rows.length ≤ limit) :
    row.agencyTrackingId ∈ table.sweepIds now limit [] := by
  have selected : row ∈ table.select (isCancellable now) := by
    refine Table.mem_select.mpr ⟨member, ?_⟩
    simp only [isCancellable, initiated, beq_self_eq_true, Bool.true_and,
      decide_eq_true_eq]
    omega
  have few : (table.select (isCancellable now)).length ≤ limit := by
    rw [Table.select, List.length_insertionSort]
    exact (List.length_filter_le _ _).trans enough
  simp only [Table.sweepIds, List.contains_nil, Bool.not_false,
    List.filter_true, List.take_of_length_le few]
  exact List.mem_map_of_mem selected

/-! ## The two lifetimes -/

variable {config : Config} {client : ClientPermission}
variable {order : InitPaymentRequest} {world : World}

/-- The token found for reuse is the one of a row that is young enough. -/
theorem reusableToken_eq (hasToken : row.paygovToken = some token)
    (nonempty : token ≠ "") :
    reusableToken now false row =
      if now - row.createdAt < MAX_TOKEN_AGE_MS then some token else none := by
  simp [reusableToken, hasToken, nonempty]

/-- Up to its time to live a token can be claimed. -/
theorem not_expired_of_young
    (found : world.table.rows.find? (hasToken token) = some row)
    (initiated : row.transactionStatus = some .initiated)
    (young : world.now - row.createdAt ≤ MAX_TOKEN_AGE_MS) :
    ¬ Expired config client order row token world := by
  intro expired
  obtain ⟨message, gone⟩ := expired.gone
  obtain ⟨claimed, after, accepted, _⟩ :=
    claimForProcessing_of_young found initiated young
  exact absurd (gone.symm.trans accepted) (by simp)

section Row

variable (found : world.table.rows.find? (hasToken token) = some row)
  (initiated : row.transactionStatus = some .initiated) (nonempty : token ≠ "")
  (concerns : Concerns config world.now client order row)

include found initiated nonempty concerns

theorem live_of_young
    (young : world.now - row.createdAt < MAX_TOKEN_AGE_MS) :
    Live config client order row token world where
  reused := by
    obtain ⟨member, hasToken⟩ := find?_hasToken found
    apply reuses_initPayment member initiated concerns
    rw [reusableToken_eq hasToken nonempty, if_pos young]
  accepted := claimForProcessing_of_young found initiated young.le
  unswept := not_mem_sweepIds (find?_hasToken found).1 young.le

/-- An attempt that is not reused is retired. -/
theorem retires_of_old
    (old : MAX_TOKEN_AGE_MS ≤ world.now - row.createdAt) :
    Settles config world.now
      (fun after _ => HasStatus row.agencyTrackingId
        (retirement world.now row) after.table)
      (fun after _ => HasStatus row.agencyTrackingId
        (retirement world.now row) after.table)
      (initPayment config client order) world := by
  obtain ⟨member, hasToken⟩ := find?_hasToken found
  apply retires_initPayment member initiated concerns
  rw [reusableToken_eq hasToken nonempty, if_neg (not_lt.mpr old)]

theorem expired_of_old
    (old : MAX_TOKEN_AGE_MS < world.now - row.createdAt) :
    Expired config client order row token world where
  cancelled := by
    have retires := retires_of_old found initiated nonempty concerns old.le
    rwa [retirement, if_pos ((isExpiredInitiatedTransaction_iff _ _).mpr
      ⟨initiated, old⟩)] at retires
  gone := ⟨_, claimForProcessing_of_old found initiated old⟩
  swept := fun _ => mem_sweepIds (find?_hasToken found).1 initiated old

/-- At the age of exactly the time to live the token is not reused. -/
theorem not_live_of_boundary
    (boundary : world.now - row.createdAt = MAX_TOKEN_AGE_MS) :
    ¬ Live config client order row token world := by
  intro live
  have member := (find?_hasToken found).1
  have retires := retires_of_old found initiated nonempty concerns boundary.ge
  have continues : ∀ here op, here.now = world.now → ∃ fate,
      Calm config.xmlFormats world.now here op fate ∧ ∀ result,
        exec config.xmlFormats op fate here = some result →
          result.2.now = world.now := by
    intro here op atInstant
    obtain ⟨fate, calm⟩ := exists_calm config.xmlFormats here op
    exact ⟨fate, atInstant ▸ calm, fun result executed =>
      (now_eq_of_exec executed).trans atInstant⟩
  obtain ⟨after, outcome, kept, retired⟩ :=
    Machine.Achieves.exists_common (fun here => here.now = world.now)
      continues rfl live.reused retires
  cases outcome with
  | error error => exact kept
  | ok session =>
      obtain ⟨_, sameTable⟩ := kept
      have still : HasStatus row.agencyTrackingId .initiated after.table :=
        sameTable ▸ ⟨row, member, rfl, initiated⟩
      have same := still.unique retired
      unfold retirement at same
      split at same <;> exact absurd same (by simp)

end Row

/-- A token belongs to the row that is found by it. -/
theorem find?_of_hasToken {start : Int} {state : PortalState}
    (reaches : Reachable config Machine.Unrestricted start state)
    (member : row ∈ state.world.table.rows)
    (hasToken : row.paygovToken = some token) :
    state.world.table.rows.find? (Model.hasToken token) = some row := by
  obtain ⟨annotated, rfl, sound⟩ := exists_sound reaches
  have selected : Model.hasToken token row = true := by
    simp [Model.hasToken, hasToken]
  obtain ⟨found, isFound⟩ := Option.isSome_iff_exists.mp
    (List.find?_isSome.mpr ⟨row, member, selected⟩)
  obtain ⟨foundIn, foundToken⟩ := find?_hasToken isFound
  rw [isFound, eq_of_token sound.rows foundIn member foundToken hasToken]

/--
For every `initiated` row with a token in a reachable state, and for every
instant, the token is either live everywhere or expired everywhere, if and only
if its age is not exactly the time to live.
-/
theorem token_lives_or_expires_iff {start instant : Int} {state : PortalState}
    (reaches : Reachable config Machine.Unrestricted start state)
    (member : row ∈ state.world.table.rows)
    (initiated : row.transactionStatus = some .initiated)
    (hasToken : row.paygovToken = some token) (nonempty : token ≠ "")
    (concerns : Concerns config instant client order row) :
    Xor (Live config client order row token (atInstant instant state.world))
        (Expired config client order row token
          (atInstant instant state.world)) ↔
      instant - row.createdAt ≠ MAX_TOKEN_AGE_MS := by
  have found : (atInstant instant state.world).table.rows.find?
      (Model.hasToken token) = some row :=
    find?_of_hasToken reaches member hasToken
  constructor
  · intro exclusive boundary
    rcases exclusive with ⟨live, _⟩ | ⟨expired, _⟩
    · exact not_live_of_boundary found initiated nonempty concerns boundary
        live
    · exact not_expired_of_young found initiated boundary.le expired
  · intro apart
    rcases lt_or_gt_of_ne apart with young | old
    · exact .inl ⟨live_of_young found initiated nonempty concerns young,
        not_expired_of_young found initiated young.le⟩
    · refine .inr ⟨expired_of_old found initiated nonempty concerns old,
        fun live => ?_⟩
      obtain ⟨claimed, after, accepted, _⟩ := live.accepted
      have gone := claimForProcessing_of_old found initiated old
      exact absurd (gone.symm.trans accepted) (by simp)

/-! ## Samples -/

/-- The attempt of the samples. -/
def sampleAttempt : Transaction where
  agencyTrackingId := "A1"
  paygovTrackingId := none
  fee := "PETITION_FILING_FEE"
  clientName := "dawson"
  transactionReferenceId := "ref"
  paymentStatus := .pending
  transactionStatus := some .initiated
  paygovToken := some firstToken
  paymentMethod := none
  transactionAmount := 60
  transactionDate := none
  paymentDate := none
  returnCode := none
  returnDetail := none
  createdAt := sampleNow
  lastUpdatedAt := sampleNow
  metadata := some []

/-- The attempt is in the table of a reachable state. -/
theorem exists_sampleAttempt : ∃ state,
    Reachable sampleConfig Machine.Unrestricted sampleNow state ∧
      sampleAttempt ∈ state.world.table.rows := by
  have replayed : (((portal sampleConfig).replay Machine.Unrestricted
      (initiates 0 "A1" firstToken) (.initial (World.fresh sampleNow))).map
        fun state => decide (sampleAttempt ∈ state.world.table.rows)) =
      some true := by
    decide +kernel
  obtain ⟨state, reached, checked⟩ := Option.map_eq_some_iff.mp replayed
  exact ⟨state, Machine.reaches_of_replay reached, of_decide_eq_true checked⟩

/-- A second later the token is live. -/
theorem token_lives_or_expires_iff_sample : ∃ state : PortalState,
    Xor (Live sampleConfig sampleClient sampleOrder sampleAttempt firstToken
        (atInstant (sampleNow + 1000) state.world))
      (Expired sampleConfig sampleClient sampleOrder sampleAttempt firstToken
        (atInstant (sampleNow + 1000) state.world)) := by
  obtain ⟨state, reaches, member⟩ := exists_sampleAttempt
  refine ⟨state, (token_lives_or_expires_iff reaches member rfl rfl (by decide)
    ⟨rfl, rfl, _, rfl⟩).mpr ?_⟩
  decide

/-- At the age of exactly the time to live it is neither live nor expired, and
`initPayment` marks the attempt failed. -/
theorem token_neither_lives_nor_expires : ∃ state,
    Reachable sampleConfig Machine.Unrestricted sampleNow state ∧
      sampleAttempt ∈ state.world.table.rows ∧
      ¬ Live sampleConfig sampleClient sampleOrder sampleAttempt firstToken
        (atInstant (sampleNow + MAX_TOKEN_AGE_MS) state.world) ∧
      ¬ Expired sampleConfig sampleClient sampleOrder sampleAttempt firstToken
        (atInstant (sampleNow + MAX_TOKEN_AGE_MS) state.world) ∧
      Settles sampleConfig (sampleNow + MAX_TOKEN_AGE_MS)
        (fun after _ => HasStatus "A1" .failed after.table)
        (fun after _ => HasStatus "A1" .failed after.table)
        (initPayment sampleConfig sampleClient sampleOrder)
        (atInstant (sampleNow + MAX_TOKEN_AGE_MS) state.world) := by
  obtain ⟨state, reaches, member⟩ := exists_sampleAttempt
  have found : (atInstant (sampleNow + MAX_TOKEN_AGE_MS)
      state.world).table.rows.find? (hasToken firstToken) =
        some sampleAttempt :=
    find?_of_hasToken reaches member rfl
  have boundary : (atInstant (sampleNow + MAX_TOKEN_AGE_MS) state.world).now -
      sampleAttempt.createdAt = MAX_TOKEN_AGE_MS :=
    rfl
  refine ⟨state, reaches, member, ?_, ?_, ?_⟩
  · exact not_live_of_boundary found rfl (by decide) ⟨rfl, rfl, _, rfl⟩ boundary
  · exact not_expired_of_young found rfl boundary.le
  · exact retires_of_old found rfl (by decide) ⟨rfl, rfl, _, rfl⟩ boundary.ge

end PaymentPortal.Guarantees
