import PaymentPortal.Guarantees.StatusPairs
import PaymentPortal.Protocol.Acquisition
import PaymentPortal.Protocol.Healthy

/-!
# Unauthorized payments

`processPayment` reads the row of the token, resolves its fee and authorizes
the client, in this order.  Where the fee resolves, an unauthorized client
changes nothing; where it does not, the row is marked `failed` before anybody
has asked who the client is.
-/

namespace PaymentPortal.Guarantees

open PaymentPortal.Interaction
open PaymentPortal.Model
open PaymentPortal.Model.ProcessPayment
open PaymentPortal.Protocol

/--
In every environment the call throws, leaves the table as it was and sends
nothing to Pay.gov.
-/
def HasNoEffect (config : Config) (client : ClientPermission)
    (request : ProcessPaymentRequest) (world : World) : Prop :=
  (portal config).recording.Achieves (portal config).recording.Enabled
    (fun after outcome => (∃ error, outcome = .error error) ∧
      after.1.table = world.table ∧ ∀ soap, Op.fetch soap ∉ after.2)
    (processPayment config client request).run (world, [])

variable {config : Config} {client : ClientPermission}
variable {request : ProcessPaymentRequest} {world : World} {row : Transaction}

/-- The lookup by token reads the row or fails. -/
theorem exec_findByPaygovToken {token : String} {fate : Fate}
    {here after : World} {reply : Reply (.db (.findByPaygovToken token))}
    (executed : (portal config).exec (.db (.findByPaygovToken token)) fate
      here = some (reply, after)) :
    after = here ∧ (reply = .ok (here.table.rows.find? (hasToken token)) ∨
      ∃ error, reply = .error error) := by
  cases statementStep_of_execStatement executed with
  | returned _ _ _ _ ran =>
      obtain ⟨rfl, rfl⟩ := Prod.mk.inj (Except.ok.inj ran)
      exact ⟨rfl, .inl rfl⟩
  | rejected _ error _ _ => exact ⟨rfl, .inr ⟨error, rfl⟩⟩
  | failed error _ => exact ⟨rfl, .inr ⟨error, rfl⟩⟩
  | replyLost error _ _ _ ran =>
      obtain ⟨_, rfl⟩ := Prod.mk.inj (Except.ok.inj ran)
      exact ⟨rfl, .inr ⟨error, rfl⟩⟩

/-- Nothing has been written and nothing has been sent. -/
def Unaffected (world : World) (after : World × List Op) : Prop :=
  after.1.table = world.table ∧ ∀ soap, Op.fetch soap ∉ after.2

/-- The row is found by its token, or the lookup fails. -/
theorem attains_findByPaygovToken
    (found : world.table.rows.find? (hasToken request.token) = some row) :
    (portal config).recording.Attains (portal config).recording.Enabled
      (fun after value => value = some row ∧ Unaffected world after)
      (fun after (_ : PortalError) => Unaffected world after)
      (TransactionModel.findByPaygovToken request.token) (world, []) := by
  apply Machine.Attains.operation
  intro changes here drifted fate enabled
  rw [Machine.driftAll_recording] at drifted
  obtain ⟨drift, isDrift, rfl⟩ := Option.map_eq_some_iff.mp drifted
  have same := (drifts_of_driftAll isDrift).table
  obtain ⟨⟨reply, after⟩, executed⟩ := Option.isSome_iff_exists.mp enabled
  refine ⟨reply, after, executed, ?_⟩
  obtain ⟨⟨answer, next⟩, ran, recorded⟩ := Option.map_eq_some_iff.mp executed
  obtain ⟨rfl, rfl⟩ := Prod.mk.inj recorded
  obtain ⟨rfl, rfl | ⟨error, rfl⟩⟩ := exec_findByPaygovToken ran
  · refine ⟨?_, same, by simp⟩
    rw [same]
    exact found
  · exact ⟨same, by simp⟩

/-- Where the fee resolves, an unauthorized client does not get past it. -/
theorem attains_loadAuthorizedContext
    (found : world.table.rows.find? (hasToken request.token) = some row)
    (unauthorized : authorizeClient client row.fee ≠ .ok ())
    (resolves : FeeResolves config row) :
    (portal config).recording.Attains (portal config).recording.Enabled
      (fun _ _ => False) (fun after (_ : PortalError) => Unaffected world after)
      (loadAuthorizedContext config client request) (world, []) := by
  obtain ⟨fee, resolved⟩ := resolves
  apply Machine.Attains.bind _ (attains_findByPaygovToken found)
  rintro after value ⟨rfl, unaffected⟩
  have named := (getActiveFee_eq_ok resolved).1
  cases refused : authorizeClient client row.fee with
  | ok _ => exact absurd refused unauthorized
  | error error =>
      simp only [resolved, named, refused]
      exact unaffected

/-- Marking a row as failed succeeds, and stamps it with the time. -/
theorem exists_updateToFailed (now : Int) (code : Option Int)
    (detail : Option String) {table : Table} (member : row ∈ table.rows)
    (later : row.lastUpdatedAt ≠ now) :
    ∃ count after, (Statement.updateToFailed row.agencyTrackingId code
        detail).run now [] table = .ok (count, after) ∧
      after ≠ table := by
  have inactive : ∀ old, ¬ (failedPatch code detail old).Active :=
    fun old => (Transaction.active_iff rfl).not.mpr (by decide)
  obtain ⟨after, updated⟩ : ∃ after, table.update? now
      (hasId row.agencyTrackingId) (failedPatch code detail) = some after :=
    Table.exists_update? (fun _ => rfl) (fun _ => rfl)
      fun old _ _ active => absurd active (inactive old)
  refine ⟨_, after, Table.updateWhere_of_update? updated, ?_⟩
  intro same
  have stamped : Table.updateRow now (hasId row.agencyTrackingId)
      (failedPatch code detail) row ∈ table.rows := by
    rw [← same, Table.rows_of_update? updated]
    exact List.mem_map_of_mem member
  rw [Table.updateRow, if_pos (by simp [hasId]),
    set_last_updated_at_stamped (by simp [failedPatch])] at stamped
  apply later
  rw [table.eq_of_id_eq member stamped rfl]

/-- A statement that is committed, and whose reply is lost. -/
theorem exec_replyLost {statement : Statement} {here : World}
    {recorded : List Op} {result : statement.Result} {table : Table}
    (ran : statement.run here.now [] here.table = .ok (result, table)) :
    (portal config).recording.exec (.db statement) (.replyLost (.other ""))
        (here, recorded) =
      some (.error (.other ""),
        { here with table := table }, recorded ++ [.db statement]) := by
  have executed : exec config.xmlFormats (.db statement)
      (.replyLost (.other "")) here =
      some (.error (.other ""), { here with table := table }) := by
    change execStatement statement (.replyLost (.other "")) here = _
    simp [execStatement, ran]
  simp only [Machine.recording, portal, executed, Option.map_some]

/-- Where the fee does not resolve, the row may be marked as failed. -/
theorem resolves_of_hasNoEffect
    (found : world.table.rows.find? (hasToken request.token) = some row)
    (silent : HasNoEffect config client request world) :
    FeeResolves config row := by
  cases resolved : getActiveFee config row.fee (some row.createdAt) with
  | ok fee => exact ⟨fee, resolved⟩
  | error unresolved =>
      exfalso
      obtain ⟨_, _, looked, rest⟩ := silent [] _ rfl (.executed []) rfl
      obtain ⟨rfl, rfl⟩ := Prod.mk.inj (Option.some.inj looked)
      rw [found] at rest
      simp only [Except.mapError, Program.bind, ExceptT.bindCont, resolved]
        at rest
      -- The update is committed at another instant, and its reply is lost.
      let ms := (row.lastUpdatedAt - world.now).toNat + 1
      obtain ⟨count, table, ran, changed⟩ := exists_updateToFailed
        (world.now + ms) none (some FEE_NOT_FOUND_DETAIL)
        (List.mem_of_find?_eq_some found) (by omega)
      obtain ⟨_, _, updated, last⟩ := rest [.tick ms] _ rfl
        (.replyLost (.other ""))
        (Option.isSome_iff_exists.mpr ⟨_, exec_replyLost ran⟩)
      obtain ⟨rfl, rfl⟩ := Prod.mk.inj
        (Option.some.inj ((exec_replyLost ran).symm.trans updated))
      exact changed last.2.1

/-- Exactly where the fee of its row resolves, the call has no effect. -/
theorem hasNoEffect_iff
    (found : world.table.rows.find? (hasToken request.token) = some row)
    (unauthorized : authorizeClient client row.fee ≠ .ok ()) :
    HasNoEffect config client request world ↔ FeeResolves config row := by
  constructor
  · exact resolves_of_hasNoEffect found
  · intro resolves
    have attained : (portal config).recording.Attains
        (portal config).recording.Enabled (fun _ _ => False)
        (fun after _ => Unaffected world after)
        (processPayment config client request) (world, []) :=
      Machine.Attains.bind _
        (attains_loadAuthorizedContext found unauthorized resolves)
        fun _ _ impossible => impossible.elim
    apply Machine.Achieves.mono attained
    rintro after (error | response) ended
    · exact ⟨⟨error, rfl⟩, ended⟩
    · exact ended.elim

/-! ## A retired fee -/

/-- An attempt that has its token, and for which the fee table is asked. -/
def quotedRow (fee : String) : Transaction :=
  initiatedPatch firstToken (receivedRow sampleNow {
    agencyTrackingId := "A1"
    fee := fee
    clientName := "dawson"
    transactionReferenceId := "ref"
    transactionAmount := 60
    metadata := none })

/-- A store with one such attempt. -/
def quotedWorld (fee : String) : World where
  now := 2000
  table := {
    rows := [quotedRow fee]
    primaryKey := List.nodup_singleton _
    uniqueActive := List.pairwise_singleton _ _ }
  payGov := .empty

/-- A client who may not do anything. -/
def stranger : ClientPermission where
  clientName := "stranger"
  clientRoleArn := "arn"
  allowedFeeKeys := []

/-- The attempt of a configured fee is out of a stranger's reach. -/
theorem hasNoEffect_iff_sample :
    HasNoEffect sampleConfig stranger ⟨firstToken⟩
      (quotedWorld "PETITION_FILING_FEE") :=
  (hasNoEffect_iff rfl (by decide)).mpr ⟨_, rfl⟩

/--
A stranger marks an attempt as failed whose fee is no longer configured, in an
environment where nothing fails.
-/
theorem hasEffect_sample :
    let request : ProcessPaymentRequest := ⟨firstToken⟩
    let world := quotedWorld "RETIRED_FEE"
    world.table.rows.find? (hasToken firstToken) =
        some (quotedRow "RETIRED_FEE") ∧
      authorizeClient stranger "RETIRED_FEE" ≠ .ok () ∧
      ((portal sampleConfig).runAlone
          (processPayment sampleConfig stranger request).run
          (fun _ => ([], .executed [])) world).map
        (fun ended => (ended.1.toOption,
          ended.2.table.rows.map Transaction.transactionStatus)) =
        some (none, [some .failed]) ∧
      ¬ HasNoEffect sampleConfig stranger request world := by
  refine ⟨rfl, by decide, by decide, fun silent => ?_⟩
  obtain ⟨fee, resolved⟩ := resolves_of_hasNoEffect rfl silent
  have unknown : getActiveFee sampleConfig "RETIRED_FEE" (some sampleNow) =
      .error (.feeNotFound "RETIRED_FEE") := rfl
  cases unknown.symm.trans resolved

end PaymentPortal.Guarantees
