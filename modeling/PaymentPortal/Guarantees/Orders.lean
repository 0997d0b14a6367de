import PaymentPortal.Guarantees.FrontDoor
import PaymentPortal.Protocol.History

/-!
# Rows and their orders

Every transaction that is stored was ordered: by an event with a valid body,
from a registered client that may use the fee, at a price that the fee has.
-/

namespace PaymentPortal.Guarantees

open PaymentPortal.Interaction
open PaymentPortal.Model
open PaymentPortal.Protocol

/-! ## Valid orders -/

/-- The metadata is exactly what the fee asks for. -/
inductive MetadataFits (formats : ZodFormats) : String → Metadata → Prop where
  | petition (docketNumber : String) :
      MetadataFits formats "PETITION_FILING_FEE"
        [("docketNumber", docketNumber)]
  | exam (email fullName accessCode : String)
      (isEmail : formats.email email = true) :
      MetadataFits formats "NONATTORNEY_EXAM_REGISTRATION_FEE"
        [("email", email), ("fullName", fullName), ("accessCode", accessCode)]

/-- What the schema vouches for. -/
structure ValidOrder (formats : ZodFormats) (order : InitPaymentRequest) :
    Prop where
  reference : formats.uuidv4 order.transactionReferenceId = true
  amount : ∀ amount ∈ order.amount, 0 < amount
  urlSuccess : ∃ text, formats.url text = some order.urlSuccess
  urlCancel : ∃ text, formats.url text = some order.urlCancel
  metadata : MetadataFits formats order.fee order.metadata

section Schemas

open Schema

variable {formats : ZodFormats} {α : Type}

theorem of_required {name : String} {schema : Schema α} {value : Json}
    {result : α} (read : required name schema value = some result) :
    ∃ member, value.member name = some member ∧
      schema member = some result :=
  Option.bind_eq_some_iff.mp read

/-- The union keeps the metadata of a petition or that of an exam. -/
theorem of_metadataSchema {value : Json} {metadata : Metadata}
    (read : MetadataSchema formats value = some metadata) :
    (∃ docketNumber, metadata = [("docketNumber", docketNumber)]) ∨
      ∃ email fullName accessCode, formats.email email = true ∧
        metadata = [("email", email), ("fullName", fullName),
          ("accessCode", accessCode)] := by
  unfold MetadataSchema at read
  cases petition : MetadataDawsonSchema value with
  | some found =>
      rw [petition] at read
      obtain rfl := Option.some.inj read
      obtain ⟨docketNumber, _, same⟩ := Option.bind_eq_some_iff.mp petition
      exact .inl ⟨docketNumber, (Option.some.inj same).symm⟩
  | none =>
      rw [petition] at read
      obtain ⟨email, isEmail, read⟩ := Option.bind_eq_some_iff.mp read
      obtain ⟨fullName, _, read⟩ := Option.bind_eq_some_iff.mp read
      obtain ⟨accessCode, _, same⟩ := Option.bind_eq_some_iff.mp read
      obtain ⟨member, _, isText⟩ := of_required isEmail
      exact .inr ⟨email, fullName, accessCode,
        (Option.filter_eq_some_iff.mp isText).2,
        (Option.some.inj same).symm⟩

/-- What the fee's own schema reads of them is what was kept. -/
theorem metadataFits_of_validators {feeKey : String} {metadata : Metadata}
    (known : FEE_KEYS.contains feeKey = true)
    (kept : (∃ docketNumber, metadata = [("docketNumber", docketNumber)]) ∨
      ∃ email fullName accessCode, formats.email email = true ∧
        metadata = [("email", email), ("fullName", fullName),
          ("accessCode", accessCode)])
    (validated : (metadataValidators formats feeKey
      (metadataValue metadata)).isSome = true) :
    MetadataFits formats feeKey metadata := by
  unfold metadataValidators at validated
  split at validated
  · rename_i isPetition
    subst isPetition
    rcases kept with ⟨docketNumber, rfl⟩ | ⟨email, fullName, accessCode, _, rfl⟩
    · exact .petition docketNumber
    · simp [MetadataDawsonSchema, required, metadataValue, Json.member,
        List.lookup_cons] at validated
  · rename_i notPetition
    obtain rfl : feeKey = "NONATTORNEY_EXAM_REGISTRATION_FEE" := by
      simpa [FEE_KEYS, notPetition] using known
    rcases kept with ⟨docketNumber, rfl⟩ |
      ⟨email, fullName, accessCode, isEmail, rfl⟩
    · simp [MetadataNonattorneyExamSchema, required, metadataValue, Json.member,
        List.lookup_cons] at validated
    · exact .exam email fullName accessCode isEmail

/-- An order that the schema reads is valid. -/
theorem validOrder_of_schema {value : Json} {order : InitPaymentRequest}
    (read : InitPaymentRequestSchema formats value = some order) :
    ValidOrder formats order := by
  unfold InitPaymentRequestSchema at read
  obtain ⟨_, _, read⟩ := Option.bind_eq_some_iff.mp read
  obtain ⟨reference, isReference, read⟩ := Option.bind_eq_some_iff.mp read
  obtain ⟨fee, isFee, read⟩ := Option.bind_eq_some_iff.mp read
  obtain ⟨amount, isAmount, read⟩ := Option.bind_eq_some_iff.mp read
  obtain ⟨urlSuccess, isSuccess, read⟩ := Option.bind_eq_some_iff.mp read
  obtain ⟨urlCancel, isCancel, read⟩ := Option.bind_eq_some_iff.mp read
  obtain ⟨metadata, isMetadata, read⟩ := Option.bind_eq_some_iff.mp read
  obtain ⟨_, validated, read⟩ := Option.bind_eq_some_iff.mp read
  obtain rfl := Option.some.inj read
  obtain ⟨_, _, isReference⟩ := of_required isReference
  obtain ⟨_, _, isFee⟩ := of_required isFee
  obtain ⟨_, _, isSuccess⟩ := of_required isSuccess
  obtain ⟨_, _, isCancel⟩ := of_required isCancel
  obtain ⟨_, _, isMetadata⟩ := of_required isMetadata
  have isValid : (metadataValidators formats fee
      (metadataValue metadata)).isSome = true := by
    by_contra invalid
    rw [guard, if_neg invalid] at validated
    exact absurd validated (by simp)
  refine {
    reference := (Option.filter_eq_some_iff.mp isReference).2
    amount := fun given member => ?_
    urlSuccess := ?_
    urlCancel := ?_
    metadata := metadataFits_of_validators
      (Option.filter_eq_some_iff.mp isFee).2 (of_metadataSchema isMetadata)
      isValid }
  · obtain rfl : amount = some given := member
    unfold Schema.optional at isAmount
    split at isAmount
    · exact absurd isAmount (by simp)
    · obtain ⟨read, isPositive, same⟩ := Option.map_eq_some_iff.mp isAmount
      obtain rfl := Option.some.inj same
      unfold positive at isPositive
      split at isPositive
      · split at isPositive
        · rename_i isPositive'
          obtain rfl := Option.some.inj isPositive
          exact isPositive'
        · exact absurd isPositive (by simp)
      · exact absurd isPositive (by simp)
  · obtain ⟨text, _, isUrl⟩ := Option.bind_eq_some_iff.mp isSuccess
    exact ⟨text, isUrl⟩
  · obtain ⟨text, _, isUrl⟩ := Option.bind_eq_some_iff.mp isCancel
    exact ⟨text, isUrl⟩

/-- An event that has been read had a body that the schema reads. -/
theorem of_readEvent {config : GatewayConfig} {schema : Schema α}
    {event : APIGatewayEvent} {rawRequest : String} {order : α}
    {roleArn : String}
    (isRead : readEvent config schema event rawRequest =
      .ok (order, roleArn)) :
    ∃ value, schema value = some order := by
  unfold readEvent parseAndValidate at isRead
  cases parsed : jsonParse config.permissions rawRequest with
  | error err => simp [parsed, bind, Except.bind] at isRead
  | ok value =>
      cases validated : schema value with
      | none => simp [parsed, validated, bind, Except.bind] at isRead
      | some found =>
          simp only [parsed, validated, bind, Except.bind] at isRead
          split at isRead
          · exact absurd isRead (by simp)
          · obtain ⟨rfl, _⟩ := Prod.mk.inj (Except.ok.inj isRead)
            exact ⟨value, validated⟩

end Schemas

/-! ## The origin of a row -/

section Origin

variable {config : Config} {allowed : PortalState → PortalMove → Prop}

/-- The row has evolved from an attempt that was inserted. -/
def InsertedIn (log : List LogEntry) (row : Transaction) : Prop :=
  ∃ entry ∈ log, ∃ data, entry.op = .db (.createReceived data) ∧
    (receivedRow entry.before.now data).Evolves row

/-- The invariant, and that every row was inserted. -/
structure WithOrigins (annotated : Annotated config) : Prop
    extends Sound annotated where
  inserted : ∀ row ∈ annotated.state.world.table.rows,
    InsertedIn annotated.state.log row

theorem InsertedIn.mono {log longer : List LogEntry} {row later : Transaction}
    (inserted : InsertedIn log row) (subset : log ⊆ longer)
    (evolves : row.Evolves later) : InsertedIn longer later := by
  obtain ⟨entry, member, data, isOp, first⟩ := inserted
  exact ⟨entry, subset member, data, isOp, first.trans evolves⟩

/-- A move of the world only inserts by its own operation. -/
theorem inserted_of_worldStep {owner : String → Prop} {op? : Option Op}
    {before after : World} {log longer : List LogEntry}
    (step : WorldStep config owner op? before after)
    (coherent : ∀ row ∈ before.table.rows, Coherent config before row)
    (inserted : ∀ row ∈ before.table.rows, InsertedIn log row)
    (subset : log ⊆ longer)
    (logged : ∀ data, op? = some (.db (.createReceived data)) →
      ∃ entry ∈ longer, entry.op = .db (.createReceived data) ∧
        entry.before.now = before.now) :
    ∀ row ∈ after.table.rows, InsertedIn longer row := by
  intro row member
  rcases step.rows with ⟨data, isInsert, _, rows_eq⟩ | ⟨change, rows_eq, rewrites⟩
  · rcases List.mem_append.mp (rows_eq ▸ member) with old | new
    · exact (inserted row old).mono subset (.refl row)
    · obtain rfl := List.mem_singleton.mp new
      obtain ⟨entry, entryIn, isOp, sameTime⟩ := logged data isInsert
      refine ⟨entry, entryIn, data, isOp, ?_⟩
      rw [sameTime]
      exact .refl _
  · obtain ⟨old, oldIn, rfl⟩ := List.mem_map.mp (rows_eq ▸ member)
    refine (inserted old oldIn).mono subset ?_
    rcases rewrites old oldIn with same | ⟨statement, _, rewrite⟩
    · rw [same]
      exact .refl old
    · exact rewrite.evolves (coherent old oldIn)

theorem WithOrigins.step {source target : Annotated config}
    (origins : WithOrigins source)
    (step : AnnotatedStep config allowed source target) :
    WithOrigins target where
  toSound := origins.toSound.step step
  inserted := by
    cases step with
    | arrive request permitted state_eq phases_eq =>
        rw [state_eq]
        exact origins.inserted
    | crash caller request op next permitted running state_eq phases_eq =>
        rw [state_eq]
        exact origins.inserted
    | drift change world permitted drifted state_eq phases_eq =>
        rw [state_eq]
        have step : WorldStep config (fun _ => False) none source.state.world
            world := worldStep_of_drift drifted
        exact inserted_of_worldStep step origins.rows origins.inserted
          (fun _ member => member) fun data isInsert =>
            absurd isInsert (by simp)
    | perform caller fate request op next reply world stage after permitted
        running holds executed moved state_eq phases_eq =>
        have step := origins.toSound.worldStep running holds executed moved
        rw [state_eq]
        refine inserted_of_worldStep step origins.rows origins.inserted
          (List.subset_cons_self _ _) fun data isInsert => ?_
        exact ⟨_, List.mem_cons_self, Option.some.inj isInsert, rfl⟩

/-- Every row was inserted, by an operation of the log. -/
theorem insertedIn_of_reaches {now : Int} {state : PortalState}
    (reaches : Reachable config allowed now state) :
    ∀ row ∈ state.world.table.rows, InsertedIn state.log row := by
  have initially : WithOrigins (.initial (.fresh now) : Annotated config) := {
    toSound := sound_initial now
    inserted := fun row member => absurd member (by
      simp [Phased.initial, State.initial, World.fresh, Table.empty]) }
  obtain ⟨annotated, rfl, origins⟩ := exists_annotated initially
    (fun _ _ origins step => origins.step step) reaches
  exact origins.inserted

end Origin

/-! ## Ordered rows -/

/-- The event behind a row, and what it ordered. -/
structure OrderedBy (config : GatewayConfig) (state : GatewayState)
    (row : Transaction) (event : APIGatewayEvent) (order : InitPaymentRequest)
    (roleArn : String) (client : Json) : Prop where
  arrived : ∃ call ∈ state.calls, call.request = .initPaymentHandler event
  isRead : readEvent config (InitPaymentRequestSchema config.formats) event
    (event.body.getD "") = .ok (order, roleArn)
  valid : ValidOrder config.formats order
  registered : Registered config.permissions state.log roleArn client
  authorized :
    authorizeClient (config.clientPermission client) row.fee = .ok ()
  clientName : row.clientName = (config.clientPermission client).clientName
  transactionReferenceId :
    row.transactionReferenceId = order.transactionReferenceId
  fee : row.fee = order.fee
  metadata : row.metadata = some order.metadata
  priced : ∃ now fee, InitPayment.resolveFee config.portal now order.fee
      order.amount.isSome = .ok fee ∧
    row.transactionAmount =
      toNumeric (InitPayment.transactionAmount fee order.amount)

variable {config : GatewayConfig} {now : Int} {secret : SecretValue}
variable {state : GatewayState} {allowed : GatewayState → GatewayMove → Prop}

/--
Every row of the database was ordered by a valid event, from a registered
client that may use its fee, with the metadata that the fee asks for and at a
price of the fee.
-/
theorem rows_ordered
    (reaches : (gateway config).Reaches allowed
      (.initial (gatewayStart now secret)) state) :
    ∀ row ∈ state.world.2.table.rows, ∃ event order roleArn client,
      OrderedBy config state row event order roleArn client := by
  intro row member
  obtain ⟨admitted, inner, refines⟩ := exists_refines reaches
  rw [refines.world] at member
  obtain ⟨entry, entryIn, data, isInsert, evolves⟩ :=
    insertedIn_of_reaches refines.reaches row member
  obtain ⟨own, present, permitted⟩ :=
    (honoured_of_reaches refines.reaches).logged entry entryIn
  obtain ⟨client, order, isRequest, ordered⟩ := permitted data isInsert
  obtain ⟨call, callIn, entitled⟩ := refines.exists_entitled present
  rw [isRequest] at entitled
  generalize asked : call.request = request at entitled
  cases entitled with
  | asked _ _ roleArn record registered asks =>
      cases asks with
      | initPayment event _ _ _ isRead =>
          obtain ⟨value, isOrder⟩ := of_readEvent isRead
          have fee : row.fee = order.fee := evolves.fee_eq.trans ordered.fee
          exact ⟨event, order, roleArn, record, {
            arrived := ⟨call, callIn, asked⟩
            isRead := isRead
            valid := validOrder_of_schema isOrder
            registered := registered
            authorized := fee ▸ ordered.authorized
            clientName := (congrArg Obligation.clientName
              evolves.obligation_eq).trans ordered.clientName
            transactionReferenceId := evolves.transactionReferenceId_eq.trans
              ordered.transactionReferenceId
            fee := fee
            metadata := evolves.metadata_eq.trans ordered.metadata
            priced := by
              obtain ⟨instant, active, resolved, isPrice⟩ := ordered.priced
              exact ⟨instant, active, resolved,
                evolves.amount_eq.trans (congrArg toNumeric isPrice)⟩ }⟩

/-- The row of the sample order, without the note that nothing asked for. -/
theorem rows_ordered_sample : ∃ state,
    (gateway sampleGateway).replay Machine.Unrestricted sampleOrders
      (.initial (gatewayStart sampleNow ⟨some clientsText, none⟩)) =
        some state ∧
    state.world.2.table.rows.map Transaction.metadata =
      [some [("docketNumber", "123-26")]] ∧
    ∀ row ∈ state.world.2.table.rows, ∃ event order roleArn client,
      OrderedBy sampleGateway state row event order roleArn client := by
  have replayed : ((gateway sampleGateway).replay Machine.Unrestricted
      sampleOrders
      (.initial (gatewayStart sampleNow ⟨some clientsText, none⟩))).map
        (fun state => state.world.2.table.rows.map Transaction.metadata) =
      some [some [("docketNumber", "123-26")]] := by
    decide +kernel
  obtain ⟨state, reached, metadata⟩ := Option.map_eq_some_iff.mp replayed
  exact ⟨state, reached, metadata,
    rows_ordered (Machine.reaches_of_replay reached)⟩

end PaymentPortal.Guarantees
