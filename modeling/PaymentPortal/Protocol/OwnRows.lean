import PaymentPortal.Protocol.Changes
import PaymentPortal.Relational.Tenants

/-!
# One client's rows in two stores

Two stores hold the same rows of a client.  A statement on rows of this client
returns the same in both, changes the client's rows in the same way and leaves
the rows of all other clients alone.
-/

namespace PaymentPortal.Protocol

open PaymentPortal.Model
open PaymentPortal.Relational

/-- The stores hold the same rows of the client. -/
abbrev SameRowsOf (clientName : String) (one other : Table) : Prop :=
  SameOwn Transaction.clientName clientName one.rows other.rows

/-- The rows of all other clients are as they were. -/
abbrev KeepsOthers (clientName : String) (before after : Table) : Prop :=
  SameOthers Transaction.clientName clientName before.rows after.rows

/-- A row with this id is one of the client's. -/
def OwnsId (clientName id : String) (table : Table) : Prop :=
  ∀ row ∈ table.rows, row.agencyTrackingId = id → row.clientName = clientName

/-- A row with this token is the client's, and it is the only one. -/
structure OwnsToken (clientName token : String) (table : Table) : Prop where
  own : SelectsOwn Transaction.clientName clientName (hasToken token)
    table.rows
  unique : SelectsOne (hasToken token) table.rows

variable {clientName : String} {one other : Table}

/-! ## Inserts -/

/-- Only the client's own rows are in the way of its row. -/
theorem insertable_transfer {row : Transaction}
    (insertable : one.Insertable row) (same : SameRowsOf clientName one other)
    (isClient : row.clientName = clientName)
    (owns : OwnsId clientName row.agencyTrackingId other) :
    other.Insertable row := by
  intro old member
  constructor
  · intro sameId
    have inOne := (same old (owns old member sameId)).mpr member
    exact (insertable old inOne).1 sameId
  · intro oldActive active sameObligation
    have own : old.clientName = clientName :=
      (congrArg Obligation.clientName sameObligation).trans isClient
    exact (insertable old ((same old own).mpr member)).2 oldActive active
      sameObligation

/-! ## Updates -/

section Updates

variable {now : Int} {selects : Transaction → Bool}
variable {patch : Transaction → Transaction}

/-- The patched row meets no other row in the unique index. -/
def Updatable (selects : Transaction → Bool)
    (patch : Transaction → Transaction) (table : Table) : Prop :=
  ∀ row ∈ table.rows, selects row = true → (patch row).Active →
    ∀ rival ∈ table.rows, rival.Active → rival.obligation = row.obligation →
      rival = row

theorem clientName_of_keepsKeys (keeps : Table.KeepsKeys patch)
    (row : Transaction) : (patch row).clientName = row.clientName :=
  congrArg Obligation.clientName (keeps.obligation row)

theorem updatable_of_update? {table after : Table}
    (keeps : Table.KeepsKeys patch) (unique : SelectsOne selects table.rows)
    (updated : table.update? now selects patch = some after) :
    Updatable selects patch table := by
  have updates := keeps.updateRow now selects
  intro row member selected active rival rivalIn rivalActive sameObligation
  by_contra different
  have unselected : selects rival ≠ true := fun rivalSelected =>
    different (unique row member selected rival rivalIn rivalSelected)
  have rows_eq := Table.rows_of_update? updated
  have changedIn : Table.updateRow now selects patch row ∈ after.rows :=
    rows_eq ▸ List.mem_map_of_mem member
  have keptIn : rival ∈ after.rows := by
    rw [rows_eq]
    refine List.mem_map.mpr ⟨rival, rivalIn, ?_⟩
    rw [Table.updateRow, if_neg unselected]
  have changed_eq := after.eq_of_active keptIn changedIn rivalActive
    (Table.active_updateRow.mpr (by rwa [if_pos selected]))
    (sameObligation.trans (updates.obligation row).symm)
  exact different (table.eq_of_id_eq rivalIn member
    ((congrArg Transaction.agencyTrackingId changed_eq).trans
      (updates.id row)))

theorem exists_update?_of_updatable {table : Table}
    (keeps : Table.KeepsKeys patch) (unique : SelectsOne selects table.rows)
    (updatable : Updatable selects patch table) :
    ∃ after, table.update? now selects patch = some after := by
  have updates := keeps.updateRow now selects
  -- A row that stays in the index beside a patched one is that row itself.
  have alone : ∀ row ∈ table.rows, ∀ rival ∈ table.rows,
      selects row = true → selects rival ≠ true →
      (Table.updateRow now selects patch row).Active →
      (Table.updateRow now selects patch rival).Active →
      rival.obligation = row.obligation → rival = row := by
    intro row member rival rivalIn selected unselected active rivalActive
      sameObligation
    rw [Table.active_updateRow, if_pos selected] at active
    rw [Table.active_updateRow, if_neg unselected] at rivalActive
    exact updatable row member selected active rival rivalIn rivalActive
      sameObligation
  have distinct := List.pairwise_map.mp table.primaryKey
  refine ⟨_, dif_pos ⟨?_, ?_⟩⟩
  · rw [List.map_map, show Transaction.agencyTrackingId ∘
      Table.updateRow now selects patch = Transaction.agencyTrackingId from
        funext updates.id]
    exact table.primaryKey
  · rw [List.pairwise_map]
    refine (table.uniqueActive.and distinct).imp_of_mem ?_
    rintro first second firstIn secondIn ⟨compatible, differentId⟩ firstActive
      secondActive sameObligation
    rw [updates.obligation, updates.obligation] at sameObligation
    by_cases firstSelected : selects first = true
    · by_cases secondSelected : selects second = true
      · exact differentId (congrArg Transaction.agencyTrackingId
          (unique second secondIn secondSelected first firstIn firstSelected))
      · exact differentId (congrArg Transaction.agencyTrackingId
          (alone first firstIn second secondIn firstSelected secondSelected
            firstActive secondActive sameObligation.symm)).symm
    · by_cases secondSelected : selects second = true
      · exact differentId (congrArg Transaction.agencyTrackingId
          (alone second secondIn first firstIn secondSelected firstSelected
            secondActive firstActive sameObligation))
      · rw [Table.active_updateRow, if_neg firstSelected] at firstActive
        rw [Table.active_updateRow, if_neg secondSelected] at secondActive
        exact compatible firstActive secondActive sameObligation

/-- An update goes through unless the patched row meets another one. -/
theorem exists_update?_iff {table : Table} (keeps : Table.KeepsKeys patch)
    (unique : SelectsOne selects table.rows) :
    (∃ after, table.update? now selects patch = some after) ↔
      Updatable selects patch table :=
  ⟨fun ⟨_, updated⟩ => updatable_of_update? keeps unique updated,
    exists_update?_of_updatable keeps unique⟩

/-- Only the client's own rows are in the way of its update. -/
theorem Updatable.transfer (updatable : Updatable selects patch one)
    (same : SameRowsOf clientName one other)
    (own : SelectsOwn Transaction.clientName clientName selects other.rows) :
    Updatable selects patch other := by
  intro row member selected active rival rivalIn rivalActive sameObligation
  have isClient := own row member selected
  have rivalClient : rival.clientName = clientName :=
    (congrArg Obligation.clientName sameObligation).trans isClient
  exact updatable row ((same row isClient).mpr member) selected active rival
    ((same rival rivalClient).mpr rivalIn) rivalActive sameObligation

end Updates

/-! ## Selections -/

section Selections

variable {selects : Transaction → Bool} {table : Table}

theorem id_of_hasId {id : String} (row : Transaction)
    (selected : hasId id row = true) : row.agencyTrackingId = id :=
  beq_iff_eq.mp selected

theorem selectsOne_of_id {id : String}
    (isId : ∀ row, selects row = true → row.agencyTrackingId = id) :
    SelectsOne selects table.rows :=
  fun row member selected rival rivalIn rivalSelected =>
    table.eq_of_id_eq rivalIn member
      ((isId rival rivalSelected).trans (isId row selected).symm)

theorem selectsOwn_of_id {id : String}
    (isId : ∀ row, selects row = true → row.agencyTrackingId = id)
    (owns : OwnsId clientName id table) :
    SelectsOwn Transaction.clientName clientName selects table.rows :=
  fun row member selected => owns row member (isId row selected)

theorem ownsId_of_mem {row : Transaction} (member : row ∈ table.rows)
    (isClient : row.clientName = clientName) :
    OwnsId clientName row.agencyTrackingId table := by
  intro another anotherIn sameId
  rw [table.eq_of_id_eq anotherIn member sameId, isClient]

/-- At most one row of an obligation is in the unique index. -/
theorem selectsOne_of_obligation {obligation : Obligation}
    (isActive : ∀ row, selects row = true →
      row.obligation = obligation ∧ row.Active) :
    SelectsOne selects table.rows := by
  intro row member selected rival rivalIn rivalSelected
  obtain ⟨isObligation, active⟩ := isActive row selected
  obtain ⟨rivalObligation, rivalActive⟩ := isActive rival rivalSelected
  exact table.eq_of_active rivalIn member rivalActive active
    (rivalObligation.trans isObligation.symm)

/-- A query of the client's obligation has the same answer in both stores. -/
theorem head?_select_eq {obligation : Obligation}
    (same : SameRowsOf clientName one other)
    (isClient : obligation.clientName = clientName)
    (isActive : ∀ row, selects row = true →
      row.obligation = obligation ∧ row.Active) :
    (one.select selects).head? = (other.select selects).head? := by
  have own : ∀ rows, SelectsOwn Transaction.clientName clientName selects
      rows := fun rows row _ selected =>
    (congrArg Obligation.clientName (isActive row selected).1).trans isClient
  rw [head?_eq_find? (selectsOne_of_obligation isActive)
      fun row => Table.mem_select,
    head?_eq_find? (selectsOne_of_obligation isActive)
      fun row => Table.mem_select]
  exact find?_eq_of_sameOwn same (own _) (own _)
    (selectsOne_of_obligation isActive)

theorem OwnsId.later {id : String} {before after : Table}
    (owns : OwnsId clientName id before)
    (keeps : KeepsOthers clientName before after) :
    OwnsId clientName id after := by
  intro row member isId
  by_contra foreign
  exact foreign (owns row ((keeps row foreign).mpr member) isId)

theorem OwnsId.earlier {id : String} {before after : Table}
    (owns : OwnsId clientName id after)
    (keeps : KeepsOthers clientName before after) :
    OwnsId clientName id before := by
  intro row member isId
  by_contra foreign
  exact foreign (owns row ((keeps row foreign).mp member) isId)

end Selections

/-! ## Statements -/

/-- Both statements return the same and change the client's rows only. -/
inductive Matches (clientName : String) (one other : Table) {α : Type} :
    Except SqlState (α × Table) → Except SqlState (α × Table) → Prop where
  | returned {value : α} {after afterOther : Table}
      (own : SameRowsOf clientName after afterOther)
      (keeps : KeepsOthers clientName one after)
      (keepsOther : KeepsOthers clientName other afterOther) :
      Matches clientName one other (.ok (value, after))
        (.ok (value, afterOther))
  | rejected {error : SqlState} :
      Matches clientName one other (.error error) (.error error)

theorem Matches.read {α : Type} {value valueOther : α}
    (same : SameRowsOf clientName one other) (agree : value = valueOther) :
    Matches clientName one other (.ok (value, one))
      (.ok (valueOther, other)) :=
  agree ▸ .returned same (.refl _) (.refl _)

/-- What one statement returns the other returns as well. -/
theorem Matches.of_ok {α : Type} {value : α} {after : Table}
    {outcome : Except SqlState (α × Table)}
    (same : Matches clientName one other (.ok (value, after)) outcome) :
    ∃ afterOther, outcome = .ok (value, afterOther) ∧
      SameRowsOf clientName after afterOther ∧
      KeepsOthers clientName one after ∧
      KeepsOthers clientName other afterOther := by
  cases same with
  | returned own keeps keepsOther => exact ⟨_, rfl, own, keeps, keepsOther⟩

/-- Where one statement is rejected the other is as well. -/
theorem Matches.of_error {α : Type} {error : SqlState}
    {outcome : Except SqlState (α × Table)}
    (same : Matches clientName one other (.error error) outcome) :
    outcome = .error error := by
  cases same with
  | rejected => rfl

/-! ### Writes -/

/-- A write goes through in both stores or in neither. -/
theorem none_or_some {after afterOther : Option Table}
    (together : (∃ table, after = some table) ↔
      ∃ table, afterOther = some table) :
    (after = none ∧ afterOther = none) ∨
      ∃ table tableOther, after = some table ∧
        afterOther = some tableOther := by
  cases after with
  | none =>
      cases afterOther with
      | none => exact .inl ⟨rfl, rfl⟩
      | some table => exact absurd (together.mpr ⟨table, rfl⟩) (by simp)
  | some table =>
      obtain ⟨tableOther, went⟩ := together.mp ⟨table, rfl⟩
      exact .inr ⟨table, tableOther, rfl, went⟩

theorem keepsKeys_processingPatch : Table.KeepsKeys processingPatch where
  id _ := rfl
  obligation _ := rfl

section Writes

variable {now : Int} {selects : Transaction → Bool}
variable {patch : Transaction → Transaction} {id : String}

/-- What an update of the client's row makes of both stores. -/
theorem update?_matches (now : Int) (same : SameRowsOf clientName one other)
    (keeps : Table.KeepsKeys patch)
    (isId : ∀ row, selects row = true → row.agencyTrackingId = id)
    (owns : OwnsId clientName id one) (ownsOther : OwnsId clientName id other) :
    (one.update? now selects patch = none ∧
      other.update? now selects patch = none) ∨
    ∃ after afterOther, one.update? now selects patch = some after ∧
      other.update? now selects patch = some afterOther ∧
      SameRowsOf clientName after afterOther ∧
      KeepsOthers clientName one after ∧
      KeepsOthers clientName other afterOther := by
  have own := selectsOwn_of_id isId owns
  have ownOther := selectsOwn_of_id isId ownsOther
  have updates := keeps.updateRow now selects
  have foreign : ∀ {table : Table},
      SelectsOwn Transaction.clientName clientName selects table.rows →
        ∀ row ∈ table.rows, row.clientName ≠ clientName →
          Table.updateRow now selects patch row = row := by
    intro table own row member isForeign
    rw [Table.updateRow, if_neg]
    exact fun selected => isForeign (own row member selected)
  have together : (∃ after, one.update? now selects patch = some after) ↔
      ∃ after, other.update? now selects patch = some after := by
    rw [exists_update?_iff keeps (selectsOne_of_id isId),
      exists_update?_iff keeps (selectsOne_of_id isId)]
    exact ⟨fun updatable => updatable.transfer same ownOther,
      fun updatable => updatable.transfer same.symm own⟩
  rcases none_or_some together with
    failed | ⟨after, afterOther, updated, updatedOther⟩
  · exact .inl failed
  refine .inr ⟨after, afterOther, updated, updatedOther, ?_, ?_, ?_⟩
  · rw [SameRowsOf, Table.rows_of_update? updated,
      Table.rows_of_update? updatedOther]
    exact same.map (clientName_of_keepsKeys updates)
  · rw [KeepsOthers, Table.rows_of_update? updated]
    exact sameOthers_map (clientName_of_keepsKeys updates) (foreign own)
  · rw [KeepsOthers, Table.rows_of_update? updatedOther]
    exact sameOthers_map (clientName_of_keepsKeys updates) (foreign ownOther)

theorem updateWhere_matches (same : SameRowsOf clientName one other)
    (keeps : Table.KeepsKeys patch)
    (isId : ∀ row, selects row = true → row.agencyTrackingId = id)
    (owns : OwnsId clientName id one) (ownsOther : OwnsId clientName id other) :
    Matches clientName one other (one.updateWhere now selects patch)
      (other.updateWhere now selects patch) := by
  have distinct : ∀ table : Table, table.rows.Nodup := fun table =>
    table.primaryKey.of_map _
  have count : (one.rows.filter selects).length =
      (other.rows.filter selects).length := by
    rw [filter_eq_toList_find? (distinct one) (selectsOne_of_id isId),
      filter_eq_toList_find? (distinct other) (selectsOne_of_id isId),
      find?_eq_of_sameOwn same (selectsOwn_of_id isId owns)
        (selectsOwn_of_id isId ownsOther) (selectsOne_of_id isId)]
  rcases update?_matches now same keeps isId owns ownsOther with
    ⟨failed, failedOther⟩ |
      ⟨after, afterOther, updated, updatedOther, own, kept, keptOther⟩
  · rw [Table.updateWhere, Table.updateWhere, failed, failedOther]
    exact .rejected
  · rw [Table.updateWhere_of_update? updated,
      Table.updateWhere_of_update? updatedOther, count]
    exact .returned own kept keptOther

end Writes

theorem createReceived_matches {now : Int} {locked : List String}
    {data : ReceivedTransactionParams} (same : SameRowsOf clientName one other)
    (isClient : data.clientName = clientName)
    (owns : OwnsId clientName data.agencyTrackingId one)
    (ownsOther : OwnsId clientName data.agencyTrackingId other) :
    Matches clientName one other
      ((Statement.createReceived data).run now locked one)
      ((Statement.createReceived data).run now locked other) := by
  have together : (∃ after, one.insert? (receivedRow now data) = some after) ↔
      ∃ after, other.insert? (receivedRow now data) = some after := by
    rw [Table.exists_insert?_iff, Table.exists_insert?_iff]
    exact ⟨fun insertable => insertable_transfer insertable same isClient ownsOther,
      fun insertable => insertable_transfer insertable same.symm isClient owns⟩
  rcases none_or_some together with
    ⟨failed, failedOther⟩ | ⟨after, afterOther, inserted, insertedOther⟩
  · simp only [Statement.run, failed, failedOther]
    exact .rejected
  simp only [Statement.run, inserted, insertedOther]
  have isNew : ∀ row ∈ [receivedRow now data],
      row.clientName = clientName := by
    intro row member
    rw [List.mem_singleton.mp member]
    exact isClient
  refine .returned ?_ ?_ ?_
  · rw [SameRowsOf, Table.rows_of_insert? inserted,
      Table.rows_of_insert? insertedOther]
    exact same.append _
  · rw [KeepsOthers, Table.rows_of_insert? inserted]
    exact sameOthers_append isNew
  · rw [KeepsOthers, Table.rows_of_insert? insertedOther]
    exact sameOthers_append isNew

theorem isPaidAttempt_active {transactionReferenceId : String}
    {row : Transaction}
    (paid : isPaidAttempt clientName transactionReferenceId row = true) :
    row.obligation = ⟨clientName, transactionReferenceId⟩ ∧ row.Active := by
  simp only [isPaidAttempt, Bool.and_eq_true, beq_iff_eq] at paid
  obtain ⟨⟨status, isClient⟩, isReference⟩ := paid
  refine ⟨by rw [Transaction.obligation, isClient, isReference], ?_⟩
  have covered : ∀ reached ∈ [TransactionStatus.pending, .processed],
      reached ∈ Transaction.COVERED_STATUSES := by decide
  obtain ⟨reached, listed, has⟩ := Transaction.statusIn_iff.mp status
  exact (Transaction.active_iff has).mpr (covered reached listed)

/-- The client's paid attempts are the same in both stores. -/
theorem findPendingOrProcessed_eq (same : SameRowsOf clientName one other)
    (transactionReferenceId : String) (excludeToken : Option String) :
    one.findPendingOrProcessed clientName transactionReferenceId excludeToken =
      other.findPendingOrProcessed clientName transactionReferenceId
        excludeToken := by
  have own : (⟨clientName, transactionReferenceId⟩ : Obligation).clientName =
      clientName := rfl
  cases excludeToken with
  | none => exact head?_select_eq same own fun row => isPaidAttempt_active
  | some token =>
      refine head?_select_eq same own fun row selected => ?_
      exact isPaidAttempt_active (Bool.and_eq_true_iff.mp selected).1

theorem claimForProcessing_matches {now : Int} {paygovToken : String}
    (same : SameRowsOf clientName one other)
    (owns : OwnsToken clientName paygovToken one)
    (ownsOther : OwnsToken clientName paygovToken other) :
    Matches clientName one other (one.claimForProcessing now paygovToken)
      (other.claimForProcessing now paygovToken) := by
  have found_eq := find?_eq_of_sameOwn same owns.own ownsOther.own
    ownsOther.unique
  unfold Table.claimForProcessing
  rw [← found_eq]
  cases found : one.rows.find? (hasToken paygovToken) with
  | none => exact .read same rfl
  | some row =>
      obtain ⟨member, -⟩ := find?_hasToken found
      have isClient := owns.own row member (List.find?_some found)
      have rejection_eq : one.claimRejection? now paygovToken row =
          other.claimRejection? now paygovToken row := by
        rw [Table.claimRejection?, Table.claimRejection?, isClient,
          findPendingOrProcessed_eq same]
      dsimp only
      rw [← rejection_eq]
      cases one.claimRejection? now paygovToken row with
      | some rejection => exact .read same rfl
      | none =>
          have ownsId := ownsId_of_mem member isClient
          have ownsIdOther :=
            ownsId_of_mem ((same row isClient).mp member) isClient
          rcases update?_matches now same keepsKeys_processingPatch
              id_of_hasId ownsId ownsIdOther with
            ⟨failed, failedOther⟩ |
              ⟨after, afterOther, updated, updatedOther, own, kept, keptOther⟩
          · rw [failed, failedOther]
            exact .rejected
          · rw [updated, updatedOther]
            dsimp only
            rw [find?_eq_of_sameOwn own
              (selectsOwn_of_id id_of_hasId (ownsId.later kept))
              (selectsOwn_of_id id_of_hasId (ownsIdOther.later keptOther))
              (selectsOne_of_id id_of_hasId)]
            exact .returned own kept keptOther

/-! ### The statements of a client -/

/-- The statement is about rows of the client only. -/
inductive Concerns (clientName : String) (one other : Table) :
    Statement → Prop where
  | createReceived {data : ReceivedTransactionParams}
      (isClient : data.clientName = clientName)
      (owns : OwnsId clientName data.agencyTrackingId one)
      (ownsOther : OwnsId clientName data.agencyTrackingId other) :
      Concerns clientName one other (.createReceived data)
  | updateToInitiated {id paygovToken : String}
      (owns : OwnsId clientName id one)
      (ownsOther : OwnsId clientName id other) :
      Concerns clientName one other (.updateToInitiated id paygovToken)
  | findById {id : String} (owns : OwnsId clientName id one)
      (ownsOther : OwnsId clientName id other) :
      Concerns clientName one other (.findById id)
  | findPendingOrProcessedByReferenceId {transactionReferenceId : String} :
      Concerns clientName one other
        (.findPendingOrProcessedByReferenceId clientName transactionReferenceId)
  | claimForProcessing {paygovToken : String}
      (owns : OwnsToken clientName paygovToken one)
      (ownsOther : OwnsToken clientName paygovToken other) :
      Concerns clientName one other (.claimForProcessing paygovToken)
  | findByReferenceIdAndTransactionStatus {transactionReferenceId : String}
      {transactionStatus : List TransactionStatus}
      (covered : transactionStatus ⊆ Transaction.COVERED_STATUSES) :
      Concerns clientName one other (.findByReferenceIdAndTransactionStatus
        clientName transactionReferenceId transactionStatus)
  | updateToFailed {id : String} {returnCode : Option Int}
      {returnDetail : Option String} (owns : OwnsId clientName id one)
      (ownsOther : OwnsId clientName id other) :
      Concerns clientName one other
        (.updateToFailed id returnCode returnDetail)
  | updateToCancelled {id : String} (owns : OwnsId clientName id one)
      (ownsOther : OwnsId clientName id other) :
      Concerns clientName one other (.updateToCancelled id)

/-- A statement about the client's rows does the same in both stores. -/
theorem run_matches {statement : Statement} (now : Int) (locked : List String)
    (same : SameRowsOf clientName one other)
    (concerns : Concerns clientName one other statement) :
    Matches clientName one other (statement.run now locked one)
      (statement.run now locked other) := by
  cases concerns with
  | createReceived isClient owns ownsOther =>
      exact createReceived_matches same isClient owns ownsOther
  | updateToInitiated owns ownsOther =>
      exact updateWhere_matches same ⟨fun _ => rfl, fun _ => rfl⟩ id_of_hasId
        owns ownsOther
  | findById owns ownsOther =>
      exact .read same (find?_eq_of_sameOwn same
        (selectsOwn_of_id id_of_hasId owns)
        (selectsOwn_of_id id_of_hasId ownsOther)
        (selectsOne_of_id id_of_hasId))
  | findPendingOrProcessedByReferenceId =>
      exact .read same (findPendingOrProcessed_eq same _ _)
  | claimForProcessing owns ownsOther =>
      exact claimForProcessing_matches same owns ownsOther
  | @findByReferenceIdAndTransactionStatus transactionReferenceId
      transactionStatus covered =>
      have own : (⟨clientName, transactionReferenceId⟩ :
        Obligation).clientName = clientName := rfl
      refine .read same (head?_select_eq same own fun row selected => ?_)
      simp only [Bool.and_eq_true, beq_iff_eq] at selected
      obtain ⟨⟨isClient, isReference⟩, status⟩ := selected
      refine ⟨by rw [Transaction.obligation, isClient, isReference], ?_⟩
      obtain ⟨reached, listed, has⟩ := Transaction.statusIn_iff.mp status
      exact (Transaction.active_iff has).mpr (covered listed)
  | updateToFailed owns ownsOther =>
      exact updateWhere_matches same ⟨fun _ => rfl, fun _ => rfl⟩ id_of_hasId
        owns ownsOther
  | updateToCancelled owns ownsOther =>
      refine updateWhere_matches same ⟨fun _ => rfl, fun _ => rfl⟩
        (fun row selected => ?_) owns ownsOther
      exact id_of_hasId row (Bool.and_eq_true_iff.mp selected).1

end PaymentPortal.Protocol
