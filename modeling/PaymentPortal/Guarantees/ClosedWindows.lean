import PaymentPortal.Guarantees.Cancellation
import PaymentPortal.Model.TransactionLog
import PaymentPortal.Protocol.Acquisition

/-!
# Closed windows

The trigger keeps `lastUpdatedAt` on the transition into `cancelled` and sets
it on every other update, and no use case writes a cancelled status by any
other statement.  So a cancellation moves no row into or out of a window, and
every other write moves its row to the present, which lies in no closed one.
-/

namespace PaymentPortal.Guarantees

open PaymentPortal.Interaction
open PaymentPortal.Model
open PaymentPortal.Protocol

/-- The statements that cancel: the sweep and `updateToCancelled`. -/
def isCancellation : Op → Bool
  | .db (.cancelExpiredBatch _) => true
  | .db (.updateToCancelled _) => true
  | _ => false

/-- The row with this id. -/
def rowOf? (id : String) (table : Table) : Option Transaction :=
  table.rows.find? (hasId id)

/-- The row with this id is in the window `[from_, to_)`. -/
def InWindow (from_ to_ : Int) (id : String) (table : Table) : Prop :=
  ∃ row ∈ rowOf? id table, isUpdatedIn from_ to_ row = true

/-- What the write of an entry does to the windows. -/
structure KeepsWindows (entry : LogEntry) : Prop where
  closed : ∀ from_ to_, to_ ≤ entry.before.now → ∀ id,
    InWindow from_ to_ id entry.after.table →
      InWindow from_ to_ id entry.before.table
  cancellation : isCancellation entry.op = true → ∀ from_ to_ id,
    InWindow from_ to_ id entry.after.table ↔
      InWindow from_ to_ id entry.before.table
  update : isCancellation entry.op = false →
    ∀ old ∈ entry.before.table.rows, ∀ new ∈ entry.after.table.rows,
      new.agencyTrackingId = old.agencyTrackingId → new ≠ old →
        new.lastUpdatedAt = entry.before.now

/-- The entry writes the row with this id, and does not cancel. -/
def dates (id : String) (entry : LogEntry) : Bool :=
  !isCancellation entry.op &&
    decide (rowOf? id entry.after.table ≠ rowOf? id entry.before.table)

/--
The instant of the last write of a row that is not a cancellation; without one,
the date that the row had in the table at the start.
-/
def lastDated (start : Table) (log : List LogEntry) (id : String) :
    Option Int :=
  match log.find? (dates id) with
  | some entry => some entry.before.now
  | none => (rowOf? id start).map Transaction.lastUpdatedAt

/-! ## One row -/

/-- What becomes of one row, or of its absence, at the instant `now`. -/
inductive Redated (cancels : Bool) (now : Int) :
    Option Transaction → Option Transaction → Prop where
  | kept {row : Option Transaction} : Redated cancels now row row
  | written {old : Option Transaction} {new : Transaction}
      (writes : cancels = false) (dated : new.lastUpdatedAt = now) :
      Redated cancels now old (some new)
  | cancelled {old new : Transaction} (isCancelled : cancels = true)
      (kept : new.lastUpdatedAt = old.lastUpdatedAt) :
      Redated cancels now (some old) (some new)

namespace Redated

variable {cancels : Bool} {now from_ to_ : Int} {old new : Option Transaction}

/-- No row enters a closed window. -/
theorem within_of_closed (redated : Redated cancels now old new)
    (closed : to_ ≤ now)
    (within : ∃ row ∈ new, isUpdatedIn from_ to_ row = true) :
    ∃ row ∈ old, isUpdatedIn from_ to_ row = true := by
  cases redated with
  | kept => exact within
  | written _ dated =>
      obtain ⟨row, isNew, inWindow⟩ := within
      obtain rfl := Option.some.inj isNew
      rw [isUpdatedIn_iff] at inWindow
      omega
  | @cancelled old new isCancelled kept =>
      obtain ⟨row, isNew, inWindow⟩ := within
      obtain rfl := Option.some.inj isNew
      refine ⟨old, rfl, ?_⟩
      rwa [isUpdatedIn_iff, kept, ← isUpdatedIn_iff] at inWindow

/-- A cancelled row stays in its windows. -/
theorem within_iff (redated : Redated cancels now old new)
    (isCancelled : cancels = true) :
    (∃ row ∈ new, isUpdatedIn from_ to_ row = true) ↔
      ∃ row ∈ old, isUpdatedIn from_ to_ row = true := by
  cases redated with
  | kept => rfl
  | written writes _ => exact absurd isCancelled (by simp [writes])
  | cancelled _ kept => simp [isUpdatedIn, kept]

/-- What is written otherwise is dated. -/
theorem dated (redated : Redated cancels now old new) (writes : cancels = false)
    (different : new ≠ old) :
    new.map Transaction.lastUpdatedAt = some now := by
  cases redated with
  | kept => exact absurd rfl different
  | written _ dated => exact congrArg some dated
  | cancelled isCancelled _ => exact absurd isCancelled (by simp [writes])

/-- What is cancelled or left alone keeps its date. -/
theorem undated (redated : Redated cancels now old new)
    (spared : cancels = true ∨ new = old) :
    new.map Transaction.lastUpdatedAt = old.map Transaction.lastUpdatedAt := by
  rcases spared with isCancelled | same
  · cases redated with
    | kept => rfl
    | written writes _ => exact absurd isCancelled (by simp [writes])
    | cancelled _ kept => exact congrArg some kept
  · rw [same]

end Redated

/-- The row with an id is the one row that has it. -/
theorem rowOf?_eq_some_iff {id : String} {table : Table} {row : Transaction} :
    rowOf? id table = some row ↔
      row ∈ table.rows ∧ row.agencyTrackingId = id := by
  constructor
  · intro found
    exact ⟨List.mem_of_find?_eq_some found,
      by simpa [hasId] using List.find?_some found⟩
  · rintro ⟨member, isId⟩
    cases found : rowOf? id table with
    | none =>
        exact absurd isId
          (by simpa [hasId] using List.find?_eq_none.mp found row member)
    | some other =>
        have otherId : other.agencyTrackingId = id := by
          simpa [hasId] using List.find?_some found
        exact congrArg some (table.eq_of_id_eq
          (List.mem_of_find?_eq_some found) member (otherId.trans isId.symm))

/-- No statement of a use case stores a cancelled status as an answer. -/
def Answers : Statement → Prop
  | .updateAfterPayGovResponse _ patch =>
      patch.transactionStatus ≠ .cancelled
  | .updateAfterPayGovResponseIf _ patch _ =>
      patch.transactionStatus ≠ .cancelled
  | _ => True

variable {config : Config} {formats : XmlFormats} {request : Request}
variable {stage next : Stage}

theorem answers_of_permitted {statement : Statement}
    {reply : Reply (.db statement)}
    (permitted : Permitted config request stage (.db statement) reply next) :
    Answers statement := by
  have parsed : ∀ status, parseTransactionStatus status ≠ .cancelled := by
    intro status
    cases status <;> decide
  cases permitted with
  | passive _ passive => cases statement <;> trivial
  | persist | outrun | persistFailed | store _ => exact parsed _
  | look _ | lookMissed | cancel _ _ _ | retire _ | insert _ | insertFailed _
  | activate _ | activateFailed _ | abandon _ | load | loadMissed | failFee _
  | claim _ | claimFailed _ _ | markFailed | markUnrecorded | survey | sweep =>
      trivial

/-- A change keeps the id, and the date exactly if it cancels. -/
theorem redated_of_changes {now : Int} {statement : Statement}
    {old new : Transaction} (answers : Answers statement)
    (changes : Changes now statement old new) :
    new.agencyTrackingId = old.agencyTrackingId ∧
      Redated (isCancellation (.db statement)) now (some old) (some new) := by
  cases changes with
  | activated isId =>
      rw [set_last_updated_at_stamped (by simp [initiatedPatch])]
      exact ⟨rfl, .written rfl rfl⟩
  | refreshed isId =>
      rw [set_last_updated_at_stamped (by simpa [payGovResponsePatch])]
      exact ⟨rfl, .written rfl rfl⟩
  | stored isId found =>
      rw [set_last_updated_at_stamped (by simpa [payGovResponsePatch])]
      exact ⟨rfl, .written rfl rfl⟩
  | claimed hasToken claimable =>
      rw [set_last_updated_at_stamped (by simp [processingPatch])]
      exact ⟨rfl, .written rfl rfl⟩
  | failed isId =>
      rw [set_last_updated_at_stamped (by simp [failedPatch])]
      exact ⟨rfl, .written rfl rfl⟩
  | swept initiated expired =>
      rw [set_last_updated_at_kept rfl (by simp [initiated])]
      exact ⟨rfl, .cancelled rfl rfl⟩
  | cancelled isId initiated =>
      rw [set_last_updated_at_kept rfl (by simp [initiated])]
      exact ⟨rfl, .cancelled rfl rfl⟩

/-- What a statement makes of every row. -/
theorem redated_of_tableStep {now : Int} {statement : Statement}
    {before after : Table} (answers : Answers statement)
    (step : TableStep now statement before after) (id : String) :
    Redated (isCancellation (.db statement)) now (rowOf? id before)
      (rowOf? id after) := by
  cases step with
  | inserted data is_insert fresh rows_eq =>
      subst is_insert
      rw [rowOf?, rowOf?, rows_eq, List.find?_append]
      cases before.rows.find? (hasId id) with
      | some row => exact .kept
      | none =>
          by_cases isId : hasId id (receivedRow now data) = true
          · rw [List.find?_cons_of_pos isId]
            exact .written rfl rfl
          · rw [List.find?_cons_of_neg isId]
            exact .kept
  | mapped change rows_eq changes =>
      have redated : ∀ row ∈ before.rows,
          (change row).agencyTrackingId = row.agencyTrackingId ∧
            Redated (isCancellation (.db statement)) now (some row)
              (some (change row)) := by
        intro row member
        rcases changes row member with same | changed
        · rw [same]
          exact ⟨rfl, .kept⟩
        · exact redated_of_changes answers changed
      cases found : rowOf? id before with
      | some row =>
          obtain ⟨member, isId⟩ := rowOf?_eq_some_iff.mp found
          obtain ⟨sameId, becomes⟩ := redated row member
          have changed : rowOf? id after = some (change row) :=
            rowOf?_eq_some_iff.mpr
              ⟨rows_eq ▸ List.mem_map_of_mem member, sameId.trans isId⟩
          exact changed ▸ becomes
      | none =>
          have missing : rowOf? id after = none := by
            cases present : rowOf? id after with
            | none => rfl
            | some new =>
                obtain ⟨newIn, newId⟩ := rowOf?_eq_some_iff.mp present
                obtain ⟨row, member, rfl⟩ := List.mem_map.mp (rows_eq ▸ newIn)
                have isId := (redated row member).1.symm.trans newId
                exact absurd (rowOf?_eq_some_iff.mpr ⟨member, isId⟩)
                  (by simp [found])
          rw [missing]
          exact .kept

/-- What an operation makes of every row. -/
theorem redated_of_exec {op : Op} {reply : Reply op} {fate : Fate}
    {before after : World}
    (permitted : Permitted config request stage op reply next)
    (executed : exec formats op fate before =
      some (reply, after)) (id : String) :
    Redated (isCancellation op) before.now (rowOf? id before.table)
      (rowOf? id after.table) := by
  cases op with
  | now | pick | generateAgencyTrackingId =>
      obtain rfl := same_of_passive (by trivial) executed
      exact .kept
  | db statement =>
      obtain ⟨_, _, step⟩ := tableStep_of_execStatement executed
      exact redated_of_tableStep (answers_of_permitted permitted) step id
  | fetch soap =>
      rw [(fetchStep_of_execFetch executed).table_eq]
      exact .kept

/-! ## One entry -/

/-- Every row is kept, cancelled or dated by the entry. -/
def RedatedBy (entry : LogEntry) : Prop :=
  ∀ id, Redated (isCancellation entry.op) entry.before.now
    (rowOf? id entry.before.table) (rowOf? id entry.after.table)

theorem keepsWindows_of_redated {entry : LogEntry}
    (redated : RedatedBy entry) : KeepsWindows entry where
  closed := fun _ _ isClosed id => (redated id).within_of_closed isClosed
  cancellation := fun cancels _ _ id => (redated id).within_iff cancels
  update := by
    intro updates old oldIn new newIn sameId different
    have becomes := redated old.agencyTrackingId
    rw [rowOf?_eq_some_iff.mpr ⟨oldIn, rfl⟩,
      rowOf?_eq_some_iff.mpr ⟨newIn, sameId⟩] at becomes
    exact Option.some.inj (becomes.dated updates fun same =>
      different (Option.some.inj same))

/-- A row that was dated as the older entries say is so after the newest. -/
theorem lastDated_cons {entry : LogEntry} (redated : RedatedBy entry)
    {start : Table} {log : List LogEntry} {id : String}
    (dated : (rowOf? id entry.before.table).map Transaction.lastUpdatedAt =
      lastDated start log id) :
    (rowOf? id entry.after.table).map Transaction.lastUpdatedAt =
      lastDated start (entry :: log) id := by
  have becomes := redated id
  by_cases isDated : dates id entry = true
  · rw [lastDated, List.find?_cons_of_pos isDated]
    obtain ⟨updates, different⟩ : isCancellation entry.op = false ∧
        rowOf? id entry.after.table ≠ rowOf? id entry.before.table := by
      simpa [dates] using isDated
    exact becomes.dated updates different
  · rw [lastDated, List.find?_cons_of_neg isDated]
    refine (becomes.undated ?_).trans dated
    by_contra written
    apply isDated
    simpa [dates] using written

/-! ## Runs -/

/-- What holds of a run that starts with a table. -/
structure Dated (start : Table) (annotated : Annotated config) : Prop where
  entries : ∀ entry ∈ annotated.state.log, RedatedBy entry
  current : ∀ id, (rowOf? id annotated.state.world.table).map
    Transaction.lastUpdatedAt = lastDated start annotated.state.log id

theorem dated_initial (world : World) :
    Dated world.table (.initial world : Annotated config) where
  entries := fun entry member =>
    absurd member (by simp [Phased.initial, State.initial])
  current := fun _ => rfl

variable {start : Table} {source target : Annotated config}
variable {allowed : PortalState → PortalMove → Prop}

/-- Every move dates what it writes. -/
theorem Dated.step (dated : Dated start source)
    (step : AnnotatedStep config allowed source target) :
    Dated start target := by
  cases step with
  | arrive request permitted state_eq phases_eq =>
      constructor <;> rw [state_eq]
      · exact dated.entries
      · exact dated.current
  | perform caller fate request op next reply world stage after permitted
      running holds executed moved state_eq phases_eq =>
      have redated : RedatedBy
          ⟨caller, op, reply, source.state.world, world⟩ :=
        fun id => redated_of_exec moved executed id
      constructor <;> rw [state_eq]
      · intro entry member
        rcases List.mem_cons.mp member with rfl | old
        · exact redated
        · exact dated.entries entry old
      · intro id
        exact lastDated_cons redated (dated.current id)
  | crash caller request op next permitted running state_eq phases_eq =>
      constructor <;> rw [state_eq]
      · exact dated.entries
      · exact dated.current
  | drift change world permitted drifted state_eq phases_eq =>
      constructor <;> rw [state_eq]
      · exact dated.entries
      · rw [table_eq_of_drift drifted]
        exact dated.current

/--
From any table: no write moves a row into a closed window, a cancellation
leaves all windows alone, and every other write dates its row; so which windows
a row is in is determined by the last write that was not a cancellation.
-/
theorem windows_closed {world : World} {state : PortalState}
    (reaches : (portal config).Reaches Machine.Unrestricted (.initial world)
      state) :
    (∀ entry ∈ state.log, KeepsWindows entry) ∧
      ∀ from_ to_ id, InWindow from_ to_ id state.world.table ↔
        ∃ instant ∈ lastDated world.table state.log id,
          from_ ≤ instant ∧ instant < to_ := by
  obtain ⟨annotated, rfl, dated⟩ := exists_annotated (dated_initial world)
    (fun _ _ dated step => dated.step step) reaches
  constructor
  · intro entry member
    exact keepsWindows_of_redated (dated.entries entry member)
  · intro from_ to_ id
    rw [← dated.current id]
    simp [InWindow, isUpdatedIn]

/-- The swept attempt of the sample run stays in the window it was in. -/
theorem windows_closed_sample : ∃ state,
    (portal sampleConfig).replay Machine.Unrestricted sampleSweep
      (.initial (World.fresh sampleNow)) = some state ∧
    lastDated Table.empty state.log "A1" = some sampleNow ∧
    (∀ entry ∈ state.log, KeepsWindows entry) ∧
    ∀ from_ to_ id, InWindow from_ to_ id state.world.table ↔
      ∃ instant ∈ lastDated Table.empty state.log id,
        from_ ≤ instant ∧ instant < to_ := by
  have replayed : (((portal sampleConfig).replay Machine.Unrestricted
      sampleSweep (.initial (World.fresh sampleNow))).map fun state =>
        lastDated Table.empty state.log "A1") =
      some (some sampleNow) := by decide
  obtain ⟨state, reached, isDated⟩ := Option.map_eq_some_iff.mp replayed
  exact ⟨state, reached, isDated,
    windows_closed (Machine.reaches_of_replay reached)⟩

end PaymentPortal.Guarantees
