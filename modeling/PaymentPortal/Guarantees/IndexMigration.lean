import PaymentPortal.Guarantees.StatusPairs
import PaymentPortal.Model.Migrations

/-!
# The migration to the index over paid attempts

Whatever the table holds, the migration either throws because of a double
payment and changes nothing, or the index can be created.  Every candidate is
judged by siblings that may be candidates themselves, so the argument is about
the rows as they were: two rows that are still covered afterwards were not
candidates, hence both paid.
-/

namespace PaymentPortal.Guarantees

open PaymentPortal.Model
open PaymentPortal.Model.AddProcessedToUniqueActiveIndex
open PaymentPortal.Relational
open Transaction (Compatible COVERED_STATUSES)

/-- Some obligation has been paid more than once. -/
def DoublePaid (rows : List Transaction) : Prop :=
  ∃ first ∈ rows, ∃ second ∈ rows, first ≠ second ∧
    isPaid first = true ∧ isPaid second = true ∧
      first.obligation = second.obligation

/-- The statuses in the predicate of the previous index. -/
def PREVIOUSLY_COVERED_STATUSES : List TransactionStatus :=
  [.received, .initiated, .processing, .pending]

/-- The rows satisfied the previous index. -/
def PreviouslyUnique (rows : List Transaction) : Prop :=
  ∀ first ∈ rows, ∀ second ∈ rows,
    first.statusIn PREVIOUSLY_COVERED_STATUSES = true →
    second.statusIn PREVIOUSLY_COVERED_STATUSES = true →
    first.obligation = second.obligation → first = second

/-- `row` is the only covered row of its obligation, if it is covered. -/
def Unrivalled (rows : List Transaction) (obligation : Obligation) : Prop :=
  ∀ first ∈ rows, ∀ second ∈ rows, first.Active → second.Active →
    first.obligation = obligation → second.obligation = obligation →
      first = second

/-- What the migration makes of a table where it succeeds. -/
structure IndexEstablished (before : KeyedTable) (after : Table) : Prop where
  ids : after.rows.map Transaction.agencyTrackingId =
    before.rows.map Transaction.agencyTrackingId
  unique : ∀ obligation, Unrivalled after.rows obligation
  paid : ∀ row ∈ before.rows, isPaid row = true → row ∈ after.rows
  unrivalled : ∀ row ∈ before.rows,
    Unrivalled before.rows row.obligation → row ∈ after.rows
  kept : PreviouslyUnique before.rows → ∀ row ∈ before.rows, row.Active →
    ∃ kept ∈ after.rows, kept.Active ∧ kept.obligation = row.obligation ∧
      (∀ other ∈ after.rows, other.Active →
        other.obligation = row.obligation → other = kept) ∧
      ∀ paid ∈ before.rows, isPaid paid = true →
        paid.obligation = row.obligation → paid = kept

variable {now : Int} {table : KeyedTable}

/-! ## The check -/

/-- Without repetitions, more than one member means two different ones. -/
theorem one_lt_length_iff {α : Type} {items : List α}
    (distinct : items.Nodup) :
    1 < items.length ↔ ∃ first ∈ items, ∃ second ∈ items, first ≠ second := by
  rcases items with _ | ⟨first, _ | ⟨second, rest⟩⟩
  · simp
  · simp
  · have different : first ≠ second := by
      rintro rfl
      exact (List.nodup_cons.mp distinct).1 List.mem_cons_self
    refine ⟨fun _ => ?_, fun _ => by simp⟩
    exact ⟨first, by simp, second, by simp, different⟩

/-- The query finds something exactly if some obligation was paid twice. -/
theorem doublePaid_pos_iff (arrangement : Arrangement Obligation)
    (table : KeyedTable) :
    0 < (doublePaid arrangement table.rows).length ↔
      DoublePaid table.rows := by
  have distinct : table.rows.Nodup := table.primaryKey.of_map
  rw [doublePaid, List.length_map, List.length_pos_iff_exists_mem]
  constructor
  · rintro ⟨group, filtered⟩
    obtain ⟨inGroups, several⟩ := List.mem_filter.mp filtered
    obtain ⟨_, rows_eq⟩ := mem_groupBy.mp inGroups
    have distinctRows : group.rows.Nodup :=
      rows_eq ▸ (distinct.filter _).filter _
    obtain ⟨first, firstIn, second, secondIn, different⟩ :=
      (one_lt_length_iff distinctRows).mp (of_decide_eq_true several)
    rw [rows_eq, List.mem_filter, List.mem_filter] at firstIn secondIn
    obtain ⟨⟨firstIn, firstPaid⟩, isFirst⟩ := firstIn
    obtain ⟨⟨secondIn, secondPaid⟩, isSecond⟩ := secondIn
    exact ⟨first, firstIn, second, secondIn, different, firstPaid, secondPaid,
      (of_decide_eq_true isFirst).trans (of_decide_eq_true isSecond).symm⟩
  · rintro ⟨first, firstIn, second, secondIn, different, firstPaid, secondPaid,
      same⟩
    have firstSelected : first ∈ table.rows.filter isPaid :=
      List.mem_filter.mpr ⟨firstIn, firstPaid⟩
    have secondSelected : second ∈ table.rows.filter isPaid :=
      List.mem_filter.mpr ⟨secondIn, secondPaid⟩
    refine ⟨_, List.mem_filter.mpr ⟨group_mem_groupBy firstSelected, ?_⟩⟩
    apply decide_eq_true
    apply (one_lt_length_iff ((distinct.filter _).filter _)).mpr
    refine ⟨first, List.mem_filter.mpr ⟨firstSelected, by simp⟩, second,
      List.mem_filter.mpr ⟨secondSelected, ?_⟩, different⟩
    exact decide_eq_true same.symm

/-! ## The candidates -/

theorem isCandidate_iff {row : Transaction} :
    isCandidate table.rows row = true ↔
      row.statusIn [.received, .initiated, .processing] = true ∧
        ∃ other ∈ table.rows, other.obligation = row.obligation ∧
          other.agencyTrackingId ≠ row.agencyTrackingId ∧ other.Active := by
  rw [isCandidate, Bool.and_eq_true, hasCoveredSibling_iff]

/-- Joining by id retires exactly the candidates. -/
theorem retire_eq {row : Transaction} (member : row ∈ table.rows) :
    retire now table.rows row =
      if isCandidate table.rows row then supersededPatch now row else row := by
  have joined : ((table.rows.filter (isCandidate table.rows)).map
      Transaction.agencyTrackingId).contains row.agencyTrackingId =
        isCandidate table.rows row := by
    rw [Bool.eq_iff_iff, List.contains_iff_mem, List.mem_map]
    constructor
    · rintro ⟨other, filtered, sameId⟩
      obtain ⟨otherIn, candidate⟩ := List.mem_filter.mp filtered
      exact table.eq_of_id_eq otherIn member sameId ▸ candidate
    · intro candidate
      exact ⟨row, List.mem_filter.mpr ⟨member, candidate⟩, rfl⟩
  rw [retire, joined]

/-- A covered row is open or paid. -/
theorem active_iff_open_or_paid {row : Transaction} :
    row.Active ↔ row.statusIn [.received, .initiated, .processing] = true ∨
      isPaid row = true := by
  simp [Transaction.Active, COVERED_STATUSES, Transaction.statusIn, isPaid,
    or_assoc]

/-! ## The rows afterwards -/

/-- Rows that are not candidates are left alone. -/
theorem mem_retired (now : Int) {row : Transaction}
    (member : row ∈ table.rows)
    (spared : isCandidate table.rows row = false) :
    row ∈ table.rows.map (retire now table.rows) :=
  List.mem_map.mpr ⟨row, member, by simp [retire_eq member, spared]⟩

/-- Only rows that were left alone are still covered. -/
theorem spared_of_active {row : Transaction}
    (member : row ∈ table.rows.map (retire now table.rows))
    (active : row.Active) :
    row ∈ table.rows ∧ isCandidate table.rows row = false := by
  obtain ⟨old, oldIn, rfl⟩ := List.mem_map.mp member
  rw [retire_eq oldIn] at active ⊢
  by_cases candidate : isCandidate table.rows old = true
  · rw [if_pos candidate] at active
    exact absurd active (by
      simp [Transaction.Active, Transaction.statusIn, supersededPatch,
        COVERED_STATUSES])
  · rw [if_neg candidate]
    exact ⟨oldIn, Bool.eq_false_of_not_eq_true candidate⟩

/-- A covered row with a covered sibling is spared only if it is paid. -/
theorem paid_of_spared {row other : Transaction}
    (spared : isCandidate table.rows row = false) (active : row.Active)
    (otherIn : other ∈ table.rows) (otherActive : other.Active)
    (same : other.obligation = row.obligation)
    (different : other.agencyTrackingId ≠ row.agencyTrackingId) :
    isPaid row = true := by
  rcases active_iff_open_or_paid.mp active with isOpen | paid
  · have candidate : isCandidate table.rows row = true :=
      isCandidate_iff.mpr ⟨isOpen, other, otherIn, same, different,
        otherActive⟩
    exact absurd (candidate.symm.trans spared) (by simp)
  · exact paid

/-- Paid rows are no candidates. -/
theorem spared_of_paid {row : Transaction} (paid : isPaid row = true) :
    isCandidate table.rows row = false := by
  rw [isCandidate, Bool.and_eq_false_iff]
  left
  obtain ⟨status, member, has⟩ := Transaction.statusIn_iff.mp paid
  simp only [List.mem_cons, List.not_mem_nil, or_false] at member
  rcases member with rfl | rfl <;> simp [Transaction.statusIn, has]

/-- Without double payments at most one row of an obligation stays covered. -/
theorem unrivalled_retired (single : ¬ DoublePaid table.rows)
    (obligation : Obligation) :
    Unrivalled (table.rows.map (retire now table.rows)) obligation := by
  intro first firstIn second secondIn firstActive secondActive isFirst isSecond
  by_contra different
  obtain ⟨firstOld, firstSpared⟩ := spared_of_active firstIn firstActive
  obtain ⟨secondOld, secondSpared⟩ := spared_of_active secondIn secondActive
  have same := isFirst.trans isSecond.symm
  have apart : first.agencyTrackingId ≠ second.agencyTrackingId :=
    fun sameId => different (table.eq_of_id_eq firstOld secondOld sameId)
  apply single
  exact ⟨first, firstOld, second, secondOld, different,
    paid_of_spared firstSpared firstActive secondOld secondActive same.symm
      apart.symm,
    paid_of_spared secondSpared secondActive firstOld firstActive same apart,
    same⟩

/-- So the index can be created. -/
theorem exists_indexed (now : Int) (single : ¬ DoublePaid table.rows) :
    ∃ after : Table,
      createUniqueActiveIndex (table.rewrite (retire now table.rows)
        (retire_agencyTrackingId now table.rows)) = .ok after ∧
      after.rows = table.rows.map (retire now table.rows) := by
  have primaryKey := (table.rewrite (retire now table.rows)
    (retire_agencyTrackingId now table.rows)).primaryKey
  have compatible : (table.rows.map (retire now table.rows)).Pairwise
      Compatible := by
    have distinct : (table.rows.map (retire now table.rows)).Nodup :=
      primaryKey.of_map
    apply distinct.imp_of_mem
    intro first second firstIn secondIn different firstActive secondActive same
    exact different (unrivalled_retired single second.obligation first firstIn
      second secondIn firstActive secondActive same rfl)
  refine ⟨⟨_, primaryKey, compatible⟩, ?_, rfl⟩
  rw [createUniqueActiveIndex, Table.ofRows?, dif_pos ⟨primaryKey, compatible⟩]

/-! ## The migration -/

/-- The previous index left at most one open row besides a paid one. -/
theorem exists_kept (single : ¬ DoublePaid table.rows)
    (previously : PreviouslyUnique table.rows) {row : Transaction}
    (member : row ∈ table.rows) (active : row.Active) :
    ∃ kept ∈ table.rows, isCandidate table.rows kept = false ∧ kept.Active ∧
      kept.obligation = row.obligation ∧
      ∀ paid ∈ table.rows, isPaid paid = true →
        paid.obligation = row.obligation → paid = kept := by
  by_cases paidOnce : ∃ paid ∈ table.rows, isPaid paid = true ∧
      paid.obligation = row.obligation
  · obtain ⟨paid, paidIn, isPaid, same⟩ := paidOnce
    refine ⟨paid, paidIn, spared_of_paid isPaid,
      active_iff_open_or_paid.mpr (.inr isPaid), same, ?_⟩
    intro other otherIn otherPaid otherSame
    by_contra different
    exact single ⟨other, otherIn, paid, paidIn, different, otherPaid, isPaid,
      otherSame.trans same.symm⟩
  · -- Nobody has paid, so the row is open and has no covered sibling.
    have unpaid : ∀ other ∈ table.rows, other.obligation = row.obligation →
        isPaid other = false := fun other otherIn same =>
      Bool.eq_false_of_not_eq_true fun isPaid =>
        paidOnce ⟨other, otherIn, isPaid, same⟩
    have previouslyCovered : ∀ other ∈ table.rows,
        other.obligation = row.obligation → other.Active →
          other.statusIn PREVIOUSLY_COVERED_STATUSES = true := by
      intro other otherIn same otherActive
      rcases active_iff_open_or_paid.mp otherActive with isOpen | isPaid
      · obtain ⟨status, listed, has⟩ := Transaction.statusIn_iff.mp isOpen
        apply Transaction.statusIn_iff.mpr
        refine ⟨status, ?_, has⟩
        simp only [List.mem_cons, List.not_mem_nil, or_false] at listed
        rcases listed with rfl | rfl | rfl <;> decide
      · exact absurd (isPaid.symm.trans (unpaid other otherIn same)) (by simp)
    refine ⟨row, member, ?_, active, rfl, fun paid paidIn isPaid same =>
      absurd ⟨paid, paidIn, isPaid, same⟩ paidOnce⟩
    apply Bool.eq_false_of_not_eq_true
    intro candidate
    obtain ⟨_, other, otherIn, same, different, otherActive⟩ :=
      isCandidate_iff.mp candidate
    apply different
    rw [previously other otherIn row member
      (previouslyCovered other otherIn same otherActive)
      (previouslyCovered row member rfl active) same]

/-- What holds of the rows where the check has passed. -/
theorem established (single : ¬ DoublePaid table.rows) {after : Table}
    (rows_eq : after.rows = table.rows.map (retire now table.rows)) :
    IndexEstablished table after where
  ids := by
    rw [rows_eq, List.map_map, Function.comp_def]
    simp only [retire_agencyTrackingId]
  unique := fun obligation => by
    rw [rows_eq]
    exact unrivalled_retired single obligation
  paid := fun row member isPaid => by
    rw [rows_eq]
    exact mem_retired now member (spared_of_paid isPaid)
  unrivalled := by
    intro row member unrivalled
    rw [rows_eq]
    apply mem_retired now member
    apply Bool.eq_false_of_not_eq_true
    intro candidate
    obtain ⟨isOpen, other, otherIn, same, different, otherActive⟩ :=
      isCandidate_iff.mp candidate
    have active := active_iff_open_or_paid.mpr (.inl isOpen)
    apply different
    rw [unrivalled other otherIn row member otherActive active same rfl]
  kept := by
    intro previously row member active
    obtain ⟨kept, keptIn, spared, keptActive, same, paid⟩ :=
      exists_kept single previously member active
    rw [rows_eq]
    have stays := mem_retired now keptIn spared
    refine ⟨kept, stays, keptActive, same, ?_, paid⟩
    intro other otherIn otherActive otherSame
    exact unrivalled_retired single row.obligation other otherIn kept stays
      otherActive keptActive otherSame same

/--
From any table, the migration either throws because an obligation has been paid
twice and leaves the table as it was, or it establishes the index and changes
only open attempts that had a covered sibling.
-/
theorem up_establishes_index (arrangement : Arrangement Obligation)
    (now : Int) (table : KeyedTable) :
    (DoublePaid table.rows ∧ ∃ message,
        inTransaction (up arrangement now) table =
          (.error (.error message), table)) ∨
      (¬ DoublePaid table.rows ∧ ∃ after,
        inTransaction (up arrangement now) table = (.ok (), after.keyed) ∧
          IndexEstablished table after) := by
  by_cases double : DoublePaid table.rows
  · have found := (doublePaid_pos_iff arrangement table).mpr double
    refine .inl ⟨double,
      doublePaidMessage (doublePaid arrangement table.rows), ?_⟩
    rw [inTransaction, up, if_pos found]
  · have passed : ¬ 0 < (doublePaid arrangement table.rows).length :=
      fun found => double ((doublePaid_pos_iff arrangement table).mp found)
    obtain ⟨after, created, rows_eq⟩ := exists_indexed now double
    refine .inr ⟨double, after, ?_, established double rows_eq⟩
    rw [inTransaction, up, if_neg passed, created]

end PaymentPortal.Guarantees
