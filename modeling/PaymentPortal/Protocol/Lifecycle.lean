import Mathlib.Order.Basic
import PaymentPortal.Model.Portal

/-!
# The lifecycle of an attempt

What may become of a row, of Pay.gov's records and of the world, whatever the
use cases do.  This is the abstract view of the portal: `leadsTo` orders the
statuses, `Transaction.Evolves` orders the versions of one row, and worlds are
preordered by "may have become".  The protocol modules show that every move of
the portal goes upwards in this order, so what a caller has read earlier bounds
what it finds later.
-/

namespace PaymentPortal.Model

/-! ## Statuses -/

/-- The statuses an attempt may have once it has had another one. -/
def TransactionStatus.leadsTo : TransactionStatus → TransactionStatus → Bool
  | .received, _ => true
  | .initiated, later => later ≠ .received
  | .processing, later =>
      later ≠ .received ∧ later ≠ .initiated ∧ later ≠ .cancelled
  | .cancelled, later =>
      later ≠ .received ∧ later ≠ .initiated ∧ later ≠ .processing
  | _, later => later = .pending ∨ later = .processed ∨ later = .failed

namespace TransactionStatus

@[simp]
theorem leadsTo_refl (status : TransactionStatus) :
    status.leadsTo status = true := by
  cases status <;> rfl

theorem leadsTo_trans {first second third : TransactionStatus}
    (earlier : first.leadsTo second = true)
    (later : second.leadsTo third = true) : first.leadsTo third = true := by
  cases first <;> cases second <;> cases third <;>
    first | rfl | (exact absurd earlier (by decide)) |
      (exact absurd later (by decide))

/-- The statuses of an attempt that has once been claimed for Pay.gov. -/
def Claimed (status : TransactionStatus) : Prop :=
  TransactionStatus.processing.leadsTo status = true

instance (status : TransactionStatus) : Decidable status.Claimed :=
  inferInstanceAs (Decidable (_ = true))

theorem Claimed.of_leadsTo {status later : TransactionStatus}
    (claimed : status.Claimed) (leads : status.leadsTo later = true) :
    later.Claimed :=
  leadsTo_trans claimed leads

end TransactionStatus

/-! ## Rows -/

namespace Transaction

/-- `later` is the same attempt at a later time. -/
structure Evolves (row later : Transaction) : Prop where
  id_eq : later.agencyTrackingId = row.agencyTrackingId
  obligation_eq : later.obligation = row.obligation
  fee_eq : later.fee = row.fee
  createdAt_eq : later.createdAt = row.createdAt
  amount_eq : later.transactionAmount = row.transactionAmount
  metadata_eq : later.metadata = row.metadata
  token : ∀ token, row.paygovToken = some token →
    later.paygovToken = some token
  trackingId : ∀ trackingId, row.paygovTrackingId = some trackingId →
    later.paygovTrackingId = some trackingId
  updated : row.lastUpdatedAt ≤ later.lastUpdatedAt
  status : ∀ status, row.transactionStatus = some status →
    ∃ reached, later.transactionStatus = some reached ∧
      status.leadsTo reached = true

theorem Evolves.refl (row : Transaction) : row.Evolves row where
  id_eq := rfl
  obligation_eq := rfl
  fee_eq := rfl
  createdAt_eq := rfl
  amount_eq := rfl
  metadata_eq := rfl
  token := fun _ has => has
  trackingId := fun _ has => has
  updated := le_rfl
  status := fun status has => ⟨status, has, status.leadsTo_refl⟩

/-- An attempt keeps its transaction reference. -/
theorem Evolves.transactionReferenceId_eq {row later : Transaction}
    (evolves : row.Evolves later) :
    later.transactionReferenceId = row.transactionReferenceId :=
  congrArg Obligation.transactionReferenceId evolves.obligation_eq

theorem Evolves.trans {first second third : Transaction}
    (earlier : first.Evolves second) (later : second.Evolves third) :
    first.Evolves third where
  id_eq := later.id_eq.trans earlier.id_eq
  obligation_eq := later.obligation_eq.trans earlier.obligation_eq
  fee_eq := later.fee_eq.trans earlier.fee_eq
  createdAt_eq := later.createdAt_eq.trans earlier.createdAt_eq
  amount_eq := later.amount_eq.trans earlier.amount_eq
  metadata_eq := later.metadata_eq.trans earlier.metadata_eq
  token := fun token has => later.token token (earlier.token token has)
  trackingId := fun trackingId has =>
    later.trackingId trackingId (earlier.trackingId trackingId has)
  updated := earlier.updated.trans later.updated
  status := by
    intro status has
    obtain ⟨middle, hasMiddle, toMiddle⟩ := earlier.status status has
    obtain ⟨reached, hasReached, toReached⟩ := later.status middle hasMiddle
    exact ⟨reached, hasReached,
      TransactionStatus.leadsTo_trans toMiddle toReached⟩

/-- The attempt has once been claimed for Pay.gov. -/
def Claimed (row : Transaction) : Prop :=
  ∃ status, row.transactionStatus = some status ∧ status.Claimed

theorem Claimed.of_evolves {row later : Transaction} (claimed : row.Claimed)
    (evolves : row.Evolves later) : later.Claimed := by
  obtain ⟨status, has, isClaimed⟩ := claimed
  obtain ⟨reached, hasReached, leads⟩ := evolves.status status has
  exact ⟨reached, hasReached, isClaimed.of_leadsTo leads⟩

theorem claimed_of_processing {row : Transaction}
    (processing : row.transactionStatus = some .processing) : row.Claimed :=
  ⟨.processing, processing, by decide⟩

theorem Claimed.ne_initiated {row : Transaction} (claimed : row.Claimed) :
    row.transactionStatus ≠ some .initiated := by
  obtain ⟨status, has, isClaimed⟩ := claimed
  rintro initiated
  obtain rfl := Option.some.inj (has.symm.trans initiated)
  exact absurd isClaimed (by decide)

theorem Claimed.ne_cancelled {row : Transaction} (claimed : row.Claimed) :
    row.transactionStatus ≠ some .cancelled := by
  obtain ⟨status, has, isClaimed⟩ := claimed
  rintro cancelled
  obtain rfl := Option.some.inj (has.symm.trans cancelled)
  exact absurd isClaimed (by decide)

end Transaction

/-! ## Pay.gov -/

/-- `later` is the same completion at a later time. -/
structure Completion.Evolves (completion later : Completion) : Prop where
  token_eq : later.token = completion.token
  trackingId_eq : later.paygovTrackingId = completion.paygovTrackingId
  outcome : completion.outcome = .pending ∨
    later.outcome = completion.outcome

namespace PayGov

/-- Nothing is forgotten, and no terminal outcome is revised. -/
structure Extends (payGov later : PayGov) : Prop where
  issued : payGov.issued ⊆ later.issued
  completions : ∀ completion ∈ payGov.completions,
    ∃ now ∈ later.completions, completion.Evolves now

theorem Extends.refl (payGov : PayGov) : payGov.Extends payGov where
  issued := List.Subset.refl _
  completions := fun completion member =>
    ⟨completion, member, rfl, rfl, .inr rfl⟩

theorem Extends.trans {first second third : PayGov}
    (earlier : first.Extends second) (later : second.Extends third) :
    first.Extends third where
  issued := List.Subset.trans earlier.issued later.issued
  completions := by
    intro completion member
    obtain ⟨middle, middleIn, toMiddle⟩ := earlier.completions completion member
    obtain ⟨last, lastIn, toLast⟩ := later.completions middle middleIn
    refine ⟨last, lastIn, toLast.token_eq.trans toMiddle.token_eq,
      toLast.trackingId_eq.trans toMiddle.trackingId_eq, ?_⟩
    rcases toMiddle.outcome with pending | same
    · exact .inl pending
    · rcases toLast.outcome with pending | kept
      · exact .inl (same ▸ pending)
      · exact .inr (kept.trans same)

theorem extends_of_issue? {token agencyTrackingId : String}
    {payGov after : PayGov}
    (issued : issue? token agencyTrackingId payGov = some after) :
    payGov.Extends after := by
  obtain ⟨issuedEq, completionsEq, _⟩ := issued_of_issue? issued
  refine ⟨?_, ?_⟩
  · rw [issuedEq]
    exact List.subset_cons_self _ _
  · intro completion member
    exact ⟨completion, completionsEq ▸ member, rfl, rfl, .inr rfl⟩

theorem extends_of_complete? {completion : Completion}
    {payGov after : PayGov}
    (completed : complete? completion payGov = some after) :
    payGov.Extends after := by
  obtain ⟨issuedEq, completionsEq, _⟩ := completions_of_complete? completed
  refine ⟨issuedEq ▸ List.Subset.refl _, ?_⟩
  intro other member
  exact ⟨other, completionsEq ▸ List.mem_cons_of_mem _ member, rfl, rfl,
    .inr rfl⟩

theorem extends_settle (trackingId : String)
    (status : PayGovTransactionStatus) (payGov : PayGov) :
    payGov.Extends (payGov.settle trackingId status) := by
  refine ⟨List.Subset.refl _, ?_⟩
  intro completion member
  refine ⟨settleOne trackingId status completion,
    List.mem_map_of_mem member, settleOne_token _ _ _,
    settleOne_paygovTrackingId _ _ _, ?_⟩
  by_cases pending : completion.outcome = .pending
  · exact .inl pending
  · exact .inr (settleOne_outcome trackingId status completion pending)

end PayGov

/-! ## Worlds -/

/-- The clock does not run back, no row and no record of Pay.gov is lost. -/
structure World.Precedes (world later : World) : Prop where
  now : world.now ≤ later.now
  rows : ∀ row ∈ world.table.rows, ∃ evolved ∈ later.table.rows,
    row.Evolves evolved
  payGov : world.payGov.Extends later.payGov

instance : Preorder World where
  le := World.Precedes
  le_refl world := {
    now := le_rfl
    rows := fun row member => ⟨row, member, .refl row⟩
    payGov := .refl _ }
  le_trans first second third earlier later := {
    now := earlier.now.trans later.now
    rows := by
      intro row member
      obtain ⟨middle, middleIn, toMiddle⟩ := earlier.rows row member
      obtain ⟨last, lastIn, toLast⟩ := later.rows middle middleIn
      exact ⟨last, lastIn, toMiddle.trans toLast⟩
    payGov := earlier.payGov.trans later.payGov }

/-- The version of a row that a later world holds. -/
theorem World.Precedes.evolved {world later : World}
    (precedes : world ≤ later) {row current : Transaction}
    (member : row ∈ world.table.rows) (present : current ∈ later.table.rows)
    (sameId : current.agencyTrackingId = row.agencyTrackingId) :
    row.Evolves current := by
  obtain ⟨evolved, evolvedIn, evolves⟩ := precedes.rows row member
  obtain rfl := later.table.eq_of_id_eq evolvedIn present
    (evolves.id_eq.trans sameId.symm)
  exact evolves

end PaymentPortal.Model
