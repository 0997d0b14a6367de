import PaymentPortal.Interaction.Alone
import PaymentPortal.Model.Portal

/-!
# Requests that run alone

The rules of `Attains` for the operations of `initPayment` when it runs alone,
the database executes every statement and Pay.gov answers every request.  Time
passes and payments settle between the operations; the table changes by the
request's own statements only.
-/

namespace PaymentPortal.Protocol

open PaymentPortal.Interaction
open PaymentPortal.Model

/--
What a healthy environment does: statements are executed, generated ids are
new, and Pay.gov issues a new token of the length its schema demands, which the
portal reads as it is.
-/
def isHealthy (formats : XmlFormats) (world : World) : Op → Fate → Bool
  | .now, .read => true
  | .pick, .chosen _ => true
  | .generateAgencyTrackingId, .generated agencyTrackingId => decide
      (∀ row ∈ world.table.rows, row.agencyTrackingId ≠ agencyTrackingId)
  | .db _, .executed _ => true
  | .fetch (.startOnlineCollection _), .issued token .delivered => decide
      (token.length = 32 ∧ token ∉ world.payGov.issued.map Prod.fst ∧
        responseText formats (issueResponse token) =
          .startOnlineCollectionResponse token)
  | _, _ => false

def Healthy (formats : XmlFormats) (world : World) (op : Op) (fate : Fate) :
    Prop :=
  isHealthy formats world op fate = true

instance (formats : XmlFormats) (world : World) (op : Op) (fate : Fate) :
    Decidable (Healthy formats world op fate) :=
  inferInstanceAs (Decidable (_ = true))

/-- The clock has moved on, and the table is as it was. -/
structure Drifts (world here : World) : Prop where
  now : world.now ≤ here.now
  table : here.table = world.table

theorem Drifts.trans {first second third : World}
    (earlier : Drifts first second) (later : Drifts second third) :
    Drifts first third where
  now := earlier.now.trans later.now
  table := later.table.trans earlier.table

variable {config : Config} {world : World} {α : Type}
variable {returns : World → α → Prop} {throws : World → PortalError → Prop}

theorem drifts_of_driftAll {changes : List Drift} {here : World}
    (drifted : (portal config).driftAll changes world = some here) :
    Drifts world here := by
  induction changes generalizing world with
  | nil =>
      obtain rfl := Option.some.inj drifted
      exact ⟨le_rfl, rfl⟩
  | cons change rest ih =>
      obtain ⟨next, changed, remaining⟩ := Option.bind_eq_some_iff.mp drifted
      refine Drifts.trans ?_ (ih remaining)
      cases change with
      | tick ms =>
          obtain rfl := Option.some.inj changed
          refine ⟨?_, rfl⟩
          change world.now ≤ world.now + (ms : Int)
          omega
      | settle trackingId status =>
          obtain rfl := Option.some.inj changed
          exact ⟨le_rfl, rfl⟩

/-- What a task returns and throws when it runs alone and all is healthy. -/
abbrev Attains (config : Config) (returns : World → α → Prop)
    (throws : World → PortalError → Prop) (task : Async α) (world : World) :
    Prop :=
  (portal config).Attains (Healthy config.xmlFormats) returns throws task world

/-! ## Operations -/

theorem attains_dateNow {returns : World → Int → Prop}
    (returned : ∀ here, Drifts world here → returns here here.now) :
    Attains config returns throws dateNow world := by
  apply Machine.Attains.operation
  intro changes here drifted fate healthy
  cases fate <;> first | exact Bool.noConfusion healthy | skip
  exact ⟨_, _, rfl, returned here (drifts_of_driftAll drifted)⟩

theorem attains_generateAgencyTrackingId {returns : World → String → Prop}
    (returned : ∀ here id, Drifts world here →
      (∀ row ∈ here.table.rows, row.agencyTrackingId ≠ id) → returns here id) :
    Attains config returns throws generateAgencyTrackingId world := by
  apply Machine.Attains.operation
  intro changes here drifted fate healthy
  cases fate <;> first | exact Bool.noConfusion healthy | skip
  exact ⟨_, _, rfl, returned here _ (drifts_of_driftAll drifted)
    (of_decide_eq_true healthy)⟩

/-- A statement is executed, or violates the unique index. -/
theorem attains_query {statement : Statement}
    {returns : World → statement.Result → Prop}
    (ended : ∀ here, Drifts world here → ∀ locked,
      (∃ result table, statement.run here.now locked here.table =
          .ok (result, table) ∧ returns { here with table := table } result) ∨
        ∃ error, statement.run here.now locked here.table = .error error ∧
          throws here (.database error)) :
    Attains config returns throws (query statement) world := by
  apply Machine.Attains.operation
  intro changes here drifted fate healthy
  cases fate <;> first | exact Bool.noConfusion healthy | skip
  rename_i locked
  rcases ended here (drifts_of_driftAll drifted) locked with
    ⟨result, table, ran, returned⟩ | ⟨error, ran, thrown⟩
  · refine ⟨.ok result, { here with table := table }, ?_, returned⟩
    change execStatement statement (.executed locked) here = _
    simp only [execStatement, ran]
  · refine ⟨.error error, here, ?_, thrown⟩
    change execStatement statement (.executed locked) here = _
    simp only [execStatement, ran]

/-- A statement that reads the table returns what it finds. -/
theorem attains_read {statement : Statement}
    {returns : World → statement.Result → Prop}
    (found : Table → statement.Result)
    (reads : ∀ now locked table,
      statement.run now locked table = .ok (found table, table))
    (returned : ∀ here, Drifts world here → returns here (found world.table)) :
    Attains config returns throws (query statement) world := by
  apply attains_query
  intro here drifts locked
  refine .inl ⟨found here.table, here.table, reads _ _ _, ?_⟩
  rw [drifts.table]
  have kept := returned here drifts
  rw [← drifts.table] at kept ⊢
  exact kept

/-- Pay.gov issues a token for the attempt. -/
theorem attains_postStart {params : StartOnlineCollectionParams}
    {returns : World → ResponseText → Prop}
    (returned : ∀ here token, here.table = world.table → token.length = 32 →
      returns here (.startOnlineCollectionResponse token)) :
    Attains config returns throws
      (postHttpRequest (.startOnlineCollection params)) world := by
  refine Machine.Attains.bind (fun after reply => ∃ token,
    reply = .ok (.startOnlineCollectionResponse token) ∧
      after.table = world.table ∧ token.length = 32) ?_ ?_
  · apply Machine.Attains.operation
    intro changes here drifted fate healthy
    cases fate <;> first | exact Bool.noConfusion healthy | skip
    rename_i token delivery
    cases delivery <;> first | exact Bool.noConfusion healthy | skip
    obtain ⟨length, fresh, read⟩ := of_decide_eq_true healthy
    obtain ⟨payGov, issued⟩ : ∃ payGov, here.payGov.issue? token
        params.agency_tracking_id = some payGov := ⟨_, dif_pos fresh⟩
    refine ⟨.ok (.startOnlineCollectionResponse token),
      { here with payGov := payGov }, ?_, token, rfl,
      (drifts_of_driftAll drifted).table, length⟩
    change execFetch config.xmlFormats (.startOnlineCollection params)
      (.issued token .delivered) here = _
    simp [execFetch, issued, deliver, read]
  · rintro after reply ⟨token, rfl, sameTable, length⟩
    exact Machine.Attains.pure (returned after token sameTable length)

end PaymentPortal.Protocol
