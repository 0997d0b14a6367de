import PaymentPortal.Protocol.Knowledge

/-!
# Steps of the world

`WorldStep` is what one move of the portal makes of the world, in terms of the
lifecycle: rows are inserted or rewritten, Pay.gov's records are extended, and
only claimed tokens are completed.  It holds of every operation that a request
performs with the knowledge of its stage.
-/

namespace PaymentPortal.Protocol

open PaymentPortal.Interaction
open PaymentPortal.Model

/-- What an operation of the owner of some attempts makes of the rows. -/
inductive RowsStep (config : Config) (owner : String → Prop) (op? : Option Op)
    (before after : World) : Prop where
  | inserted (data : ReceivedTransactionParams)
      (is_insert : op? = some (.db (.createReceived data)))
      (fresh : ∀ row ∈ before.table.rows,
        row.agencyTrackingId ≠ data.agencyTrackingId)
      (rows_eq : after.table.rows =
        before.table.rows ++ [receivedRow before.now data])
  | mapped (change : Transaction → Transaction)
      (rows_eq : after.table.rows = before.table.rows.map change)
      (rewrites : ∀ row ∈ before.table.rows, change row = row ∨
        ∃ statement, op? = some (.db statement) ∧
          Rewrites config before owner statement row (change row))

/-- What one move makes of the world. -/
structure WorldStep (config : Config) (owner : String → Prop) (op? : Option Op)
    (before after : World) : Prop where
  now : before.now ≤ after.now
  payGov : before.payGov.Extends after.payGov
  completions : ∀ completion ∈ after.payGov.completions,
    (∃ old ∈ before.payGov.completions, old.token = completion.token) ∨
      ∃ row ∈ before.table.rows,
        row.paygovToken = some completion.token ∧ row.Claimed
  rows : RowsStep config owner op? before after

variable {config : Config} {owner : String → Prop} {op? : Option Op}
variable {before after : World} {formats : XmlFormats}

theorem RowsStep.same (rows_eq : after.table.rows = before.table.rows) :
    RowsStep config owner op? before after :=
  .mapped id (by simp [rows_eq]) fun _ _ => .inl rfl

theorem WorldStep.refl (world : World) :
    WorldStep config owner op? world world where
  now := le_rfl
  payGov := .refl _
  completions := fun completion member => .inl ⟨completion, member, rfl⟩
  rows := .same rfl

/-- A row is left alone, or the statement rewrites it. -/
theorem WorldStep.kept_or_rewritten
    (step : WorldStep config owner op? before after) {row : Transaction}
    (member : row ∈ before.table.rows) :
    row ∈ after.table.rows ∨ ∃ statement, op? = some (.db statement) ∧
      ∃ changed ∈ after.table.rows,
        Rewrites config before owner statement row changed := by
  rcases step.rows with ⟨data, _, _, rows_eq⟩ | ⟨change, rows_eq, rewrites⟩
  · left
    rw [rows_eq]
    exact List.mem_append_left _ member
  · have changedIn : change row ∈ after.table.rows := by
      rw [rows_eq]
      exact List.mem_map_of_mem member
    rcases rewrites row member with same | ⟨statement, isOp, rewrite⟩
    · exact .inl (same ▸ changedIn)
    · exact .inr ⟨statement, isOp, change row, changedIn, rewrite⟩

/-- One move goes upwards. -/
theorem WorldStep.le (step : WorldStep config owner op? before after)
    (coherent : ∀ row ∈ before.table.rows, Coherent config before row) :
    before ≤ after where
  now := step.now
  payGov := step.payGov
  rows := by
    intro row member
    rcases step.kept_or_rewritten member with
      kept | ⟨statement, _, changed, changedIn, rewrite⟩
    · exact ⟨row, kept, .refl row⟩
    · exact ⟨changed, changedIn, rewrite.evolves (coherent row member)⟩

/-- One move keeps all rows coherent. -/
theorem WorldStep.coherent (step : WorldStep config owner op? before after)
    (coherent : ∀ row ∈ before.table.rows, Coherent config before row) :
    ∀ row ∈ after.table.rows, Coherent config after row := by
  intro row member
  rcases step.rows with ⟨data, _, _, rows_eq⟩ | ⟨change, rows_eq, rewrites⟩
  · rcases List.mem_append.mp (rows_eq ▸ member) with old | new
    · exact (coherent row old).mono step.now step.payGov
    · obtain rfl := List.mem_singleton.mp new
      exact (coherent_receivedRow config before data).mono step.now step.payGov
  · obtain ⟨old, oldIn, rfl⟩ := List.mem_map.mp (rows_eq ▸ member)
    rcases rewrites old oldIn with same | ⟨statement, _, rewrite⟩
    · rw [same]
      exact (coherent old oldIn).mono step.now step.payGov
    · exact (rewrite.coherent (coherent old oldIn)).mono step.now step.payGov

/-- Completed tokens belong to claimed rows. -/
theorem WorldStep.completed (step : WorldStep config owner op? before after)
    (coherent : ∀ row ∈ before.table.rows, Coherent config before row)
    (completed : ∀ completion ∈ before.payGov.completions,
      ∃ row ∈ before.table.rows,
        row.paygovToken = some completion.token ∧ row.Claimed) :
    ∀ completion ∈ after.payGov.completions,
      ∃ row ∈ after.table.rows,
        row.paygovToken = some completion.token ∧ row.Claimed := by
  intro completion member
  have known : ∃ row ∈ before.table.rows,
      row.paygovToken = some completion.token ∧ row.Claimed := by
    rcases step.completions completion member with ⟨old, oldIn, same⟩ | new
    · exact same ▸ completed old oldIn
    · exact new
  obtain ⟨row, rowIn, hasToken, claimed⟩ := known
  obtain ⟨evolved, evolvedIn, evolves⟩ := (step.le coherent).rows row rowIn
  exact ⟨evolved, evolvedIn, evolves.token _ hasToken,
    claimed.of_evolves evolves⟩

/-- Nobody but its owner touches a `received` row. -/
theorem WorldStep.untouched (step : WorldStep config owner op? before after)
    {request : Request} {data : ReceivedTransactionParams}
    (coherent : ∀ row ∈ before.table.rows, Coherent config before row)
    (foreign : ¬ owner data.agencyTrackingId)
    (untouched : Untouched before request data) :
    Untouched after request data := by
  obtain ⟨row, member, isId, received, sameObligation⟩ := untouched
  rcases step.kept_or_rewritten member with
    kept | ⟨statement, _, changed, _, rewrite⟩
  · exact ⟨row, kept, isId, received, sameObligation⟩
  exfalso
  cases rewrite with
  | activated same owned _ _ _ => exact foreign (isId ▸ same ▸ owned)
  | refreshed _ _ tracked _ =>
      have answered := (coherent row member).untracked (by simp [tracked])
      exact absurd answered (by simp [Answered, received])
  | stored _ _ processing _ =>
      exact absurd (received.symm.trans processing) (by simp)
  | claimed _ claimable _ =>
      rcases claimable.status with initiated | ⟨processing, _⟩
      · exact absurd (received.symm.trans initiated) (by simp)
      · exact absurd (received.symm.trans processing) (by simp)
  | failed same guarded => exact foreign (isId ▸ same ▸ guarded received)
  | swept initiated _ => exact absurd (received.symm.trans initiated) (by simp)
  | cancelled _ initiated _ =>
      exact absurd (received.symm.trans initiated) (by simp)

/-! ## Operations -/

section Passive

variable {fate : Fate}

/-- The clock tells the time. -/
theorem now_of_exec {now : Int}
    (executed : exec formats .now fate before = some (now, after)) :
    now = before.now ∧ after = before := by
  cases fate <;> simp only [exec, reduceCtorEq, Option.some.injEq,
    Prod.mk.injEq] at executed
  exact ⟨executed.1.symm, executed.2.symm⟩

/-- A passive operation leaves the world alone. -/
theorem same_of_passive {op : Op} {reply : Reply op} (passive : IsPassive op)
    (executed : exec formats op fate before = some (reply, after)) :
    after = before := by
  cases op with
  | now | pick | generateAgencyTrackingId =>
      cases fate <;> simp only [exec, reduceCtorEq, Option.some.injEq,
        Prod.mk.injEq] at executed
      exact executed.2.symm
  | db statement =>
      obtain ⟨now, payGov, table⟩ := tableStep_of_execStatement executed
      refine World.ext now (Table.ext ?_) payGov
      rcases table with ⟨data, rfl, _, _⟩ | ⟨change, rows_eq, changes⟩
      · exact absurd passive id
      · rw [rows_eq]
        refine (List.map_congr_left fun row member => ?_).trans (List.map_id _)
        rcases changes row member with same | changed
        · exact same
        · generalize change row = result at changed
          cases changed <;> exact absurd passive id
  | fetch soap => exact absurd passive id

end Passive

/-- What an HTTP attempt makes of the world. -/
inductive FetchStep (soap : SoapRequest) (fate : Fate) (before after : World) :
    Prop where
  | same (same : after = before)
  | issued (params : StartOnlineCollectionParams) (token : String)
      (payGov : PayGov) (is_start : soap = .startOnlineCollection params)
      (issues : before.payGov.issue? token params.agency_tracking_id =
        some payGov)
      (after_eq : after = { before with payGov := payGov })
  | completed (tcsAppId token : String)
      (response : CompletionAnswer) (delivery : Delivery) (payGov : PayGov)
      (is_completion :
        soap = .completeOnlineCollectionWithDetails tcsAppId token)
      (is_completed : fate = .completed response delivery)
      (completes : before.payGov.complete? ⟨token, response.paygov_tracking_id,
        response.transaction_status⟩ = some payGov)
      (after_eq : after = { before with payGov := payGov })

theorem fetchStep_of_execFetch {soap : SoapRequest} {fate : Fate}
    {reply : Except FetchError ResponseText}
    (executed : execFetch formats soap fate before = some (reply, after)) :
    FetchStep soap fate before after := by
  cases fate with
  | unreached error =>
      obtain ⟨_, rfl⟩ := Prod.mk.inj (Option.some.inj executed)
      exact .same rfl
  | refused text delivery =>
      simp only [execFetch] at executed
      split at executed
      · obtain ⟨_, rfl⟩ := Prod.mk.inj (Option.some.inj executed)
        exact .same rfl
      · exact absurd executed (by simp)
  | issued token delivery =>
      cases soap with
      | startOnlineCollection params =>
          obtain ⟨payGov, issues, same⟩ := Option.map_eq_some_iff.mp executed
          obtain ⟨_, rfl⟩ := Prod.mk.inj same
          exact .issued params token payGov rfl issues rfl
      | completeOnlineCollectionWithDetails _ _ | getDetails _ _ =>
          exact absurd executed (by simp [execFetch])
  | completed response delivery =>
      cases soap with
      | completeOnlineCollectionWithDetails tcsAppId token =>
          obtain ⟨payGov, completes, same⟩ := Option.map_eq_some_iff.mp executed
          obtain ⟨_, rfl⟩ := Prod.mk.inj same
          exact .completed tcsAppId token response delivery payGov rfl rfl
            completes rfl
      | startOnlineCollection _ | getDetails _ _ =>
          exact absurd executed (by simp [execFetch])
  | reported _ _ _ _ _ delivery =>
      cases soap with
      | getDetails tcsAppId trackingId =>
          obtain ⟨_, _, same⟩ := Option.map_eq_some_iff.mp executed
          obtain ⟨_, rfl⟩ := Prod.mk.inj same
          exact .same rfl
      | startOnlineCollection _ | completeOnlineCollectionWithDetails _ _ =>
          exact absurd executed (by simp [execFetch])
  | read | chosen _ | generated _ | executed _ | failed _ | replyLost _ =>
      exact absurd executed (by simp [execFetch])

variable {request : Request} {stage next : Stage}

/-- The token of a completion belongs to the row the request has claimed. -/
theorem holding_of_completion {tcsAppId token : String}
    {reply : Reply (.fetch
      (.completeOnlineCollectionWithDetails tcsAppId token))}
    (knows : Knows before request stage)
    (permitted : Permitted config request stage
      (.fetch (.completeOnlineCollectionWithDetails tcsAppId token)) reply
      next) :
    ∃ row, stage = .completing row ∧ Holding before request row ∧
      row.paygovToken = some token := by
  cases permitted with
  | passive _ passive => exact absurd passive id
  | complete => exact ⟨_, rfl, knows, knows.token⟩
  | completeUnanswered missed => exact ⟨_, rfl, knows, knows.token⟩

/-- An operation of a request is a step of the world. -/
theorem worldStep_of_exec {op : Op} {fate : Fate} {reply : Reply op}
    (coherent : ∀ row ∈ before.table.rows, Coherent config before row)
    (knows : Knows before request stage)
    (permitted : Permitted config request stage op reply next)
    (executed : exec formats op fate before = some (reply, after)) :
    WorldStep config (Owns stage) (some op) before after := by
  cases op with
  | now | pick | generateAgencyTrackingId =>
      obtain rfl := same_of_passive (by trivial) executed
      exact .refl _
  | db statement =>
      obtain ⟨now, payGov, table⟩ := tableStep_of_execStatement executed
      refine {
        now := now.ge
        payGov := payGov ▸ .refl _
        completions := fun completion member =>
          .inl ⟨completion, payGov ▸ member, rfl⟩
        rows := ?_ }
      rcases table with
        ⟨data, rfl, fresh, rows_eq⟩ | ⟨change, rows_eq, changes⟩
      · exact .inserted data rfl fresh rows_eq
      · refine .mapped change rows_eq fun row member => ?_
        rcases changes row member with same | changed
        · exact .inl same
        · exact .inr ⟨statement, rfl,
            rewrites_of_changes coherent member knows permitted changed⟩
  | fetch soap =>
      rcases fetchStep_of_execFetch executed with
        rfl | ⟨params, token, payGov, rfl, issues, rfl⟩ |
          ⟨tcsAppId, token, response, delivery, payGov, rfl, rfl, completes,
            rfl⟩
      · exact .refl _
      · obtain ⟨_, completions, _⟩ := PayGov.issued_of_issue? issues
        exact {
          now := le_rfl
          payGov := PayGov.extends_of_issue? issues
          completions := fun completion member =>
            .inl ⟨completion, completions ▸ member, rfl⟩
          rows := .same rfl }
      · obtain ⟨_, completions, _⟩ := PayGov.completions_of_complete? completes
        refine {
          now := le_rfl
          payGov := PayGov.extends_of_complete? completes
          completions := ?_
          rows := .same rfl }
        intro other member
        rcases List.mem_cons.mp (completions ▸ member) with rfl | old
        · obtain ⟨row, _, holding, hasToken⟩ :=
            holding_of_completion knows permitted
          obtain ⟨current, currentIn, evolves⟩ := holding.seen
          exact .inr ⟨current, currentIn, evolves.token _ hasToken,
            (Transaction.claimed_of_processing holding.processing).of_evolves
              evolves⟩
        · exact .inl ⟨other, old, rfl⟩

/-- A drift is a step of the world. -/
theorem worldStep_of_drift {change : Drift}
    (drifted : drift change before = some after) :
    WorldStep config owner none before after := by
  cases change with
  | tick ms =>
      obtain rfl := Option.some.inj drifted
      exact {
        now := by
          change before.now ≤ before.now + (ms : Int)
          omega
        payGov := .refl _
        completions := fun completion member => .inl ⟨completion, member, rfl⟩
        rows := .same rfl }
  | settle trackingId status =>
      obtain rfl := Option.some.inj drifted
      refine {
        now := le_rfl
        payGov := PayGov.extends_settle _ _ _
        completions := ?_
        rows := .same rfl }
      intro completion member
      obtain ⟨old, oldIn, rfl⟩ := List.mem_map.mp member
      exact .inl ⟨old, oldIn, (PayGov.settleOne_token _ _ _).symm⟩

end PaymentPortal.Protocol
