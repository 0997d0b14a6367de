import PaymentPortal.Guarantees.LogPages
import PaymentPortal.Guarantees.Recovery
import PaymentPortal.Protocol.UseCases.InitIsolated

/-!
# Clients under one reference id

Reference ids are chosen by the clients, so that two of them may use the same
one.  In two worlds with the same rows of a client, whatever rows the other
clients have, the client's `initPayment` and the claims of its tokens end in the
same way, change the client's rows alike and leave all other rows as they were.
-/

namespace PaymentPortal.Guarantees

open PaymentPortal.Interaction
open PaymentPortal.Model
open PaymentPortal.Protocol
open PaymentPortal.Protocol.InitIsolated

/-- No two rows have the same token. -/
def DistinctTokens (table : Table) : Prop :=
  ∀ row ∈ table.rows, ∀ rival ∈ table.rows, ∀ token ∈ row.paygovToken,
    rival.paygovToken = some token → rival = row

instance (table : Table) : Decidable (DistinctTokens table) :=
  inferInstanceAs (Decidable (∀ _ ∈ _, ∀ _ ∈ _, ∀ _ ∈ _, _ → _))

/-- Pay.gov issues a token for one attempt only. -/
theorem distinctTokens_of_reachable {config : Config} {now : Int}
    {state : PortalState}
    (reaches : Reachable config Machine.Unrestricted now state) :
    DistinctTokens state.world.table := by
  obtain ⟨annotated, rfl, sound⟩ := exists_sound reaches
  intro row member rival rivalIn token isToken rivalToken
  have issued := (sound.rows row member).issued token isToken
  have rivalIssued := (sound.rows rival rivalIn).issued token rivalToken
  exact Table.eq_of_id_eq _ rivalIn member (rivalIssued.unique issued)

/-- The token is that of a row of the client. -/
def HoldsToken (clientName token : String) (table : Table) : Prop :=
  ∃ row ∈ table.rows, row.clientName = clientName ∧
    row.paygovToken = some token

instance (clientName token : String) (table : Table) :
    Decidable (HoldsToken clientName token table) :=
  inferInstanceAs (Decidable (∃ _ ∈ _, _))

/-- The ids and tokens that a task is given when it runs alone are new. -/
def RunsFreshly (config : Config) {α : Type} (task : Async α)
    (choices : Machine.Choices Fate Drift) (world : World) : Prop :=
  (portal config).Meets FreshNames task.run choices world

instance (config : Config) {α : Type} (task : Async α)
    (choices : Machine.Choices Fate Drift) (world : World) :
    Decidable (RunsFreshly config task choices world) :=
  inferInstanceAs (Decidable (Machine.Meets _ _ _ _ _))

/--
Both runs end with the same result or error, with the same rows of the client
and with the rows of all other clients as they were; or the choices of the
environment fit neither of them.
-/
inductive EndAlike (clientName : String) (start : World × World)
    {Result : Type} :
    Option (Result × World) → Option (Result × World) → Prop where
  | ended {result : Result} {first second : World}
      (isolated : Isolated clientName start (first, second)) :
      EndAlike clientName start (some (result, first)) (some (result, second))
  | unfit : EndAlike clientName start none none

/-- The task does the same in both worlds. -/
def SameInBoth (config : Config) (clientName : String) {α : Type}
    (task : Async α) (choices : Machine.Choices Fate Drift)
    (first second : World) : Prop :=
  EndAlike clientName (first, second)
    ((portal config).runAlone task.run choices first)
    ((portal config).runAlone task.run choices second)

variable {config : Config} {clientName token : String} {first second : World}
variable {choices : Machine.Choices Fate Drift}

/-! ## Runs -/

section Runs

variable {α : Type} {task : Async α}

/-- A task leaves both worlds as an isolated one does. -/
abbrev StaysIsolated (config : Config) (clientName : String) (task : Async α)
    (start : World × World) : Prop :=
  AttainsBoth config (fun after _ => Isolated clientName start after)
    (fun after _ => Isolated clientName start after) task start

theorem exists_counterpart {result : Except PortalError α} {after : World}
    (stays : StaysIsolated config clientName task (first, second))
    (fresh : RunsFreshly config task choices first)
    (freshOther : RunsFreshly config task choices second)
    (ran : (portal config).runAlone task.run choices first =
      some (result, after)) :
    ∃ afterOther, (portal config).runAlone task.run choices second =
        some (result, afterOther) ∧
      Isolated clientName (first, second) (after, afterOther) := by
  obtain ⟨afterOther, ranOther, ended⟩ :=
    Machine.Achieves.runAlone_paired stays ran fresh freshOther
  refine ⟨afterOther, ranOther, ?_⟩
  cases result with
  | ok value => exact ended
  | error error => exact ended

theorem sameInBoth_of_staysIsolated
    (stays : StaysIsolated config clientName task (first, second))
    (staysOther : StaysIsolated config clientName task (second, first))
    (fresh : RunsFreshly config task choices first)
    (freshOther : RunsFreshly config task choices second) :
    SameInBoth config clientName task choices first second := by
  unfold SameInBoth
  cases ran : (portal config).runAlone task.run choices first with
  | some ending =>
      obtain ⟨result, after⟩ := ending
      obtain ⟨afterOther, ranOther, isolated⟩ :=
        exists_counterpart stays fresh freshOther ran
      rw [ranOther]
      exact .ended isolated
  | none =>
      cases ranOther :
          (portal config).runAlone task.run choices second with
      | none => exact .unfit
      | some ending =>
          -- The counterpart of the second run would be a first one.
          obtain ⟨result, afterOther⟩ := ending
          obtain ⟨after, again, -⟩ :=
            exists_counterpart staysOther freshOther fresh ranOther
          cases ran.symm.trans again

end Runs

/-! ## Claims -/

theorem ownsToken_of_holdsToken {table : Table}
    (distinct : DistinctTokens table)
    (holds : HoldsToken clientName token table) :
    OwnsToken clientName token table := by
  obtain ⟨row, member, isClient, isToken⟩ := holds
  have is_row : ∀ rival ∈ table.rows, hasToken token rival = true →
      rival = row := fun rival rivalIn selected =>
    distinct row member rival rivalIn token isToken (beq_iff_eq.mp selected)
  constructor
  · intro rival rivalIn selected
    rw [is_row rival rivalIn selected, isClient]
  · intro rival rivalIn selected another anotherIn anotherSelected
    rw [is_row rival rivalIn selected,
      is_row another anotherIn anotherSelected]

theorem HoldsToken.transfer {one other : Table}
    (holds : HoldsToken clientName token one)
    (same : SameRowsOf clientName one other) :
    HoldsToken clientName token other := by
  obtain ⟨row, member, isClient, isToken⟩ := holds
  exact ⟨row, (same row isClient).mp member, isClient, isToken⟩

theorem staysIsolated_claimForProcessing
    (alike : Alike clientName first second)
    (owns : OwnsToken clientName token first.table)
    (ownsOther : OwnsToken clientName token second.table) :
    StaysIsolated config clientName
      (TransactionModel.claimForProcessing token) (first, second) := by
  apply Machine.Attains.bind
    (fun after _ => Isolated clientName (first, second) after ∧ True)
  · exact attainsBoth_query (.refl alike) (.claimForProcessing owns ownsOther)
      fun _ _ _ _ _ => trivial
  rintro after claimed ⟨isolated, -⟩
  apply Machine.Attains.computed
  cases claimed with
  | ok claimed => exact isolated
  | error error => exact isolated

theorem exists_driftAll (config : Config) (changes : List Drift)
    (world : World) :
    ∃ here, (portal config).driftAll changes world = some here := by
  induction changes generalizing world with
  | nil => exact ⟨world, rfl⟩
  | cons change rest ih => cases change <;> exact ih _

/-- A claim is given neither an id nor a token. -/
theorem runsFreshly_claimForProcessing (world : World) :
    RunsFreshly config (TransactionModel.claimForProcessing token) choices
      world := by
  obtain ⟨here, drifted⟩ := exists_driftAll config (choices 0).1 world
  refine ⟨here, drifted, rfl, ?_⟩
  rintro ⟨_ | _, after⟩ _ <;> trivial

/-! ## Attempts -/

theorem staysIsolated_initPayment {client : ClientPermission}
    (alike : Alike client.clientName first second)
    (request : InitPaymentRequest) :
    StaysIsolated config client.clientName (initPayment config client request)
      (first, second) :=
  (isolates_initPayment request _ (.refl alike)).mono
    (fun _ _ ended => ended.1) fun _ _ isolated => isolated

/-! ## Both tasks -/

/--
In two worlds at the same instant, with the same rows of the client and without
two rows that have the same token, an `initPayment` of the client and the claim
of any of its tokens do the same, and they change no row of another client.
-/
theorem clients_do_not_interfere {client : ClientPermission}
    (alike : Alike client.clientName first second)
    (distinct : DistinctTokens first.table)
    (distinctOther : DistinctTokens second.table) :
    (∀ request choices,
      RunsFreshly config (initPayment config client request) choices first →
      RunsFreshly config (initPayment config client request) choices second →
        SameInBoth config client.clientName
          (initPayment config client request) choices first second) ∧
    ∀ token choices, HoldsToken client.clientName token first.table →
      SameInBoth config client.clientName
        (TransactionModel.claimForProcessing token) choices first second := by
  constructor
  · intro request choices fresh freshOther
    exact sameInBoth_of_staysIsolated
      (staysIsolated_initPayment alike request)
      (staysIsolated_initPayment alike.symm request) fresh freshOther
  · intro token choices holds
    have owns := ownsToken_of_holdsToken distinct holds
    have ownsOther :=
      ownsToken_of_holdsToken distinctOther (holds.transfer alike.own)
    exact sameInBoth_of_staysIsolated
      (staysIsolated_claimForProcessing alike owns ownsOther)
      (staysIsolated_claimForProcessing alike.symm ownsOther owns)
      (runsFreshly_claimForProcessing first)
      (runsFreshly_claimForProcessing second)

/-- An attempt of the sample client with a token. -/
def sampleInitiated : Transaction :=
  initiatedPatch firstToken (sampleReceived "A1")

/-- A paid attempt of another client under the same reference id. -/
def foreignProcessed : Transaction :=
  { sampleReceived "B1" with
    clientName := "tax"
    paymentStatus := .success
    transactionStatus := some .processed
    paygovToken := some secondToken }

/-- A day after the attempt, while nobody else uses the portal. -/
def quietWorld : World where
  now := sampleNow + 86400000
  table := ⟨[sampleInitiated], by decide, by decide⟩
  payGov := .empty

/-- The same instant, where another client has paid under the reference id. -/
def busyWorld : World where
  now := sampleNow + 86400000
  table := ⟨[foreignProcessed, sampleInitiated], by decide, by decide⟩
  payGov := .empty

/-- The expired attempt is retired, and a new attempt is started. -/
def replacesExpired : Machine.Choices Fate Drift :=
  offers [.read, .executed [], .read, .read, .executed [], .generated "A2",
    .executed [], .executed [],
    .issued thirdToken .delivered, .executed []]

theorem alike_quietWorld_busyWorld :
    Alike sampleClient.clientName quietWorld busyWorld where
  now := rfl
  own := by
    intro row own
    have foreign : row ≠ foreignProcessed := by
      rintro rfl
      exact absurd own (by decide)
    simp [quietWorld, busyWorld, foreign]

/-- The other client's payment does not keep the client from paying. -/
theorem clients_do_not_interfere_sample :
    (((portal sampleConfig).runAlone
      (initPayment sampleConfig sampleClient sampleOrder).run replacesExpired
      busyWorld).map fun ending => ending.1.isOk) = some true ∧
    SameInBoth sampleConfig sampleClient.clientName
      (initPayment sampleConfig sampleClient sampleOrder) replacesExpired
      quietWorld busyWorld ∧
    SameInBoth sampleConfig sampleClient.clientName
      (TransactionModel.claimForProcessing firstToken) (offers [.executed []])
      quietWorld busyWorld := by
  refine ⟨by decide, ?_, ?_⟩
  · exact (clients_do_not_interfere alike_quietWorld_busyWorld
      (by decide +kernel) (by decide +kernel)).1 sampleOrder replacesExpired
      (by decide +kernel) (by decide +kernel)
  · exact (clients_do_not_interfere alike_quietWorld_busyWorld
      (by decide +kernel) (by decide +kernel)).2 firstToken _
      (by decide +kernel)

end PaymentPortal.Guarantees
