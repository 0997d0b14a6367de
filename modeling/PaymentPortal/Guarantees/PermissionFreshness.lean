import Mathlib.Data.Int.Order.Basic
import PaymentPortal.Interaction.Events
import PaymentPortal.Model.PermissionsClient

/-!
# Freshness of the cached permissions

A list that is returned was read at Secrets Manager at most the time to live
and one fetch earlier.  Later calls may still return what was read earlier: two
calls that fetch at the same time may store their lists in another order than
they have read them.  There is no other way to go backwards.
-/

namespace PaymentPortal.Guarantees

open PaymentPortal.Interaction
open PaymentPortal.Model

abbrev PermissionsEntry :=
  Entry PermissionsOp PermissionsReply PermissionsWorld

abbrev PermissionsState :=
  State PermissionsOp PermissionsReply PermissionsWorld Unit
    (Except PortalError Permissions)

/-! ## What the entries do -/

/-- The list that the entry puts into the cache. -/
def stored? : PermissionsEntry → Option Permissions
  | ⟨_, .settle _ _, .ok permissions, _, _⟩ => some permissions
  | _ => none

/-- The list that the call of the entry returns with it. -/
def returned? : PermissionsEntry → Option Permissions
  | ⟨_, .lookUp, .settled (.ok permissions), _, _⟩ => some permissions
  | entry => stored? entry

/-- The entry begins a call. -/
def Begins (entry : PermissionsEntry) : Prop :=
  entry.op = .lookUp

instance (entry : PermissionsEntry) : Decidable (Begins entry) :=
  inferInstanceAs (Decidable (_ = _))

/-- The entry reads a secret that holds the permissions. -/
def Reads (config : PermissionsConfig) (entry : PermissionsEntry)
    (permissions : Permissions) : Prop :=
  ∃ secretId, entry.op = .getSecretValue secretId ∧
    parsePermissions config secretId entry.before.secret = .ok permissions

/--
The event `returning` returns the permissions, which the event `read` has read
and the event `stored` of the same call has stored, the last one to store.
-/
structure Supplied (config : PermissionsConfig) (log : List PermissionsEntry)
    (permissions : Permissions) (returning read stored : Nat) : Prop where
  returns : ∃ entry, eventAt log returning = some entry ∧
    returned? entry = some permissions
  fetched : ∃ fetch storing, eventAt log read = some fetch ∧
    eventAt log stored = some storing ∧ fetch.caller = storing.caller ∧
      Reads config fetch permissions ∧ stored? storing = some permissions
  ordered : read < stored ∧ stored ≤ returning
  newest : ∀ number entry, stored < number → number ≤ returning →
    eventAt log number = some entry → stored? entry = none

/-- The call that returns with the event `returning` begins with `start`. -/
def StartsAt (log : List PermissionsEntry) (returning start : Nat) : Prop :=
  ∃ entry first, eventAt log returning = some entry ∧
    eventAt log start = some first ∧ first.caller = entry.caller ∧ Begins first

/-- A call that starts after a list was returned returns none read earlier. -/
def NeverBackwards (config : PermissionsConfig)
    (log : List PermissionsEntry) : Prop :=
  ∀ older laterReturn olderRead olderStored,
    Supplied config log older laterReturn olderRead olderStored →
      ∀ newer earlierReturn newerRead newerStored,
        Supplied config log newer earlierReturn newerRead newerStored →
          ∀ start, StartsAt log laterReturn start → earlierReturn < start →
            newerRead ≤ olderRead

/--
A call that starts after a list was returned returns one read earlier only if
the older list was stored later: its fetch lasted from before the newer one was
read until after the newer one was stored.
-/
def BackwardsByOverlap (config : PermissionsConfig)
    (log : List PermissionsEntry) : Prop :=
  ∀ older laterReturn olderRead olderStored,
    Supplied config log older laterReturn olderRead olderStored →
      ∀ newer earlierReturn newerRead newerStored,
        Supplied config log newer earlierReturn newerRead newerStored →
          ∀ start, StartsAt log laterReturn start → earlierReturn < start →
            newerRead ≤ olderRead ∨
              olderRead < newerRead ∧ newerStored < olderStored

/-- The fetch of a call takes at most `limit` milliseconds. -/
def Timely (limit : Int) (state : PermissionsState) (caller : Nat) :
    PermissionsOp → SecretFate → Prop
  | .settle _ _, _ => ∀ entry ∈ state.log, entry.caller = caller →
      Begins entry → state.world.now ≤ entry.before.now + limit
  | _, _ => True

instance (limit : Int) (state : PermissionsState) (caller : Nat)
    (op : PermissionsOp) (fate : SecretFate) :
    Decidable (Timely limit state caller op fate) :=
  match op with
  | .settle _ _ => inferInstanceAs (Decidable (∀ entry ∈ state.log, _ → _ → _))
  | .lookUp => inferInstanceAs (Decidable True)
  | .getSecretValue _ => inferInstanceAs (Decidable True)

/-- Every list was the content of the secret not too long ago. -/
def Fresh (config : PermissionsConfig) (limit : Int)
    (log : List PermissionsEntry) : Prop :=
  ∀ returning entry permissions, eventAt log returning = some entry →
    returned? entry = some permissions →
      ∃ read stored fetch,
        Supplied config log permissions returning read stored ∧
          eventAt log read = some fetch ∧
          fetch.before.now ≤ entry.before.now ∧
          entry.before.now ≤
            fetch.before.now + (max (CACHE_TTL_MS config) 0 + limit)

/-! ## Phases of a call -/

/-- How far a call has come. -/
inductive CallPhase where
  | idle
  | fetching (secretId : String)
  | fetched (secretId : String) (response : Except String SecretValue)
  | finished

/-- The operations of a call, with the phases they lead through. -/
inductive CallStep : CallPhase → (op : PermissionsOp) → PermissionsReply op →
    CallPhase → Prop where
  | settled {result : Except PortalError Permissions} :
      CallStep .idle .lookUp (.settled result) .finished
  | sent {secretId : String} :
      CallStep .idle .lookUp (.fetching secretId) (.fetching secretId)
  | answered {secretId : String} {response : Except String SecretValue} :
      CallStep (.fetching secretId) (.getSecretValue secretId) response
        (.fetched secretId response)
  | stored {secretId : String} {response : Except String SecretValue}
      {result : Except PortalError Permissions} :
      CallStep (.fetched secretId response) (.settle secretId response) result
        .finished

def callDiscipline : Discipline PermissionsOp PermissionsReply CallPhase where
  step := CallStep
  grows := Eq
  grows_refl := Eq.refl
  grows_trans := Eq.trans

/-- A call performs its operations in this order. -/
theorem conforms_getClientPermissions :
    getClientPermissions.Conforms callDiscipline (fun _ _ => True) .idle := by
  rintro _ rfl (result | secretId)
  · exact ⟨.finished, .settled, fun _ _ => trivial⟩
  · refine ⟨.fetching secretId, .sent, ?_⟩
    rintro _ rfl response
    refine ⟨.fetched secretId response, .answered, ?_⟩
    rintro _ rfl result
    exact ⟨.finished, .stored, fun _ _ => trivial⟩

/-- The place of an operation in a call. -/
def rankOf : PermissionsOp → Nat
  | .lookUp => 0
  | .getSecretValue _ => 1
  | .settle _ _ => 2

/-- How many operations a call may have performed. -/
def CallPhase.rank : CallPhase → Nat
  | .idle => 0
  | .fetching _ => 1
  | .fetched _ _ => 2
  | .finished => 3

/-- A step performs the next operation of the call. -/
theorem rank_of_callStep {phase after : CallPhase} {op : PermissionsOp}
    {reply : PermissionsReply op} (step : CallStep phase op reply after) :
    rankOf op = phase.rank ∧ rankOf op < after.rank := by
  cases step <;> exact ⟨rfl, by simp [rankOf, CallPhase.rank]⟩

/-- A state of the process with the phases of its calls. -/
abbrev AnnotatedCalls :=
  Phased (fun _ : Unit => callDiscipline)
    (fun _ _ (_ : Except PortalError Permissions) => True) PermissionsWorld

/-! ## The order of the events of a call -/

/-- Every call performs its operations once and in order. -/
structure InOrder (annotated : AnnotatedCalls) : Prop where
  ordered : annotated.state.log.Pairwise fun newer older =>
    newer.caller = older.caller → rankOf older.op < rankOf newer.op
  reached : ∀ entry ∈ annotated.state.log, ∃ phase,
    annotated.phases[entry.caller]? = some phase ∧
      rankOf entry.op < phase.rank

theorem inOrder_initial (world : PermissionsWorld) :
    InOrder (.initial world) where
  ordered := List.Pairwise.nil
  reached := fun entry member =>
    absurd member (by simp [Phased.initial, State.initial])

variable {config : PermissionsConfig}
variable {allowed : PermissionsState →
  Move SecretFate Unit SecretDrift → Prop}
variable {source target : AnnotatedCalls}

/-- One move of the process. -/
abbrev CallsStep (config : PermissionsConfig)
    (allowed : PermissionsState → Move SecretFate Unit SecretDrift → Prop) :
    AnnotatedCalls → AnnotatedCalls → Prop :=
  PhasedStep (permissionsClient config) .idle .finished allowed

/-- The operations of a call are the ones its phase has behind it. -/
theorem InOrder.rank_lt (inOrder : InOrder source) {entry : PermissionsEntry}
    (member : entry ∈ source.state.log) {phase : CallPhase}
    (holds : source.phases[entry.caller]? = some phase) :
    rankOf entry.op < phase.rank := by
  obtain ⟨_, alsoHolds, reached⟩ := inOrder.reached entry member
  obtain rfl := Option.some.inj (alsoHolds.symm.trans holds)
  exact reached

/-- A call that moves on still has its operations behind it. -/
theorem InOrder.reached_set (inOrder : InOrder source) {caller : Nat}
    {phase after : CallPhase} (holds : source.phases[caller]? = some phase)
    (grows : phase.rank ≤ after.rank) :
    ∀ entry ∈ source.state.log, ∃ later,
      (source.phases.set caller after)[entry.caller]? = some later ∧
        rankOf entry.op < later.rank := by
  intro entry member
  obtain ⟨own, ownHolds, reached⟩ := inOrder.reached entry member
  by_cases same : caller = entry.caller
  · subst same
    obtain rfl := Option.some.inj (ownHolds.symm.trans holds)
    obtain ⟨inPhases, _⟩ := List.getElem?_eq_some_iff.mp holds
    exact ⟨after, List.getElem?_set_self inPhases, reached.trans_le grows⟩
  · exact ⟨own, (List.getElem?_set_ne same).trans ownHolds, reached⟩

theorem InOrder.step (inOrder : InOrder source)
    (step : CallsStep config allowed source target) : InOrder target := by
  cases step with
  | arrive request permitted state_eq phases_eq =>
      constructor <;> rw [state_eq]
      · exact inOrder.ordered
      · intro entry member
        obtain ⟨phase, holds, reached⟩ := inOrder.reached entry member
        obtain ⟨inPhases, _⟩ := List.getElem?_eq_some_iff.mp holds
        refine ⟨phase, ?_, reached⟩
        rw [phases_eq, List.getElem?_append_left inPhases]
        exact holds
  | perform caller fate request op next reply world phase after permitted
      running holds executed moved state_eq phases_eq =>
      obtain ⟨isNext, grows⟩ := rank_of_callStep moved
      constructor <;> rw [state_eq]
      · refine List.Pairwise.cons ?_ inOrder.ordered
        intro older member sameCaller
        rw [isNext]
        exact inOrder.rank_lt member (sameCaller ▸ holds)
      · intro entry member
        rw [phases_eq]
        rcases List.mem_cons.mp member with rfl | old
        · obtain ⟨inPhases, _⟩ := List.getElem?_eq_some_iff.mp holds
          exact ⟨after, List.getElem?_set_self inPhases, grows⟩
        · exact inOrder.reached_set holds (isNext ▸ grows).le entry old
  | crash caller request op next permitted running state_eq phases_eq =>
      constructor <;> rw [state_eq]
      · exact inOrder.ordered
      · rw [phases_eq]
        obtain ⟨phase, holds⟩ := source.exists_phase running
        refine inOrder.reached_set holds ?_
        cases phase <;> simp [CallPhase.rank]
  | drift change world permitted drifted state_eq phases_eq =>
      constructor <;> rw [state_eq]
      · exact inOrder.ordered
      · rw [phases_eq]
        exact inOrder.reached

/-! ## What the cache and the log hold -/

/-- The events behind a cache entry, and how long it may be used. -/
structure Backed (config : PermissionsConfig) (limit : Int)
    (log : List PermissionsEntry) (cache : PermissionsCache)
    (read stored : Nat) (fetch storing : PermissionsEntry) : Prop where
  fetched : eventAt log read = some fetch
  storedAt : eventAt log stored = some storing
  sameCall : fetch.caller = storing.caller
  reads : Reads config fetch cache.permissions
  stores : stored? storing = some cache.permissions
  ordered : read < stored
  newest : ∀ number entry, stored < number →
    eventAt log number = some entry → stored? entry = none
  expires : cache.expiresAt ≤
    fetch.before.now + limit + CACHE_TTL_MS config

section Log

variable {limit : Int} {log : List PermissionsEntry} {new : PermissionsEntry}
variable {cache : PermissionsCache} {read stored : Nat}
variable {fetch storing : PermissionsEntry}

/-- An entry that stores nothing leaves the cache backed. -/
theorem Backed.cons
    (backed : Backed config limit log cache read stored fetch storing)
    (storesNothing : stored? new = none) :
    Backed config limit (new :: log) cache read stored fetch storing where
  fetched := eventAt_cons backed.fetched
  storedAt := eventAt_cons backed.storedAt
  sameCall := backed.sameCall
  reads := backed.reads
  stores := backed.stores
  ordered := backed.ordered
  newest := by
    intro number entry later here
    rcases eventAt_cons_iff.mp here with older | ⟨rfl, rfl⟩
    · exact backed.newest number entry later older
    · exact storesNothing
  expires := backed.expires

/-- What a cache entry is backed by supplies a call that finds it. -/
theorem Backed.supplied
    (backed : Backed config limit log cache read stored fetch storing)
    {returning : Nat} {entry : PermissionsEntry}
    (here : eventAt log returning = some entry)
    (returns : returned? entry = some cache.permissions)
    (later : stored ≤ returning) :
    Supplied config log cache.permissions returning read stored where
  returns := ⟨entry, here, returns⟩
  fetched := ⟨fetch, storing, backed.fetched, backed.storedAt,
    backed.sameCall, backed.reads, backed.stores⟩
  ordered := ⟨backed.ordered, later⟩
  newest := fun number other after _ => backed.newest number other after

/-- What has been returned was supplied by events that are final. -/
theorem Supplied.cons {permissions : Permissions} {returning : Nat}
    (supplied : Supplied config log permissions returning read stored) :
    Supplied config (new :: log) permissions returning read stored := by
  obtain ⟨entry, here, returns⟩ := supplied.returns
  obtain ⟨fetch, storing, fetched, storedAt, rest⟩ := supplied.fetched
  constructor
  · exact ⟨entry, eventAt_cons here, returns⟩
  · exact ⟨fetch, storing, eventAt_cons fetched, eventAt_cons storedAt, rest⟩
  · exact supplied.ordered
  · intro number other after upTo otherHere
    rcases eventAt_cons_iff.mp otherHere with older | ⟨rfl, rfl⟩
    · exact supplied.newest number other after upTo older
    · exact absurd (lt_length_of_eventAt here) (Nat.not_lt.mpr upTo)

/-- The lists stay fresh if the list that the new entry returns is. -/
theorem Fresh.cons (fresh : Fresh config limit log)
    (supplies : ∀ permissions, returned? new = some permissions →
      ∃ cache read stored fetch storing, cache.permissions = permissions ∧
        Backed config limit (new :: log) cache read stored fetch storing ∧
          stored ≤ log.length ∧ fetch.before.now ≤ new.before.now ∧
          new.before.now ≤
            fetch.before.now + (max (CACHE_TTL_MS config) 0 + limit)) :
    Fresh config limit (new :: log) := by
  intro returning entry permissions here returns
  rcases eventAt_cons_iff.mp here with older | ⟨rfl, rfl⟩
  · obtain ⟨read, stored, fetch, supplied, fetched, within⟩ :=
      fresh returning entry permissions older returns
    exact ⟨read, stored, fetch, supplied.cons, eventAt_cons fetched, within⟩
  · obtain ⟨cache, read, stored, fetch, storing, rfl, backed, later, within⟩ :=
      supplies permissions returns
    exact ⟨read, stored, fetch, backed.supplied here returns later,
      backed.fetched, within⟩

end Log

/-! ## Runs -/

/-- A call has begun no later than `instant`. -/
def BegunBy (log : List PermissionsEntry) (caller : Nat) (instant : Int) :
    Prop :=
  ∃ first ∈ log, first.caller = caller ∧ Begins first ∧
    first.before.now ≤ instant

/-- What the phase of a call says about its past. -/
def Remembers (state : PermissionsState) (caller : Nat) : CallPhase → Prop
  | .fetching _ => BegunBy state.log caller state.world.now
  | .fetched secretId response => ∃ fetch ∈ state.log,
      fetch.caller = caller ∧ fetch.op = .getSecretValue secretId ∧
        (∀ value, response = .ok value → value = fetch.before.secret) ∧
        BegunBy state.log caller fetch.before.now
  | _ => True

/-- What holds of every run of a process that has been started cold. -/
structure Accounted (config : PermissionsConfig) (limit : Int)
    (state : PermissionsState) (phases : List CallPhase) : Prop where
  clock : ∀ entry ∈ state.log, entry.before.now ≤ state.world.now
  remembers : ∀ caller phase, phases[caller]? = some phase →
    Remembers state caller phase
  cached : ∀ cache, state.world.cache = some cache →
    ∃ read stored fetch storing,
      Backed config limit state.log cache read stored fetch storing
  fresh : Fresh config limit state.log

theorem accounted_initial (limit now : Int) (secret : SecretValue) :
    Accounted config limit (.initial (PermissionsWorld.cold now secret)) []
    where
  clock := fun entry member => absurd member (by simp [State.initial])
  remembers := fun caller phase holds => absurd holds (by simp)
  cached := fun cache isCache =>
    absurd isCache (by simp [State.initial, PermissionsWorld.cold])
  fresh := fun returning entry permissions here => by
    simp [eventAt, State.initial] at here

theorem BegunBy.mono {log longer : List PermissionsEntry} {caller : Nat}
    {instant later : Int} (begun : BegunBy log caller instant)
    (kept : log ⊆ longer) (ordered : instant ≤ later) :
    BegunBy longer caller later := by
  obtain ⟨first, member, isCaller, begins, before⟩ := begun
  exact ⟨first, kept member, isCaller, begins, before.trans ordered⟩

/-- What is remembered stays true while the log grows and time passes. -/
theorem Remembers.mono {before after : PermissionsState} {caller : Nat}
    {phase : CallPhase} (remembers : Remembers before caller phase)
    (kept : before.log ⊆ after.log)
    (later : before.world.now ≤ after.world.now) :
    Remembers after caller phase := by
  cases phase with
  | idle => trivial
  | fetching secretId => exact BegunBy.mono remembers kept later
  | fetched secretId response =>
      obtain ⟨fetch, member, isCaller, isOp, value, begun⟩ := remembers
      exact ⟨fetch, kept member, isCaller, isOp, value,
        begun.mono kept le_rfl⟩
  | finished => trivial

/-- A cache entry that has not expired is what a call finds. -/
theorem cached_of_lookUp {now : Int} {cache : Option PermissionsCache}
    {permissions : Permissions} (deployed : config.LOCAL_DEV ≠ some "true")
    (found : lookUp config now cache = .settled (.ok permissions)) :
    ∃ entry, cache = some entry ∧ now < entry.expiresAt ∧
      entry.permissions = permissions := by
  rw [lookUp, if_neg deployed] at found
  split at found
  · rename_i entry unexpired
    obtain ⟨isCache, notExpired⟩ := Option.filter_eq_some_iff.mp unexpired
    refine ⟨entry, isCache, by simpa using notExpired, ?_⟩
    simpa using found
  · split at found
    · exact absurd found (by simp)
    · exact absurd found (by simp)

/-- A list that a call settles was read, and is cached from now on. -/
theorem settle_cases {secretId : String} {response : Except String SecretValue}
    {fate : SecretFate} {before after : PermissionsWorld}
    {result : Except PortalError Permissions}
    (executed : execPermissions config (.settle secretId response) fate before =
      some (result, after)) :
    (∃ value permissions, response = .ok value ∧
      parsePermissions config secretId value = .ok permissions ∧
      result = .ok permissions ∧ after = { before with
        cache := some ⟨permissions, before.now + CACHE_TTL_MS config⟩ }) ∨
    ∃ error, result = .error error ∧ after = before := by
  cases fate with
  | failed message => exact absurd executed (by simp [execPermissions])
  | executed =>
      obtain ⟨rfl, rfl⟩ := Prod.mk.inj (Option.some.inj executed)
      unfold settle
      split
      · rename_i permissions parsed
        cases response with
        | error message => exact absurd parsed (by simp [bind, Except.bind])
        | ok value => exact .inl ⟨value, permissions, rfl, parsed, rfl, rfl⟩
      · exact .inr ⟨_, rfl, rfl⟩

section Steps

variable {limit : Int} {caller : Nat} {before world : PermissionsWorld}
variable {fate : SecretFate} {state : PermissionsState}

/-- A look-up reads the clock and the cache. -/
theorem lookUp_of_exec {lookup : Lookup}
    (executed : execPermissions config .lookUp fate before =
      some (lookup, world)) :
    lookUp config before.now before.cache = lookup ∧ world = before := by
  cases fate with
  | failed message => exact absurd executed (by simp [execPermissions])
  | executed =>
      obtain ⟨found, same⟩ := Prod.mk.inj (Option.some.inj executed)
      exact ⟨found, same.symm⟩

/-- A fetch that succeeds returns the secret of that instant. -/
theorem secret_of_exec {secretId : String}
    {response : Except String SecretValue}
    (executed : execPermissions config (.getSecretValue secretId) fate before =
      some (response, world)) :
    world = before ∧ ∀ value, response = .ok value → value = before.secret := by
  cases fate with
  | executed =>
      obtain ⟨rfl, rfl⟩ := Prod.mk.inj (Option.some.inj executed)
      exact ⟨rfl, fun value isValue => (Except.ok.inj isValue).symm⟩
  | failed message =>
      obtain ⟨rfl, rfl⟩ := Prod.mk.inj (Option.some.inj executed)
      exact ⟨rfl, fun value isValue => absurd isValue (by simp)⟩

/-- What a look-up returns is backed, and not too old. -/
theorem fresh_of_lookUp {lookup : Lookup} {log : List PermissionsEntry}
    (deployed : config.LOCAL_DEV ≠ some "true")
    (clock : ∀ entry ∈ log, entry.before.now ≤ world.now)
    (cached : ∀ cache, world.cache = some cache →
      ∃ read stored fetch storing,
        Backed config limit log cache read stored fetch storing)
    (fresh : Fresh config limit log)
    (found : lookUp config world.now world.cache = lookup) :
    Fresh config limit (⟨caller, .lookUp, lookup, world, world⟩ :: log) := by
  apply fresh.cons
  intro permissions returns
  have isSettled : lookup = .settled (.ok permissions) := by
    rcases lookup with (error | list) | secretId
    · exact absurd returns (by simp [returned?, stored?])
    · exact congrArg (fun list => Lookup.settled (.ok list))
        (Option.some.inj returns)
    · exact absurd returns (by simp [returned?, stored?])
  obtain ⟨cache, isCache, unexpired, rfl⟩ :=
    cached_of_lookUp deployed (found.trans isSettled)
  obtain ⟨read, stored, fetch, storing, backed⟩ := cached cache isCache
  have expires := backed.expires
  refine ⟨cache, read, stored, fetch, storing, rfl, backed.cons rfl,
    (lt_length_of_eventAt backed.storedAt).le,
    clock fetch (mem_of_eventAt backed.fetched), ?_⟩
  change world.now ≤ _
  omega

/-- What a call settles is backed by its own fetch. -/
theorem backed_of_settle (storing : PermissionsEntry)
    {log : List PermissionsEntry} {secretId : String} {value : SecretValue}
    {permissions : Permissions} {fetch : PermissionsEntry}
    (parsed : parsePermissions config secretId value = .ok permissions)
    (stores : stored? storing = some permissions)
    (fetchIn : fetch ∈ log) (sameCall : fetch.caller = storing.caller)
    (isOp : fetch.op = .getSecretValue secretId)
    (isValue : value = fetch.before.secret)
    (timely : storing.before.now ≤ fetch.before.now + limit) :
    ∃ read, Backed config limit (storing :: log)
      ⟨permissions, storing.before.now + CACHE_TTL_MS config⟩
      read log.length fetch storing := by
  obtain ⟨read, fetched⟩ := exists_eventAt fetchIn
  refine ⟨read, eventAt_cons fetched, eventAt_length, sameCall,
    ⟨secretId, isOp, isValue ▸ parsed⟩, stores, lt_length_of_eventAt fetched,
    ?_, ?_⟩
  · intro number entry later here
    rcases eventAt_cons_iff.mp here with older | ⟨rfl, _⟩
    · exact absurd (lt_length_of_eventAt older) (Nat.not_lt.mpr later.le)
    · exact absurd later (Nat.lt_irrefl _)
  · change storing.before.now + CACHE_TTL_MS config ≤ _
    omega

/-- The phases after a move remember what they did, and what the move did. -/
theorem remembers_set {before after : PermissionsState}
    {phases : List CallPhase} {next : CallPhase}
    (remembers : ∀ other phase, phases[other]? = some phase →
      Remembers before other phase)
    (kept : before.log ⊆ after.log)
    (later : before.world.now ≤ after.world.now)
    (moved : Remembers after caller next) :
    ∀ other phase, (phases.set caller next)[other]? = some phase →
      Remembers after other phase := by
  intro other phase holds
  rcases getElem?_set_cases holds with ⟨rfl, rfl⟩ | ⟨_, before⟩
  · exact moved
  · exact (remembers other phase before).mono kept later

section Performed

variable {phases : List CallPhase} {phase after : CallPhase}
variable {op : PermissionsOp} {reply : PermissionsReply op}
variable {calls : List (Call PermissionsOp PermissionsReply Unit
  (Except PortalError Permissions))}

/-- An operation that leaves the process as it is. -/
theorem Accounted.logged (accounted : Accounted config limit state phases)
    (storesNothing : stored? ⟨caller, op, reply, state.world, state.world⟩ =
      none)
    (remembered : Remembers {
      world := state.world
      calls := calls
      log := ⟨caller, op, reply, state.world, state.world⟩ :: state.log }
      caller after)
    (fresh : Fresh config limit
      (⟨caller, op, reply, state.world, state.world⟩ :: state.log)) :
    Accounted config limit {
      world := state.world
      calls := calls
      log := ⟨caller, op, reply, state.world, state.world⟩ :: state.log }
      (phases.set caller after) where
  clock := List.forall_mem_cons.mpr ⟨le_rfl, accounted.clock⟩
  remembers := remembers_set accounted.remembers (List.subset_cons_self _ _)
    le_rfl remembered
  cached := by
    intro cache isCache
    obtain ⟨read, stored, fetch, storing, backed⟩ :=
      accounted.cached cache isCache
    exact ⟨read, stored, fetch, storing, backed.cons storesNothing⟩
  fresh := fresh

/-- A call that caches the list which it has fetched in time. -/
theorem Accounted.cachedBy {secretId : String} {value : SecretValue}
    {permissions : Permissions} {fetch : PermissionsEntry}
    (accounted : Accounted config limit state phases)
    (parsed : parsePermissions config secretId value = .ok permissions)
    (fetchIn : fetch ∈ state.log) (sameCall : fetch.caller = caller)
    (isOp : fetch.op = .getSecretValue secretId)
    (isValue : value = fetch.before.secret)
    (within : state.world.now ≤ fetch.before.now + limit) :
    let world : PermissionsWorld := { state.world with
      cache := some ⟨permissions, state.world.now + CACHE_TTL_MS config⟩ }
    Accounted config limit {
      world := world
      calls := calls
      log := ⟨caller, .settle secretId (.ok value), .ok permissions,
        state.world, world⟩ :: state.log }
      (phases.set caller .finished) := by
  intro world
  obtain ⟨read, backed⟩ := backed_of_settle
    ⟨caller, .settle secretId (.ok value), .ok permissions, state.world, world⟩
    parsed rfl fetchIn sameCall isOp isValue within
  refine ⟨List.forall_mem_cons.mpr ⟨le_rfl, accounted.clock⟩,
    remembers_set accounted.remembers (List.subset_cons_self _ _) le_rfl
      trivial, ?_, accounted.fresh.cons ?_⟩
  · intro cache isCache
    obtain rfl := Option.some.inj isCache
    exact ⟨read, _, fetch, _, backed⟩
  · intro list returns
    obtain rfl := Option.some.inj returns
    refine ⟨_, read, _, fetch, _, rfl, backed, le_rfl,
      accounted.clock fetch fetchIn, ?_⟩
    change state.world.now ≤ _
    omega

/-- What is to be shown of an operation that has been executed. -/
theorem Accounted.performed
    (accounted : Accounted config limit state phases)
    (deployed : config.LOCAL_DEV ≠ some "true")
    (timely : Timely limit state caller op fate)
    (holds : phases[caller]? = some phase)
    (executed : execPermissions config op fate state.world =
      some (reply, world))
    (moved : CallStep phase op reply after) :
    Accounted config limit {
      world := world
      calls := calls
      log := ⟨caller, op, reply, state.world, world⟩ :: state.log }
      (phases.set caller after) := by
  have past := accounted.remembers caller phase holds
  cases moved with
  | @settled result =>
      obtain ⟨found, rfl⟩ := lookUp_of_exec executed
      exact accounted.logged rfl trivial (fresh_of_lookUp deployed
        accounted.clock accounted.cached accounted.fresh found)
  | @sent secretId =>
      obtain ⟨found, rfl⟩ := lookUp_of_exec executed
      refine accounted.logged rfl ?_ (fresh_of_lookUp deployed
        accounted.clock accounted.cached accounted.fresh found)
      exact ⟨_, List.mem_cons_self, rfl, rfl, le_rfl⟩
  | @answered secretId response =>
      obtain ⟨rfl, isSecret⟩ := secret_of_exec executed
      refine accounted.logged rfl ?_ (accounted.fresh.cons fun _ returns => ?_)
      · exact ⟨_, List.mem_cons_self, rfl, rfl, isSecret,
          past.mono (List.subset_cons_self _ _) le_rfl⟩
      · exact absurd returns (by simp [returned?, stored?])
  | @stored secretId response result =>
      obtain ⟨fetch, fetchIn, isCaller, isOp, isSecret, first, firstIn,
        firstCaller, begins, before⟩ := past
      rcases settle_cases executed with
        ⟨value, permissions, rfl, parsed, rfl, rfl⟩ | ⟨error, rfl, rfl⟩
      · apply accounted.cachedBy parsed fetchIn isCaller isOp
          (isSecret value rfl)
        have := timely first firstIn firstCaller begins
        omega
      · refine accounted.logged rfl trivial
          (accounted.fresh.cons fun _ returns => ?_)
        exact absurd returns (by simp [returned?, stored?])

end Performed

theorem Accounted.step (deployed : config.LOCAL_DEV ≠ some "true")
    (accounted : Accounted config limit source.state source.phases)
    (step : CallsStep config (Machine.OnSteps (Timely limit)) source target) :
    Accounted config limit target.state target.phases := by
  cases step with
  | arrive request permitted state_eq phases_eq =>
      rw [state_eq, phases_eq]
      refine ⟨accounted.clock, ?_, accounted.cached, accounted.fresh⟩
      intro caller phase holds
      rcases getElem?_append_singleton_cases holds with before | rfl
      · exact (accounted.remembers caller phase before).mono
          (List.Subset.refl _) le_rfl
      · trivial
  | perform caller fate request op next reply world phase after permitted
      running holds executed moved state_eq phases_eq =>
      rw [state_eq, phases_eq]
      exact accounted.performed deployed (permitted.of_running running) holds
        executed moved
  | crash caller request op next permitted running state_eq phases_eq =>
      rw [state_eq, phases_eq]
      exact ⟨accounted.clock, remembers_set accounted.remembers
        (List.Subset.refl _) le_rfl trivial, accounted.cached, accounted.fresh⟩
  | drift change world permitted drifted state_eq phases_eq =>
      obtain ⟨later, sameCache⟩ : source.state.world.now ≤ world.now ∧
          world.cache = source.state.world.cache := by
        cases change with
        | tick ms =>
            obtain rfl := Option.some.inj drifted
            exact ⟨Int.le_add_of_nonneg_right (Int.natCast_nonneg ms), rfl⟩
        | update secret =>
            obtain rfl := Option.some.inj drifted
            exact ⟨le_rfl, rfl⟩
      rw [state_eq, phases_eq]
      refine ⟨?_, ?_, ?_, accounted.fresh⟩
      · exact fun entry member => (accounted.clock entry member).trans later
      · exact fun caller phase holds =>
          (accounted.remembers caller phase holds).mono
            (List.Subset.refl _) later
      · exact fun cache isCache =>
          accounted.cached cache (sameCache ▸ isCache)

end Steps

/-! ## Going backwards -/

section Backwards

variable {log : List PermissionsEntry} {first second : PermissionsEntry}
variable {earlier later : Nat}

/-- The operations of calls, in order. -/
abbrev Ordered (log : List PermissionsEntry) : Prop :=
  log.Pairwise fun newer older =>
    newer.caller = older.caller → rankOf older.op < rankOf newer.op

/-- An operation with a smaller rank is the earlier one of its call. -/
theorem lt_of_rank_lt (ordered : Ordered log)
    (firstHere : eventAt log earlier = some first)
    (secondHere : eventAt log later = some second)
    (sameCall : first.caller = second.caller)
    (ranks : rankOf first.op < rankOf second.op) : earlier < later := by
  rcases Nat.lt_trichotomy earlier later with before | rfl | after
  · exact before
  · obtain rfl := Option.some.inj (firstHere.symm.trans secondHere)
    exact absurd ranks (Nat.lt_irrefl _)
  · have := eventAt_pairwise ordered secondHere firstHere after sameCall
    omega

/-- A call has one operation of every rank. -/
theorem eq_of_rank_eq (ordered : Ordered log)
    (firstHere : eventAt log earlier = some first)
    (secondHere : eventAt log later = some second)
    (sameCall : first.caller = second.caller)
    (ranks : rankOf first.op = rankOf second.op) : earlier = later := by
  rcases Nat.lt_trichotomy earlier later with before | same | after
  · have := eventAt_pairwise ordered firstHere secondHere before sameCall.symm
    omega
  · exact same
  · have := eventAt_pairwise ordered secondHere firstHere after sameCall
    omega

/-- What returns a list without storing it is a look-up. -/
theorem begins_of_returned {permissions : Permissions}
    (returns : returned? first = some permissions)
    (storesNothing : stored? first = none) : Begins first := by
  obtain ⟨caller, op, reply, before, after⟩ := first
  cases op with
  | lookUp => rfl
  | getSecretValue secretId => exact absurd returns (by simp [returned?, stored?])
  | settle secretId response =>
      rw [returned?, storesNothing] at returns
      · exact absurd returns (by simp)
      · simp

theorem Reads.rank {permissions : Permissions}
    (reads : Reads config first permissions) : rankOf first.op = 1 := by
  obtain ⟨secretId, isOp, _⟩ := reads
  rw [isOp]
  rfl

theorem Begins.rank (begins : Begins first) : rankOf first.op = 0 := by
  rw [begins]
  rfl

/-- Only a fetch that has overlapped brings older permissions back. -/
theorem backwardsByOverlap (ordered : Ordered log) :
    BackwardsByOverlap config log := by
  intro older laterReturn olderRead olderStored olderSupplied newer
    earlierReturn newerRead newerStored newerSupplied start starts startsAfter
  obtain ⟨entry, first, here, firstHere, sameCall, begins⟩ := starts
  obtain ⟨_, alsoHere, returns⟩ := olderSupplied.returns
  obtain rfl := Option.some.inj (alsoHere.symm.trans here)
  obtain ⟨fetch, storing, fetched, storedAt, fetchCall, reads, stores⟩ :=
    olderSupplied.fetched
  obtain ⟨newerFetch, newerStoring, newerFetched, newerStoredAt,
    newerFetchCall, newerReads, newerStores⟩ := newerSupplied.fetched
  obtain ⟨readFirst, storedFirst⟩ := olderSupplied.ordered
  obtain ⟨newerReadFirst, newerStoredFirst⟩ := newerSupplied.ordered
  rcases Nat.lt_or_eq_of_le storedFirst with fromCache | rfl
  · -- The list comes from the cache: the call is this one event.
    have storesNothing := olderSupplied.newest _ _ fromCache le_rfl here
    have isStart : start = laterReturn :=
      eq_of_rank_eq ordered firstHere here sameCall
        (begins.rank.trans (begins_of_returned returns storesNothing).rank.symm)
    have notAfter : newerStored ≤ olderStored := by
      by_contra after
      have := olderSupplied.newest newerStored newerStoring (by omega)
        (by omega) newerStoredAt
      exact absurd newerStores (by simp [this])
    rcases Nat.lt_or_eq_of_le notAfter with before | rfl
    · omega
    · obtain rfl := Option.some.inj (storedAt.symm.trans newerStoredAt)
      have sameRead := eq_of_rank_eq ordered fetched newerFetched
        (fetchCall.trans newerFetchCall.symm)
        (reads.rank.trans newerReads.rank.symm)
      exact .inl sameRead.ge
  · -- The call has fetched the list itself, after it had started.
    obtain rfl := Option.some.inj (storedAt.symm.trans here)
    have := lt_of_rank_lt ordered firstHere fetched
      (sameCall.trans fetchCall.symm)
      (by rw [begins.rank, reads.rank]; exact Nat.one_pos)
    omega

end Backwards

/--
In a process outside local development whose fetches take at most `limit`
milliseconds, every returned list was the content of the secret within the time
to live and one fetch, and reads go backwards by overlapping fetches only.
-/
theorem permissions_fresh {limit now : Int} {secret : SecretValue}
    {state : PermissionsState} (deployed : config.LOCAL_DEV ≠ some "true")
    (reaches : (permissionsClient config).Reaches
      (Machine.OnSteps (Timely limit))
      (.initial (PermissionsWorld.cold now secret)) state) :
    Fresh config limit state.log ∧ BackwardsByOverlap config state.log := by
  have preserved : ∀ source target : AnnotatedCalls,
      InOrder source ∧ Accounted config limit source.state source.phases →
        CallsStep config (Machine.OnSteps (Timely limit)) source target →
          InOrder target ∧
            Accounted config limit target.state target.phases := by
    rintro source target ⟨inOrder, accounted⟩ step
    exact ⟨inOrder.step step, accounted.step deployed step⟩
  obtain ⟨annotated, rfl, inOrder, accounted⟩ :=
    Machine.exists_invariant .finished (fun _ => conforms_getClientPermissions)
      ⟨inOrder_initial _, accounted_initial limit now secret⟩ preserved reaches
  exact ⟨accounted.fresh, backwardsByOverlap inOrder.ordered⟩

/-! ## A revoked client -/

def grantedText : String :=
  "[\x7b\"clientName\":\"DAWSON\",\"clientRoleArn\":\"arn\",\"allowedFeeKeys\":[\"PETITION_FILING_FEE\"]\x7d]"

/-- A deployed process; `JSON.parse` on the texts of the sample secrets. -/
def samplePermissionsConfig : PermissionsConfig where
  LOCAL_DEV := none
  CLIENT_PERMISSIONS_SECRET_ID := some "client-permissions"
  CLIENT_PERMISSIONS_CACHE_TTL_MS := none
  parseInt := fun text => if text = "300000" then some 300000 else none
  jsonParse := fun text =>
    if text = "[]" then .ok (.array [])
    else if text = grantedText then
      .ok (.array [.object [
        ("clientName", .string "DAWSON"),
        ("clientRoleArn", .string "arn"),
        ("allowedFeeKeys", .array [.string "PETITION_FILING_FEE"])]])
    else .error "SyntaxError"
  trim := fun text => text

def grantedSecret : SecretValue := ⟨some grantedText, none⟩

def revokedSecret : SecretValue := ⟨some "[]", none⟩

/-- The call `caller` performs its next operations. -/
def proceeds (caller count : Nat) :
    List (Move SecretFate Unit SecretDrift) :=
  List.replicate count (.step caller .executed)

/--
The prewarm has read the secret when the client is revoked; the first request
reads the new secret and is done before the prewarm is.
-/
def sampleRevocation : List (Move SecretFate Unit SecretDrift) :=
  .arrive () :: proceeds 0 2 ++
    [.drift (.update revokedSecret), .drift (.tick 5), .arrive ()] ++
    proceeds 1 3 ++ proceeds 0 1 ++ [.arrive ()] ++ proceeds 2 1

theorem permissions_fresh_sample : ∃ state,
    (permissionsClient samplePermissionsConfig).replay
      (Machine.OnSteps (Timely 10)) sampleRevocation
      (.initial (PermissionsWorld.cold 0 grantedSecret)) = some state ∧
    Fresh samplePermissionsConfig 10 state.log ∧
    BackwardsByOverlap samplePermissionsConfig state.log := by
  have replayed : ((permissionsClient samplePermissionsConfig).replay
      (Machine.OnSteps (Timely 10)) sampleRevocation
      (.initial (PermissionsWorld.cold 0 grantedSecret))).isSome = true := by
    decide
  obtain ⟨state, reached⟩ := Option.isSome_iff_exists.mp replayed
  exact ⟨state, reached,
    permissions_fresh (by decide) (Machine.reaches_of_replay reached)⟩

/--
The revoked client is refused to the first request, and let in again by the
cache, which the prewarm has filled with what it had read before.
-/
theorem reads_go_backwards_sample : ∃ state,
    (permissionsClient samplePermissionsConfig).replay
      (Machine.OnSteps (Timely 10)) sampleRevocation
      (.initial (PermissionsWorld.cold 0 grantedSecret)) = some state ∧
    (state.log.reverse.map fun entry => (returned? entry).map fun list =>
      (clientByRoleArn "arn" list).toOption.isSome) =
        [none, none, none, none, some false, some true, some true] ∧
    ¬ NeverBackwards samplePermissionsConfig state.log := by
  refine ⟨_, rfl, by decide, fun never => ?_⟩
  have reversed := never _ 6 1 5
    { returns := ⟨_, rfl, rfl⟩
      fetched := ⟨_, _, rfl, rfl, rfl, ⟨_, rfl, rfl⟩, rfl⟩
      ordered := by decide
      newest := by
        intro number entry after upTo here
        obtain rfl : number = 6 := by omega
        obtain rfl := Option.some.inj here
        rfl } _ 4 3 4
    { returns := ⟨_, rfl, rfl⟩
      fetched := ⟨_, _, rfl, rfl, rfl, ⟨_, rfl, rfl⟩, rfl⟩
      ordered := by decide
      newest := by
        intro number entry after upTo
        omega } 6 ⟨_, _, rfl, rfl, rfl, rfl⟩ (by decide)
  exact absurd reversed (by decide)

end PaymentPortal.Guarantees
