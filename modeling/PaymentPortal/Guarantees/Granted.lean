import PaymentPortal.Guarantees.PermissionFreshness
import PaymentPortal.Interaction.Derived

/-!
# Where permissions come from

A list that a call returns is that of the local development, or it has been
read from the secret.  The phase of a call is what its newest operation has
made of it.
-/

namespace PaymentPortal.Guarantees

open PaymentPortal.Interaction
open PaymentPortal.Model

/-- What a call is about to do. -/
inductive Errand where
  | begun
  | sent (secretId : String)
  | answered (secretId : String) (response : Except String SecretValue)
  | ended (result : Except PortalError Permissions)

namespace Errand

def Permits : Errand → PermissionsOp → Prop
  | .begun, op => op = .lookUp
  | .sent secretId, op => op = .getSecretValue secretId
  | .answered secretId response, op => op = .settle secretId response
  | .ended _, _ => False

def next (_ : Errand) : (op : PermissionsOp) → PermissionsReply op → Errand
  | .lookUp, .settled result => .ended result
  | .lookUp, .fetching secretId => .sent secretId
  | .getSecretValue secretId, response => .answered secretId response
  | .settle _ _, result => .ended result

end Errand

/-- The permissions of the local development, or some that have been read. -/
def Granted (config : PermissionsConfig) (log : List PermissionsEntry)
    (permissions : Permissions) : Prop :=
  (config.LOCAL_DEV = some "true" ∧ permissions = LOCAL_DEV_PERMISSIONS) ∨
    ∃ fetch ∈ log, Reads config fetch permissions

/-- The call of the entry ends with the permissions. -/
def Yields (entry : PermissionsEntry) (permissions : Permissions) : Prop :=
  Errand.next .begun entry.op entry.reply = .ended (.ok permissions)

/-- What is cached and what has been returned was granted. -/
structure Sourced (config : PermissionsConfig) (state : PermissionsState) :
    Prop where
  cached : ∀ cache, state.world.cache = some cache →
    Granted config state.log cache.permissions
  yielded : ∀ entry ∈ state.log, ∀ permissions, Yields entry permissions →
    Granted config state.log permissions

variable {config : PermissionsConfig} {permissions : Permissions}
variable {allowed : PermissionsState →
  Move SecretFate Unit SecretDrift → Prop}
variable {world : PermissionsWorld} {source state target : PermissionsState}

theorem Granted.mono {log longer : List PermissionsEntry}
    (granted : Granted config log permissions) (subset : log ⊆ longer) :
    Granted config longer permissions := by
  rcases granted with isLocal | ⟨fetch, member, reads⟩
  · exact .inl isLocal
  · exact .inr ⟨fetch, subset member, reads⟩

/-- The calls of a run are guided by their newest operations. -/
theorem guided_of_reaches
    (reaches : (permissionsClient config).Reaches allowed (.initial world)
      state) :
    Guided (fun _ => Errand.Permits) (fun _ => Errand.next) .begun
      (fun _ phase value => phase = .ended value) state := by
  refine Guided.of_reaches (fun _ => ?_) reaches
  rintro _ rfl (result | secretId)
  · exact ⟨.ended result, ⟨rfl, rfl⟩, fun later same => same ▸ rfl⟩
  · refine ⟨.sent secretId, ⟨rfl, rfl⟩, ?_⟩
    rintro _ rfl response
    refine ⟨.answered secretId response, ⟨rfl, rfl⟩, ?_⟩
    rintro _ rfl result
    exact ⟨.ended result, ⟨rfl, rfl⟩, fun later same => same ▸ rfl⟩

/-- The response that a call settles is that of its own fetch. -/
theorem reads_of_settle {caller : Nat} {request : Unit} {secretId : String}
    {value : SecretValue}
    {rest : Except PortalError Permissions →
      Program PermissionsOp PermissionsReply (Except PortalError Permissions)}
    (reaches : (permissionsClient config).Reaches allowed (.initial world)
      source)
    (running : source.calls[caller]? =
      some ⟨request, some (.perform (.settle secretId (.ok value)) rest)⟩)
    (parsed : parsePermissions config secretId value = .ok permissions) :
    ∃ fetch ∈ source.log, Reads config fetch permissions := by
  obtain ⟨_, ⟨permitted, _⟩, _⟩ :=
    (guided_of_reaches reaches).live caller request _ running _ rfl (.ok [])
  cases isTrace : source.trace caller with
  | nil =>
      rw [isTrace] at permitted
      exact absurd permitted (by simp [phaseAfter, Errand.Permits])
  | cons newest older =>
      rw [isTrace] at permitted
      have member : newest ∈ source.log :=
        (State.mem_trace.mp (isTrace ▸ List.mem_cons_self)).1
      obtain ⟨fate, executed⟩ :=
        Machine.executed_of_reaches reaches newest member
      obtain ⟨_, op, reply, before, after⟩ := newest
      cases op with
      | lookUp =>
          cases reply <;>
            exact absurd permitted (by
              simp [phaseAfter, Errand.next, Errand.Permits])
      | settle _ _ =>
          exact absurd permitted (by
            simp [phaseAfter, Errand.next, Errand.Permits])
      | getSecretValue fetched =>
          obtain ⟨rfl, rfl⟩ : secretId = fetched ∧ .ok value = reply := by
            simpa [phaseAfter, Errand.next, Errand.Permits] using permitted
          obtain ⟨_, isSecret⟩ := secret_of_exec executed
          rw [isSecret value rfl] at parsed
          exact ⟨_, member, secretId, rfl, parsed⟩

/-- Every operation leaves what is cached granted. -/
theorem Sourced.perform (sourced : Sourced config source) {caller : Nat}
    {request : Unit} {op : PermissionsOp} {fate : SecretFate}
    {rest : PermissionsReply op →
      Program PermissionsOp PermissionsReply (Except PortalError Permissions)}
    {reply : PermissionsReply op} {after : PermissionsWorld}
    (reaches : (permissionsClient config).Reaches allowed (.initial world)
      source)
    (running : source.calls[caller]? =
      some ⟨request, some (.perform op rest)⟩)
    (executed : execPermissions config op fate source.world =
      some (reply, after)) :
    Sourced config {
      world := after
      calls := source.calls.set caller ⟨request, some (rest reply)⟩
      log := ⟨caller, op, reply, source.world, after⟩ :: source.log } := by
  have longer (entry : PermissionsEntry) : source.log ⊆ entry :: source.log :=
    List.subset_cons_self entry source.log
  cases op with
  | lookUp =>
      obtain ⟨found, rfl⟩ := lookUp_of_exec executed
      refine ⟨fun cache has => (sourced.cached cache has).mono (longer _),
        fun entry member permissions yields => ?_⟩
      rcases List.mem_cons.mp member with rfl | old
      · cases reply with
        | fetching secretId => exact absurd yields (by simp [Yields, Errand.next])
        | settled result =>
            obtain rfl : result = .ok permissions := by
              simpa [Yields, Errand.next] using yields
            by_cases isLocal : config.LOCAL_DEV = some "true"
            · rw [lookUp, if_pos isLocal] at found
              refine .inl ⟨isLocal, ?_⟩
              simpa using found.symm
            · obtain ⟨cache, isCache, _, rfl⟩ := cached_of_lookUp isLocal found
              exact (sourced.cached cache isCache).mono (longer _)
      · exact (sourced.yielded entry old permissions yields).mono (longer _)
  | getSecretValue secretId =>
      obtain ⟨rfl, _⟩ := secret_of_exec executed
      refine ⟨fun cache has => (sourced.cached cache has).mono (longer _),
        fun entry member permissions yields => ?_⟩
      rcases List.mem_cons.mp member with rfl | old
      · exact absurd yields (by simp [Yields, Errand.next])
      · exact (sourced.yielded entry old permissions yields).mono (longer _)
  | settle secretId response =>
      rcases settle_cases executed with
        ⟨value, permissions, rfl, parsed, rfl, rfl⟩ | ⟨error, rfl, rfl⟩
      · obtain ⟨fetch, member, reads⟩ :=
          reads_of_settle reaches running parsed
        have granted : Granted config source.log permissions :=
          .inr ⟨fetch, member, reads⟩
        refine ⟨fun cache has => ?_, fun entry isEntry other yields => ?_⟩
        · obtain rfl := Option.some.inj has
          exact granted.mono (longer _)
        · rcases List.mem_cons.mp isEntry with rfl | old
          · obtain rfl : permissions = other := by
              simpa [Yields, Errand.next] using yields
            exact granted.mono (longer _)
          · exact (sourced.yielded entry old other yields).mono (longer _)
      · refine ⟨fun cache has => (sourced.cached cache has).mono (longer _),
          fun entry member permissions yields => ?_⟩
        rcases List.mem_cons.mp member with rfl | old
        · exact absurd yields (by simp [Yields, Errand.next])
        · exact (sourced.yielded entry old permissions yields).mono (longer _)

/-- In every reachable state of a process what it knows was granted. -/
theorem sourced_of_reaches {now : Int} {secret : SecretValue}
    (reaches : (permissionsClient config).Reaches allowed
      (.initial (.cold now secret)) target) :
    Sourced config target := by
  induction reaches with
  | refl =>
      exact ⟨fun cache has => absurd has (by
          simp [State.initial, PermissionsWorld.cold]),
        fun entry member => absurd member (by simp [State.initial])⟩
  | @tail source target passed step ih =>
      obtain ⟨move, advanced, _⟩ := step
      cases Machine.advances_of_advance advanced with
      | arrive _ | crash _ _ _ _ _ => exact ⟨ih.cached, ih.yielded⟩
      | perform caller fate request op rest reply after running executed =>
          exact ih.perform passed running executed
      | drift change after drifted =>
          refine ⟨fun cache has => ih.cached cache ?_, ih.yielded⟩
          cases change <;> obtain rfl := Option.some.inj drifted <;> exact has

/-- A call that has ended with permissions was granted them. -/
theorem granted_of_result {now : Int} {secret : SecretValue}
    (reaches : (permissionsClient config).Reaches allowed
      (.initial (.cold now secret)) target) {caller : Nat}
    {call : Call PermissionsOp PermissionsReply Unit
      (Except PortalError Permissions)}
    (present : target.calls[caller]? = some call)
    (isResult : call.result? = some (.ok permissions)) :
    Granted config target.log permissions := by
  have ended := (guided_of_reaches reaches).finished present isResult
  cases isTrace : target.trace caller with
  | nil =>
      rw [isTrace] at ended
      exact absurd ended (by simp [phaseAfter])
  | cons newest older =>
      rw [isTrace] at ended
      exact (sourced_of_reaches reaches).yielded newest
        (State.mem_trace.mp (isTrace ▸ List.mem_cons_self)).1 permissions ended

end PaymentPortal.Guarantees
