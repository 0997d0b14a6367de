import PaymentPortal.Maintenance.RoleSql

/-!
# What operations change

`Changes` lists what a statement may do to the cluster, guards included.
Every executed operation of the runner leaves the cluster alone or changes it
so (`changes_of_exec`); what is said of a change is read off this list.
-/

namespace PaymentPortal.Maintenance

open PaymentPortal.Relational

/-- The role as a command makes it. -/
def RoleCommand.role : RoleCommand → Role
  | create name password => ⟨name, password⟩
  | alter name password => ⟨name, password⟩

/-- The environment has cut an operation off. -/
def Fate.isFault : Fate → Bool
  | .failed _ => true
  | .replyLost _ => true
  | _ => false

/-- What a statement may do in the database `current`. -/
inductive Changes (knex : Knex) (current : String) (before : Cluster) :
    Statement → Cluster → Prop where
  | nothing (statement : Statement) : Changes knex current before statement
      before
  | createDatabase (name : String) (fresh : name ∉ before.databases) :
      Changes knex current before (.createDatabase name)
        (before.createDatabase name fresh)
  | dropDatabase (name : String) :
      Changes knex current before (.dropDatabase name)
        (before.dropDatabase name)
  | createRole (sql name password : String)
      (read : RoleCommand.read (knex.sent sql) = some (.create name password))
      (fresh : ¬ before.HasRole name) :
      Changes knex current before (.roleCommand sql)
        (before.createRole ⟨name, password⟩ fresh)
  | alterRole (sql name password : String)
      (read : RoleCommand.read (knex.sent sql) = some (.alter name password))
      (isThere : before.HasRole name) :
      Changes knex current before (.roleCommand sql)
        (before.alterRole ⟨name, password⟩)
  | dropRole (name : String) (free : ¬ before.DependsOn name) :
      Changes knex current before (.dropRole name) (before.dropRole name)
  | grant (privilege : Privilege) (role : String)
      (isThere : before.HasRole role)
      (fits : privilege.missing? before = none) :
      Changes knex current before (.grant privilege role)
        (before.depend (privilege.dependency current role))
  | reassignOwned (role newOwner : String) (isThere : before.HasRole role)
      (newIsThere : before.HasRole newOwner) :
      Changes knex current before (.reassignOwned role newOwner)
        (before.reassignOwned current role newOwner)
  | dropOwned (role : String) (isThere : before.HasRole role) :
      Changes knex current before (.dropOwned role)
        (before.dropOwned current role)

section Executed

variable {knex : Knex} {current : String} {before after : Cluster}

/-- A statement that succeeds does what it may. -/
theorem changes_of_run {statement : Statement} {result : statement.Result}
    (ran : statement.run knex current before = .ok (result, after)) :
    Changes knex current before statement after := by
  cases statement with
  | databaseExists _ | showDatabases | roleExists _ | namesLike _ _
  | showUsers | terminateBackends _ =>
      obtain ⟨_, rfl⟩ := Prod.mk.inj (Except.ok.inj ran)
      exact .nothing _
  | createDatabase name =>
      rw [Statement.run] at ran
      split at ran
      · next fresh =>
          obtain ⟨_, rfl⟩ := Prod.mk.inj (Except.ok.inj ran)
          exact .createDatabase name fresh
      · exact absurd ran (by simp)
  | dropDatabase name =>
      obtain ⟨_, rfl⟩ := Prod.mk.inj (Except.ok.inj ran)
      exact .dropDatabase name
  | roleCommand sql =>
      rw [Statement.run] at ran
      split at ran
      · exact absurd ran (by simp)
      · next command read =>
          cases command with
          | create name password =>
              rw [RoleCommand.run] at ran
              split at ran
              · next fresh =>
                  obtain ⟨_, rfl⟩ := Prod.mk.inj (Except.ok.inj ran)
                  exact .createRole sql name password read fresh
              · exact absurd ran (by simp [Except.map])
          | alter name password =>
              rw [RoleCommand.run] at ran
              split at ran
              · next isThere =>
                  obtain ⟨_, rfl⟩ := Prod.mk.inj (Except.ok.inj ran)
                  exact .alterRole sql name password read isThere
              · exact absurd ran (by simp [Except.map])
  | dropRole name =>
      rw [Statement.run] at ran
      split at ran
      · exact absurd ran (by simp)
      · next free =>
          obtain ⟨_, rfl⟩ := Prod.mk.inj (Except.ok.inj ran)
          exact .dropRole name free
  | grant privilege role =>
      rw [Statement.run] at ran
      split at ran
      · next isThere =>
          split at ran
          · exact absurd ran (by simp)
          · next fits =>
              obtain ⟨_, rfl⟩ := Prod.mk.inj (Except.ok.inj ran)
              exact .grant privilege role isThere fits
      · exact absurd ran (by simp)
  | reassignOwned role newOwner =>
      rw [Statement.run] at ran
      split at ran
      · next isThere =>
          split at ran
          · next newIsThere =>
              obtain ⟨_, rfl⟩ := Prod.mk.inj (Except.ok.inj ran)
              exact .reassignOwned role newOwner isThere newIsThere
          · exact absurd ran (by simp)
      · exact absurd ran (by simp)
  | dropOwned role =>
      rw [Statement.run] at ran
      split at ran
      · next isThere =>
          obtain ⟨_, rfl⟩ := Prod.mk.inj (Except.ok.inj ran)
          exact .dropOwned role isThere
      · exact absurd ran (by simp)

section Raw

variable {connection : Connection} {fate : Fate}

/-- A reply without rows is that of the server. -/
theorem of_execRaw_ok {statement : Statement} {result : statement.Result}
    (single : statement.isListing = false)
    (executed : execRaw knex connection statement fate before =
      some (.ok result, after)) :
    statement.run knex connection.database before = .ok (result, after) := by
  unfold execRaw at executed
  split at executed
  · split at executed <;> exact absurd executed (by simp)
  · split at executed
    · exact absurd executed (by simp)
    · exact absurd single (by simp [Statement.isListing])
    · rw [single] at executed
      split at executed
      · exact absurd executed (by simp)
      · split at executed
        · next ran =>
            obtain ⟨same, rfl⟩ := Prod.mk.inj (Option.some.inj executed)
            obtain rfl := Except.ok.inj same
            exact ran
        · exact absurd executed (by simp)
    · split at executed <;> exact absurd executed (by simp)
    · exact absurd executed (by simp)

/-- An error leaves the cluster alone, or it is only the reply that is lost. -/
theorem of_execRaw_error {statement : Statement} {message : String}
    (executed : execRaw knex connection statement fate before =
      some (.error message, after)) :
    (after = before ∧ (fate.isFault = true ∨
        statement.run knex connection.database before = .error message)) ∨
      fate.isFault = true ∧ ∃ result,
        statement.run knex connection.database before =
          .ok (result, after) := by
  unfold execRaw at executed
  split at executed
  · split at executed
    · obtain ⟨_, rfl⟩ := Prod.mk.inj (Option.some.inj executed)
      exact .inl ⟨rfl, .inl rfl⟩
    · exact absurd executed (by simp)
  · split at executed
    · obtain ⟨_, rfl⟩ := Prod.mk.inj (Option.some.inj executed)
      exact .inl ⟨rfl, .inl rfl⟩
    · split at executed <;> exact absurd executed (by simp)
    · split at executed
      · exact absurd executed (by simp)
      · split at executed
        · exact absurd executed (by simp)
        · next ran =>
            obtain ⟨same, rfl⟩ := Prod.mk.inj (Option.some.inj executed)
            obtain rfl := Except.error.inj same
            exact .inl ⟨rfl, .inr ran⟩
    · split at executed
      · next ran =>
          obtain ⟨_, rfl⟩ := Prod.mk.inj (Option.some.inj executed)
          exact .inr ⟨rfl, _, ran⟩
      · exact absurd executed (by simp)
    · exact absurd executed (by simp)

/-- A listing returns the names that match, in some order. -/
theorem of_execRaw_namesLike {catalogue : Catalogue}
    {pattern : List (PatternSign Char)} {names : List String}
    (executed : execRaw knex connection (.namesLike catalogue pattern) fate
      before = some (.ok names, after)) :
    names.Perm (before.namesLike catalogue pattern) ∧ after = before := by
  unfold execRaw at executed
  split at executed
  · split at executed <;> exact absurd executed (by simp)
  · cases fate with
    | listed listing =>
        dsimp only at executed
        split at executed
        · next perm =>
            obtain ⟨same, rfl⟩ := Prod.mk.inj (Option.some.inj executed)
            obtain rfl := Except.ok.inj same
            exact ⟨perm, rfl⟩
        · exact absurd executed (by simp)
    | executed => exact absurd executed (by simp [Statement.isListing])
    | replyLost message =>
        dsimp only at executed
        split at executed <;> exact absurd executed (by simp)
    | reported _ | failed _ | secret _ | batch _ | version _ =>
        exact absurd executed (by simp)

theorem changes_of_execRaw {statement : Statement}
    {reply : Except String statement.Result}
    (executed : execRaw knex connection statement fate before =
      some (reply, after)) :
    Changes knex connection.database before statement after := by
  cases reply with
  | error message =>
      rcases of_execRaw_error executed with ⟨rfl, _⟩ | ⟨_, _, ran⟩
      · exact .nothing _
      · exact changes_of_run ran
  | ok result =>
      cases listing : statement.isListing with
      | false => exact changes_of_run (of_execRaw_ok listing executed)
      | true =>
          cases statement with
          | namesLike catalogue pattern =>
              obtain ⟨_, rfl⟩ := of_execRaw_namesLike executed
              exact .nothing _
          | _ => exact absurd listing (by simp [Statement.isListing])

end Raw

/-- An executed operation changes nothing, or what its statement may change. -/
theorem changes_of_exec {op : Op} {fate : Fate} {reply : Reply op}
    (executed : exec knex op fate before = some (reply, after)) :
    after = before ∨ ∃ connection statement, op = .raw connection statement ∧
      Changes knex connection.database before statement after := by
  unfold exec at executed
  split at executed
  all_goals try
    obtain ⟨_, rfl⟩ := Prod.mk.inj (Option.some.inj executed)
    exact .inl rfl
  · exact .inr ⟨_, _, rfl, changes_of_execRaw executed⟩
  · obtain ⟨_, _, same⟩ := Option.map_eq_some_iff.mp executed
    exact .inl (Prod.mk.inj same).2.symm
  · exact absurd executed (by simp)

end Executed

/-! ## Who loses and who gains -/

namespace Changes

variable {knex : Knex} {current : String} {before after : Cluster}
variable {statement : Statement} {name : String}

/-- A database is lost when it is dropped. -/
theorem lost_database (changes : Changes knex current before statement after)
    (wasThere : name ∈ before.databases) (isGone : name ∉ after.databases) :
    statement = .dropDatabase name := by
  cases changes with
  | nothing | createRole _ _ _ _ _ | alterRole _ _ _ _ _ | dropRole _ _
  | grant _ _ _ _ | reassignOwned _ _ _ _ | dropOwned _ _ =>
      exact absurd wasThere isGone
  | createDatabase other fresh =>
      exact absurd (List.mem_append_left _ wasThere) isGone
  | dropDatabase other =>
      by_cases same : name = other
      · rw [same]
      · exact absurd (List.mem_filter.mpr ⟨wasThere, by simpa using same⟩)
          isGone

/-- A database is gained when it is created. -/
theorem gained_database (changes : Changes knex current before statement after)
    (wasAbsent : name ∉ before.databases) (isThere : name ∈ after.databases) :
    statement = .createDatabase name := by
  cases changes with
  | nothing | createRole _ _ _ _ _ | alterRole _ _ _ _ _ | dropRole _ _
  | grant _ _ _ _ | reassignOwned _ _ _ _ | dropOwned _ _ =>
      exact absurd isThere wasAbsent
  | createDatabase other fresh =>
      rcases List.mem_append.mp isThere with old | new
      · exact absurd old wasAbsent
      · rw [List.mem_singleton.mp new]
  | dropDatabase other =>
      exact absurd (List.mem_filter.mp isThere).1 wasAbsent

/-- A role is lost when it is dropped, and then nothing depends on it. -/
theorem lost_role (changes : Changes knex current before statement after)
    (wasThere : before.HasRole name) (isGone : ¬ after.HasRole name) :
    statement = .dropRole name ∧ ¬ before.DependsOn name := by
  cases changes with
  | nothing | createDatabase _ _ | dropDatabase _ | grant _ _ _ _
  | reassignOwned _ _ _ _ | dropOwned _ _ => exact absurd wasThere isGone
  | createRole sql other password read fresh =>
      refine absurd ?_ isGone
      rw [Cluster.HasRole, Cluster.createRole, List.map_append]
      exact List.mem_append_left _ wasThere
  | alterRole sql other password read isThere =>
      refine absurd ?_ isGone
      have sameNames : Role.name ∘ Cluster.repassword ⟨other, password⟩ =
          Role.name := funext (Cluster.repassword_name _)
      rw [Cluster.HasRole, Cluster.alterRole, List.map_map, sameNames]
      exact wasThere
  | dropRole other free =>
      by_cases same : name = other
      · rw [same]
        exact ⟨rfl, free⟩
      · obtain ⟨role, member, rfl⟩ := List.mem_map.mp wasThere
        refine absurd (List.mem_map_of_mem ?_) isGone
        exact List.mem_filter.mpr ⟨member, by simpa using same⟩

/-- A role that is new, or has a new password, is what a command says. -/
theorem gained_role {role : Role}
    (changes : Changes knex current before statement after)
    (wasAbsent : role ∉ before.roles) (isThere : role ∈ after.roles) :
    ∃ sql command, statement = .roleCommand sql ∧
      RoleCommand.read (knex.sent sql) = some command ∧
        command.role = role := by
  cases changes with
  | nothing | createDatabase _ _ | dropDatabase _ | grant _ _ _ _
  | reassignOwned _ _ _ _ | dropOwned _ _ => exact absurd isThere wasAbsent
  | createRole sql other password read fresh =>
      rcases List.mem_append.mp isThere with old | new
      · exact absurd old wasAbsent
      · exact ⟨sql, _, rfl, read, (List.mem_singleton.mp new).symm⟩
  | alterRole sql other password read wasThere =>
      obtain ⟨old, member, made⟩ := List.mem_map.mp isThere
      rw [Cluster.repassword] at made
      split at made
      · exact ⟨sql, _, rfl, read, made⟩
      · exact absurd (made ▸ member) wasAbsent
  | dropRole other free =>
      exact absurd (List.mem_filter.mp isThere).1 wasAbsent

/-- What refers to a role is lost with its database or with the role's own. -/
theorem lost_dependency {dependency : Dependency}
    (changes : Changes knex current before statement after)
    (wasThere : dependency ∈ before.dependencies)
    (isGone : dependency ∉ after.dependencies) :
    statement = .dropDatabase dependency.database ∨
      (∃ newOwner, statement = .reassignOwned dependency.role newOwner) ∨
        statement = .dropOwned dependency.role := by
  cases changes with
  | nothing | createDatabase _ _ | createRole _ _ _ _ _
  | alterRole _ _ _ _ _ | dropRole _ _ => exact absurd wasThere isGone
  | dropDatabase name =>
      by_cases same : dependency.database = name
      · exact .inl (by rw [same])
      · exact absurd (List.mem_filter.mpr ⟨wasThere, by simpa using same⟩)
          isGone
  | grant privilege role isThere fits =>
      exact absurd (List.mem_cons_of_mem _ wasThere) isGone
  | reassignOwned role newOwner isThere newIsThere =>
      by_cases same : dependency.role = role
      · exact .inr (.inl ⟨newOwner, by rw [same]⟩)
      · refine absurd (List.mem_map.mpr ⟨dependency, wasThere, ?_⟩) isGone
        exact if_neg fun owned => same owned.1
  | dropOwned role isThere =>
      by_cases same : dependency.role = role
      · exact .inr (.inr (by rw [same]))
      · refine absurd (List.mem_filter.mpr ⟨wasThere, ?_⟩) isGone
        simp [same]

/-- What newly refers to a role is granted to it, or it is the new owner. -/
theorem gained_dependency {dependency : Dependency}
    (changes : Changes knex current before statement after)
    (wasAbsent : dependency ∉ before.dependencies)
    (isThere : dependency ∈ after.dependencies) :
    (∃ privilege, statement = .grant privilege dependency.role ∧
        privilege.dependency current dependency.role = dependency) ∨
      ∃ role, statement = .reassignOwned role dependency.role ∧
        dependency.database = current ∧ dependency.kind = .owned ∧
        { dependency with role := role } ∈ before.dependencies := by
  cases changes with
  | nothing | createDatabase _ _ | createRole _ _ _ _ _
  | alterRole _ _ _ _ _ | dropRole _ _ => exact absurd isThere wasAbsent
  | dropDatabase _ | dropOwned _ _ =>
      exact absurd (List.mem_filter.mp isThere).1 wasAbsent
  | grant privilege role hasRole fits =>
      rcases List.mem_cons.mp isThere with rfl | old
      · have named : (privilege.dependency current role).role = role := by
          cases privilege <;> rfl
        exact .inl ⟨privilege, by rw [named], by rw [named]⟩
      · exact absurd old wasAbsent
  | reassignOwned role newOwner hasRole newIsThere =>
      obtain ⟨old, member, made⟩ := List.mem_map.mp isThere
      split at made
      · next owned =>
          subst made
          obtain ⟨rfl, rfl, isOwned⟩ := owned
          exact .inr ⟨old.role, rfl, rfl, isOwned, member⟩
      · exact absurd (made ▸ member) wasAbsent

end Changes

end PaymentPortal.Maintenance
