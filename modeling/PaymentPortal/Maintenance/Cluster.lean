import Mathlib.Data.List.Nodup
import PaymentPortal.Lexical.SqlTokens
import PaymentPortal.Relational.Wildcards

/-!
# The database cluster

What the statements of `migrationHandler.ts` do to the databases and the roles
of the server.  A dependency is anything that refers to a role: an object it
owns, a privilege in a database or on the database itself.  The server drops no
role that something depends on, and what depends on it through a database goes
with the database.  Names are shorter than the limit the server cuts them at.
-/

namespace PaymentPortal.Maintenance

open PaymentPortal.Lexical
open PaymentPortal.Relational

/-- A role that may log in with a password. -/
structure Role where
  name : String
  password : String
  deriving DecidableEq, Repr

/-- How something refers to a role. -/
inductive DependencyKind where
  | owned
  | granted
  | connect
  deriving DecidableEq, Repr

/-- Something in a database, or the database itself, refers to a role. -/
structure Dependency where
  role : String
  database : String
  kind : DependencyKind
  deriving DecidableEq, Repr

/-- The databases that are no templates, the roles and what refers to them. -/
@[ext]
structure Cluster where
  databases : List String
  roles : List Role
  dependencies : List Dependency
  distinctDatabases : databases.Nodup
  distinctRoles : (roles.map Role.name).Nodup
  deriving DecidableEq

/-- The system catalogues whose names are searched. -/
inductive Catalogue where
  | pg_database
  | pg_roles
  deriving DecidableEq, Repr

/-- A privilege that is granted to a role. -/
inductive Privilege where
  | connectOnDatabase (database : String)
  | usageOnSchema
  | onAllTables
  | onAllSequences
  | defaultOnTables (owner : String)
  | defaultOnSequences (owner : String)
  deriving DecidableEq, Repr

/-- The statements of the handler. -/
inductive Statement where
  | databaseExists (datname : String)
  | createDatabase (name : String)
  | dropDatabase (name : String)
  | namesLike (catalogue : Catalogue) (pattern : List (PatternSign Char))
  | showDatabases
  | roleExists (rolname : String)
  | showUsers
  | roleCommand (sql : String)
  | dropRole (name : String)
  | grant (privilege : Privilege) (role : String)
  | terminateBackends (usename : String)
  | reassignOwned (role newOwner : String)
  | dropOwned (role : String)
  deriving DecidableEq

/-- What a statement returns. -/
abbrev Statement.Result : Statement → Type
  | .databaseExists _ => Bool
  | .namesLike _ _ => List String
  | .showDatabases => List String
  | .roleExists _ => Bool
  | .showUsers => List String
  | _ => Unit

/-- A query that returns rows in no particular order. -/
def Statement.isListing : Statement → Bool
  | .namesLike _ _ => true
  | _ => false

/-! ## Patterns -/

/-- `LIKE`: the pattern matches the whole text. -/
def like : List (PatternSign Char) → List Char → Bool
  | [], text => text.isEmpty
  | .anyText :: pattern, text => text.tails.any (like pattern)
  | .anyLetter :: _, [] => false
  | .anyLetter :: pattern, _ :: text => like pattern text
  | .letter _ :: _, [] => false
  | .letter literal :: pattern, char :: text =>
      literal == char && like pattern text

/-- `LIKE` decides what the pattern matches. -/
theorem like_iff (pattern : List (PatternSign Char)) (text : List Char) :
    like pattern text = true ↔ Matches pattern text := by
  induction pattern generalizing text with
  | nil => rw [like, matches_nil, List.isEmpty_iff]
  | cons sign pattern ih =>
      cases sign with
      | anyText => simp [like, Matches, ih]
      | anyLetter => cases text <;> simp [like, Matches, ih]
      | letter literal =>
          cases text with
          | nil => simp [like, Matches]
          | cons char text =>
              rw [like, Bool.and_eq_true, beq_iff_eq, ih]
              constructor
              · rintro ⟨rfl, found⟩
                exact ⟨text, rfl, found⟩
              · rintro ⟨rest, same, found⟩
                obtain ⟨rfl, rfl⟩ := List.cons.inj same
                exact ⟨rfl, found⟩

/-! ## Role commands -/

/-- What a role command says. -/
inductive RoleCommand where
  | create (name password : String)
  | alter (name password : String)
  deriving DecidableEq, Repr

/-- How the server reads a role command. -/
def RoleCommand.ofTokens : List SqlToken → Option RoleCommand
  | [.word verb, .word role, .identifier name, .word login, .word password,
      .literal text] =>
      if verb = "CREATE".toList ∧ role = "ROLE".toList ∧ name ≠ [] ∧
          login = "LOGIN".toList ∧ password = "PASSWORD".toList then
        some (.create (String.ofList name) (String.ofList text))
      else none
  | [.word verb, .word role, .identifier name, .word joint, .word login,
      .word password, .literal text] =>
      if verb = "ALTER".toList ∧ role = "ROLE".toList ∧ name ≠ [] ∧
          joint = "WITH".toList ∧ login = "LOGIN".toList ∧
          password = "PASSWORD".toList then
        some (.alter (String.ofList name) (String.ofList text))
      else none
  | _ => none

/-- The text of a command as the server understands it. -/
def RoleCommand.read (sql : String) : Option RoleCommand :=
  (lexSql sql.toList).bind RoleCommand.ofTokens

/--
What Knex sends of a text that comes without bindings.  It takes a question
mark for a placeholder; any other text is sent as it is.
-/
structure Knex where
  sent : String → String
  plain : ∀ sql, '?' ∉ sql.toList → sent sql = sql

/-! ## What statements do -/

namespace Cluster

variable (cluster : Cluster)

/-- The role is there. -/
def HasRole (name : String) : Prop :=
  name ∈ cluster.roles.map Role.name

instance (name : String) : Decidable (cluster.HasRole name) :=
  inferInstanceAs (Decidable (_ ∈ _))

/-- Something refers to the role. -/
def DependsOn (name : String) : Prop :=
  ∃ dependency ∈ cluster.dependencies, dependency.role = name

instance (name : String) : Decidable (cluster.DependsOn name) :=
  inferInstanceAs (Decidable (∃ _ ∈ _, _))

/-- `CREATE DATABASE`. -/
def createDatabase (name : String) (fresh : name ∉ cluster.databases) :
    Cluster :=
  { cluster with
    databases := cluster.databases ++ [name]
    distinctDatabases := List.nodup_append.mpr
      ⟨cluster.distinctDatabases, List.nodup_singleton name,
        fun old member new isNew same => fresh (by
          rwa [← List.mem_singleton.mp isNew, ← same])⟩ }

/-- `DROP DATABASE IF EXISTS`: what is in it goes with it. -/
def dropDatabase (name : String) : Cluster :=
  { cluster with
    databases := cluster.databases.filter (· ≠ name)
    dependencies := cluster.dependencies.filter (·.database ≠ name)
    distinctDatabases := cluster.distinctDatabases.filter _ }

/-- `CREATE ROLE`. -/
def createRole (role : Role) (fresh : ¬ cluster.HasRole role.name) : Cluster :=
  { cluster with
    roles := cluster.roles ++ [role]
    distinctRoles := by
      rw [List.map_append, List.nodup_append]
      refine ⟨cluster.distinctRoles, List.nodup_singleton _, ?_⟩
      rintro old member new isNew rfl
      exact fresh (List.mem_singleton.mp isNew ▸ member) }

/-- The new password of a role that is named. -/
def repassword (role old : Role) : Role :=
  if old.name = role.name then role else old

theorem repassword_name (role old : Role) :
    (repassword role old).name = old.name := by
  unfold repassword
  split
  · next same => exact same.symm
  · rfl

/-- `ALTER ROLE`. -/
def alterRole (role : Role) : Cluster :=
  { cluster with
    roles := cluster.roles.map (repassword role)
    distinctRoles := by
      have same : Role.name ∘ repassword role = Role.name :=
        funext (repassword_name role)
      rw [List.map_map, same]
      exact cluster.distinctRoles }

/-- `DROP ROLE IF EXISTS` of a role that nothing refers to. -/
def dropRole (name : String) : Cluster :=
  { cluster with
    roles := cluster.roles.filter (·.name ≠ name)
    distinctRoles := cluster.distinctRoles.sublist
      (List.filter_sublist.map Role.name) }

/-- Something new refers to a role. -/
def depend (dependency : Dependency) : Cluster :=
  { cluster with dependencies := dependency :: cluster.dependencies }

/-- `REASSIGN OWNED BY` in the database `current`. -/
def reassignOwned (current role newOwner : String) : Cluster :=
  { cluster with
    dependencies := cluster.dependencies.map fun dependency =>
      if dependency.role = role ∧ dependency.database = current ∧
          dependency.kind = .owned then
        { dependency with role := newOwner }
      else dependency }

/-- `DROP OWNED BY` in the database `current`. -/
def dropOwned (current role : String) : Cluster :=
  { cluster with
    dependencies := cluster.dependencies.filter fun dependency =>
      ¬ (dependency.role = role ∧
        (dependency.database = current ∨ dependency.kind = .connect)) }

end Cluster

/-- `role "..." does not exist`. -/
def noSuchRole (name : String) : String :=
  "role \"" ++ name ++ "\" does not exist"

/-- What a privilege makes of its role, in the database `current`. -/
def Privilege.dependency (current role : String) : Privilege → Dependency
  | .connectOnDatabase database => ⟨role, database, .connect⟩
  | _ => ⟨role, current, .granted⟩

/-- The error of a privilege that names what is not there. -/
def Privilege.missing? (cluster : Cluster) : Privilege → Option String
  | .connectOnDatabase database =>
      if database ∈ cluster.databases then none
      else some ("database \"" ++ database ++ "\" does not exist")
  | .defaultOnTables owner | .defaultOnSequences owner =>
      if cluster.HasRole owner then none else some (noSuchRole owner)
  | _ => none

/-- The names of a catalogue. -/
def Cluster.names (cluster : Cluster) : Catalogue → List String
  | .pg_database => cluster.databases
  | .pg_roles => cluster.roles.map Role.name

/-- The names of a catalogue that match a pattern. -/
def Cluster.namesLike (cluster : Cluster) (catalogue : Catalogue)
    (pattern : List (PatternSign Char)) : List String :=
  (cluster.names catalogue).filter fun name => like pattern name.toList

/-- Execute a role command. -/
def RoleCommand.run (cluster : Cluster) : RoleCommand → Except String Cluster
  | .create name password =>
      if fresh : ¬ cluster.HasRole name then
        .ok (cluster.createRole ⟨name, password⟩ fresh)
      else .error ("role \"" ++ name ++ "\" already exists")
  | .alter name password =>
      if cluster.HasRole name then .ok (cluster.alterRole ⟨name, password⟩)
      else .error (noSuchRole name)

/-- Execute a statement that does not list, in the database `current`. -/
def Statement.run (knex : Knex) (current : String) (cluster : Cluster) :
    (statement : Statement) → Except String (statement.Result × Cluster)
  | .databaseExists datname =>
      .ok (decide (datname ∈ cluster.databases), cluster)
  | .createDatabase name =>
      if fresh : name ∉ cluster.databases then
        .ok ((), cluster.createDatabase name fresh)
      else .error ("database \"" ++ name ++ "\" already exists")
  | .dropDatabase name => .ok ((), cluster.dropDatabase name)
  | .namesLike catalogue pattern =>
      .ok (cluster.namesLike catalogue pattern, cluster)
  | .showDatabases => .ok (cluster.databases.mergeSort, cluster)
  | .roleExists rolname => .ok (decide (cluster.HasRole rolname), cluster)
  | .showUsers => .ok ((cluster.roles.map Role.name).mergeSort, cluster)
  | .roleCommand sql =>
      match RoleCommand.read (knex.sent sql) with
      | none => .error "syntax error"
      | some command => (command.run cluster).map fun after => ((), after)
  | .dropRole name =>
      if cluster.DependsOn name then
        .error ("role \"" ++ name ++
          "\" cannot be dropped because some objects depend on it")
      else .ok ((), cluster.dropRole name)
  | .grant privilege role =>
      if cluster.HasRole role then
        match privilege.missing? cluster with
        | some message => .error message
        | none =>
            .ok ((), cluster.depend (privilege.dependency current role))
      else .error (noSuchRole role)
  | .terminateBackends _ => .ok ((), cluster)
  | .reassignOwned role newOwner =>
      if cluster.HasRole role then
        if cluster.HasRole newOwner then
          .ok ((), cluster.reassignOwned current role newOwner)
        else .error (noSuchRole newOwner)
      else .error (noSuchRole role)
  | .dropOwned role =>
      if cluster.HasRole role then .ok ((), cluster.dropOwned current role)
      else .error (noSuchRole role)

end PaymentPortal.Maintenance
