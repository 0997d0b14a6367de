import PaymentPortal.Maintenance.MigrationHandler

/-!
# The text of a role command

`CREATE ROLE` and `ALTER ROLE` take no bindings, so `provisionUser` writes the
name and the password of a role into the text.  The server reads them back from
it whatever characters they contain: no name and no password can end its
quotation early and go on with a command of its own.
-/

namespace PaymentPortal.Maintenance

open PaymentPortal.Lexical

/-- The pieces of the text. -/
def rolePieces (alter : Bool) (prRole prPassword : String) : List SqlPiece :=
  if alter then
    [.word "ALTER".toList, .word "ROLE".toList, .identifier prRole.toList,
      .word "WITH".toList, .word "LOGIN".toList, .word "PASSWORD".toList,
      .literal prPassword.toList]
  else
    [.word "CREATE".toList, .word "ROLE".toList, .identifier prRole.toList,
      .word "LOGIN".toList, .word "PASSWORD".toList,
      .literal prPassword.toList]

theorem rolePieces_wellFormed (alter : Bool) (prRole prPassword : String) :
    ∀ piece ∈ rolePieces alter prRole prPassword, piece.WellFormed := by
  cases alter <;>
    simp [rolePieces, SqlPiece.WellFormed] <;> decide

/-- The text consists of its pieces. -/
theorem roleSql_toList (alter : Bool) (prRole prPassword : String) :
    (roleSql alter prRole prPassword).toList =
      joined (rolePieces alter prRole prPassword) := by
  cases alter <;>
    simp [roleSql, rolePieces, joined, SqlPiece.written, quoteSqlIdentifier,
      quoteSqlLiteral]

/-- The command that is meant. -/
def roleCommandOf (alter : Bool) (prRole prPassword : String) : RoleCommand :=
  if alter then .alter prRole prPassword else .create prRole prPassword

/-- The server reads the command that is meant. -/
theorem read_roleSql (alter : Bool) {prRole : String} (prPassword : String)
    (named : prRole ≠ "") :
    RoleCommand.read (roleSql alter prRole prPassword) =
      some (roleCommandOf alter prRole prPassword) := by
  have nonempty : prRole.toList ≠ [] := by simpa using named
  rw [RoleCommand.read, roleSql_toList,
    lexSql_joined (rolePieces_wellFormed alter prRole prPassword)]
  cases alter with
  | false =>
      refine (if_pos ⟨rfl, rfl, nonempty, rfl, rfl⟩).trans ?_
      rw [roleCommandOf, String.ofList_toList, String.ofList_toList]
      rfl
  | true =>
      refine (if_pos ⟨rfl, rfl, nonempty, rfl, rfl, rfl⟩).trans ?_
      rw [roleCommandOf, String.ofList_toList, String.ofList_toList]
      rfl

/-- A text that is to be sent to the server without placeholders. -/
def Plain (secret : Secret) : Prop :=
  '?' ∉ secret.username.toList ∧ '?' ∉ secret.password.toList

instance (secret : Secret) : Decidable (Plain secret) :=
  inferInstanceAs (Decidable (_ ∧ _))

/-- The server reads what is meant when Knex takes nothing for a placeholder. -/
theorem read_sent_roleSql (knex : Knex) (alter : Bool) {secret : Secret}
    (plain : Plain secret) :
    RoleCommand.read
        (knex.sent (roleSql alter secret.username secret.password)) =
      some (roleCommandOf alter secret.username secret.password) := by
  rw [knex.plain, read_roleSql alter _ secret.hasUsername]
  rw [roleSql_toList]
  cases alter <;>
    simp [rolePieces, joined, SqlPiece.written, quoted, mem_doubled, plain.1,
      plain.2]

end PaymentPortal.Maintenance
