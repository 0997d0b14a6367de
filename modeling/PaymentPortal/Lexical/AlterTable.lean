import PaymentPortal.Lexical.Phrases
import PaymentPortal.Lexical.Rendering

/-!
# `ALTER TABLE` statements

The statements that PostgreSQL reads as `ALTER TABLE` with actions on columns
and constraints.  Types and expressions are texts; so are the constraints and
the changes of a column that have no part in what follows.
-/

namespace PaymentPortal.Lexical

/-- A name, with or without quotes. -/
inductive Identifier where
  | plain (characters : String)
  | quoted (characters : String)
  deriving DecidableEq, Repr

/-- A quote within quotes is written twice. -/
def doubleQuotes (char : Char) : List Char :=
  if char = '"' then ['"', '"'] else [char]

def Identifier.lexeme : Identifier → Lexeme
  | plain characters => .text characters
  | quoted characters =>
    .text (String.ofList ('"' :: characters.toList.flatMap doubleQuotes ++
      ['"']))

/-- Words that may be left out. -/
def optional (given : Bool) (words : List String) : List Lexeme :=
  if given then words.map .keyword else []

/-- What a column definition says about the column after its type. -/
inductive ColumnConstraint where
  | notNull
  | null
  | default (expression : String)
  | check (expression : String)
  | other (definition : String)
  deriving DecidableEq, Repr

def ColumnConstraint.lexemes : ColumnConstraint → List Lexeme
  | notNull => [.keyword "NOT", .keyword "NULL"]
  | null => [.keyword "NULL"]
  | default expression => [.keyword "DEFAULT", .text expression]
  | check expression =>
    [.keyword "CHECK", .text "(", .text expression, .text ")"]
  | other definition => [.text definition]

/-- A constraint that may have a name. -/
structure NamedConstraint where
  name : Option Identifier
  constraint : ColumnConstraint
  deriving DecidableEq, Repr

def NamedConstraint.lexemes (named : NamedConstraint) : List Lexeme :=
  (named.name.map fun name => [.keyword "CONSTRAINT", name.lexeme]).getD [] ++
    named.constraint.lexemes

/-- A constraint on the table. -/
inductive TableConstraint where
  | check (expression : String)
  | other (definition : String)
  deriving DecidableEq, Repr

def TableConstraint.lexemes : TableConstraint → List Lexeme
  | check expression =>
    [.keyword "CHECK", .text "(", .text expression, .text ")"]
  | other definition => [.text definition]

/-- What is changed about a column. -/
inductive ColumnChange where
  | setNotNull
  | dropNotNull
  | setDefault (expression : String)
  | dropDefault
  | type (setData : Bool) (definition : String)
  | other (definition : String)
  deriving DecidableEq, Repr

def ColumnChange.lexemes : ColumnChange → List Lexeme
  | setNotNull => [.keyword "SET", .keyword "NOT", .keyword "NULL"]
  | dropNotNull => [.keyword "DROP", .keyword "NOT", .keyword "NULL"]
  | setDefault expression =>
    [.keyword "SET", .keyword "DEFAULT", .text expression]
  | dropDefault => [.keyword "DROP", .keyword "DEFAULT"]
  | type setData definition =>
    optional setData ["SET", "DATA"] ++ [.keyword "TYPE", .text definition]
  | other definition => [.text definition]

/-- What happens to what depends on a column that is dropped. -/
inductive DropBehaviour where
  | cascade
  | restrict
  deriving DecidableEq, Repr

def DropBehaviour.lexeme : DropBehaviour → Lexeme
  | cascade => .keyword "CASCADE"
  | restrict => .keyword "RESTRICT"

/-- An action; `column` is whether the word COLUMN is there. -/
inductive AlterAction where
  | addColumn (column ifNotExists : Bool) (name : Identifier) (type : String)
      (constraints : List NamedConstraint)
  | alterColumn (column : Bool) (name : Identifier) (change : ColumnChange)
  | dropColumn (column ifExists : Bool) (name : Identifier)
      (behaviour : Option DropBehaviour)
  | renameTable (name : Identifier)
  | renameColumn (column : Bool) (name newName : Identifier)
  | renameConstraint (name newName : Identifier)
  | addConstraint (name : Identifier) (constraint : TableConstraint)
  deriving DecidableEq, Repr

namespace AlterAction

def lexemes : AlterAction → List Lexeme
  | addColumn column ifNotExists name type constraints =>
    [.keyword "ADD"] ++ optional column ["COLUMN"] ++
      optional ifNotExists ["IF", "NOT", "EXISTS"] ++
      [name.lexeme, .text type] ++ constraints.flatMap NamedConstraint.lexemes
  | alterColumn column name change =>
    [.keyword "ALTER"] ++ optional column ["COLUMN"] ++ [name.lexeme] ++
      change.lexemes
  | dropColumn column ifExists name behaviour =>
    [.keyword "DROP"] ++ optional column ["COLUMN"] ++
      optional ifExists ["IF", "EXISTS"] ++ [name.lexeme] ++
      behaviour.toList.map DropBehaviour.lexeme
  | renameTable name => [.keyword "RENAME", .keyword "TO", name.lexeme]
  | renameColumn column name newName =>
    [.keyword "RENAME"] ++ optional column ["COLUMN"] ++
      [name.lexeme, .keyword "TO", newName.lexeme]
  | renameConstraint name newName =>
    [.keyword "RENAME", .keyword "CONSTRAINT", name.lexeme, .keyword "TO",
      newName.lexeme]
  | addConstraint name constraint =>
    [.keyword "ADD", .keyword "CONSTRAINT", name.lexeme] ++ constraint.lexemes

/-- The action adds a NOT NULL column that has no DEFAULT clause. -/
def AddsRequiredColumn : AlterAction → Prop
  | addColumn _ _ _ _ constraints =>
    .notNull ∈ constraints.map NamedConstraint.constraint ∧
      ∀ expression,
        .default expression ∉ constraints.map NamedConstraint.constraint
  | _ => False

/-- The action sets NOT NULL on a column. -/
def SetsNotNull : AlterAction → Prop
  | alterColumn _ _ change => change = .setNotNull
  | _ => False

/-- The action drops a column. -/
def DropsColumn : AlterAction → Prop
  | dropColumn .. => True
  | _ => False

/-- The action renames the table, a column or a constraint. -/
def Renames : AlterAction → Prop
  | renameTable _ => True
  | renameColumn .. => True
  | renameConstraint .. => True
  | _ => False

end AlterAction

/-- An `ALTER TABLE` statement; there is at least one action. -/
structure AlterTable where
  ifExists : Bool
  only : Bool
  schema : Option Identifier
  table : Identifier
  action : AlterAction
  furtherActions : List AlterAction
  semicolon : Bool
  deriving DecidableEq, Repr

namespace AlterTable

def actions (statement : AlterTable) : List AlterAction :=
  statement.action :: statement.furtherActions

/-- What stands in front of the actions. -/
def header (statement : AlterTable) : List Lexeme :=
  [.keyword "ALTER", .keyword "TABLE"] ++
    optional statement.ifExists ["IF", "EXISTS"] ++
    optional statement.only ["ONLY"] ++
    (statement.schema.map fun name => [name.lexeme, .text "."]).getD [] ++
    [statement.table.lexeme]

def lexemes (statement : AlterTable) : List Lexeme :=
  statement.header ++ statement.action.lexemes ++
    (statement.furtherActions.flatMap fun action =>
      .text "," :: action.lexemes) ++
    if statement.semicolon then [.text ";"] else []

end AlterTable

/-! ## Words and marks -/

def AlterAction.signs (action : AlterAction) : List Sign :=
  action.lexemes.flatMap Lexeme.signs

def AlterTable.signs (statement : AlterTable) : List Sign :=
  statement.lexemes.flatMap Lexeme.signs

theorem signs_keyword {word : String} (isWord : IsWord word.toList) :
    (Lexeme.keyword word).signs = [keywordSign word.toList] := by
  have signs_eq := signs_word isWord.nonempty isWord.wordChars
    (show isWordAt ([] : List Char).head? = false from rfl)
  rwa [List.append_nil] at signs_eq

theorem signs_keywords {words : List String}
    (areWords : ∀ word ∈ words, IsWord word.toList) :
    (words.map Lexeme.keyword).flatMap Lexeme.signs =
      words.map fun word => keywordSign word.toList := by
  rw [List.flatMap_map, List.map_eq_flatMap]
  exact List.flatMap_congr fun word among => signs_keyword (areWords word among)

end PaymentPortal.Lexical
