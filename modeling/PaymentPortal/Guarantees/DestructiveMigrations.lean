import PaymentPortal.Lexical.AlterTable
import PaymentPortal.Model.MigrationScanner

/-!
# Destructive actions that the scanner finds

The scanner reads no grammar.  It finds the words of an `ALTER TABLE` statement
in whatever way the statement is written, but a column may be dropped or added
without the word COLUMN, and DEFAULT may stand in the same part of the statement
for another reason than a default of the column.
-/

namespace PaymentPortal.Guarantees

open PaymentPortal.Lexical
open PaymentPortal.Model

/-- The rules name every destructive action of the statement. -/
structure MissesNothing (statement : AlterTable) (rules : List Rule) :
    Prop where
  required : ∀ action ∈ statement.actions,
    action.AddsRequiredColumn ∨ action.SetsNotNull →
      .notNullWithoutDefault ∈ rules
  drops : ∀ action ∈ statement.actions,
    action.DropsColumn → .dropColumn ∈ rules
  renames : ∀ action ∈ statement.actions, action.Renames → .rename ∈ rules

/--
The words by which the actions are found: DROP COLUMN where a column is dropped;
where a required column is added, SET NOT NULL, or a part of the statement with
ADD COLUMN and NOT NULL but without DEFAULT.
-/
structure Detectable (statement : AlterTable) : Prop where
  drops : ∀ action ∈ statement.actions, action.DropsColumn →
    Says ["DROP", "COLUMN"] statement.signs
  required : ∀ action ∈ statement.actions, action.AddsRequiredColumn →
    (∃ clause ∈ clauses statement.signs, AddsNotNull clause) ∨
      Says ["SET", "NOT", "NULL"] statement.signs

/-! ## Keywords of a statement -/

/-- Keywords in a row are words side by side. -/
theorem says_of_keywords {words : List String} {lexemes : List Lexeme}
    (areWords : ∀ word ∈ words, IsWord word.toList)
    (found : words.map Lexeme.keyword <:+: lexemes) :
    Says words (lexemes.flatMap Lexeme.signs) := by
  obtain ⟨before, after, rfl⟩ := found
  rw [Says, List.flatMap_append, List.flatMap_append, signs_keywords areWords]
  exact List.infix_append _ _ _

theorem lexemes_among {statement : AlterTable} {action : AlterAction}
    (among : action ∈ statement.actions) :
    action.lexemes <:+: statement.lexemes := by
  rw [AlterTable.lexemes]
  refine List.IsInfix.trans ?_ (List.prefix_append _ _).isInfix
  rcases List.mem_cons.mp among with rfl | further
  · exact (List.suffix_append _ _).isInfix.trans
      (List.prefix_append _ _).isInfix
  · refine List.IsInfix.trans ?_ (List.suffix_append _ _).isInfix
    obtain ⟨before, after, parts⟩ := List.append_of_mem further
    rw [parts, List.flatMap_append, List.flatMap_cons]
    exact (List.suffix_cons _ _).isInfix.trans
      ((List.prefix_append _ _).isInfix.trans
        (List.suffix_append _ _).isInfix)

/-- The keywords of an action stand side by side in the statement. -/
theorem says_of_action {statement : AlterTable} {action : AlterAction}
    {words : List String} (areWords : ∀ word ∈ words, IsWord word.toList)
    (among : action ∈ statement.actions)
    (found : words.map Lexeme.keyword <:+: action.lexemes) :
    Says words statement.signs :=
  says_of_keywords areWords (found.trans (lexemes_among among))

theorem says_alter_table (statement : AlterTable) :
    Says ["ALTER", "TABLE"] statement.signs := by
  refine says_of_keywords (by decide) ?_
  rw [AlterTable.lexemes, AlterTable.header]
  simp only [List.append_assoc]
  exact (List.prefix_append _ _).isInfix

theorem says_rename {statement : AlterTable} {action : AlterAction}
    (among : action ∈ statement.actions) (renames : action.Renames) :
    Says ["RENAME"] statement.signs := by
  refine says_of_action (by decide) among ?_
  cases action with
  | renameTable name => exact (List.prefix_append _ _).isInfix
  | renameColumn column name newName =>
      rw [AlterAction.lexemes, List.append_assoc]
      exact (List.prefix_append _ _).isInfix
  | renameConstraint name newName => exact (List.prefix_append _ _).isInfix
  | addColumn | alterColumn | dropColumn | addConstraint => cases renames

theorem says_set_not_null {statement : AlterTable} {action : AlterAction}
    (among : action ∈ statement.actions) (sets : action.SetsNotNull) :
    Says ["SET", "NOT", "NULL"] statement.signs := by
  refine says_of_action (by decide) among ?_
  cases action with
  | alterColumn column name change =>
      obtain rfl : change = .setNotNull := sets
      exact (List.suffix_append _ _).isInfix
  | _ => cases sets

/-! ## Actions that are spelled out -/

/-- The action is on a column and says so. -/
def SpellsColumn : AlterAction → Prop
  | .addColumn column _ _ _ _ => column = true
  | .alterColumn column _ _ => column = true
  | .dropColumn column _ _ _ => column = true
  | _ => False

/-- The actions, the first one with what stands in front of it. -/
def parts (statement : AlterTable) : List (List Sign) :=
  (statement.header.flatMap Lexeme.signs ++ statement.action.signs) ::
    statement.furtherActions.map AlterAction.signs

theorem beginsColumnAction_append_comma (text rest : List Sign) :
    beginsColumnAction (text ++ .mark ',' :: rest) =
      beginsColumnAction text := by
  simp only [beginsColumnAction, beginsWith_append_mark]

/-- A spelled-out action is what the scanner splits a statement in front of. -/
theorem beginsColumnAction_of_spelled {action : AlterAction}
    (spelled : SpellsColumn action) (rest : List Sign) :
    beginsColumnAction (action.signs ++ rest) = true := by
  have begins : ∀ word ∈ ["ADD", "ALTER", "DROP"], ∀ lexemes,
      beginsColumnAction ((([word, "COLUMN"].map Lexeme.keyword ++
        lexemes).flatMap Lexeme.signs) ++ rest) = true := by
    intro word among lexemes
    have areWords : ∀ other ∈ [word, "COLUMN"], IsWord other.toList := by
      revert word
      decide
    have found : beginsWith [word.toList, "COLUMN".toList]
        ((([word, "COLUMN"].map Lexeme.keyword ++ lexemes).flatMap
          Lexeme.signs) ++ rest) = true := by
      rw [List.flatMap_append, signs_keywords areWords, List.append_assoc]
      exact List.isPrefixOf_iff_prefix.mpr (List.prefix_append _ _)
    rw [beginsColumnAction, Bool.or_eq_true, Bool.or_eq_true]
    simp only [List.mem_cons, List.not_mem_nil, or_false] at among
    rcases among with rfl | rfl | rfl
    · exact .inl found
    · exact .inr (.inl found)
    · exact .inr (.inr found)
  cases action with
  | addColumn column ifNotExists name type constraints =>
      obtain rfl : column = true := spelled
      exact begins "ADD" (by decide) _
  | alterColumn column name change =>
      obtain rfl : column = true := spelled
      exact begins "ALTER" (by decide) _
  | dropColumn column ifExists name behaviour =>
      obtain rfl : column = true := spelled
      exact begins "DROP" (by decide) _
  | _ => cases spelled

/-- Where every action is spelled out, the scanner checks each on its own. -/
theorem clauses_eq_parts {statement : AlterTable}
    (noSemicolon : statement.semicolon = false)
    (spelled : ∀ action ∈ statement.furtherActions, SpellsColumn action)
    (whole : ∀ part ∈ parts statement, clauses part = [part]) :
    clauses statement.signs = parts statement := by
  have run : ∀ (actions : List AlterAction) (first : List Sign),
      (∀ action ∈ actions, SpellsColumn action) →
      (∀ part ∈ first :: actions.map AlterAction.signs,
        clauses part = [part]) →
      clauses (first ++ actions.flatMap fun action =>
        .mark ',' :: action.signs) = first :: actions.map AlterAction.signs := by
    intro actions
    induction actions with
    | nil =>
        intro first _ whole
        rw [List.flatMap_nil, List.append_nil]
        exact whole first List.mem_cons_self
    | cons action actions ih =>
        intro first spelled whole
        obtain ⟨own, others⟩ := List.forall_mem_cons.mp spelled
        obtain ⟨firstWhole, rest⟩ := List.forall_mem_cons.mp whole
        rw [List.flatMap_cons, List.cons_append, clauses, stretches_append
          beginsColumnAction_append_comma (beginsColumnAction_of_spelled own _)]
        exact congrArg₂ _ firstWhole (ih action.signs others rest)
  have signs_eq : statement.signs =
      (statement.header.flatMap Lexeme.signs ++ statement.action.signs) ++
        statement.furtherActions.flatMap fun action =>
          .mark ',' :: action.signs := by
    have comma : (Lexeme.text ",").signs = [.mark ','] := by decide
    simp [AlterTable.signs, AlterTable.lexemes, noSemicolon, AlterAction.signs,
      List.flatMap_append, List.flatMap_assoc, List.flatMap_cons, comma]
  rw [signs_eq]
  exact run _ _ spelled whole

theorem exists_part {statement : AlterTable} {action : AlterAction}
    (among : action ∈ statement.actions) :
    ∃ part ∈ parts statement, action.signs <:+: part ∧
      part <:+: statement.header.flatMap Lexeme.signs ++ action.signs := by
  rcases List.mem_cons.mp among with rfl | further
  · exact ⟨_, List.mem_cons_self, (List.suffix_append _ _).isInfix,
      List.infix_rfl⟩
  · exact ⟨_, List.mem_cons_of_mem _ (List.mem_map_of_mem further),
      List.infix_rfl, (List.suffix_append _ _).isInfix⟩

theorem says_add_column {action : AlterAction} (spelled : SpellsColumn action)
    (adds : action.AddsRequiredColumn) :
    Says ["ADD", "COLUMN"] action.signs ∧
      Says ["NOT", "NULL"] action.signs := by
  cases action with
  | addColumn column ifNotExists name type constraints =>
      obtain rfl : column = true := spelled
      obtain ⟨named, among, isNotNull⟩ := List.mem_map.mp adds.1
      constructor
      · exact says_of_keywords (by decide) ⟨[], _, rfl⟩
      · refine says_of_keywords (by decide) ?_
        obtain ⟨before, after, rfl⟩ := List.append_of_mem among
        rw [AlterAction.lexemes, List.flatMap_append, List.flatMap_cons,
          NamedConstraint.lexemes, isNotNull]
        refine List.IsInfix.trans ?_ (List.suffix_append _ _).isInfix
        refine List.IsInfix.trans ?_ (List.suffix_append _ _).isInfix
        refine List.IsInfix.trans ?_ (List.prefix_append _ _).isInfix
        exact (List.suffix_append _ _).isInfix
  | _ => cases adds

/--
Where every action is spelled out, the scanner finds a required column unless
its own action or what stands in front of the actions says DEFAULT.
-/
theorem Detectable.of_spelled {statement : AlterTable}
    (noSemicolon : statement.semicolon = false)
    (spelled : ∀ action ∈ statement.actions, SpellsColumn action)
    (whole : ∀ part ∈ parts statement, clauses part = [part])
    (plain : ∀ action ∈ statement.actions, action.AddsRequiredColumn →
      ¬ Says ["DEFAULT"]
        (statement.header.flatMap Lexeme.signs ++ action.signs)) :
    Detectable statement where
  drops action among isDrop := by
    have own := spelled action among
    refine says_of_action (by decide) among ?_
    cases action with
    | dropColumn column ifExists name behaviour =>
        obtain rfl : column = true := own
        exact ⟨[], _, rfl⟩
    | _ => cases isDrop
  required action among adds := by
    have checked := clauses_eq_parts noSemicolon
      (fun other further => spelled other (List.mem_cons_of_mem _ further))
      whole
    obtain ⟨part, isPart, holds, held⟩ := exists_part among
    obtain ⟨saysAdd, saysNotNull⟩ := says_add_column (spelled action among) adds
    exact .inl ⟨part, checked ▸ isPart, saysAdd.trans holds,
      saysNotNull.trans holds, fun found => plain action among adds
        (found.trans held)⟩

/-! ## Missed actions -/

/--
The scanner misses nothing if and only if the statement has the words by which
it finds the dropped and the required columns; it always finds the renamings and
the columns that become required.
-/
theorem scanSql_misses_nothing_iff {statement : AlterTable} {sql : String}
    (renders : Renders statement.lexemes sql.toList) :
    MissesNothing statement (scanSql sql) ↔ Detectable statement := by
  have text : signs sql.toList = statement.signs := renders.signs
  have alters := says_alter_table statement
  constructor
  · rintro ⟨required, drops, -⟩
    constructor
    · intro action among isDrop
      exact ((dropColumn_mem_scanSql text).mp (drops action among isDrop)).2
    · intro action among adds
      exact ((notNullWithoutDefault_mem_scanSql text).mp
        (required action among (.inl adds))).2
  · rintro ⟨drops, required⟩
    constructor
    · rintro action among (adds | sets)
      · exact (notNullWithoutDefault_mem_scanSql text).mpr
          ⟨alters, required action among adds⟩
      · exact (notNullWithoutDefault_mem_scanSql text).mpr
          ⟨alters, .inr (says_set_not_null among sets)⟩
    · intro action among isDrop
      exact (dropColumn_mem_scanSql text).mpr
        ⟨alters, drops action among isDrop⟩
    · intro action among renames
      exact (rename_mem_scanSql text).mpr ⟨alters, says_rename among renames⟩

/-- `ALTER TABLE t ADD COLUMN a int NOT NULL, DROP COLUMN b` -/
def spelledOut : AlterTable where
  ifExists := false
  only := false
  schema := none
  table := .plain "t"
  action := .addColumn true false (.plain "a") "int" [⟨none, .notNull⟩]
  furtherActions := [.dropColumn true false (.plain "b") none]
  semicolon := false

theorem scanSql_misses_nothing_iff_spelled_out :
    MissesNothing spelledOut
      (scanSql (String.ofList (spaced spelledOut.lexemes))) := by
  have renders : Renders spelledOut.lexemes
      (String.ofList (spaced spelledOut.lexemes)).toList := by
    rw [String.toList_ofList]
    exact renders_spaced spelledOut.lexemes
  have text : spelledOut.signs = [.word "alter".toList, .word "table".toList,
      .word "t".toList, .word "add".toList, .word "column".toList,
      .word "a".toList, .word "int".toList, .word "not".toList,
      .word "null".toList, .mark ',', .word "drop".toList,
      .word "column".toList, .word "b".toList] := by decide
  refine (scanSql_misses_nothing_iff renders).mpr ⟨?_, ?_⟩
  · intro action among isDrop
    rw [text]
    decide
  · intro action among adds
    rw [text]
    exact .inl (by decide)

/-- `alter table t drop c` -/
def columnlessDrop : AlterTable where
  ifExists := false
  only := false
  schema := none
  table := .plain "t"
  action := .dropColumn false false (.plain "c") none
  furtherActions := []
  semicolon := false

theorem renders_columnlessDrop :
    Renders columnlessDrop.lexemes "alter table t drop c".toList := by
  have parts : "alter table t drop c".toList =
      [] ++ (['a', 'l', 't', 'e', 'r'] ++ ([' '] ++
        (['t', 'a', 'b', 'l', 'e'] ++ ([' '] ++ (['t'] ++ ([' '] ++
          (['d', 'r', 'o', 'p'] ++ ([' '] ++ (['c'] ++ []))))))))) := by decide
  rw [parts]
  exact .next (by decide) (Lexeme.spells_keyword (by decide)) (by decide)
    (.next (by decide) (Lexeme.spells_keyword (by decide)) (by decide)
      (.next (by decide) rfl (by decide)
        (.next (by decide) (Lexeme.spells_keyword (by decide)) (by decide)
          (.next (by decide) rfl (by decide) (.done (by decide))))))

/-- A column is dropped and no rule is violated. -/
theorem scanSql_misses_columnless_drop :
    Renders columnlessDrop.lexemes "alter table t drop c".toList ∧
      ¬ MissesNothing columnlessDrop (scanSql "alter table t drop c") := by
  refine ⟨renders_columnlessDrop, fun missesNothing => ?_⟩
  have text : signs "alter table t drop c".toList =
      [.word "alter".toList, .word "table".toList, .word "t".toList,
        .word "drop".toList, .word "c".toList] := by decide
  have drops := missesNothing.drops _ List.mem_cons_self trivial
  have absent : ¬ Says ["DROP", "COLUMN"]
      [.word "alter".toList, .word "table".toList, .word "t".toList,
        .word "drop".toList, .word "c".toList] := by decide
  exact absent ((dropColumn_mem_scanSql text).mp drops).2

end PaymentPortal.Guarantees
