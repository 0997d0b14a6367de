import PaymentPortal.Lexical.Collapsing
import PaymentPortal.Lexical.Stretches

/-!
# The migration safety scanner

`migrationSafety/scanner.ts`, without the report for the pull request.
-/

namespace PaymentPortal.Model

open PaymentPortal.Lexical

/-- `Rule`. -/
inductive Rule where
  | dropTable
  | dropColumn
  | rename
  | notNullWithoutDefault
  deriving DecidableEq, Repr

/-- `SqlStatement`. -/
structure SqlStatement where
  file : String
  sql : String
  deriving DecidableEq, Repr

/-- `Finding`. -/
structure Finding where
  rule : Rule
  file : String
  statement : String
  acknowledged : Bool
  deriving DecidableEq, Repr

/-- `/\bWORD\s+…\b/i`. -/
def wordsRegex (word : String) (words : List String) : Regex :=
  .phrase word.toList (words.map String.toList)

/-- `/WORD\s+…\b/i`. -/
def followingWordsRegex (word : String) (words : List String) : Regex :=
  .adjacent word.toList (words.map String.toList)

/-- `/,\s*(?=ADD\s+COLUMN\b|ALTER\s+COLUMN\b|DROP\s+COLUMN\b)/i`. -/
def clauseRegex : Regex :=
  .markBefore ',' (.alt (followingWordsRegex "ADD" ["COLUMN"])
    (.alt (followingWordsRegex "ALTER" ["COLUMN"])
      (followingWordsRegex "DROP" ["COLUMN"])))

/-- `normalize`. -/
def normalize (sql : String) : String :=
  String.ofList (trim (Regex.spaces.replaceAll [' '] sql.toList))

/-- `scanSql`. -/
def scanSql (sql : String) : List Rule :=
  let s := (normalize sql).toList
  let isAlterTable := (wordsRegex "ALTER" ["TABLE"]).test s
  let addColumnClauses :=
    if isAlterTable then
      (clauseRegex.split s).filter (wordsRegex "ADD" ["COLUMN"]).test
    else []
  let addsNotNullColumn := addColumnClauses.any fun clause =>
    (wordsRegex "NOT" ["NULL"]).test clause &&
      !(wordsRegex "DEFAULT" []).test clause
  let setsNotNull := isAlterTable && (wordsRegex "SET" ["NOT", "NULL"]).test s
  (if (wordsRegex "DROP" ["TABLE"]).test s then [.dropTable] else []) ++
    (if isAlterTable && (wordsRegex "DROP" ["COLUMN"]).test s then
      [.dropColumn]
    else []) ++
    (if isAlterTable && (wordsRegex "RENAME" []).test s then [.rename]
    else []) ++
    (if addsNotNullColumn || setsNotNull then [.notNullWithoutDefault] else [])

/-- `scanStatements`. -/
def scanStatements (statements : List SqlStatement)
    (acknowledgedFiles : List String) : List Finding :=
  statements.flatMap fun statement =>
    (scanSql statement.sql).map fun rule =>
      { rule, file := statement.file, statement := normalize statement.sql,
        acknowledged := acknowledgedFiles.contains statement.file }

/-- `hasDestructive`. -/
def hasDestructive (findings : List Finding) : Bool :=
  0 < findings.length

/-- `hasUnacknowledged`. -/
def hasUnacknowledged (findings : List Finding) : Bool :=
  findings.any fun finding => !finding.acknowledged

/-! ## What is found -/

/-- The words stand side by side, in any case. -/
def Says (words : List String) (text : List Sign) : Prop :=
  words.map (fun word => keywordSign word.toList) <:+: text

instance (words : List String) (text : List Sign) :
    Decidable (Says words text) :=
  inferInstanceAs (Decidable (_ <:+: _))

/-- What follows the comma at which a statement is split. -/
def beginsColumnAction (text : List Sign) : Bool :=
  beginsWith ["ADD".toList, "COLUMN".toList] text ||
    (beginsWith ["ALTER".toList, "COLUMN".toList] text ||
      beginsWith ["DROP".toList, "COLUMN".toList] text)

/-- The parts of a statement that are checked on their own. -/
def clauses (text : List Sign) : List (List Sign) :=
  stretches ',' beginsColumnAction text

/-- A part that adds a column, says NOT NULL and does not say DEFAULT. -/
def AddsNotNull (clause : List Sign) : Prop :=
  Says ["ADD", "COLUMN"] clause ∧ Says ["NOT", "NULL"] clause ∧
    ¬ Says ["DEFAULT"] clause

instance (clause : List Sign) : Decidable (AddsNotNull clause) :=
  inferInstanceAs (Decidable (_ ∧ _ ∧ ¬ _))

/-! ### The expressions -/

theorem test_wordsRegex {word : String} {words : List String}
    (areWords : ∀ other ∈ word :: words, IsWord other.toList)
    (text : List Char) :
    (wordsRegex word words).test text = true ↔
      Says (word :: words) (signs text) := by
  obtain ⟨isWord, others⟩ := List.forall_mem_cons.mp areWords
  rw [wordsRegex, test_phrase isWord (List.forall_mem_map.mpr others), Says,
    List.map_cons, List.map_cons, List.map_map]
  rfl

theorem recognizes_followingWords {word : String} {words : List String}
    (areWords : ∀ other ∈ word :: words, IsWord other.toList) :
    Recognizes (followingWordsRegex word words)
      (beginsWith (word.toList :: words.map String.toList)) := by
  obtain ⟨isWord, others⟩ := List.forall_mem_cons.mp areWords
  exact recognizes_adjacent isWord (List.forall_mem_map.mpr others)

/-- The statement is split into its parts. -/
theorem map_signs_split (text : List Char) :
    (clauseRegex.split text).map signs = clauses (signs text) :=
  Regex.map_signs_splitFrom
    (recognizes_alt (recognizes_followingWords (by decide))
      (recognizes_alt (recognizes_followingWords (by decide))
        (recognizes_followingWords (by decide)))) rfl rfl text

theorem signs_normalize (sql : String) :
    signs (normalize sql).toList = signs sql.toList := by
  rw [normalize, String.toList_ofList, signs_trim]
  exact signs_collapsed sql.toList

/-! ### The rules -/

/-- Some clause adds a required column, as far as its words say. -/
theorem any_addColumnClauses (isAlterTable : Bool) (text : List Char) :
    ((if isAlterTable then
        (clauseRegex.split text).filter (wordsRegex "ADD" ["COLUMN"]).test
      else []).any fun clause => (wordsRegex "NOT" ["NULL"]).test clause &&
        !(wordsRegex "DEFAULT" []).test clause) = true ↔
      isAlterTable = true ∧
        ∃ clause ∈ clauses (signs text), AddsNotNull clause := by
  cases isAlterTable with
  | false => simp
  | true =>
      have adds (clause : List Char) :
          ((wordsRegex "ADD" ["COLUMN"]).test clause &&
            ((wordsRegex "NOT" ["NULL"]).test clause &&
              !(wordsRegex "DEFAULT" []).test clause)) = true ↔
            AddsNotNull (signs clause) := by
        rw [Bool.and_eq_true, Bool.and_eq_true, Bool.not_eq_true',
          ← Bool.not_eq_true, test_wordsRegex (by decide),
          test_wordsRegex (by decide), test_wordsRegex (by decide)]
        rfl
      rw [if_pos rfl, List.any_filter, List.any_eq_true, ← map_signs_split]
      simp only [adds, List.mem_map, exists_exists_and_eq_and, true_and]

/-- The rules that a statement violates, by the words in it. -/
theorem scanSql_eq {sql : String} {text : List Sign}
    (isText : signs sql.toList = text) :
    scanSql sql =
      (if Says ["DROP", "TABLE"] text then [.dropTable] else []) ++
      (if Says ["ALTER", "TABLE"] text ∧ Says ["DROP", "COLUMN"] text then
        [.dropColumn] else []) ++
      (if Says ["ALTER", "TABLE"] text ∧ Says ["RENAME"] text then [.rename]
        else []) ++
      (if Says ["ALTER", "TABLE"] text ∧
          ((∃ clause ∈ clauses text, AddsNotNull clause) ∨
            Says ["SET", "NOT", "NULL"] text) then
        [.notNullWithoutDefault] else []) := by
  have normalized := (signs_normalize sql).trans isText
  have found {word : String} {words : List String}
      (areWords : ∀ other ∈ word :: words, IsWord other.toList) :
      (wordsRegex word words).test (normalize sql).toList = true ↔
        Says (word :: words) text :=
    normalized ▸ test_wordsRegex areWords _
  rw [scanSql]
  simp only [Bool.or_eq_true, Bool.and_eq_true, any_addColumnClauses,
    normalized]
  simp only [found (show ∀ other ∈ ["DROP", "TABLE"], _ by decide),
    found (show ∀ other ∈ ["ALTER", "TABLE"], _ by decide),
    found (show ∀ other ∈ ["DROP", "COLUMN"], _ by decide),
    found (show ∀ other ∈ ["RENAME"], _ by decide),
    found (show ∀ other ∈ ["SET", "NOT", "NULL"], _ by decide), and_or_left]

section Rules

variable {sql : String} {text : List Sign}

theorem dropTable_mem_scanSql (isText : signs sql.toList = text) :
    .dropTable ∈ scanSql sql ↔ Says ["DROP", "TABLE"] text := by
  simp [scanSql_eq isText]

theorem dropColumn_mem_scanSql (isText : signs sql.toList = text) :
    .dropColumn ∈ scanSql sql ↔
      Says ["ALTER", "TABLE"] text ∧ Says ["DROP", "COLUMN"] text := by
  simp [scanSql_eq isText]

theorem rename_mem_scanSql (isText : signs sql.toList = text) :
    .rename ∈ scanSql sql ↔
      Says ["ALTER", "TABLE"] text ∧ Says ["RENAME"] text := by
  simp [scanSql_eq isText]

theorem notNullWithoutDefault_mem_scanSql (isText : signs sql.toList = text) :
    .notNullWithoutDefault ∈ scanSql sql ↔
      Says ["ALTER", "TABLE"] text ∧
        ((∃ clause ∈ clauses text, AddsNotNull clause) ∨
          Says ["SET", "NOT", "NULL"] text) := by
  simp [scanSql_eq isText]

end Rules

/-! ### The gate -/

/-- The deployment is held back for every statement that violates a rule. -/
theorem hasDestructive_iff {statements : List SqlStatement}
    {acknowledgedFiles : List String} :
    hasDestructive (scanStatements statements acknowledgedFiles) = true ↔
      ∃ statement ∈ statements, scanSql statement.sql ≠ [] := by
  rw [hasDestructive, decide_eq_true_eq, List.length_pos_iff, ne_eq,
    scanStatements, List.flatMap_eq_nil_iff]
  simp only [List.map_eq_nil_iff, not_forall, exists_prop, ne_eq]

/-- A statement of a file without a sign-off blocks the pull request. -/
theorem hasUnacknowledged_iff {statements : List SqlStatement}
    {acknowledgedFiles : List String} :
    hasUnacknowledged (scanStatements statements acknowledgedFiles) = true ↔
      ∃ statement ∈ statements, statement.file ∉ acknowledgedFiles ∧
        scanSql statement.sql ≠ [] := by
  rw [hasUnacknowledged, scanStatements, List.any_flatMap, List.any_eq_true]
  refine exists_congr fun statement => and_congr_right fun _ => ?_
  rw [List.any_map, List.any_eq_true]
  constructor
  · rintro ⟨rule, found, unacknowledged⟩
    exact ⟨by simpa using unacknowledged, List.ne_nil_of_mem found⟩
  · rintro ⟨unacknowledged, destructive⟩
    obtain ⟨rule, found⟩ := List.exists_mem_of_ne_nil _ destructive
    exact ⟨rule, found, by simpa using unacknowledged⟩

end PaymentPortal.Model
