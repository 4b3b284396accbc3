import SubscriptionSaas.Lib.Patterns
import SubscriptionSaas.Lib.SqlStatements

/-!
# The read-only executor of a snapshot source

`createReadOnlySourceExecutor`, which forwards a statement when its text looks like one that reads: it
begins with `SELECT`, or with `COPY` and a query and goes to `STDOUT`, it has no comment, no semicolon
but one at its end, and none of some words.
-/

namespace SubscriptionSaas.Release.ReadOnlySource

open Patterns SqlLexemes SqlStatements

/-! ## The texts that are refused -/

/-- The keywords of `forbiddenStatementPattern`. -/
def forbiddenKeywords : List String :=
  ["INSERT", "UPDATE", "DELETE", "TRUNCATE", "MERGE", "CREATE", "ALTER", "DROP", "GRANT", "REVOKE",
    "COMMENT", "VACUUM", "ANALYZE", "REFRESH", "REINDEX", "CLUSTER", "CALL", "DO", "SET", "RESET",
    "BEGIN", "COMMIT", "ROLLBACK"]

/-- The functions of `forbiddenStatementPattern`. -/
def forbiddenFunctions : List String :=
  ["nextval", "setval", "lo_import", "pg_write_file", "dblink_exec"]

/-- `COPY\s+[^ (]+\s+FROM`. -/
def copyFrom : Pattern :=
  sequence [keyword "COPY", spaces1, many1 fun c => c != ' ' && c != '(', spaces1, keyword "FROM"]

def forbiddenStatementPattern : Pattern :=
  sequence [boundary,
    either (anyKeyword forbiddenKeywords)
      (either copyFrom (anyKeyword (forbiddenFunctions.map (·.map Char.toUpper)))),
    boundary]

/-- The marks with which comments begin. -/
def commentPattern : Pattern := either (exactly "--") (exactly "/*")

/-! ## The shapes that are allowed -/

/-- `[\s\S]*`. -/
def anything : Pattern := many fun _ => true

def selectShape : Pattern := sequence [keyword "SELECT", boundary, anything, atEnd]

def copyShape : Pattern :=
  sequence [keyword "COPY", spaces, exactly "(", spaces, keyword "SELECT", boundary, anything,
    exactly ")", spaces1, keyword "TO", spaces1, keyword "STDOUT",
    optional (sequence [spaces1, keyword "WITH", boundary, anything]), atEnd]

def allowedShape (text : List Char) : Bool := testStart selectShape text || testStart copyShape text

/-! ## The executor -/

def semicolonCount (text : List Char) : Nat := text.count ';'

/-- `semicolonCount > (normalized.endsWith(";") ? 1 : 0)`. -/
def tooManySemicolons (text : List Char) : Bool :=
  (if text.getLast? = some ';' then 1 else 0) < semicolonCount text

def refuses (text : List Char) : Bool :=
  text.isEmpty || test commentPattern text || tooManySemicolons text ||
    test forbiddenStatementPattern text || !allowedShape text

/-- The text that `execute` forwards, or the code of its error. What is no string is `none`. -/
def execute (statement : Option String) : Except String String :=
  let normalized := (statement.map Texts.trim).getD ""
  if refuses normalized.toList then .error "SNAPSHOT_SOURCE_DML_FORBIDDEN" else .ok normalized

/-- The executor over a session that may have no `execute`. -/
def createReadOnlySourceExecutor (hasExecute : Bool) :
    Except String (Option String → Except String String) :=
  if hasExecute then .ok execute else .error "SNAPSHOT_SOURCE_EXECUTOR_INVALID"

/-! ## What is forwarded -/

/-- The text is one complete statement, which reads. -/
def IsRead (text : List Char) : Prop :=
  ∃ statement ls, statementsOf text = [statement] ∧ (∀ l ∈ lex text, l.closed = true) ∧
    levels statement = some ls ∧ readsOnly forbiddenFunctions ls = true

/-- The second text is the first without white space around it. -/
def Surrounds (text inner : String) : Prop :=
  ∃ before after, text.toList = before ++ inner.toList ++ after ∧
    (∀ c ∈ before, Patterns.isWhiteSpace c = true) ∧ ∀ c ∈ after, Patterns.isWhiteSpace c = true

/-- The levels of a text that has no semicolon but at its end. -/
def levelsOf (text : List Char) : Option (List Level) :=
  levels (significant ((lex text).filter (·.kind ≠ .semicolon)))

/-- What the executor overlooks: a text that breaks off, one that begins with another word or is copied
elsewhere, a table made by `INTO`, rows locked by `FOR SHARE` or `FOR KEY SHARE`, and a function that is
called by escapes of Unicode. -/
def Overlooks (text : List Char) : Prop :=
  (∃ l ∈ lex text, l.closed = false) ∨
    ∀ ls, levelsOf text = some ls →
      ls.head?.any (fun top => isSelect top || isCopyToStdout top) = false ∨
        createsTable ls = true ∨ ls.any (hasClause ["FOR", "SHARE"]) = true ∨
        ls.any (hasClause ["FOR", "KEY", "SHARE"]) = true ∨
        callsSomewhere (callsEscaped forbiddenFunctions) ls = true

end SubscriptionSaas.Release.ReadOnlySource
