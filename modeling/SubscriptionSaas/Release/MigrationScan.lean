import Mathlib.Data.List.Sort
import Mathlib.Data.String.Basic
import SubscriptionSaas.Lib.Patterns
import SubscriptionSaas.Lib.SqlStatements

/-!
# The global objects of the migrations

`scanMigrationGlobalObjects`, which removes the comments of each migration by two regular expressions
and then looks for statements that create or alter objects outside of their database.
-/

namespace SubscriptionSaas.Release.MigrationScan

open Patterns SqlLexemes SqlStatements

/-! ## Data -/

/-- The policy. What is no array of texts is `none`. -/
structure Policy where
  schemaVersion : String
  allowedExtensions : Option (List String)
  deriving DecidableEq

/-- A migration: the path of its entry in the catalog and the text of its file. -/
structure Migration where
  path : String
  sql : String
  deriving DecidableEq

/-- `computeMigrationCatalog` with the files that the scan reads. -/
structure MigrationCatalog where
  digest : String
  entries : List Migration
  deriving DecidableEq

structure ScanError where
  code : String
  path : Option String := none
  statementClass : Option String := none
  extension : Option String := none
  deriving DecidableEq

structure ScanResult where
  migrationCatalogDigest : String
  extensions : List String
  deriving DecidableEq

/-! ## Comments -/

/-- From the mark that opens a block comment to the first that closes one. -/
def blockComment : Pattern := sequence [exactly "/*", manyLazy fun _ => true, exactly "*/"]

/-- `--[^\r\n]*`. -/
def lineComment : Pattern := sequence [exactly "--", many fun c => c != '\r' && c != '\n']

def withoutComments (sql : List Char) : List Char :=
  replaceAll lineComment " " (replaceAll blockComment " " sql)

/-! ## Statements -/

def globalObjects : List String := ["ROLE", "USER", "DATABASE", "TABLESPACE"]

/-- `/\b(?:CREATE\s+(?:ROLE|USER|DATABASE|TABLESPACE)|ALTER\s+SYSTEM)\b/i`. -/
def forbiddenPattern : Pattern :=
  sequence [boundary,
    either (sequence [keyword "CREATE", spaces1, anyKeyword globalObjects])
      (sequence [keyword "ALTER", spaces1, keyword "SYSTEM"]),
    boundary]

/-- `/\bCREATE\s+EXTENSION\b/gi`. -/
def extensionToken : Pattern :=
  sequence [boundary, sequence [keyword "CREATE", spaces1, keyword "EXTENSION"], boundary]

/-- `/\bCREATE\s+EXTENSION\b[^;]*;/gi`. -/
def extensionStatement : Pattern :=
  both extensionToken (sequence [many (· != ';'), exactly ";"])

def isAsciiLetter (c : Char) : Bool := c.isAlpha

/-- `[a-z0-9_]` without regard to case. -/
def isNameChar (c : Char) : Bool := c.isAlphanum || c == '_'

/-- `CREATE\s+EXTENSION\s+IF\s+NOT\s+EXISTS\s+`. -/
def extensionHead : Pattern :=
  sequence [keyword "CREATE", spaces1, keyword "EXTENSION", spaces1, keyword "IF", spaces1,
    keyword "NOT", spaces1, keyword "EXISTS", spaces1]

/-- `\s*;$`. -/
def extensionTail : Pattern := sequence [spaces, exactly ";", atEnd]

/-- What the group of a pattern has matched between two places. -/
def between (k k' : Cursor) : List Char := k.rest.take (k.rest.length - k'.rest.length)

/-- The names that the group of a pattern can have before the tail. -/
def groupNames (p after : Pattern) (k : Cursor) : List (List Char) :=
  ((p k).filter fun k' => !(after k').isEmpty).map (between k)

/-- The name in a statement that the anchored expression matches: in quotation marks, or without. -/
def parsedExtension (statement : List Char) : Option (List Char) :=
  ((extensionHead ⟨none, statement⟩).flatMap fun k =>
      ((exactly "\"" k).flatMap (groupNames (many1 isNameChar) (both (exactly "\"") extensionTail))) ++
        groupNames (both (one isAsciiLetter) (many isNameChar)) extensionTail k).head?

def normalizedExtension (statement : List Char) : Option String :=
  (parsedExtension statement).map fun name => String.ofList (name.map Char.toLower)

/-! ## The scan -/

/-- `forbidden[0].replace(/\s+/g, " ").toUpperCase()`. -/
def statementClass (matched : List Char) : String :=
  String.ofList ((replaceAll spaces1 " " matched).map Char.toUpper)

/-- `extensions.add(extension)`. -/
def addExtension (extensions : List String) (extension : String) : List String :=
  if extension ∈ extensions then extensions else extensions ++ [extension]

def scanStatement (allowed : List String) (path : String) (extensions : List String)
    (statement : List Char) : Except ScanError (List String) :=
  match normalizedExtension statement with
  | none => .error { code := "MIGRATION_EXTENSION_POLICY_REJECTED", path := some path }
  | some extension =>
    if extension ∈ allowed then .ok (addExtension extensions extension)
    else .error { code := "MIGRATION_EXTENSION_POLICY_REJECTED", path := some path,
                  extension := some extension }

def scanMigration (allowed : List String) (extensions : List String) (entry : Migration) :
    Except ScanError (List String) :=
  let sql := withoutComments entry.sql.toList
  match (matchAll forbiddenPattern sql).head? with
  | some forbidden =>
    .error { code := "MIGRATION_GLOBAL_OBJECT_FORBIDDEN", path := some entry.path,
             statementClass := some (statementClass forbidden) }
  | none =>
    let extensionStatements := matchAll extensionStatement sql
    if extensionStatements.length ≠ (matchAll extensionToken sql).length then
      .error { code := "MIGRATION_EXTENSION_POLICY_REJECTED", path := some entry.path }
    else extensionStatements.foldlM (scanStatement allowed entry.path) extensions

def scanMigrationGlobalObjects (policy : Option Policy) (catalog : MigrationCatalog) :
    Except ScanError ScanResult := do
  let some allowed := (policy.filter (·.schemaVersion == "migration-global-object-policy.v1")).bind
      fun policy => policy.allowedExtensions.filter (·.Nodup)
    | .error { code := "MIGRATION_GLOBAL_OBJECT_POLICY_INVALID" }
  let extensions ← catalog.entries.foldlM (scanMigration allowed) []
  .ok ⟨catalog.digest, extensions.insertionSort (· ≤ ·)⟩

/-- The extensions that the policy allows. -/
def allowedBy (policy : Option Policy) : List String :=
  (policy.bind (·.allowedExtensions)).getD []

/-! ## What a migration does -/

def begins (keywords : List String) (statement : List Lexeme) : Bool :=
  startsWith keywords (statement.map .leaf)

/-- The statements that the scan is to reject: each is known by its first two keywords. -/
def globalStatements : List (List String) :=
  globalObjects.map (fun object => ["CREATE", object]) ++ [["ALTER", "SYSTEM"]]

def isGlobal (statement : List Lexeme) : Bool :=
  globalStatements.any fun keywords => begins keywords statement

/-- The name of the extension that a statement creates. -/
def createdExtension (statement : List Lexeme) : Option (List Char) :=
  if begins ["CREATE", "EXTENSION", "IF", "NOT", "EXISTS"] statement then
    (statement.drop 5).head?.bind (·.name?)
  else if begins ["CREATE", "EXTENSION"] statement then (statement.drop 2).head?.bind (·.name?)
  else none

/-- Nothing global is left in the migration but the extensions, which are allowed and reported. -/
def Harmless (allowed reported : List String) (entry : Migration) : Prop :=
  ∀ statement ∈ statementsOf entry.sql.toList, isGlobal statement = false ∧
    ∀ name, createdExtension statement = some name →
      String.ofList name ∈ allowed ∧ String.ofList name ∈ reported

/-! ## The migrations that are read rightly -/

def isQuoted (l : Lexeme) : Bool := l.kind == .literal || l.kind == .quotedIdentifier

/-- A lexeme after the removal of comments from it alone. -/
def piece (l : Lexeme) : List Char :=
  if l.isComment then [' '] else if isQuoted l then withoutComments l.raw else l.raw

/-- What is removed as a comment reaches over no end of a lexeme, and all comments are removed. -/
def SeesComments (sql : List Char) : Prop := withoutComments sql = (lex sql).flatMap piece

/-- In a statement that creates an extension, no identifier without quotation marks has a character that
counts as white space for the regular expressions. -/
def SpacesApart (sql : List Char) : Prop :=
  ∀ statement ∈ statementsOf sql, begins ["CREATE", "EXTENSION"] statement = true →
    ∀ l ∈ statement, l.kind = .word → ∀ c ∈ l.raw, Patterns.isWhiteSpace c = false

/-- No extension is created of which the name has capital letters and is allowed with small ones. -/
def SmallNames (allowed : List String) (sql : List Char) : Prop :=
  ∀ statement ∈ statementsOf sql, ∀ name, createdExtension statement = some name →
    String.ofList (name.map Char.toLower) ∈ allowed → name.map Char.toLower = name

structure Readable (allowed : List String) (entry : Migration) : Prop where
  comments : SeesComments entry.sql.toList
  spaces : SpacesApart entry.sql.toList
  names : SmallNames allowed entry.sql.toList

end SubscriptionSaas.Release.MigrationScan
