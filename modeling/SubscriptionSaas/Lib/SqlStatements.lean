import SubscriptionSaas.Lib.Proofs.SqlLexemeProofs

/-!
# Statements of SQL

The lexemes of a statement without its white space and comments, on levels: what stands within a pair of
parentheses is a level of its own, and of a group there stands on the level around it what it begins
with. A clause of a query stands on the level of the query. `INTO` and `FOR` are reserved, so that a
query has them only in the clauses that begin with them, and as labels after `AS` or a point.
-/

namespace SqlStatements

open SqlLexemes

def significant (ls : List Lexeme) : List Lexeme := ls.filter (!·.isBlank)

/-- The statements of a text that are not empty. -/
def statementsOf (text : List Char) : List (List Lexeme) :=
  ((statements (lex text)).map significant).filter (· ≠ [])

/-! ## Levels -/

/-- A lexeme on a level, or a group with its first lexeme, which may be a query. -/
inductive Item
  | leaf (l : Lexeme)
  | group (first : Option Lexeme) (query : Bool)
  deriving DecidableEq

abbrev Level := List Item

def isParen (mark : Char) (l : Lexeme) : Bool := l.kind == .symbol && l.raw == [mark]

def Item.isKeyword (keyword : String) : Item → Bool
  | .leaf l => l.isKeyword keyword
  | .group _ _ => false

def Item.first : Item → Option Lexeme
  | .leaf l => some l
  | .group _ _ => none

def isQuery : Level → Bool
  | [] => false
  | .group _ query :: _ => query
  | .leaf l :: _ =>
    l.isKeyword "SELECT" || l.isKeyword "WITH" || l.isKeyword "VALUES" || l.isKeyword "TABLE"

/-- What a closed level is on the level around it. -/
def groupOf (level : Level) : Item := .group (level.head?.bind (·.first)) (isQuery level)

/-- The levels of some lexemes, of which the outermost comes first, given the levels around the one that
is read, the latter in reverse, and those that have been closed. -/
def nest : List Level → Level → List Level → List Lexeme → Option (List Level)
  | [], level, closed, [] => some (level.reverse :: closed)
  | _ :: _, _, _, [] => none
  | outer, level, closed, l :: ls =>
    if isParen '(' l then nest (level :: outer) [] closed ls
    else if isParen ')' l then
      match outer with
      | [] => none
      | above :: outer => nest outer (groupOf level.reverse :: above) (level.reverse :: closed) ls
    else nest outer (.leaf l :: level) closed ls

/-- The levels of a statement; `none` when its parentheses do not match. -/
def levels (statement : List Lexeme) : Option (List Level) := nest [] [] [] statement

/-! ## Clauses -/

/-- Something that depends on the item before a place and the items from there on. -/
def anyPlace (p : Option Item → List Item → Bool) : Option Item → Level → Bool
  | _, [] => false
  | before, item :: items => p before (item :: items) || anyPlace p (some item) items

/-- What comes after the item is a label. -/
def Item.labels (item : Item) : Bool :=
  item.isKeyword "AS" ||
    match item with
    | .leaf l => isParen '.' l
    | .group _ _ => false

def startsWith (keywords : List String) (items : List Item) : Bool :=
  keywords.length ≤ items.length &&
    (keywords.zip items).all fun (keyword, item) => item.isKeyword keyword

/-- A clause that begins with the keywords. -/
def clause (keywords : List String) (before : Option Item) (items : List Item) : Bool :=
  !before.any Item.labels && startsWith keywords items

def hasClause (keywords : List String) (level : Level) : Bool :=
  isQuery level && anyPlace (clause keywords) none level

/-- The query makes a table of its rows. -/
def createsTable (ls : List Level) : Bool := ls.any (hasClause ["INTO"])

/-- The clauses that lock rows. -/
def lockingClauses : List (List String) :=
  [["FOR", "UPDATE"], ["FOR", "NO", "KEY", "UPDATE"], ["FOR", "SHARE"], ["FOR", "KEY", "SHARE"]]

def locksRows (ls : List Level) : Bool :=
  ls.any fun level => lockingClauses.any fun keywords => hasClause keywords level

/-- A statement, or one within `WITH`, that changes rows. -/
def changesRows (ls : List Level) : Bool :=
  ls.any fun level => ["INSERT", "UPDATE", "DELETE", "MERGE", "TRUNCATE"].any fun keyword =>
    level.head?.any (Item.isKeyword keyword)

/-! ## Calls -/

def Item.named (escape : Char) (names : List String) (item : Item) : Bool :=
  match item with
  | .leaf l => (l.nameUnder escape).any fun name => names.any fun other => other.toList == name
  | .group _ _ => false

def Item.isGroup : Item → Bool
  | .leaf _ => false
  | .group _ _ => true

/-- The escape character that `UESCAPE` gives. -/
def Item.escape? : Item → Option Char
  | .leaf l => if l.kind = .literal then l.raw.tail.head? else none
  | .group _ _ => none

/-- One of the functions is called by its name. -/
def callsPlainly (names : List String) (items : List Item) : Bool :=
  match items with
  | .leaf l :: item :: _ => !l.isEscaped && Item.named '\\' names (.leaf l) && item.isGroup
  | _ => false

/-- One of the functions is called by an identifier with escapes of Unicode. -/
def callsEscaped (names : List String) (items : List Item) : Bool :=
  match items with
  | .leaf l :: rest =>
    l.isEscaped &&
      match rest with
      | .group _ _ :: _ => Item.named '\\' names (.leaf l)
      | item :: mark :: .group _ _ :: _ =>
        item.isKeyword "UESCAPE" && mark.escape?.any fun escape => Item.named escape names (.leaf l)
      | _ => false
  | _ => false

def callsSomewhere (calls : List Item → Bool) (ls : List Level) : Bool :=
  ls.any (anyPlace (fun _ items => calls items) none)

/-! ## Statements that read -/

def isSelect (level : Level) : Bool := startsWith ["SELECT"] level

/-- `COPY (SELECT …) TO STDOUT`. -/
def isCopyToStdout : Level → Bool
  | copy :: .group (some first) _ :: rest =>
    copy.isKeyword "COPY" && first.isKeyword "SELECT" && startsWith ["TO", "STDOUT"] rest
  | _ => false

/-- A statement, given by its levels, that reads, where the functions are known to write. -/
def readsOnly (functions : List String) (ls : List Level) : Bool :=
  ls.head?.any (fun top => isSelect top || isCopyToStdout top) &&
    !createsTable ls && !changesRows ls && !callsSomewhere (callsPlainly functions) ls &&
    !callsSomewhere (callsEscaped functions) ls && !locksRows ls

end SqlStatements
