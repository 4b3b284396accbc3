import Mathlib.Data.List.Basic
import Mathlib.Data.List.Chain

/-!
# The lexemes of SQL

A text cut into lexemes as PostgreSQL cuts it: a line comment ends with its line, block comments nest,
a quotation mark within quotes is written twice, and a dollar quote ends where its tag stands again. The
lexemes of a text put together are the text. An end mark that is missing is given by `closed`.
-/

namespace SqlLexemes

inductive Kind
  | space | lineComment | blockComment
  /-- An identifier or a keyword without quotation marks. -/
  | word
  | number
  | quotedIdentifier
  /-- A string in quotation marks or in dollar quotes. -/
  | literal
  | semicolon | symbol
  deriving DecidableEq

structure Lexeme where
  kind : Kind
  raw : List Char
  /-- False when the text ends before the quoted text or the block comment does. -/
  closed : Bool := true
  deriving DecidableEq

/-! ## Characters -/

def isSpace (c : Char) : Bool :=
  c == ' ' || c == '\t' || c == '\n' || c == '\r' || c == '\x0b' || c == '\x0c'

def isIdentStart (c : Char) : Bool := c.isAlpha || c == '_' || 128 ≤ c.toNat

def isIdentPart (c : Char) : Bool := isIdentStart c || c.isDigit || c == '$'

def inLine (c : Char) : Bool := c != '\n' && c != '\r'

/-! ## End marks

Where the text that has been opened ends: the number of characters up to the end mark and with it. -/

/-- The quotation mark that is not written twice, nor escaped where backslashes escape. -/
def quoteEnd (mark : Char) (escapes : Bool) : List Char → Option Nat
  | [] => none
  | [c] => if c = mark then some 1 else none
  | c :: c' :: cs =>
    if c = mark then if c' = mark then (quoteEnd mark escapes cs).map (· + 2) else some 1
    else if escapes && c == '\\' then (quoteEnd mark escapes cs).map (· + 2)
    else (quoteEnd mark escapes (c' :: cs)).map (· + 1)

/-- The end of a block comment in which the comments are nested so deep. -/
def blockEnd : Nat → List Char → Option Nat
  | _, [] => none
  | _, [_] => none
  | depth, c :: c' :: cs =>
    if c = '/' ∧ c' = '*' then (blockEnd (depth + 1) cs).map (· + 2)
    else if c = '*' ∧ c' = '/' then
      if depth ≤ 1 then some 2 else (blockEnd (depth - 1) cs).map (· + 2)
    else (blockEnd depth (c' :: cs)).map (· + 1)

def tagEnd (tag : List Char) : List Char → Option Nat
  | [] => none
  | c :: cs => if tag.isPrefixOf (c :: cs) then some tag.length else (tagEnd tag cs).map (· + 1)

/-- The tag of a dollar quote after its first dollar sign. -/
def dollarTag (cs : List Char) : Option (List Char) :=
  let name := cs.takeWhile fun c => isIdentStart c || c.isDigit
  if (cs.drop name.length).head? = some '$' ∧ name.head?.all (!·.isDigit) then some name else none

/-! ## The lexer -/

def run (kind : Kind) (p : Char → Bool) (c : Char) (cs : List Char) : Lexeme × List Char :=
  (⟨kind, c :: cs.takeWhile p, true⟩, cs.dropWhile p)

/-- What has been opened by a mark, to its end or to that of the text. -/
def delimited (kind : Kind) (mark cs : List Char) : Option Nat → Lexeme × List Char
  | some n => (⟨kind, mark ++ cs.take n, true⟩, cs.drop n)
  | none => (⟨kind, mark ++ cs, false⟩, [])

/-- The first lexeme of a text and what comes after it. -/
def next (c : Char) (cs : List Char) : Lexeme × List Char :=
  if isSpace c then run .space isSpace c cs
  else if c = '-' ∧ cs.head? = some '-' then run .lineComment inLine c cs
  else if c = '/' ∧ cs.head? = some '*' then
    delimited .blockComment ['/', '*'] cs.tail (blockEnd 1 cs.tail)
  else if (c = 'e' ∨ c = 'E') ∧ cs.head? = some '\'' then
    delimited .literal [c, '\''] cs.tail (quoteEnd '\'' true cs.tail)
  else if (c = 'u' ∨ c = 'U') ∧ cs.take 2 = ['&', '\''] then
    delimited .literal [c, '&', '\''] (cs.drop 2) (quoteEnd '\'' false (cs.drop 2))
  else if (c = 'u' ∨ c = 'U') ∧ cs.take 2 = ['&', '"'] then
    delimited .quotedIdentifier [c, '&', '"'] (cs.drop 2) (quoteEnd '"' false (cs.drop 2))
  else if isIdentStart c then run .word isIdentPart c cs
  else if c.isDigit then run .number isIdentPart c cs
  else if c = '\'' then delimited .literal [c] cs (quoteEnd c false cs)
  else if c = '"' then delimited .quotedIdentifier [c] cs (quoteEnd c false cs)
  else if c = ';' then (⟨.semicolon, [c], true⟩, cs)
  else
    match (if c = '$' then dollarTag cs else none) with
    | some tag =>
      delimited .literal ('$' :: tag ++ ['$']) (cs.drop (tag.length + 1))
        (tagEnd ('$' :: tag ++ ['$']) (cs.drop (tag.length + 1)))
    | none => (⟨.symbol, [c], true⟩, cs)

def lexN : Nat → List Char → List Lexeme
  | 0, _ => []
  | _ + 1, [] => []
  | n + 1, c :: cs => (next c cs).1 :: lexN n (next c cs).2

/-- The lexemes of a text. -/
def lex (text : List Char) : List Lexeme := lexN text.length text

/-! ## Statements -/

def Lexeme.isComment (l : Lexeme) : Bool := l.kind == .lineComment || l.kind == .blockComment

/-- An identifier without quotation marks, a keyword or a number. -/
def Lexeme.isWordy (l : Lexeme) : Bool := l.kind == .word || l.kind == .number

/-- White space or a comment. -/
def Lexeme.isBlank (l : Lexeme) : Bool := l.kind == .space || l.isComment

/-- The pieces between the semicolons. -/
def statements : List Lexeme → List (List Lexeme)
  | [] => [[]]
  | l :: ls =>
    if l.kind = .semicolon then [] :: statements ls
    else
      match statements ls with
      | [] => [[l]]
      | s :: ss => (l :: s) :: ss

/-- The word is the keyword, in letters of any case. -/
def Lexeme.isKeyword (keyword : String) (l : Lexeme) : Bool :=
  l.kind == .word && l.raw.map Char.toUpper == keyword.toList

/-! ## Names -/

/-- What stands up to the closing mark. A mark that is written twice stands for one. -/
def unquote (mark : Char) : List Char → List Char
  | [] => []
  | [c] => if c = mark then [] else [c]
  | c :: c' :: cs =>
    if c = mark then if c' = mark then mark :: unquote mark cs else []
    else c :: unquote mark (c' :: cs)

def hexDigit? (c : Char) : Option Nat :=
  if c.isDigit then some (c.toNat - 48)
  else if 'a' ≤ c ∧ c ≤ 'f' then some (c.toNat - 87)
  else if 'A' ≤ c ∧ c ≤ 'F' then some (c.toNat - 55)
  else none

/-- The character of some hexadecimal digits. -/
def hexChar (digits : List Char) : Char :=
  Char.ofNat (digits.foldl (fun (n : Nat) d => 16 * n + (hexDigit? d).getD 0) 0)

def areHex (count : Nat) (digits : List Char) : Bool :=
  digits.length == count && digits.all fun d => (hexDigit? d).isSome

/-- What the escape at the beginning of a text stands for, and how many characters it has after its
first: the escape character again, four hexadecimal digits, or a plus sign and six. -/
def escapeAt (escape : Char) : List Char → Option (Char × Nat)
  | [] => none
  | c :: cs =>
    if c ≠ escape then none
    else if cs.head? = some escape then some (escape, 1)
    else if areHex 4 (cs.take 4) then some (hexChar (cs.take 4), 4)
    else if cs.head? = some '+' ∧ areHex 6 ((cs.drop 1).take 6) then
      some (hexChar ((cs.drop 1).take 6), 7)
    else none

def unescapeFrom (escape : Char) : Nat → List Char → List Char
  | _, [] => []
  | skip + 1, _ :: cs => unescapeFrom escape skip cs
  | 0, c :: cs =>
    match escapeAt escape (c :: cs) with
    | some (d, n) => d :: unescapeFrom escape n cs
    | none => c :: unescapeFrom escape 0 cs

/-- A text with its escapes of Unicode read, where two surrogates are not put together. -/
def unescape (escape : Char) (text : List Char) : List Char := unescapeFrom escape 0 text

/-- A quoted identifier with escapes of Unicode. -/
def Lexeme.isEscaped (l : Lexeme) : Bool :=
  l.kind == .quotedIdentifier && l.raw.head? != some '"'

/-- The name of an identifier under an escape character. Without quotation marks, its letters of ASCII
are taken as small ones. -/
def Lexeme.nameUnder (escape : Char) (l : Lexeme) : Option (List Char) :=
  match l.kind with
  | .word => some (l.raw.map Char.toLower)
  | .quotedIdentifier =>
    if l.isEscaped then some (unescape escape (unquote '"' (l.raw.drop 3)))
    else some (unquote '"' l.raw.tail)
  | _ => none

def Lexeme.name? (l : Lexeme) : Option (List Char) := l.nameUnder '\\'

end SqlLexemes
