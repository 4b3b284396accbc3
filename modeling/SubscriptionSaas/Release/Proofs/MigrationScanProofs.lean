import Mathlib
import SubscriptionSaas.Lib.Proofs.SqlStatementProofs
import SubscriptionSaas.Lib.Results
import SubscriptionSaas.Release.MigrationScan

/-!
# The global objects of the migrations: proofs

Where comments are removed as PostgreSQL reads them, the text that is left has the lexemes of the
migration in their order, each as a piece. What the expressions match in it is then read off its
lexemes, word by word.
-/

namespace SubscriptionSaas.Release.MigrationScan

open Patterns SqlLexemes SqlStatements Results

variable {text : List Char} {l w : Lexeme} {ls before after : List Lexeme} {c d : Char}

/-! ## Comments -/

theorem blockComment_nil {b : Option Char} {cs : List Char} (hc : c ≠ '/') :
    blockComment ⟨b, c :: cs⟩ = [] := by
  rw [List.eq_nil_iff_forall_not_mem]
  intro k hk
  obtain ⟨mid, hmid, -⟩ := List.mem_flatMap.1 hk
  obtain ⟨w, rest, hsplit, rfl, -⟩ := (spells_exactly "/*" _ _ _).1 hmid
  exact hc (List.cons.inj hsplit).1

theorem lineComment_nil {b : Option Char} {cs : List Char} (hc : c ≠ '-') :
    lineComment ⟨b, c :: cs⟩ = [] := by
  rw [List.eq_nil_iff_forall_not_mem]
  intro k hk
  obtain ⟨mid, hmid, -⟩ := List.mem_flatMap.1 hk
  obtain ⟨w, rest, hsplit, rfl, -⟩ := (spells_exactly "--" _ _ _).1 hmid
  exact hc (List.cons.inj hsplit).1

/-- The removal of comments from some place of a text on. -/
def withoutCommentsFrom (b b' : Option Char) (sql : List Char) : List Char :=
  replaceFrom lineComment [' '] 0 b (replaceFrom blockComment [' '] 0 b' sql)

theorem withoutComments_eq (sql : List Char) : withoutComments sql = withoutCommentsFrom none none sql :=
  rfl

theorem withoutCommentsFrom_cons {b b' : Option Char} {cs : List Char} (hslash : c ≠ '/')
    (hdash : c ≠ '-') :
    withoutCommentsFrom b b' (c :: cs) = c :: withoutCommentsFrom (some c) (some c) cs := by
  rw [withoutCommentsFrom, replaceFrom_cons (blockComment_nil hslash),
    replaceFrom_cons (lineComment_nil hdash), withoutCommentsFrom]

/-- Up to the first space the text is left as it is. -/
theorem withoutCommentsFrom_prefix {b b' : Option Char} {u v v' : List Char} (hv : ' ' ∉ v)
    (h : withoutCommentsFrom b b' u = v ++ v') :
    ∃ e e' u', u = v ++ u' ∧ v' = withoutCommentsFrom e e' u' := by
  obtain ⟨e, u₁, hu₁, rfl⟩ := replaceFrom_prefix b hv h
  obtain ⟨e', u', rfl, rfl⟩ := replaceFrom_prefix b' hv hu₁
  exact ⟨e, e', u', rfl, rfl⟩

/-! ## Pieces -/

/-- What a lexeme that is no comment begins with is the beginning of its piece. -/
theorem quoted_head {cs : List Char} {result : Lexeme × List Char} (h : Reads c cs result)
    (hquoted : isQuoted result.1 = true) : c ≠ '/' ∧ c ≠ '-' := by
  rw [isQuoted, Bool.or_eq_true, beq_iff_eq, beq_iff_eq] at hquoted
  have hkind : ∀ {mark cs n}, ¬((delimited .blockComment mark cs n).1.kind = .literal ∨
      (delimited .blockComment mark cs n).1.kind = .quotedIdentifier) := by
    intro mark cs n hquoted
    exact hquoted.elim (not_delimited (by decide)) (not_delimited (by decide))
  cases h with
  | space h => exact hquoted.elim nofun nofun
  | lineComment => exact hquoted.elim nofun nofun
  | blockComment => exact (hkind hquoted).elim
  | escapeString h => rcases h with rfl | rfl <;> decide
  | unicodeString h => rcases h with rfl | rfl <;> decide
  | unicodeIdentifier h => rcases h with rfl | rfl <;> decide
  | word h => exact hquoted.elim nofun nofun
  | number h => exact hquoted.elim nofun nofun
  | string => decide
  | quotedIdentifier => decide
  | semicolon => exact hquoted.elim nofun nofun
  | dollarQuote => decide
  | symbol hspace hstart hdigit hsemicolon => exact hquoted.elim nofun nofun

theorem piece_of_comment (h : l.isComment = true) : piece l = [' '] := by
  rw [piece, if_pos h]

theorem piece_of_quoted (h : isQuoted l = true) : piece l = withoutComments l.raw := by
  have hcomment : l.isComment = false := by
    rw [isQuoted, Bool.or_eq_true, beq_iff_eq, beq_iff_eq] at h
    rcases h with h | h <;> simp [Lexeme.isComment, h]
  rw [piece, hcomment, h]
  rfl

theorem piece_of_other (hcomment : l.isComment = false) (hquoted : isQuoted l = false) :
    piece l = l.raw := by
  rw [piece, hcomment, hquoted]
  rfl

theorem piece_head (hl : l ∈ lex text) (hcomment : l.isComment = false) :
    ∃ c t t', l.raw = c :: t ∧ piece l = c :: t' := by
  obtain ⟨c, cs, rest, hreads⟩ := reads_of_mem hl
  have hne := hreads.ne_nil
  obtain ⟨d, t, hraw⟩ := List.exists_cons_of_ne_nil hne
  by_cases hquoted : isQuoted l = true
  · have hfirst : d = c := by
      have hall := hreads.raw
      rw [hraw, List.cons_append] at hall
      exact (List.cons.inj hall).1
    obtain ⟨hslash, hdash⟩ := quoted_head hreads hquoted
    subst hfirst
    refine ⟨d, t, withoutCommentsFrom (some d) (some d) t, hraw, ?_⟩
    rw [piece_of_quoted hquoted, withoutComments_eq, show l.raw = d :: t from hraw,
      withoutCommentsFrom_cons hslash hdash]
  · exact ⟨d, t, t, hraw, (piece_of_other hcomment (eq_false_of_ne_true hquoted)).trans hraw⟩

theorem isComment_of_not_isBlank (h : l.isBlank = false) : l.isComment = false := by
  rw [Lexeme.isBlank, Bool.or_eq_false_iff] at h
  exact h.2

/-- White space and comments leave white space. -/
theorem piece_of_blank (hl : l ∈ lex text) (h : l.isBlank = true) :
    piece l ≠ [] ∧ ∀ c ∈ piece l, Patterns.isWhiteSpace c = true := by
  by_cases hcomment : l.isComment = true
  · rw [piece_of_comment hcomment]
    exact ⟨List.cons_ne_nil _ _, Texts.forall_chars (by decide)⟩
  · have hspace : l.kind = .space := by
      rw [Lexeme.isBlank, Bool.or_eq_true, beq_iff_eq] at h
      exact h.resolve_right hcomment
    have hquoted : isQuoted l = false := by simp [isQuoted, hspace]
    rw [piece_of_other (eq_false_of_ne_true hcomment) hquoted]
    refine ⟨raw_ne_nil hl, fun c hc => ?_⟩
    have hwhite := isSpace_of_space hl hspace c hc
    rw [isSpace] at hwhite
    simp only [Bool.or_eq_true, beq_iff_eq] at hwhite
    rcases hwhite with ((((rfl | rfl) | rfl) | rfl) | rfl) | rfl <;> rfl

/-! ## White space -/

theorem isSpace_or_le (h : Patterns.isWhiteSpace c = true) : isSpace c = true ∨ 128 ≤ c.toNat := by
  by_cases hlarge : 128 ≤ c.toNat
  · exact .inr hlarge
  · have hsmall : ∀ n : Fin 128, Patterns.isWhiteSpace (Char.ofNat n) = true →
        isSpace (Char.ofNat n) = true := by
      decide
    have hc := hsmall ⟨c.toNat, by omega⟩
    rw [Char.ofNat_toNat] at hc
    exact .inl (hc h)

theorem isWordChar_of_le (h : 128 ≤ c.toNat) : isWordChar c = false := by
  rw [← Bool.not_eq_true, isWordChar, Char.isAlphanum, Char.isAlpha, Char.isUpper, Char.isLower,
    Char.isDigit]
  simp only [Bool.or_eq_true, Bool.and_eq_true, decide_eq_true_eq, beq_iff_eq, UInt32.le_iff_toNat_le]
  have hval : 128 ≤ c.val.toNat := h
  rintro (((⟨-, hle⟩ | ⟨-, hle⟩) | ⟨-, hle⟩) | rfl)
  · exact absurd (hval.trans hle) (by decide)
  · exact absurd (hval.trans hle) (by decide)
  · exact absurd (hval.trans hle) (by decide)
  · exact absurd hval (by decide)

theorem isWordChar_of_isWhiteSpace (h : Patterns.isWhiteSpace c = true) : isWordChar c = false := by
  rcases isSpace_or_le h with hspace | hlarge
  · exact isWordChar_of_endsWords (endsWords_of_isSpace hspace)
  · exact isWordChar_of_le hlarge

/-- A lexeme that is no white space nor comment begins with no white space. -/
theorem not_white_of_reads {cs : List Char} {result : Lexeme × List Char} (h : Reads c cs result)
    (hblank : result.1.isBlank = false)
    (hword : result.1.kind = .word → ∀ d ∈ result.1.raw, Patterns.isWhiteSpace d = false) :
    Patterns.isWhiteSpace c = false := by
  have hcomment : ∀ {mark cs n}, (delimited .blockComment mark cs n).1.isBlank = true := by
    intro mark cs n
    simp [Lexeme.isBlank, Lexeme.isComment, delimited_kind]
  cases h with
  | space h => cases hblank
  | lineComment => cases hblank
  | blockComment =>
    rw [hcomment] at hblank
    cases hblank
  | escapeString h => rcases h with rfl | rfl <;> rfl
  | unicodeString h => rcases h with rfl | rfl <;> rfl
  | unicodeIdentifier h => rcases h with rfl | rfl <;> rfl
  | word h => exact hword rfl c List.mem_cons_self
  | number h =>
    by_contra hwhite
    have hnot := isWordChar_of_isWhiteSpace (eq_true_of_ne_false hwhite)
    rw [isWordChar, Char.isAlphanum, h, Bool.or_true, Bool.true_or] at hnot
    cases hnot
  | string => rfl
  | quotedIdentifier => rfl
  | semicolon => rfl
  | dollarQuote => rfl
  | symbol hspace hstart hdigit hsemicolon =>
    by_contra hwhite
    rcases isSpace_or_le (eq_true_of_ne_false hwhite) with h | h
    · rw [hspace] at h
      cases h
    · simp [isIdentStart, h] at hstart

/-! ## Reading what is left of a text -/

/-- The words of the statement at the beginning have no white space in them. -/
def Apart (ls : List Lexeme) : Prop :=
  ∀ l ∈ tokensOf ls, l.kind = .word → ∀ c ∈ l.raw, Patterns.isWhiteSpace c = false

theorem tokensOf_blank (h : l.isBlank = true) : tokensOf (l :: ls) = tokensOf ls := by
  have hkind : l.kind ≠ .semicolon := by
    intro hsemi
    simp [Lexeme.isBlank, Lexeme.isComment, hsemi] at h
  rw [tokensOf, List.takeWhile_cons_of_pos (by simpa using hkind), significant,
    List.filter_cons_of_neg (by simpa using h)]
  rfl

theorem tokensOf_next (hblank : l.isBlank = false) (hkind : l.kind ≠ .semicolon) :
    tokensOf (l :: ls) = l :: tokensOf ls := by
  have hnone : ∀ m ∈ ([] : List Lexeme), m.isBlank = true := nofun
  exact tokensOf_append hnone hblank hkind

theorem tokensOf_word (h : l.kind = .word) : tokensOf (l :: ls) = l :: tokensOf ls :=
  tokensOf_next (by simp [Lexeme.isBlank, Lexeme.isComment, h]) (by simp [h])

/-- White space in what is left is white space and comments. -/
theorem skip_blanks (hls : ls <:+ lex text) (hapart : Apart ls) {s t : List Char}
    (hs : ∀ c ∈ s, Patterns.isWhiteSpace c = true) (hc : Patterns.isWhiteSpace c = false)
    (h : ls.flatMap piece = s ++ c :: t) :
    ∃ l rest, l :: rest <:+ lex text ∧ l.isBlank = false ∧ tokensOf ls = tokensOf (l :: rest) ∧
      (l :: rest).flatMap piece = c :: t := by
  induction ls generalizing s with
  | nil => simp at h
  | cons m ls ih =>
    have hmem : m ∈ lex text := hls.subset List.mem_cons_self
    have hsuffix : ls <:+ lex text := (List.suffix_cons m ls).trans hls
    by_cases hm : m.isBlank = true
    · obtain ⟨-, hwhite⟩ := piece_of_blank hmem hm
      rw [List.flatMap_cons, List.append_eq_append_iff] at h
      rw [Apart, tokensOf_blank hm] at hapart
      rw [tokensOf_blank hm]
      rcases h with ⟨s', rfl, hrest⟩ | ⟨u, hpiece, hrest⟩
      · exact ih hsuffix hapart (fun d hd => hs d (List.mem_append_right _ hd)) hrest
      · cases u with
        | nil => exact ih hsuffix hapart (s := []) nofun hrest.symm
        | cons d u =>
          obtain ⟨rfl, -⟩ := List.cons.inj hrest
          have hin : c ∈ piece m := by simp [hpiece]
          rw [hwhite c hin] at hc
          cases hc
    · have hblank := eq_false_of_ne_true hm
      obtain ⟨d, u, u', hraw, hpiece⟩ := piece_head hmem (isComment_of_not_isBlank hblank)
      cases s with
      | nil => exact ⟨m, ls, hls, hblank, rfl, h⟩
      | cons e s =>
        rw [List.flatMap_cons, hpiece] at h
        obtain ⟨rfl, -⟩ := List.cons.inj h
        obtain ⟨e, cs, rest, hreads⟩ := reads_of_mem hmem
        have hword : m.kind = .word → ∀ c ∈ m.raw, Patterns.isWhiteSpace c = false := by
          intro hkind
          exact hapart m (by rw [tokensOf_word hkind]; exact List.mem_cons_self) hkind
        have hnot := not_white_of_reads hreads hblank hword
        have hall := hreads.raw
        rw [hraw, List.cons_append] at hall
        rw [← (List.cons.inj hall).1, hs d List.mem_cons_self] at hnot
        cases hnot

theorem piece_ne_nil (hl : l ∈ lex text) : piece l ≠ [] := by
  by_cases hcomment : l.isComment = true
  · rw [piece_of_comment hcomment]
    exact List.cons_ne_nil _ _
  · obtain ⟨d, t, t', -, hpiece⟩ := piece_head hl (eq_false_of_ne_true hcomment)
    rw [hpiece]
    exact List.cons_ne_nil _ _

/-- After a word or a number, what is left goes on with no character of an identifier. -/
theorem piece_after (h : w :: after <:+ lex text) (hw : w.isWordy = true) {ds : List Char}
    (hd : after.flatMap piece = d :: ds) : isIdentPart d = false := by
  cases after with
  | nil => cases hd
  | cons m after =>
    have hmem : m ∈ lex text := h.subset (List.mem_cons_of_mem _ List.mem_cons_self)
    rw [List.flatMap_cons] at hd
    by_cases hcomment : m.isComment = true
    · rw [piece_of_comment hcomment] at hd
      obtain ⟨rfl, -⟩ := List.cons.inj hd
      rfl
    · obtain ⟨e, t, t', hraw, hpiece⟩ := piece_head hmem (eq_false_of_ne_true hcomment)
      rw [hpiece] at hd
      obtain ⟨rfl, -⟩ := List.cons.inj hd
      obtain ⟨before, hsplit⟩ := h
      have hrest : (m :: after).flatMap (·.raw) = e :: (t ++ after.flatMap (·.raw)) := by
        rw [List.flatMap_cons, hraw, List.cons_append]
      exact not_isIdentPart_after hsplit.symm hw hrest

theorem isIdentPart_of_isNameChar (h : isNameChar c = true) : isIdentPart c = true := by
  rw [isNameChar, Char.isAlphanum] at h
  rw [isIdentPart, isIdentStart]
  simp only [Bool.or_eq_true] at h ⊢
  rcases h with (h | h) | h
  · exact .inl (.inl (.inl (.inl h)))
  · exact .inl (.inr h)
  · exact .inl (.inl (.inl (.inr h)))

theorem not_isDigit_of_isAlpha (h : c.isAlpha = true) : c.isDigit = false := by
  rw [← Bool.not_eq_true, Char.isDigit]
  rw [Char.isAlpha, Char.isUpper, Char.isLower] at h
  simp only [Bool.or_eq_true, Bool.and_eq_true, decide_eq_true_eq, UInt32.le_iff_toNat_le] at h ⊢
  rintro ⟨-, hle⟩
  rcases h with ⟨hge, -⟩ | ⟨hge, -⟩
  · exact absurd (LE.le.trans hge hle) (by decide)
  · exact absurd (LE.le.trans hge hle) (by decide)

/-- A lexeme that begins with a letter is a word, or a mark follows the letter. -/
theorem word_of_reads {cs : List Char} {result : Lexeme × List Char} (h : Reads c cs result)
    (hc : c.isAlpha = true) :
    (result.1.kind = .word ∧ ∀ d ∈ result.1.raw, isIdentPart d = true) ∨
      isQuoted result.1 = true ∧ c ≠ '/' ∧ c ≠ '-' ∧
        ∃ e t, result.1.raw = c :: e :: t ∧ (e = '\'' ∨ e = '&') := by
  have hquoted : ∀ {kind mark cs n}, kind = .literal ∨ kind = .quotedIdentifier →
      isQuoted (delimited kind mark cs n).1 = true := by
    intro kind mark cs n hkind
    rw [isQuoted, delimited_kind]
    rcases hkind with rfl | rfl <;> rfl
  have hne : ∀ d : Char, d.isAlpha = false → c ≠ d := by
    rintro d hd rfl
    rw [hc] at hd
    cases hd
  have hmark : c ≠ '/' ∧ c ≠ '-' := ⟨hne _ rfl, hne _ rfl⟩
  cases h with
  | space h =>
    rw [isSpace] at h
    simp only [Bool.or_eq_true, beq_iff_eq] at h
    rcases h with ((((rfl | rfl) | rfl) | rfl) | rfl) | rfl <;> cases hc
  | lineComment => cases hc
  | blockComment => cases hc
  | @escapeString c cs h =>
    refine .inr ⟨hquoted (.inl rfl), hmark.1, hmark.2, ?_⟩
    cases quoteEnd '\'' true cs with
    | none => exact ⟨'\'', cs, rfl, .inl rfl⟩
    | some n => exact ⟨'\'', cs.take n, rfl, .inl rfl⟩
  | @unicodeString c cs h =>
    refine .inr ⟨hquoted (.inl rfl), hmark.1, hmark.2, ?_⟩
    cases quoteEnd '\'' false cs with
    | none => exact ⟨'&', '\'' :: cs, rfl, .inr rfl⟩
    | some n => exact ⟨'&', '\'' :: cs.take n, rfl, .inr rfl⟩
  | @unicodeIdentifier c cs h =>
    refine .inr ⟨hquoted (.inr rfl), hmark.1, hmark.2, ?_⟩
    cases quoteEnd '"' false cs with
    | none => exact ⟨'&', '"' :: cs, rfl, .inr rfl⟩
    | some n => exact ⟨'&', '"' :: cs.take n, rfl, .inr rfl⟩
  | word h =>
    refine .inl ⟨rfl, List.forall_mem_cons.2 ⟨by simp [isIdentPart, h], fun d hd => ?_⟩⟩
    exact List.all_eq_true.1 List.all_takeWhile d hd
  | number h =>
    rw [not_isDigit_of_isAlpha hc] at h
    cases h
  | string => cases hc
  | quotedIdentifier => cases hc
  | semicolon => cases hc
  | dollarQuote => cases hc
  | symbol hspace hstart hdigit hsemicolon => simp [isIdentStart, hc] at hstart

/-- What ends a name: white space, or the end of the statement. -/
def EndsName (c : Char) : Prop := Patterns.isWhiteSpace c = true ∨ c = ';'

instance : Decidable (EndsName c) := inferInstanceAs (Decidable (Patterns.isWhiteSpace c = true ∨ c = ';'))

theorem EndsName.not_isNameChar (h : EndsName c) : isNameChar c = false := by
  rcases h with h | rfl
  · exact isWordChar_of_isWhiteSpace h
  · rfl

/-- A name without quotation marks is what a word is written as. -/
theorem read_word (hls : l :: ls <:+ lex text) (hapart : Apart (l :: ls)) {t : List Char}
    {name : List Char} (hletter : (c :: name).head?.any Char.isAlpha = true)
    (hname : ∀ e ∈ c :: name, isNameChar e = true) (hd : EndsName d) (hblank : l.isBlank = false)
    (h : (l :: ls).flatMap piece = (c :: name) ++ d :: t) :
    l.kind = .word ∧ l.raw = c :: name ∧ ls.flatMap piece = d :: t := by
  have hmem : l ∈ lex text := hls.subset List.mem_cons_self
  obtain ⟨e, cs, rest, hreads⟩ := reads_of_mem hmem
  obtain ⟨e', u, u', hraw, hpiece⟩ := piece_head hmem (isComment_of_not_isBlank hblank)
  have hall := hreads.raw
  rw [show (l, rest).1.raw = e' :: u from hraw, List.cons_append] at hall
  have hfirst := h
  rw [List.flatMap_cons, hpiece, List.cons_append, List.cons_append] at hfirst
  obtain rfl : e' = e := (List.cons.inj hall).1
  obtain rfl : e' = c := (List.cons.inj hfirst).1
  rcases word_of_reads hreads hletter with ⟨hkind, hident⟩ | ⟨hquoted, hslash, hdash, m, t', hraw', hm⟩
  · have hkind : l.kind = .word := hkind
    have hquoted : isQuoted l = false := by simp [isQuoted, hkind]
    have hcomment := isComment_of_not_isBlank hblank
    rw [List.flatMap_cons, piece_of_other hcomment hquoted, List.append_eq_append_iff] at h
    rcases h with ⟨more, hsplit, hrest⟩ | ⟨more, hsplit, hrest⟩
    · cases more with
      | nil => exact ⟨hkind, by rw [hsplit, List.append_nil], hrest⟩
      | cons f more =>
        have hnot := piece_after hls (by simp [Lexeme.isWordy, hkind]) hrest
        have hf : isNameChar f = true := hname f (by simp [hsplit])
        rw [isIdentPart_of_isNameChar hf] at hnot
        cases hnot
    · cases more with
      | nil => exact ⟨hkind, by rw [hsplit, List.append_nil], hrest.symm⟩
      | cons f more =>
        obtain ⟨rfl, -⟩ := List.cons.inj hrest
        have hin : d ∈ l.raw := by simp [hsplit]
        rcases hd with hwhite | rfl
        · have hin' : l ∈ tokensOf (l :: ls) := by
            rw [tokensOf_word hkind]
            exact List.mem_cons_self
          rw [hapart l hin' hkind d hin] at hwhite
          cases hwhite
        · cases hident ';' hin
  · -- The mark after the letter would be part of the name or its end.
    have hraw' : l.raw = e' :: m :: t' := hraw'
    have hmark : m ≠ '/' ∧ m ≠ '-' := by rcases hm with rfl | rfl <;> decide
    rw [List.flatMap_cons, piece_of_quoted hquoted, withoutComments_eq, hraw',
      withoutCommentsFrom_cons hslash hdash, withoutCommentsFrom_cons hmark.1 hmark.2] at h
    have hrest := (List.cons.inj h).2
    cases name with
    | nil =>
      obtain rfl : m = d := (List.cons.inj hrest).1
      rcases hm with rfl | rfl <;> exact absurd hd (by decide)
    | cons f name =>
      obtain rfl : m = f := (List.cons.inj hrest).1
      have hnot := hname m (by simp)
      rcases hm with rfl | rfl <;> cases hnot

/-! ## The keywords of a statement -/

/-- The letters of a keyword. -/
def IsLetters (s : String) : Prop := s.toList ≠ [] ∧ ∀ e ∈ s.toList, e.isAlpha = true

theorem isAlpha_toUpper (c : Char) : c.toUpper.isAlpha = c.isAlpha := by
  by_cases h : 'a'.val ≤ c.val ∧ c.val ≤ 'z'.val
  · obtain ⟨n, rfl⟩ := exists_small h
    revert n
    decide
  · rw [show c.toUpper = c from dif_neg h]

theorem isNameChar_of_isAlpha (h : c.isAlpha = true) : isNameChar c = true := by
  rw [isNameChar, Char.isAlphanum, h]
  rfl

theorem spells_word {s : String} (hs : IsLetters s) {name : List Char}
    (hname : name.map Char.toUpper = s.toList) :
    ∃ c rest, name = c :: rest ∧ ∀ e ∈ name, e.isAlpha = true := by
  have hall : ∀ e ∈ name, e.isAlpha = true := by
    intro e he
    rw [← isAlpha_toUpper]
    exact hs.2 _ (hname ▸ List.mem_map_of_mem he)
  cases name with
  | nil => exact absurd hname.symm hs.1
  | cons c rest => exact ⟨c, rest, rfl, hall⟩

/-- What a keyword and white space match. -/
theorem mem_keyword_spaces {s : String} {ps : List Pattern} {k' : Cursor} {b : Option Char} {t : List Char}
    (hk : k' ∈ sequence (keyword s :: spaces1 :: ps) ⟨b, t⟩) :
    ∃ name white b' t', t = name ++ (white ++ t') ∧ name.map Char.toUpper = s.toList ∧ white ≠ [] ∧
      (∀ e ∈ white, Patterns.isWhiteSpace e = true) ∧ k' ∈ sequence ps ⟨b', t'⟩ := by
  obtain ⟨mid, hmid, hk⟩ := List.mem_flatMap.1 hk
  obtain ⟨name, rest, rfl, hname, rfl⟩ := (spells_keyword s _ _ _).1 hmid
  obtain ⟨mid, hmid, hk⟩ := List.mem_flatMap.1 hk
  obtain ⟨white, t', rfl, ⟨hne, hwhite⟩, rfl⟩ := (spells_many1 _ _ _ _).1 hmid
  exact ⟨name, white, _, t', rfl, hname, hne, hwhite, hk⟩

/-- Words with white space after each. -/
def spacedWords (words : List String) : Pattern :=
  sequence (words.flatMap fun s => [keyword s, spaces1])

/-- A place among the lexemes: they come after it, and what is left of the text has white space before
what is left of them. -/
structure Place (text : List Char) (ls : List Lexeme) (left : List Char) : Prop where
  suffix : ls <:+ lex text
  apart : Apart ls
  left : ∃ white, ls.flatMap piece = white ++ left ∧ ∀ e ∈ white, Patterns.isWhiteSpace e = true

/-- The lexeme at a place where the text goes on with no white space. -/
theorem Place.lexeme {t : List Char} (h : Place text ls (c :: t))
    (hc : Patterns.isWhiteSpace c = false) :
    ∃ l rest, l :: rest <:+ lex text ∧ l.isBlank = false ∧ tokensOf ls = tokensOf (l :: rest) ∧
      (l :: rest).flatMap piece = c :: t := by
  obtain ⟨white, hleft, hwhite⟩ := h.left
  exact skip_blanks h.suffix h.apart hwhite hc hleft

theorem not_white_of_isNameChar (h : isNameChar c = true) : Patterns.isWhiteSpace c = false := by
  rw [← Bool.not_eq_true]
  intro hwhite
  rw [EndsName.not_isNameChar (.inl hwhite)] at h
  cases h

/-- A name without quotation marks at a place. -/
theorem Place.word {name t : List Char} (h : Place text ls (name ++ d :: t))
    (hletter : name.head?.any Char.isAlpha = true) (hname : ∀ e ∈ name, isNameChar e = true)
    (hd : EndsName d) :
    ∃ l rest, tokensOf ls = l :: tokensOf rest ∧ l.kind = .word ∧ l.raw = name ∧
      Place text rest (d :: t) := by
  cases name with
  | nil => cases hletter
  | cons c name =>
    have hc := not_white_of_isNameChar (hname c List.mem_cons_self)
    obtain ⟨l, rest, hsuffix, hblank, htokens, hleft⟩ := h.lexeme hc
    have hapart : Apart (l :: rest) := by
      rw [Apart, ← htokens]
      exact h.apart
    obtain ⟨hkind, hraw, hrest⟩ := read_word hsuffix hapart hletter hname hd hblank hleft
    refine ⟨l, rest, by rw [htokens, tokensOf_word hkind], hkind, hraw, ?_, ?_, [], hrest, nofun⟩
    · exact (List.suffix_cons l rest).trans hsuffix
    · intro m hm
      refine hapart m ?_
      rw [tokensOf_word hkind]
      exact List.mem_cons_of_mem _ hm

/-- The words that a pattern finds are those of the statement. -/
theorem Place.words {words : List String} (hwords : ∀ s ∈ words, IsLetters s) {b : Option Char}
    {left v : List Char} {k : Cursor} (hplace : Place text ls (left ++ v))
    (hk : k ∈ spacedWords words ⟨b, left⟩) :
    ∃ found rest, tokensOf ls = found ++ tokensOf rest ∧
      List.Forall₂ (fun s l => l.isKeyword s = true) words found ∧ Place text rest (k.rest ++ v) := by
  induction words generalizing ls b left with
  | nil =>
    obtain rfl := List.mem_singleton.1 hk
    exact ⟨[], ls, rfl, .nil, hplace⟩
  | cons s words ih =>
    obtain ⟨hs, hwords⟩ := List.forall_mem_cons.1 hwords
    obtain ⟨name, white, b', t, rfl, hname, hne, hwhite, hnext⟩ := mem_keyword_spaces hk
    obtain ⟨c, name, rfl, hletters⟩ := spells_word hs hname
    obtain ⟨d, white, rfl⟩ := List.exists_cons_of_ne_nil hne
    have hsplit : c :: name ++ (d :: white ++ t) ++ v = c :: name ++ d :: (white ++ (t ++ v)) := by simp
    rw [hsplit] at hplace
    have hletter : (c :: name).head?.any Char.isAlpha = true := hletters c List.mem_cons_self
    obtain ⟨l, rest, htokens, hkind, hraw, hsuffix, hapart, white', hleft, hwhite'⟩ :=
      hplace.word hletter (fun e he => isNameChar_of_isAlpha (hletters e he))
        (.inl (hwhite d List.mem_cons_self))
    have hplace : Place text rest (t ++ v) := by
      refine ⟨hsuffix, hapart, white' ++ d :: white, ?_, ?_⟩
      · rw [hleft, List.append_assoc, List.cons_append]
      · intro e he
        exact (List.mem_append.1 he).elim (hwhite' e) (hwhite e)
    obtain ⟨found, rest', htokens', hfound, hplace'⟩ := ih hwords hplace hnext
    have hkeyword : l.isKeyword s = true := by simp [Lexeme.isKeyword, hkind, hraw, hname]
    exact ⟨l :: found, rest', by rw [htokens, htokens', List.cons_append], .cons hkeyword hfound, hplace'⟩

/-! ## Names in quotation marks -/

theorem withoutCommentsFrom_eq_nil {b b' : Option Char} {u : List Char}
    (h : withoutCommentsFrom b b' u = []) : u = [] := by
  have hnil : ∀ {p : Pattern} {b : Option Char} {u : List Char}, replaceFrom p [' '] 0 b u = [] →
      u = [] := by
    intro p b u h
    cases u with
    | nil => rfl
    | cons c cs =>
      rw [replaceFrom] at h
      cases hm : matchAt p ⟨b, c :: cs⟩ with
      | none =>
        rw [hm] at h
        cases h
      | some m =>
        rw [hm] at h
        cases h
  exact hnil (hnil h)

theorem unquote_append {mark : Char} {name rest : List Char} (hname : mark ∉ name)
    (hrest : rest.head? ≠ some mark) : unquote mark (name ++ mark :: rest) = name := by
  induction name with
  | nil =>
    cases rest with
    | nil => simp [unquote]
    | cons c rest =>
      have hc : c ≠ mark := fun h => hrest (congrArg some h)
      rw [List.nil_append, unquote, if_pos rfl, if_neg hc]
  | cons c name ih =>
    rw [List.mem_cons, not_or] at hname
    have hnext := ih hname.2
    obtain ⟨d, ds, hd⟩ := List.exists_cons_of_ne_nil (List.append_ne_nil_of_right_ne_nil name
      (List.cons_ne_nil mark rest))
    rw [List.cons_append]
    rw [hd] at hnext ⊢
    rw [unquote, if_neg (Ne.symm hname.1), hnext]

theorem next_quotedIdentifier (cs : List Char) :
    next '"' cs = delimited .quotedIdentifier ['"'] cs (quoteEnd '"' false cs) := by
  simp [next, isSpace, isIdentStart, Char.isDigit, Char.isAlpha, Char.isUpper, Char.isLower]

theorem unquote_of_left {body left v name t : List Char} {b b' : Option Char} (hmark : '"' ∉ name)
    (hspace : ' ' ∉ name) (hd : d ≠ '"') (hclosed : v = [] ∨ '"' ∈ body)
    (hleft : left = withoutCommentsFrom b b' body) (h : left ++ v = name ++ '"' :: d :: t) :
    unquote '"' body = name := by
  rw [List.append_cons, List.append_eq_append_iff] at h
  rcases h with ⟨more, hsplit, hrest⟩ | ⟨more, hsplit, hrest⟩
  · -- The piece ends before the mark or with it.
    cases more with
    | nil =>
      rw [List.append_nil] at hsplit
      rw [← hsplit] at hleft
      have hnone : ' ' ∉ name ++ ['"'] := by simp [hspace]
      have hwhole : withoutCommentsFrom b b' body = (name ++ ['"']) ++ [] := by
        rw [← hleft, List.append_nil]
      obtain ⟨e, e', u, hbody, hnil⟩ := withoutCommentsFrom_prefix hnone hwhole
      rw [hbody, withoutCommentsFrom_eq_nil hnil.symm, List.append_nil]
      exact unquote_append hmark nofun
    | cons f more =>
      have hleftName : ∃ name', name = left ++ name' := by
        have hconcat : (f :: more) ≠ [] := List.cons_ne_nil _ _
        rw [← List.dropLast_append_getLast hconcat, ← List.append_assoc] at hsplit
        exact ⟨(f :: more).dropLast, (List.append_inj_left' hsplit rfl)⟩
      obtain ⟨name', rfl⟩ := hleftName
      rw [List.mem_append, not_or] at hmark hspace
      have hwhole : withoutCommentsFrom b b' body = left ++ [] := by rw [← hleft, List.append_nil]
      obtain ⟨e, e', u, hbody, hnil⟩ := withoutCommentsFrom_prefix hspace.1 hwhole
      rw [withoutCommentsFrom_eq_nil hnil.symm, List.append_nil] at hbody
      rcases hclosed with rfl | hmem
      · cases hrest
      · exact absurd (hbody ▸ hmem) hmark.1
  · have hnone : ' ' ∉ name ++ ['"'] := by simp [hspace]
    obtain ⟨e, e', u, rfl, hmore⟩ := withoutCommentsFrom_prefix hnone (hleft.symm.trans hsplit)
    rw [List.append_assoc, List.singleton_append]
    refine unquote_append hmark fun hhead => ?_
    obtain ⟨u', rfl⟩ := List.head?_eq_some_iff.1 hhead
    rw [withoutCommentsFrom_cons (by decide) (by decide)] at hmore
    rw [hmore, List.cons_append] at hrest
    exact hd (List.cons.inj hrest).1

/-- A name in quotation marks at a place. -/
theorem Place.quoted {name t : List Char} (h : Place text ls ('"' :: (name ++ '"' :: d :: t)))
    (hname : ∀ e ∈ name, isNameChar e = true) (hd : EndsName d) :
    ∃ l rest, tokensOf ls = l :: tokensOf rest ∧ l.name? = some name := by
  obtain ⟨l, rest, hsuffix, hblank, htokens, hleft⟩ := h.lexeme (by rfl)
  have hmem : l ∈ lex text := hsuffix.subset List.mem_cons_self
  obtain ⟨e, u, u', hraw, hpiece⟩ := piece_head hmem (isComment_of_not_isBlank hblank)
  have hfirst := hleft
  rw [List.flatMap_cons, hpiece, List.cons_append] at hfirst
  obtain rfl : e = '"' := (List.cons.inj hfirst).1
  obtain ⟨before, hsplit⟩ := hsuffix
  have hlex := lex_split hsplit.symm
  rw [List.flatMap_cons, hraw, List.cons_append, lex_cons, next_quotedIdentifier] at hlex
  obtain ⟨hl, hrest⟩ := List.cons.inj hlex
  have hkind : l.kind = .quotedIdentifier := by rw [← hl, delimited_kind]
  have hquoted : isQuoted l = true := by simp [isQuoted, hkind]
  have hclosed : rest.flatMap piece = [] ∨ '"' ∈ u := by
    cases hend : quoteEnd '"' false (u ++ rest.flatMap (·.raw)) with
    | none =>
      rw [hend, delimited, lex_nil] at hrest
      rw [← hrest]
      exact .inl rfl
    | some n =>
      obtain ⟨body, hbody⟩ := quoteEnd_take hend
      rw [hend, delimited, hbody] at hl
      rw [← hl, List.singleton_append] at hraw
      rw [← (List.cons.inj hraw).2]
      exact .inr (by simp)
  have hnot : ∀ f : Char, isNameChar f = false → f ∉ name := by
    intro f hf hin
    rw [hname f hin] at hf
    cases hf
  have hdne : d ≠ '"' := by
    rintro rfl
    exact absurd hd (by decide)
  rw [List.flatMap_cons, piece_of_quoted hquoted, withoutComments_eq, hraw,
    withoutCommentsFrom_cons (by decide) (by decide), List.cons_append] at hleft
  have hunquote := unquote_of_left (hnot _ rfl) (hnot _ rfl) hdne hclosed rfl (List.cons.inj hleft).2
  refine ⟨l, rest, ?_, ?_⟩
  · rw [htokens]
    exact tokensOf_next hblank (by simp [hkind])
  · have hescaped : l.isEscaped = false := by simp [Lexeme.isEscaped, hraw]
    rw [Lexeme.name?, Lexeme.nameUnder, hkind]
    simp only [hescaped, Bool.false_eq_true, ↓reduceIte, hraw, List.tail_cons, hunquote]

/-! ## The extension that a statement creates -/

/-- What a pattern has matched when it spells a text. -/
theorem between_past {w rest : List Char} {b b' : Option Char} :
    between ⟨b, w ++ rest⟩ ⟨b', rest⟩ = w := by
  simp [between]

theorem mem_groupNames {p after : Pattern} {L : List Char → Prop} (hp : Spells p L) {name t : List Char}
    {b : Option Char} (h : name ∈ groupNames p after ⟨b, t⟩) :
    ∃ b' rest, t = name ++ rest ∧ L name ∧ after ⟨b', rest⟩ ≠ [] := by
  obtain ⟨k, hk, rfl⟩ := List.mem_map.1 h
  obtain ⟨hk, hafter⟩ := List.mem_filter.1 hk
  obtain ⟨w, rest, rfl, hw, rfl⟩ := (hp _ _ _).1 hk
  rw [between_past]
  exact ⟨Cursor.past b w, rest, rfl, hw, by simpa using hafter⟩

theorem tail_of_ne_nil {b : Option Char} {t : List Char} (h : extensionTail ⟨b, t⟩ ≠ []) :
    ∃ d t', t = d :: t' ∧ EndsName d := by
  obtain ⟨k, hk⟩ := List.exists_mem_of_ne_nil _ h
  obtain ⟨mid, hmid, hk⟩ := List.mem_flatMap.1 hk
  obtain ⟨white, rest, rfl, hwhite, rfl⟩ := (spells_many _ _ _ _).1 hmid
  obtain ⟨mid, hmid, -⟩ := List.mem_flatMap.1 hk
  obtain ⟨w, rest, rfl, rfl, -⟩ := (spells_exactly ";" _ _ _).1 hmid
  cases white with
  | nil => exact ⟨';', rest, rfl, .inr rfl⟩
  | cons d white => exact ⟨d, white ++ (";".toList ++ rest), rfl, .inl (hwhite d List.mem_cons_self)⟩

/-- The words before the name of an extension. -/
def extensionWords : List String := ["CREATE", "EXTENSION", "IF", "NOT", "EXISTS"]

/-- The name in a statement that the anchored expression matches. -/
theorem parsedExtension_split {statement name : List Char}
    (h : parsedExtension statement = some name) :
    ∃ k ∈ spacedWords extensionWords ⟨none, statement⟩, ∃ d t, EndsName d ∧
      (∀ e ∈ name, isNameChar e = true) ∧
      (k.rest = '"' :: (name ++ '"' :: d :: t) ∨
        k.rest = name ++ d :: t ∧ name.head?.any Char.isAlpha = true) := by
  have hmem := List.mem_of_head? h
  obtain ⟨k, hk, hname⟩ := List.mem_flatMap.1 hmem
  rcases List.mem_append.1 hname with hname | hname
  · obtain ⟨mid, hmid, hname⟩ := List.mem_flatMap.1 hname
    obtain ⟨w, rest, hsplit, rfl, rfl⟩ := (spells_exactly "\"" k.before k.rest mid).1 hmid
    obtain ⟨b, rest, rfl, ⟨-, hchars⟩, hafter⟩ := mem_groupNames (spells_many1 isNameChar) hname
    obtain ⟨k', hk'⟩ := List.exists_mem_of_ne_nil _ hafter
    obtain ⟨mid, hmid, hk'⟩ := List.mem_flatMap.1 hk'
    obtain ⟨w, rest, rfl, rfl, rfl⟩ := (spells_exactly "\"" _ _ _).1 hmid
    obtain ⟨d, t, rfl, hd⟩ := tail_of_ne_nil (List.ne_nil_of_mem hk')
    exact ⟨k, hk, d, t, hd, hchars, .inl hsplit⟩
  · have hspells := spells_both (spells_one isAsciiLetter) (spells_many isNameChar)
    obtain ⟨b, rest, hsplit, ⟨u, v, rfl, ⟨c, hc, rfl⟩, hv⟩, hafter⟩ :=
      mem_groupNames (b := k.before) (t := k.rest) hspells hname
    obtain ⟨d, t, rfl, hd⟩ := tail_of_ne_nil hafter
    refine ⟨k, hk, d, t, hd, ?_, .inr ⟨hsplit, hc⟩⟩
    exact List.forall_mem_cons.2 ⟨isNameChar_of_isAlpha hc, hv⟩

theorem startsWith_iff {words : List String} {statement : List Lexeme} :
    begins words statement = true ↔
      ∃ found rest, statement = found ++ rest ∧
        List.Forall₂ (fun s l => l.isKeyword s = true) words found := by
  rw [begins]
  induction words generalizing statement with
  | nil => exact ⟨fun _ => ⟨[], statement, rfl, .nil⟩, fun _ => by simp [startsWith]⟩
  | cons s words ih =>
    cases statement with
    | nil =>
      constructor
      · intro h
        simp [startsWith] at h
      · rintro ⟨found, rest, hsplit, hfound⟩
        cases hfound with
        | cons hs hfound => cases hsplit
    | cons l statement =>
      have hcons : startsWith (s :: words) ((l :: statement).map .leaf) =
          (l.isKeyword s && startsWith words (statement.map .leaf)) := by
        simp [startsWith, Item.isKeyword, Bool.and_left_comm]
      rw [hcons, Bool.and_eq_true, ih]
      constructor
      · rintro ⟨hs, found, rest, rfl, hfound⟩
        exact ⟨l :: found, rest, rfl, .cons hs hfound⟩
      · rintro ⟨found, rest, hsplit, hfound⟩
        cases hfound with
        | cons hs hfound =>
          obtain ⟨rfl, hrest⟩ := List.cons.inj hsplit
          exact ⟨hs, _, rest, hrest, hfound⟩

theorem createdExtension_begins {statement : List Lexeme} {name : List Char}
    (h : createdExtension statement = some name) : begins ["CREATE", "EXTENSION"] statement = true := by
  rw [createdExtension] at h
  by_cases hfive : begins ["CREATE", "EXTENSION", "IF", "NOT", "EXISTS"] statement = true
  · obtain ⟨found, rest, rfl, hfound⟩ := startsWith_iff.1 hfive
    cases hfound with
    | @cons _ l _ tail hl htail =>
      cases htail with
      | @cons _ m _ tail hm htail =>
        exact startsWith_iff.2 ⟨[l, m], tail ++ rest, rfl, .cons hl (.cons hm .nil)⟩
  · rw [if_neg hfive] at h
    by_contra htwo
    rw [if_neg htwo] at h
    cases h

/-- A statement that the anchored expression matches creates the extension of that name. -/
theorem createdExtension_of_parsed {statement v name : List Char}
    (hplace : Place text ls (statement ++ v)) (h : parsedExtension statement = some name) :
    createdExtension (tokensOf ls) = some name ∨
      createdExtension (tokensOf ls) = some (name.map Char.toLower) := by
  obtain ⟨k, hk, d, t, hd, hchars, hrest⟩ := parsedExtension_split h
  have hletters : ∀ s ∈ extensionWords, IsLetters s := by
    have hall : ∀ s ∈ extensionWords, s.toList ≠ [] ∧ (s.toList.all fun c => decide (c.isAlpha = true)) = true := by
      decide
    exact fun s hs => ⟨(hall s hs).1, Texts.forall_chars (hall s hs).2⟩
  obtain ⟨found, rest, htokens, hfound, hname⟩ := hplace.words hletters hk
  have hbegins : begins extensionWords (found ++ tokensOf rest) = true :=
    startsWith_iff.2 ⟨found, tokensOf rest, rfl, hfound⟩
  have hdrop : (found ++ tokensOf rest).drop 5 = tokensOf rest :=
    List.drop_left' hfound.length_eq.symm
  have hcreated : createdExtension (tokensOf ls) = (tokensOf rest).head?.bind (·.name?) := by
    rw [htokens, createdExtension, ← extensionWords, if_pos hbegins, hdrop]
  rw [hcreated]
  rcases hrest with hrest | ⟨hrest, hletter⟩
  · rw [hrest, List.cons_append, List.append_assoc, List.cons_append, List.cons_append] at hname
    obtain ⟨l, rest', htokens', hname⟩ := hname.quoted hchars hd
    rw [htokens']
    exact .inl hname
  · rw [hrest, List.append_assoc, List.cons_append] at hname
    obtain ⟨l, rest', htokens', hkind, hraw, -⟩ := hname.word hletter hchars hd
    rw [htokens']
    refine .inr ?_
    rw [List.head?_cons, Option.bind_some, Lexeme.name?, Lexeme.nameUnder, hkind, hraw]

/-! ## The place of a statement -/

/-- Two keywords with white space between them. -/
def Spelled (a b : String) (w : List Char) : Prop :=
  ∃ x white y, w = x ++ (white ++ y) ∧ x.map Char.toUpper = a.toList ∧
    (white ≠ [] ∧ ∀ c ∈ white, Patterns.isWhiteSpace c = true) ∧ y.map Char.toUpper = b.toList

theorem spells_pair (a b : String) :
    Spells (sequence [keyword a, spaces1, keyword b]) (Spelled a b) := by
  refine (spells_both (spells_keyword a) (spells_both (spells_many1 _)
    (spells_both (spells_keyword b) spells_nil))).congr fun w => ?_
  constructor
  · rintro ⟨x, v, rfl, hx, white, v', rfl, hwhite, y, z, rfl, hy, rfl⟩
    exact ⟨x, white, y, by rw [List.append_nil], hx, hwhite, hy⟩
  · rintro ⟨x, white, y, rfl, hx, hwhite, hy⟩
    exact ⟨x, white ++ y, rfl, hx, white, y, rfl, hwhite, y, [], (List.append_nil y).symm, hy, rfl⟩

theorem piece_of_word (h : l.kind = .word) : piece l = l.raw :=
  piece_of_other (by simp [Lexeme.isComment, h]) (by simp [isQuoted, h])

theorem piece_of_semicolon (hl : l ∈ lex text) (h : l.kind = .semicolon) : piece l = [';'] := by
  rw [← raw_of_semicolon hl h]
  exact piece_of_other (by simp [Lexeme.isComment, h]) (by simp [isQuoted, h])

/-- What comes before a statement ends with no character of a word. -/
theorem before_statement (hsplit : lex text = before ++ after)
    (hlast : ∀ m, before.getLast? = some m → m.kind = .semicolon ∨ m.isBlank = true) :
    (before.flatMap piece).getLast?.any isWordChar = false := by
  rcases List.eq_nil_or_concat before with rfl | ⟨init, m, rfl⟩
  · rfl
  · have hmem : m ∈ lex text := by simp [hsplit]
    rw [List.concat_eq_append, List.flatMap_append, List.flatMap_singleton,
      List.getLast?_append_of_ne_nil _ (piece_ne_nil hmem)]
    rw [List.concat_eq_append, List.getLast?_concat] at hlast
    have hnone : ∀ c ∈ piece m, isWordChar c = false := by
      rcases hlast m rfl with hkind | hblank
      · rw [piece_of_semicolon hmem hkind]
        exact Texts.forall_chars (by decide)
      · exact fun c hc => isWordChar_of_isWhiteSpace ((piece_of_blank hmem hblank).2 c hc)
    cases hend : (piece m).getLast? with
    | none => rfl
    | some c => exact hnone c (List.mem_of_getLast? hend)

theorem isBlank_pieces (hls : ls <:+: lex text) (hblank : ∀ m ∈ ls, m.isBlank = true) :
    ∀ c ∈ ls.flatMap piece, Patterns.isWhiteSpace c = true := by
  intro c hc
  obtain ⟨m, hm, hc⟩ := List.mem_flatMap.1 hc
  exact (piece_of_blank (hls.subset hm) (hblank m hm)).2 c hc

/-- Where a statement that begins with two keywords stands in what is left of the text. -/
theorem exists_place {st : List Lexeme} (hst : st ∈ statementsOf text) {a b : String}
    (hb : IsLetters b) (hbegins : begins [a, b] st = true) :
    ∃ before ls w v, lex text = before ++ ls ∧ tokensOf ls = st ∧ ls.flatMap piece = w ++ v ∧
      Spelled a b w ∧ (before.flatMap piece).getLast?.any isWordChar = false ∧
      v.head?.any isWordChar = false := by
  obtain ⟨before, after, hsplit, hst, hlast⟩ := exists_of_mem_statementsOf hst
  obtain ⟨found, rest, hfound, hkeywords⟩ := startsWith_iff.1 hbegins
  cases hkeywords with
  | @cons _ l _ tail hl htail =>
  cases htail with
  | @cons _ m _ tail hm htail =>
  cases htail
  rw [Lexeme.isKeyword, Bool.and_eq_true, beq_iff_eq, beq_iff_eq] at hl hm
  obtain ⟨blanks, after, rfl, hblanks, hlblank, htokens⟩ := tokensOf_cons (hst.symm.trans hfound)
  obtain ⟨gap, after, rfl, hgap, hmblank, htokens⟩ := tokensOf_cons htokens
  have hall : lex text = (before ++ blanks) ++ (l :: (gap ++ m :: after)) := by
    rw [hsplit, List.append_assoc]
  have hsuffix : l :: (gap ++ m :: after) <:+ lex text := ⟨_, hall.symm⟩
  have hmsuffix : m :: after <:+ lex text :=
    (List.suffix_append gap _).trans ((List.suffix_cons l _).trans hsuffix)
  have hwordy : ∀ {n : Lexeme}, n.kind = .word → n.isWordy = true := by
    intro n hn
    simp [Lexeme.isWordy, hn]
  refine ⟨before ++ blanks, l :: (gap ++ m :: after), l.raw ++ (gap.flatMap piece ++ m.raw),
    after.flatMap piece, hall, ?_, ?_, ⟨l.raw, gap.flatMap piece, m.raw, rfl, hl.2, ⟨?_, ?_⟩, hm.2⟩,
    before_statement hall ?_, ?_⟩
  · rw [tokensOf_word hl.1, tokensOf_append hgap hmblank (by simp [hm.1]), htokens, hfound]
    rfl
  · rw [List.flatMap_cons, List.flatMap_append, List.flatMap_cons, piece_of_word hl.1,
      piece_of_word hm.1, List.append_assoc, List.append_assoc]
  · intro hnil
    obtain ⟨c, raw, hraw, hletters⟩ := spells_word hb hm.2
    have hhead : (gap ++ m :: after).flatMap piece = c :: (raw ++ after.flatMap piece) := by
      rw [List.flatMap_append, hnil, List.nil_append, List.flatMap_cons, piece_of_word hm.1, hraw,
        List.cons_append]
    have hnot := piece_after hsuffix (hwordy hl.1) hhead
    have hc : c.isAlpha = true := hletters c (by simp [hraw])
    rw [isIdentPart_of_isNameChar (isNameChar_of_isAlpha hc)] at hnot
    cases hnot
  · have hinfix : gap <:+: lex text := ⟨before ++ blanks ++ [l], m :: after, by rw [hall]; simp⟩
    exact isBlank_pieces hinfix hgap
  · intro n hn
    rw [List.getLast?_append] at hn
    cases hend : blanks.getLast? with
    | none =>
      rw [hend] at hn
      exact .inl (hlast n hn)
    | some e =>
      rw [hend] at hn
      obtain rfl := Option.some.inj hn
      exact .inr (hblanks e (List.mem_of_getLast? hend))
  · cases hv : after.flatMap piece with
    | nil => rfl
    | cons d ds => exact isWordChar_of_endsWords (.inl (piece_after hmsuffix (hwordy hm.1) hv))

/-! ## The scan -/

theorem mem_bounded {p : Pattern} {L : List Char → Prop} (hp : Spells p L) {b : Option Char}
    {t : List Char} {k : Cursor} (h : k ∈ sequence [boundary, p, boundary] ⟨b, t⟩) :
    ∃ w rest, t = w ++ rest ∧ L w ∧ k = ⟨Cursor.past b w, rest⟩ := by
  obtain ⟨mid, hmid, hk⟩ := List.mem_flatMap.1 h
  obtain ⟨-, rfl⟩ := mem_boundary.1 hmid
  obtain ⟨mid, hmid, hk⟩ := List.mem_flatMap.1 hk
  obtain ⟨w, rest, rfl, hw, rfl⟩ := (hp _ _ _).1 hmid
  obtain ⟨mid, hmid, hk⟩ := List.mem_flatMap.1 hk
  obtain ⟨-, rfl⟩ := mem_boundary.1 hmid
  exact ⟨w, rest, rfl, hw, List.mem_singleton.1 hk⟩

/-- What matches at a place is what comes up to the end of the match. -/
theorem matchAt_split {p : Pattern} {L : List Char → Prop} {b : Option Char} {t m : List Char}
    (hp : ∀ k ∈ p ⟨b, t⟩, ∃ w, t = w ++ k.rest ∧ L w) (h : matchAt p ⟨b, t⟩ = some m) :
    L m ∧ ∃ rest, t = m ++ rest := by
  obtain ⟨k, hk, rfl⟩ := Option.map_eq_some_iff.1 h
  obtain ⟨w, hsplit, hw⟩ := hp k (List.mem_of_head? hk)
  have htake : t.take (t.length - k.rest.length) = w := by
    rw [hsplit]
    simp
  simp only [htake]
  exact ⟨hw, k.rest, hsplit⟩

theorem extensionToken_split {b : Option Char} {t : List Char} :
    ∀ k ∈ extensionToken ⟨b, t⟩, ∃ w, t = w ++ k.rest ∧ Spelled "CREATE" "EXTENSION" w := by
  intro k hk
  obtain ⟨w, rest, rfl, hw, rfl⟩ := mem_bounded (spells_pair _ _) hk
  exact ⟨w, rfl, hw⟩

theorem extensionStatement_split {b : Option Char} {t : List Char} :
    ∀ k ∈ extensionStatement ⟨b, t⟩, ∃ w, t = w ++ k.rest ∧ True := by
  intro k hk
  obtain ⟨mid, hmid, hk⟩ := List.mem_flatMap.1 hk
  obtain ⟨w, rest, rfl, -, rfl⟩ := mem_bounded (spells_pair _ _) hmid
  obtain ⟨mid, hmid, hk⟩ := List.mem_flatMap.1 hk
  obtain ⟨w', rest, rfl, -, rfl⟩ := (spells_many _ _ _ _).1 hmid
  obtain ⟨mid, hmid, hk⟩ := List.mem_flatMap.1 hk
  obtain ⟨w'', rest, rfl, -, rfl⟩ := (spells_exactly ";" _ _ _).1 hmid
  obtain rfl := List.mem_singleton.1 hk
  exact ⟨w ++ (w' ++ w''), by simp, trivial⟩

theorem toUpper_of_isWhiteSpace (h : Patterns.isWhiteSpace c = true) : (c.toUpper == 'C') = false := by
  rw [← Bool.not_eq_true, beq_iff_eq]
  intro hc
  have hword := isWordChar_toUpper c
  rw [hc, isWordChar_of_isWhiteSpace h] at hword
  cases hword

/-- In what the token matches, only the first letter is a C. -/
theorem extensionToken_rest {cs w : List Char} (h : Spelled "CREATE" "EXTENSION" w)
    (hsplit : w = c :: cs) : ∀ d ∈ cs, (d.toUpper == 'C') = false := by
  obtain ⟨x, white, y, rfl, hx, ⟨-, hwhite⟩, hy⟩ := h
  have hletters : ∀ {z v : List Char}, z.map Char.toUpper = v → (∀ e ∈ v, (e == 'C') = false) →
      ∀ e ∈ z, (e.toUpper == 'C') = false := by
    rintro z v rfl hv e he
    exact hv _ (List.mem_map_of_mem he)
  cases x with
  | nil => cases hx
  | cons e x =>
    obtain ⟨rfl, rfl⟩ := List.cons.inj hsplit
    intro d hd
    rcases List.mem_append.1 hd with hd | hd
    · exact hletters (List.cons.inj hx).2 (Texts.forall_chars (by decide)) d hd
    rcases List.mem_append.1 hd with hd | hd
    · exact toUpper_of_isWhiteSpace (hwhite d hd)
    · exact hletters hy (Texts.forall_chars (by decide)) d hd

theorem starts_extensionToken (t : List Char) :
    starts extensionToken none t ≤ (matchAll extensionToken t).length := by
  refine starts_le_length (f := fun c => c.toUpper == 'C') ?_ ?_ 0 none t (by simp)
  · intro b c cs hne
    obtain ⟨k, hk⟩ := List.exists_mem_of_ne_nil _ hne
    obtain ⟨w, hsplit, x, white, y, rfl, hx, -⟩ := extensionToken_split k hk
    cases x with
    | nil => cases hx
    | cons e x =>
      rw [(List.cons.inj hsplit).1]
      exact beq_iff_eq.2 (List.cons.inj hx).1
  · intro b c cs m hm d hd
    obtain ⟨hspelled, rest, hsplit⟩ := matchAt_split extensionToken_split hm
    cases m with
    | nil =>
      obtain ⟨x, white, y, hnil, hx, -⟩ := hspelled
      rw [(List.append_eq_nil_iff.1 hnil.symm).1] at hx
      cases hx
    | cons e m =>
      obtain ⟨rfl, rfl⟩ := List.cons.inj hsplit
      refine extensionToken_rest hspelled rfl d ?_
      simpa using hd

theorem mem_forbidden {a b : String} (h : [a, b] ∈ globalStatements) {k k' : Cursor}
    (hk : k' ∈ sequence [keyword a, spaces1, keyword b] k) :
    k' ∈ either (sequence [keyword "CREATE", spaces1, anyKeyword globalObjects])
      (sequence [keyword "ALTER", spaces1, keyword "SYSTEM"]) k := by
  rw [either, List.mem_append]
  rcases List.mem_append.1 h with h | h
  · obtain ⟨object, hobject, hpair⟩ := List.mem_map.1 h
    obtain ⟨rfl, hb⟩ := List.cons.inj hpair
    obtain ⟨rfl, -⟩ := List.cons.inj hb
    obtain ⟨mid, hmid, hk⟩ := List.mem_flatMap.1 hk
    obtain ⟨mid', hmid', hk⟩ := List.mem_flatMap.1 hk
    obtain ⟨mid'', hmid'', hk⟩ := List.mem_flatMap.1 hk
    refine .inl (List.mem_flatMap.2 ⟨mid, hmid, List.mem_flatMap.2 ⟨mid', hmid', ?_⟩⟩)
    exact List.mem_flatMap.2 ⟨mid'', mem_anyKeyword.2 ⟨object, hobject, hmid''⟩, hk⟩
  · obtain ⟨rfl, hb⟩ := List.cons.inj (List.mem_singleton.1 h)
    obtain ⟨rfl, -⟩ := List.cons.inj hb
    exact .inr hk

/-- A pattern between boundaries matches at the place of a statement that begins as it does. -/
theorem matches_at_place {p : Pattern} {a b : String} (ha : IsLetters a) (hb : IsLetters b)
    (hp : ∀ k k', k' ∈ sequence [keyword a, spaces1, keyword b] k → k' ∈ p k) {u w v : List Char}
    (hw : Spelled a b w) (hu : u.getLast?.any isWordChar = false)
    (hv : v.head?.any isWordChar = false) :
    ∃ c w', w = c :: w' ∧
      sequence [boundary, p, boundary] ⟨Cursor.past none u, c :: (w' ++ v)⟩ ≠ [] := by
  have hmem : ∀ before, (⟨Cursor.past before w, v⟩ : Cursor) ∈ p ⟨before, w ++ v⟩ :=
    fun before => hp _ _ ((spells_pair a b _ _ _).2 ⟨w, v, rfl, hw, rfl⟩)
  obtain ⟨x, white, y, rfl, hx, hwhite, hy⟩ := hw
  obtain ⟨c, x, rfl, hletters⟩ := spells_word ha hx
  obtain ⟨d, y', rfl, hletters'⟩ := spells_word hb hy
  have hword : ∀ {e : Char}, e.isAlpha = true → isWordChar e = true := isNameChar_of_isAlpha
  refine ⟨c, x ++ (white ++ d :: y'), rfl, ?_⟩
  have hlast : (c :: x ++ (white ++ d :: y')).getLast? = (d :: y').getLast? := by
    rw [← List.append_assoc, List.getLast?_append_of_ne_nil _ (List.cons_ne_nil d y')]
  refine bounded_ne_nil hmem (c := c) (d := (d :: y').getLast (List.cons_ne_nil d y')) rfl ?_
    (hword (hletters c List.mem_cons_self)) (hword (hletters' _ (List.getLast_mem _))) hu hv
  rw [hlast, List.getLast?_eq_some_getLast (List.cons_ne_nil d y')]

/-- A statement that is accepted creates an allowed extension, which is kept. -/
theorem scanStatement_ok {allowed extensions result : List String} {path : String}
    {statement : List Char} (h : scanStatement allowed path extensions statement = .ok result) :
    extensions ⊆ result ∧
      ∃ name, normalizedExtension statement = some name ∧ name ∈ allowed ∧ name ∈ result := by
  rw [scanStatement] at h
  cases hname : normalizedExtension statement with
  | none =>
    rw [hname] at h
    cases h
  | some name =>
    rw [hname] at h
    obtain ⟨hallowed, h⟩ := check_ok h
    obtain rfl := Except.ok.inj h
    rw [addExtension]
    split
    · next hin => exact ⟨fun _ h => h, name, rfl, hallowed, hin⟩
    · exact ⟨List.subset_append_left _ _, name, rfl, hallowed, by simp⟩

theorem scanMigration_ok {allowed extensions result : List String} {entry : Migration}
    (h : scanMigration allowed extensions entry = .ok result) :
    extensions ⊆ result ∧
      (matchAll forbiddenPattern (withoutComments entry.sql.toList) = [] ∧
        (matchAll extensionStatement (withoutComments entry.sql.toList)).length =
          (matchAll extensionToken (withoutComments entry.sql.toList)).length ∧
        ∀ m ∈ matchAll extensionStatement (withoutComments entry.sql.toList),
          ∃ name, normalizedExtension m = some name ∧ name ∈ allowed ∧ name ∈ result) := by
  rw [scanMigration] at h
  cases hforbidden : (matchAll forbiddenPattern (withoutComments entry.sql.toList)).head? with
  | some forbidden =>
    simp only [hforbidden] at h
    cases h
  | none =>
    simp only [hforbidden] at h
    obtain ⟨hlength, h⟩ := guard_ok h
    obtain ⟨hgrows, hall⟩ := foldlM_grows (R := fun a b => a ⊆ b) (fun _ => List.Subset.refl _)
      (fun _ _ _ => List.Subset.trans) (fun _ _ _ hstep => (scanStatement_ok hstep).1) h
    refine ⟨hgrows, List.head?_eq_none_iff.1 hforbidden, not_not.1 hlength, fun m hm => ?_⟩
    obtain ⟨c, c', hstep, hsub⟩ := hall m hm
    obtain ⟨-, name, hname, hallowed, hin⟩ := scanStatement_ok hstep
    exact ⟨name, hname, hallowed, hsub hin⟩

theorem globalStatements_pair {keywords : List String} (h : keywords ∈ globalStatements) :
    ∃ a b, keywords = [a, b] ∧ IsLetters a ∧ IsLetters b := by
  have hall : ∀ keywords ∈ globalStatements, keywords.length = 2 ∧ ∀ s ∈ keywords,
      s.toList ≠ [] ∧ (s.toList.all fun c => decide (c.isAlpha = true)) = true := by
    decide
  obtain ⟨hlength, hletters⟩ := hall keywords h
  obtain ⟨a, b, rfl⟩ := List.length_eq_two.1 hlength
  have hletter : ∀ s ∈ [a, b], IsLetters s := fun s hs =>
    ⟨(hletters s hs).1, Texts.forall_chars (hletters s hs).2⟩
  exact ⟨a, b, rfl, hletter a (by simp), hletter b (by simp)⟩

/-- What is left of a text has a match where a statement begins with two keywords. -/
theorem left_at_place (hcomments : SeesComments text) (hsplit : lex text = before ++ ls)
    {w v : List Char} (hleft : ls.flatMap piece = w ++ v) :
    withoutComments text = before.flatMap piece ++ (w ++ v) := by
  rw [hcomments, hsplit, List.flatMap_append, hleft]

/-- A global statement is found by the expression for them. -/
theorem not_isGlobal (hcomments : SeesComments text)
    (hnone : matchAll forbiddenPattern (withoutComments text) = []) {st : List Lexeme}
    (hst : st ∈ statementsOf text) : isGlobal st = false := by
  rw [← Bool.not_eq_true, isGlobal, List.any_eq_true]
  rintro ⟨keywords, hkeywords, hbegins⟩
  obtain ⟨a, b, rfl, ha, hb⟩ := globalStatements_pair hkeywords
  obtain ⟨before, ls, w, v, hsplit, -, hleft, hw, hbefore, hv⟩ := exists_place hst hb hbegins
  obtain ⟨c, w, rfl, hmatch⟩ :=
    matches_at_place ha hb (fun k k' => mem_forbidden hkeywords) hw hbefore hv
  exact matchesFrom_ne_nil (left_at_place hcomments hsplit hleft) hmatch hnone

/-- A statement that creates an extension is found, and its name is read. -/
theorem createdExtension_found (hcomments : SeesComments text) (hspaces : SpacesApart text)
    (hlength : (matchAll extensionStatement (withoutComments text)).length =
      (matchAll extensionToken (withoutComments text)).length) {st : List Lexeme}
    (hst : st ∈ statementsOf text) (hbegins : begins ["CREATE", "EXTENSION"] st = true) :
    ∃ m ∈ matchAll extensionStatement (withoutComments text), ∀ name, parsedExtension m = some name →
      createdExtension st = some name ∨ createdExtension st = some (name.map Char.toLower) := by
  have hletters : IsLetters "CREATE" ∧ IsLetters "EXTENSION" :=
    ⟨⟨by decide, Texts.forall_chars (by decide)⟩,
      ⟨by decide, Texts.forall_chars (by decide)⟩⟩
  obtain ⟨before, ls, w, v, hsplit, htokens, hleft, hw, hbefore, hv⟩ :=
    exists_place hst hletters.2 hbegins
  obtain ⟨c, w, rfl, hmatch⟩ :=
    matches_at_place hletters.1 hletters.2 (fun _ _ hk => hk) hw hbefore hv
  have htoken : ∀ k, extensionStatement k ≠ [] → extensionToken k ≠ [] := by
    intro k hne hnil
    refine hne ?_
    rw [extensionStatement, both, hnil]
    rfl
  have hstarts := starts_extensionToken (withoutComments text)
  rw [← hlength] at hstarts
  obtain ⟨m, hm, hmem⟩ := exists_match htoken 0 none (withoutComments text) hstarts
    (left_at_place hcomments hsplit hleft) hmatch
  obtain ⟨-, rest, hrest⟩ := matchAt_split extensionStatement_split hm
  refine ⟨m, hmem, fun name hname => ?_⟩
  rw [← htokens]
  refine createdExtension_of_parsed (v := rest) ⟨⟨before, hsplit.symm⟩, ?_, [], ?_, List.forall_mem_nil _⟩ hname
  · rw [Apart, htokens]
    exact hspaces st hst hbegins
  · exact hleft.trans hrest

theorem harmless_of_scanMigration {allowed extensions result reported : List String} {entry : Migration}
    (h : scanMigration allowed extensions entry = .ok result) (hreported : result ⊆ reported)
    (hreadable : Readable allowed entry) : Harmless allowed reported entry := by
  obtain ⟨-, hforbidden, hlength, hall⟩ := scanMigration_ok h
  intro st hst
  refine ⟨not_isGlobal hreadable.comments hforbidden hst, fun name hname => ?_⟩
  obtain ⟨m, hm, hread⟩ := createdExtension_found hreadable.comments hreadable.spaces hlength hst
    (createdExtension_begins hname)
  obtain ⟨normalized, hnormalized, hallowed, hin⟩ := hall m hm
  obtain ⟨parsed, hparsed, rfl⟩ := Option.map_eq_some_iff.1 hnormalized
  have hsame : name = parsed.map Char.toLower := by
    rcases hread parsed hparsed with hcreated | hcreated
    · rw [hname] at hcreated
      obtain rfl := Option.some.inj hcreated
      exact (hreadable.names st hst name hname hallowed).symm
    · rw [hname] at hcreated
      exact Option.some.inj hcreated
  rw [hsame]
  exact ⟨hallowed, hreported hin⟩

theorem scanMigrationGlobalObjects_ok {policy : Option Policy} {catalog : MigrationCatalog}
    {result : ScanResult} (h : scanMigrationGlobalObjects policy catalog = .ok result) :
    ∃ extensions, catalog.entries.foldlM (scanMigration (allowedBy policy)) [] = .ok extensions ∧
      extensions ⊆ result.extensions := by
  rw [scanMigrationGlobalObjects] at h
  cases hallowed : (policy.filter (·.schemaVersion == "migration-global-object-policy.v1")).bind
      fun policy => policy.allowedExtensions.filter (·.Nodup) with
  | none =>
    rw [hallowed] at h
    cases h
  | some allowed =>
    rw [hallowed] at h
    obtain ⟨policy, hpolicy, hfilter⟩ := Option.bind_eq_some_iff.1 hallowed
    have hby : allowedBy (some policy) = allowed := by
      rw [allowedBy, Option.bind_some, (Option.filter_eq_some_iff.1 hfilter).1, Option.getD_some]
    rw [(Option.filter_eq_some_iff.1 hpolicy).1, hby]
    obtain ⟨extensions, hfold, h⟩ := bind_ok h
    obtain rfl := Except.ok.inj h
    exact ⟨extensions, hfold, fun e he => (List.mem_insertionSort _).2 he⟩

/-- The scan accepts no global object of a migration that it reads rightly. -/
theorem scanMigrationGlobalObjects_harmless {policy : Option Policy} {catalog : MigrationCatalog}
    {result : ScanResult} (h : scanMigrationGlobalObjects policy catalog = .ok result) :
    ∀ entry ∈ catalog.entries, Readable (allowedBy policy) entry →
      Harmless (allowedBy policy) result.extensions entry := by
  intro entry hentry hreadable
  obtain ⟨extensions, hfold, hreported⟩ := scanMigrationGlobalObjects_ok h
  obtain ⟨-, hall⟩ := foldlM_grows (R := fun a b => a ⊆ b) (fun _ => List.Subset.refl _)
    (fun _ _ _ => List.Subset.trans) (fun _ _ _ hstep => (scanMigration_ok hstep).1) hfold
  obtain ⟨c, c', hscan, hsub⟩ := hall entry hentry
  exact harmless_of_scanMigration hscan (List.Subset.trans hsub hreported) hreadable

def pgcryptoPolicy : Policy := ⟨"migration-global-object-policy.v1", some ["pgcrypto"]⟩

/-- Each statement of this migration is read as it stands. -/
def plainMigration : Migration :=
  ⟨"0001_init.sql", "CREATE EXTENSION IF NOT EXISTS \"pgcrypto\"; -- keys\nCREATE TABLE t (id uuid);"⟩

theorem plainMigration_scanned :
    ∃ result, scanMigrationGlobalObjects (some pgcryptoPolicy) ⟨"d", [plainMigration]⟩ = .ok result ∧
      Harmless (allowedBy (some pgcryptoPolicy)) result.extensions plainMigration := by
  obtain ⟨result, h, -⟩ := ok_of_any
    (x := scanMigrationGlobalObjects (some pgcryptoPolicy) ⟨"d", [plainMigration]⟩)
    (p := fun _ => true) (by decide +kernel)
  refine ⟨result, h, scanMigrationGlobalObjects_harmless h plainMigration List.mem_cons_self ⟨?_, ?_, ?_⟩⟩
  · rw [SeesComments]
    decide +kernel
  · have hspaces : ∀ statement ∈ statementsOf plainMigration.sql.toList,
        begins ["CREATE", "EXTENSION"] statement = true → ∀ l ∈ statement, l.kind = .word →
          (l.raw.all fun c => decide (Patterns.isWhiteSpace c = false)) = true := by
      decide +kernel
    exact fun statement hstatement hbegins l hl hkind =>
      Texts.forall_chars (hspaces statement hstatement hbegins l hl hkind)
  · have hsmall : ∀ statement ∈ statementsOf plainMigration.sql.toList,
        ∀ name ∈ createdExtension statement,
          String.ofList (name.map Char.toLower) ∈ allowedBy (some pgcryptoPolicy) →
            name.map Char.toLower = name := by
      decide +kernel
    exact hsmall

/-- Marks of comments in comments of the other kind hide a statement. -/
def hiddenRole : Migration := ⟨"0002_role.sql", "-- /*\nCREATE ROLE x;\n-- */"⟩

theorem hiddenRole_accepted :
    ∃ result, scanMigrationGlobalObjects (some pgcryptoPolicy) ⟨"d", [hiddenRole]⟩ = .ok result ∧
      ¬Harmless (allowedBy (some pgcryptoPolicy)) result.extensions hiddenRole := by
  obtain ⟨result, h, -⟩ := ok_of_any
    (x := scanMigrationGlobalObjects (some pgcryptoPolicy) ⟨"d", [hiddenRole]⟩)
    (p := fun _ => true) (by decide +kernel)
  have hglobal : ∃ st ∈ statementsOf hiddenRole.sql.toList, isGlobal st = true := by decide +kernel
  refine ⟨result, h, fun hharmless => ?_⟩
  obtain ⟨st, hst, hglobal⟩ := hglobal
  rw [(hharmless st hst).1] at hglobal
  cases hglobal

end SubscriptionSaas.Release.MigrationScan
