import SubscriptionSaas.Lib.Patterns
import SubscriptionSaas.Lib.SqlLexemes

/-!
# The lexemes of SQL: proofs

The lexer gives all of a text (`flatMap_raw`), and where an identifier or a number begins, what comes
before it ends with no character of a word (`Separated`).
-/

namespace SqlLexemes

variable {c : Char} {cs text rest : List Char} {l : Lexeme}

/-! ## The lexeme at the beginning of a text -/

/-- The ways in which a lexeme is read at a character, with the text after it. -/
inductive Reads : Char → List Char → Lexeme × List Char → Prop
  | space {c : Char} {cs : List Char} (h : isSpace c = true) : Reads c cs (run .space isSpace c cs)
  | lineComment {cs : List Char} : Reads '-' ('-' :: cs) (run .lineComment inLine '-' ('-' :: cs))
  | blockComment {cs : List Char} :
      Reads '/' ('*' :: cs) (delimited .blockComment ['/', '*'] cs (blockEnd 1 cs))
  | escapeString {c : Char} {cs : List Char} (h : c = 'e' ∨ c = 'E') :
      Reads c ('\'' :: cs) (delimited .literal [c, '\''] cs (quoteEnd '\'' true cs))
  | unicodeString {c : Char} {cs : List Char} (h : c = 'u' ∨ c = 'U') :
      Reads c ('&' :: '\'' :: cs) (delimited .literal [c, '&', '\''] cs (quoteEnd '\'' false cs))
  | unicodeIdentifier {c : Char} {cs : List Char} (h : c = 'u' ∨ c = 'U') :
      Reads c ('&' :: '"' :: cs) (delimited .quotedIdentifier [c, '&', '"'] cs (quoteEnd '"' false cs))
  | word {c : Char} {cs : List Char} (h : isIdentStart c = true) : Reads c cs (run .word isIdentPart c cs)
  | number {c : Char} {cs : List Char} (h : c.isDigit = true) : Reads c cs (run .number isIdentPart c cs)
  | string {cs : List Char} : Reads '\'' cs (delimited .literal ['\''] cs (quoteEnd '\'' false cs))
  | quotedIdentifier {cs : List Char} :
      Reads '"' cs (delimited .quotedIdentifier ['"'] cs (quoteEnd '"' false cs))
  | semicolon {cs : List Char} : Reads ';' cs (⟨.semicolon, [';'], true⟩, cs)
  | dollarQuote {tag cs : List Char} :
      Reads '$' (tag ++ '$' :: cs)
        (delimited .literal ('$' :: tag ++ ['$']) cs (tagEnd ('$' :: tag ++ ['$']) cs))
  | symbol {c : Char} {cs : List Char} (hspace : isSpace c = false) (hstart : isIdentStart c = false)
      (hdigit : c.isDigit = false) (hsemicolon : c ≠ ';') : Reads c cs (⟨.symbol, [c], true⟩, cs)

theorem eq_cons_of_head? (h : cs.head? = some c) : cs = c :: cs.tail :=
  (List.cons_head?_tail h).symm

theorem eq_append_of_take {n : Nat} {mark : List Char} (h : cs.take n = mark) : cs = mark ++ cs.drop n := by
  rw [← h, List.take_append_drop]

theorem dollarTag_eq {tag : List Char} (h : dollarTag cs = some tag) :
    cs = tag ++ '$' :: cs.drop (tag.length + 1) := by
  rw [dollarTag] at h
  obtain ⟨⟨hhead, -⟩, h⟩ := Option.ite_none_right_eq_some.1 h
  obtain rfl := Option.some.inj h
  have htake := List.takeWhile_append_dropWhile (p := fun c => isIdentStart c || c.isDigit) (l := cs)
  have hdrop : cs.drop (cs.takeWhile fun c => isIdentStart c || c.isDigit).length =
      cs.dropWhile fun c => isIdentStart c || c.isDigit := by
    have hleft : (cs.takeWhile (fun c => isIdentStart c || c.isDigit) ++
        cs.dropWhile fun c => isIdentStart c || c.isDigit).drop
          (cs.takeWhile fun c => isIdentStart c || c.isDigit).length = _ := List.drop_left
    rwa [htake] at hleft
  rw [hdrop] at hhead
  have htail := eq_cons_of_head? hhead
  rw [← List.drop_drop, hdrop, List.drop_one]
  conv_lhs => rw [← htake, htail]

theorem next_reads (c : Char) (cs : List Char) : Reads c cs (next c cs) := by
  rw [next]
  by_cases hspace : isSpace c = true
  · rw [if_pos hspace]
    exact .space hspace
  rw [if_neg hspace]
  by_cases hline : c = '-' ∧ cs.head? = some '-'
  · rw [if_pos hline, hline.1, eq_cons_of_head? hline.2]
    exact .lineComment
  rw [if_neg hline]
  by_cases hblock : c = '/' ∧ cs.head? = some '*'
  · rw [if_pos hblock, hblock.1, eq_cons_of_head? hblock.2]
    exact .blockComment
  rw [if_neg hblock]
  by_cases hescape : (c = 'e' ∨ c = 'E') ∧ cs.head? = some '\''
  · rw [if_pos hescape, eq_cons_of_head? hescape.2]
    exact .escapeString hescape.1
  rw [if_neg hescape]
  by_cases hstring : (c = 'u' ∨ c = 'U') ∧ cs.take 2 = ['&', '\'']
  · rw [if_pos hstring, eq_append_of_take hstring.2]
    exact .unicodeString hstring.1
  rw [if_neg hstring]
  by_cases hident : (c = 'u' ∨ c = 'U') ∧ cs.take 2 = ['&', '"']
  · rw [if_pos hident, eq_append_of_take hident.2]
    exact .unicodeIdentifier hident.1
  rw [if_neg hident]
  by_cases hword : isIdentStart c = true
  · rw [if_pos hword]
    exact .word hword
  rw [if_neg hword]
  by_cases hnumber : c.isDigit = true
  · rw [if_pos hnumber]
    exact .number hnumber
  rw [if_neg hnumber]
  by_cases hquote : c = '\''
  · rw [if_pos hquote, hquote]
    exact .string
  rw [if_neg hquote]
  by_cases hmark : c = '"'
  · rw [if_pos hmark, hmark]
    exact .quotedIdentifier
  rw [if_neg hmark]
  by_cases hsemi : c = ';'
  · rw [if_pos hsemi, hsemi]
    exact .semicolon
  rw [if_neg hsemi]
  have hsymbol : Reads c cs (⟨.symbol, [c], true⟩, cs) :=
    .symbol (eq_false_of_ne_true hspace) (eq_false_of_ne_true hword) (eq_false_of_ne_true hnumber) hsemi
  by_cases hdollar : c = '$'
  · rw [if_pos hdollar]
    cases htag : dollarTag cs with
    | none => exact hsymbol
    | some tag =>
      have hcs := dollarTag_eq htag
      simp only
      generalize cs.drop (tag.length + 1) = body at hcs
      rw [hcs, hdollar]
      exact .dollarQuote
  · rw [if_neg hdollar]
    exact hsymbol

theorem run_raw (kind : Kind) (p : Char → Bool) :
    (run kind p c cs).1.raw ++ (run kind p c cs).2 = c :: cs := by
  rw [run, List.cons_append, List.takeWhile_append_dropWhile]

theorem delimited_raw (kind : Kind) (mark : List Char) (n : Option Nat) :
    (delimited kind mark cs n).1.raw ++ (delimited kind mark cs n).2 = mark ++ cs := by
  cases n with
  | none => rw [delimited, List.append_nil]
  | some n => rw [delimited, List.append_assoc, List.take_append_drop]

theorem Reads.raw {result : Lexeme × List Char} (h : Reads c cs result) :
    result.1.raw ++ result.2 = c :: cs := by
  cases h with
  | space h => exact run_raw ..
  | lineComment => exact run_raw ..
  | blockComment => exact delimited_raw ..
  | escapeString h => exact delimited_raw ..
  | unicodeString h => exact delimited_raw ..
  | unicodeIdentifier h => exact delimited_raw ..
  | word h => exact run_raw ..
  | number h => exact run_raw ..
  | string => exact delimited_raw ..
  | quotedIdentifier => exact delimited_raw ..
  | semicolon => rfl
  | dollarQuote =>
    refine (delimited_raw ..).trans ?_
    rw [List.append_assoc, List.cons_append, List.singleton_append]
  | symbol hspace hstart hdigit hsemicolon => rfl

theorem next_raw (c : Char) (cs : List Char) : (next c cs).1.raw ++ (next c cs).2 = c :: cs :=
  (next_reads c cs).raw

theorem delimited_ne_nil {kind : Kind} {mark : List Char} (h : mark ≠ []) (n : Option Nat) :
    (delimited kind mark cs n).1.raw ≠ [] := by
  cases n with
  | none => simp [delimited, h]
  | some n => simp [delimited, h]

theorem Reads.ne_nil {result : Lexeme × List Char} (h : Reads c cs result) : result.1.raw ≠ [] := by
  cases h with
  | space h => exact List.cons_ne_nil _ _
  | lineComment => exact List.cons_ne_nil _ _
  | blockComment => exact delimited_ne_nil (List.cons_ne_nil _ _) _
  | escapeString h => exact delimited_ne_nil (List.cons_ne_nil _ _) _
  | unicodeString h => exact delimited_ne_nil (List.cons_ne_nil _ _) _
  | unicodeIdentifier h => exact delimited_ne_nil (List.cons_ne_nil _ _) _
  | word h => exact List.cons_ne_nil _ _
  | number h => exact List.cons_ne_nil _ _
  | string => exact delimited_ne_nil (List.cons_ne_nil _ _) _
  | quotedIdentifier => exact delimited_ne_nil (List.cons_ne_nil _ _) _
  | semicolon => exact List.cons_ne_nil _ _
  | dollarQuote => exact delimited_ne_nil (List.cons_ne_nil _ _) _
  | symbol hspace hstart hdigit hsemicolon => exact List.cons_ne_nil _ _

theorem next_head (c : Char) (cs : List Char) : ∃ tail, (next c cs).1.raw = c :: tail := by
  have hraw := next_raw c cs
  cases hl : (next c cs).1.raw with
  | nil => exact absurd hl (next_reads c cs).ne_nil
  | cons d tail =>
    rw [hl, List.cons_append] at hraw
    exact ⟨tail, by rw [(List.cons.inj hraw).1]⟩

theorem length_next (c : Char) (cs : List Char) : (next c cs).2.length ≤ cs.length := by
  obtain ⟨tail, htail⟩ := next_head c cs
  have hlength := congrArg List.length (next_raw c cs)
  rw [htail, List.length_append, List.length_cons, List.length_cons] at hlength
  omega

/-! ## All lexemes of a text -/

theorem lexN_congr {n m : Nat} (hn : text.length ≤ n) (hm : text.length ≤ m) :
    lexN n text = lexN m text := by
  induction n generalizing text m with
  | zero =>
    rw [List.length_eq_zero_iff.1 (Nat.le_zero.1 hn)]
    cases m with
    | zero => rfl
    | succ m => rfl
  | succ n ih =>
    cases text with
    | nil =>
      cases m with
      | zero => rfl
      | succ m => rfl
    | cons c cs =>
      cases m with
      | zero => cases hm
      | succ m =>
        have hnext := length_next c cs
        rw [List.length_cons] at hn hm
        have hrest : lexN n (next c cs).2 = lexN m (next c cs).2 := ih (by omega) (by omega)
        rw [lexN, lexN, hrest]

theorem lex_nil : lex [] = [] := rfl

theorem lex_cons (c : Char) (cs : List Char) : lex (c :: cs) = (next c cs).1 :: lex (next c cs).2 := by
  rw [lex, List.length_cons, lexN, lex, lexN_congr (length_next c cs) le_rfl]

/-- An induction on the text after the first lexeme. -/
theorem lex_induction {motive : List Char → Prop} (nil : motive [])
    (cons : ∀ c cs, motive (next c cs).2 → motive (c :: cs)) (text : List Char) : motive text := by
  induction hn : text.length using Nat.strong_induction_on generalizing text with
  | h n ih =>
    cases text with
    | nil => exact nil
    | cons c cs =>
      have hlt := Nat.lt_succ_of_le (length_next c cs)
      rw [List.length_cons] at hn
      exact cons c cs (ih _ (hn ▸ hlt) _ rfl)

/-- The lexemes are all of the text. -/
theorem flatMap_raw (text : List Char) : (lex text).flatMap (·.raw) = text := by
  induction text using lex_induction with
  | nil => rfl
  | cons c cs ih => rw [lex_cons, List.flatMap_cons, ih, next_raw]

theorem raw_ne_nil (h : l ∈ lex text) : l.raw ≠ [] := by
  induction text using lex_induction with
  | nil => cases h
  | cons c cs ih =>
    rw [lex_cons, List.mem_cons] at h
    rcases h with rfl | h
    · exact (next_reads c cs).ne_nil
    · exact ih h

theorem reads_of_mem (h : l ∈ lex text) : ∃ c cs rest, Reads c cs (l, rest) := by
  induction text using lex_induction with
  | nil => cases h
  | cons c cs ih =>
    rw [lex_cons, List.mem_cons] at h
    rcases h with rfl | h
    · exact ⟨c, cs, (next c cs).2, next_reads c cs⟩
    · exact ih h

/-- The lexer goes on where it stands. -/
theorem lex_split {before after : List Lexeme} (h : lex text = before ++ after) :
    lex (after.flatMap (·.raw)) = after := by
  induction before generalizing text with
  | nil =>
    have htext := flatMap_raw text
    rw [h, List.nil_append] at htext
    rw [htext, h, List.nil_append]
  | cons l before ih =>
    cases text with
    | nil => cases h
    | cons c cs =>
      rw [lex_cons, List.cons_append] at h
      exact ih (List.cons.inj h).2

/-! ## End marks -/

theorem quoteEnd_take {mark : Char} {escapes : Bool} {n : Nat} (h : quoteEnd mark escapes cs = some n) :
    ∃ body, cs.take n = body ++ [mark] := by
  induction cs using quoteEnd.induct mark escapes generalizing n with
  | case1 => cases h
  | case2 =>
    simp only [quoteEnd, ↓reduceIte] at h
    obtain rfl := Option.some.inj h
    exact ⟨[], rfl⟩
  | case3 c hne =>
    simp only [quoteEnd, if_neg hne] at h
    cases h
  | case4 cs ih =>
    simp only [quoteEnd, ↓reduceIte] at h
    obtain ⟨m, hm, rfl⟩ := Option.map_eq_some_iff.1 h
    obtain ⟨body, hbody⟩ := ih hm
    exact ⟨mark :: mark :: body, by simp [hbody]⟩
  | case5 c' cs hne =>
    simp only [quoteEnd, ↓reduceIte, if_neg hne] at h
    obtain rfl := Option.some.inj h
    exact ⟨[], rfl⟩
  | case6 c c' cs hne hescape ih =>
    simp only [quoteEnd, if_neg hne, hescape, ↓reduceIte] at h
    obtain ⟨m, hm, rfl⟩ := Option.map_eq_some_iff.1 h
    obtain ⟨body, hbody⟩ := ih hm
    exact ⟨c :: c' :: body, by simp [hbody]⟩
  | case7 c c' cs hne hescape ih =>
    simp only [quoteEnd, if_neg hne, if_neg hescape] at h
    obtain ⟨m, hm, rfl⟩ := Option.map_eq_some_iff.1 h
    obtain ⟨body, hbody⟩ := ih hm
    exact ⟨c :: body, by simp [hbody]⟩

theorem blockEnd_take {depth n : Nat} (h : blockEnd depth cs = some n) :
    ∃ body, cs.take n = body ++ ['/'] := by
  induction depth, cs using blockEnd.induct generalizing n with
  | case1 => cases h
  | case2 => cases h
  | case3 depth c c' cs hopen ih =>
    rw [blockEnd, if_pos hopen] at h
    obtain ⟨m, hm, rfl⟩ := Option.map_eq_some_iff.1 h
    obtain ⟨body, hbody⟩ := ih hm
    exact ⟨c :: c' :: body, by simp [hbody]⟩
  | case4 depth c c' cs hopen hclose hdepth =>
    rw [blockEnd, if_neg hopen, if_pos hclose, if_pos hdepth] at h
    obtain rfl := Option.some.inj h
    exact ⟨[c], by simp [hclose.2]⟩
  | case5 depth c c' cs hopen hclose hdepth ih =>
    rw [blockEnd, if_neg hopen, if_pos hclose, if_neg hdepth] at h
    obtain ⟨m, hm, rfl⟩ := Option.map_eq_some_iff.1 h
    obtain ⟨body, hbody⟩ := ih hm
    exact ⟨c :: c' :: body, by simp [hbody]⟩
  | case6 depth c c' cs hopen hclose ih =>
    rw [blockEnd, if_neg hopen, if_neg hclose] at h
    obtain ⟨m, hm, rfl⟩ := Option.map_eq_some_iff.1 h
    obtain ⟨body, hbody⟩ := ih hm
    exact ⟨c :: body, by simp [hbody]⟩

theorem tagEnd_take {tag : List Char} {n : Nat} (h : tagEnd tag cs = some n) :
    ∃ body, cs.take n = body ++ tag := by
  induction cs generalizing n with
  | nil => cases h
  | cons c cs ih =>
    rw [tagEnd] at h
    split at h
    · next hprefix =>
      obtain rfl := Option.some.inj h
      exact ⟨[], List.prefix_iff_eq_take.1 (List.isPrefixOf_iff_prefix.1 hprefix) ▸ rfl⟩
    · obtain ⟨m, hm, rfl⟩ := Option.map_eq_some_iff.1 h
      obtain ⟨body, hbody⟩ := ih hm
      exact ⟨c :: body, by simp [hbody]⟩

/-! ## What stands around a word -/

/-- No word or number goes on after the character. -/
def EndsWords (d : Char) : Prop := isIdentPart d = false ∨ d = '$'

/-- `\w` is part of identifiers. -/
theorem isWordChar_of_endsWords (h : EndsWords c) : Patterns.isWordChar c = false := by
  rcases h with h | rfl
  · rw [isIdentPart, isIdentStart, Bool.or_eq_false_iff, Bool.or_eq_false_iff, Bool.or_eq_false_iff,
      Bool.or_eq_false_iff] at h
    obtain ⟨⟨⟨⟨halpha, hunder⟩, -⟩, hdigit⟩, -⟩ := h
    rw [Patterns.isWordChar, Char.isAlphanum, halpha, hdigit, hunder]
    rfl
  · rfl

theorem endsWords_of_isSpace (h : isSpace c = true) : EndsWords c := by
  rw [isSpace] at h
  simp only [Bool.or_eq_true, beq_iff_eq] at h
  rcases h with ((((rfl | rfl) | rfl) | rfl) | rfl) | rfl <;> exact .inl rfl

theorem not_of_dropWhile {p : Char → Bool} {d : Char} {ds : List Char}
    (h : cs.dropWhile p = d :: ds) : p d = false := by
  have hhead := List.head?_dropWhile_not p cs
  rw [h] at hhead
  simpa using hhead

theorem delimited_last {kind : Kind} {mark : List Char} {n : Option Nat} {d e : Char} {ds : List Char}
    (hn : ∀ m, n = some m → ∃ body, cs.take m = body ++ [e])
    (hrest : (delimited kind mark cs n).2 = d :: ds) :
    (delimited kind mark cs n).1.raw.getLast? = some e := by
  cases n with
  | none => cases hrest
  | some m =>
    obtain ⟨body, hbody⟩ := hn m rfl
    rw [delimited, hbody, ← List.append_assoc, List.getLast?_append]
    rfl

theorem getLast?_run {kind : Kind} {p : Char → Bool} {e : Char} (hc : p c = true)
    (h : (run kind p c cs).1.raw.getLast? = some e) : p e = true := by
  have hmem := List.mem_of_getLast? h
  rcases List.mem_cons.1 hmem with rfl | hmem
  · exact hc
  · exact List.all_eq_true.1 List.all_takeWhile e hmem

/-- A lexeme before a word or a number. -/
theorem Reads.endsWords {result : Lexeme × List Char} (h : Reads c cs result) {d : Char}
    {ds : List Char} (hrest : result.2 = d :: ds) (hd : isIdentPart d = true) {e : Char}
    (he : result.1.raw.getLast? = some e) : EndsWords e := by
  have hlast : ∀ e', result.1.raw.getLast? = some e' → EndsWords e' → EndsWords e := by
    intro e' he' hends
    rw [he'] at he
    rwa [← Option.some.inj he]
  cases h with
  | space h => exact endsWords_of_isSpace (getLast?_run h he)
  | lineComment =>
    have hend := not_of_dropWhile hrest
    rw [inLine, Bool.and_eq_false_iff, bne_eq_false_iff_eq, bne_eq_false_iff_eq] at hend
    rcases hend with rfl | rfl
    · cases hd
    · cases hd
  | blockComment => exact hlast '/' (delimited_last (fun _ h => blockEnd_take h) hrest) (.inl rfl)
  | escapeString h => exact hlast '\'' (delimited_last (fun _ h => quoteEnd_take h) hrest) (.inl rfl)
  | unicodeString h => exact hlast '\'' (delimited_last (fun _ h => quoteEnd_take h) hrest) (.inl rfl)
  | unicodeIdentifier h =>
    exact hlast '"' (delimited_last (fun _ h => quoteEnd_take h) hrest) (.inl rfl)
  | word h =>
    rw [not_of_dropWhile hrest] at hd
    cases hd
  | number h =>
    rw [not_of_dropWhile hrest] at hd
    cases hd
  | string => exact hlast '\'' (delimited_last (fun _ h => quoteEnd_take h) hrest) (.inl rfl)
  | quotedIdentifier =>
    exact hlast '"' (delimited_last (fun _ h => quoteEnd_take h) hrest) (.inl rfl)
  | semicolon => exact hlast ';' rfl (.inl rfl)
  | dollarQuote =>
    refine hlast '$' (delimited_last (fun m hm => ?_) hrest) (.inr rfl)
    obtain ⟨body, hbody⟩ := tagEnd_take hm
    exact ⟨body ++ '$' :: _, by rw [hbody, List.append_assoc]⟩
  | symbol hspace hstart hdigit hsemicolon =>
    refine hlast c rfl ?_
    by_cases hdollar : c = '$'
    · exact .inr hdollar
    · exact .inl (by simp [isIdentPart, hstart, hdigit, hdollar])

theorem delimited_kind (kind : Kind) (mark cs : List Char) (n : Option Nat) :
    (delimited kind mark cs n).1.kind = kind := by
  cases n with
  | none => rfl
  | some n => rfl

theorem not_delimited {kind kind' : Kind} {mark : List Char} {n : Option Nat} (hne : kind ≠ kind')
    (hkind : (delimited kind mark cs n).1.kind = kind') : False :=
  hne ((delimited_kind kind mark cs n).symm.trans hkind)

/-- A word or a number is as long as it can be. -/
theorem Reads.wordy {result : Lexeme × List Char} (h : Reads c cs result)
    (hwordy : result.1.isWordy = true) :
    isIdentPart c = true ∧ ∀ d ds, result.2 = d :: ds → isIdentPart d = false := by
  rw [Lexeme.isWordy, Bool.or_eq_true, beq_iff_eq, beq_iff_eq] at hwordy
  have hkind : ∀ {kind mark cs n}, kind ≠ .word → kind ≠ .number →
      ¬((delimited kind mark cs n).1.kind = .word ∨ (delimited kind mark cs n).1.kind = .number) := by
    intro kind mark cs n hword hnumber hwordy
    exact hwordy.elim (not_delimited hword) (not_delimited hnumber)
  cases h with
  | space h => exact hwordy.elim nofun nofun
  | lineComment => exact hwordy.elim nofun nofun
  | blockComment => exact (hkind (by decide) (by decide) hwordy).elim
  | escapeString h => exact (hkind (by decide) (by decide) hwordy).elim
  | unicodeString h => exact (hkind (by decide) (by decide) hwordy).elim
  | unicodeIdentifier h => exact (hkind (by decide) (by decide) hwordy).elim
  | word h => exact ⟨by simp [isIdentPart, h], fun d ds hrest => not_of_dropWhile hrest⟩
  | number h => exact ⟨by simp [isIdentPart, h], fun d ds hrest => not_of_dropWhile hrest⟩
  | string => exact (hkind (by decide) (by decide) hwordy).elim
  | quotedIdentifier => exact (hkind (by decide) (by decide) hwordy).elim
  | semicolon => exact hwordy.elim nofun nofun
  | dollarQuote => exact (hkind (by decide) (by decide) hwordy).elim
  | symbol hspace hstart hdigit hsemicolon => exact hwordy.elim nofun nofun

variable {before after : List Lexeme} {w : Lexeme}

theorem endsWords_before (h : lex text = before ++ w :: after) (hw : w.isWordy = true) {e : Char}
    (he : (before.flatMap (·.raw)).getLast? = some e) : EndsWords e := by
  induction before generalizing text with
  | nil => cases he
  | cons l before ih =>
    cases text with
    | nil => cases h
    | cons c cs =>
      rw [lex_cons, List.cons_append] at h
      obtain ⟨rfl, hrest⟩ := List.cons.inj h
      cases hcs : (next c cs).2 with
      | nil =>
        rw [hcs, lex_nil] at hrest
        simp at hrest
      | cons d ds =>
        cases before with
        | nil =>
          rw [hcs, lex_cons, List.nil_append] at hrest
          rw [List.flatMap_cons, List.flatMap_nil, List.append_nil] at he
          have hwordy := (next_reads d ds).wordy ((List.cons.inj hrest).1 ▸ hw)
          exact (next_reads c cs).endsWords hcs hwordy.1 he
        | cons l' before =>
          refine ih hrest ?_
          have hne : (l' :: before).flatMap (·.raw) ≠ [] := by
            have hmem : l' ∈ lex (next c cs).2 := by
              rw [hrest]
              exact List.mem_cons_self
            rw [List.flatMap_cons]
            exact List.append_ne_nil_of_left_ne_nil (raw_ne_nil hmem) _
          rw [List.flatMap_cons, List.getLast?_append_of_ne_nil _ hne] at he
          exact he

theorem not_isIdentPart_after (h : lex text = before ++ w :: after) (hw : w.isWordy = true) {d : Char}
    {ds : List Char} (hd : after.flatMap (·.raw) = d :: ds) : isIdentPart d = false := by
  have hlex := lex_split h
  cases hrest : (w :: after).flatMap (·.raw) with
  | nil =>
    rw [hrest] at hlex
    cases hlex
  | cons c cs =>
    rw [hrest, lex_cons] at hlex
    obtain ⟨rfl, hafter⟩ := List.cons.inj hlex
    refine ((next_reads c cs).wordy hw).2 d ds ?_
    rw [← hd, ← hafter, flatMap_raw]

/-! ## Lexemes of a kind -/

theorem Reads.semicolon_raw {result : Lexeme × List Char} (h : Reads c cs result)
    (hkind : result.1.kind = .semicolon) : result.1.raw = [';'] := by
  cases h with
  | space h => cases hkind
  | lineComment => cases hkind
  | blockComment => exact (not_delimited (by decide) hkind).elim
  | escapeString h => exact (not_delimited (by decide) hkind).elim
  | unicodeString h => exact (not_delimited (by decide) hkind).elim
  | unicodeIdentifier h => exact (not_delimited (by decide) hkind).elim
  | word h => cases hkind
  | number h => cases hkind
  | string => exact (not_delimited (by decide) hkind).elim
  | quotedIdentifier => exact (not_delimited (by decide) hkind).elim
  | semicolon => rfl
  | dollarQuote => exact (not_delimited (by decide) hkind).elim
  | symbol hspace hstart hdigit hsemicolon => cases hkind

/-- A quoted identifier without escapes of Unicode. -/
theorem Reads.quotedIdentifier_raw {result : Lexeme × List Char} (h : Reads c cs result)
    (hkind : result.1.kind = .quotedIdentifier) (hescaped : result.1.isEscaped = false)
    (hclosed : result.1.closed = true) : ∃ body, result.1.raw = '"' :: (body ++ ['"']) := by
  cases h with
  | space h => cases hkind
  | lineComment => cases hkind
  | blockComment => exact (not_delimited (by decide) hkind).elim
  | escapeString h => exact (not_delimited (by decide) hkind).elim
  | unicodeString h => exact (not_delimited (by decide) hkind).elim
  | @unicodeIdentifier c cs h =>
    have hc : c ≠ '"' := by
      rintro rfl
      exact h.elim nofun nofun
    have hhead : (delimited .quotedIdentifier [c, '&', '"'] cs (quoteEnd '"' false cs)).1.raw.head? =
        some c := by
      cases quoteEnd '"' false cs with
      | none => rfl
      | some n => rfl
    simp [Lexeme.isEscaped, hkind, hhead, hc] at hescaped
  | word h => cases hkind
  | number h => cases hkind
  | string => exact (not_delimited (by decide) hkind).elim
  | quotedIdentifier =>
    cases hend : quoteEnd '"' false cs with
    | none =>
      rw [hend] at hclosed
      cases hclosed
    | some n =>
      obtain ⟨body, hbody⟩ := quoteEnd_take hend
      exact ⟨body, by rw [delimited, hbody, List.singleton_append]⟩
  | semicolon => cases hkind
  | dollarQuote => exact (not_delimited (by decide) hkind).elim
  | symbol hspace hstart hdigit hsemicolon => cases hkind

theorem Reads.space_raw {result : Lexeme × List Char} (h : Reads c cs result)
    (hkind : result.1.kind = .space) : ∀ d ∈ result.1.raw, isSpace d = true := by
  cases h with
  | space h => exact List.forall_mem_cons.2 ⟨h, fun d hd => List.all_eq_true.1 List.all_takeWhile d hd⟩
  | lineComment => cases hkind
  | blockComment => exact (not_delimited (by decide) hkind).elim
  | escapeString h => exact (not_delimited (by decide) hkind).elim
  | unicodeString h => exact (not_delimited (by decide) hkind).elim
  | unicodeIdentifier h => exact (not_delimited (by decide) hkind).elim
  | word h => cases hkind
  | number h => cases hkind
  | string => exact (not_delimited (by decide) hkind).elim
  | quotedIdentifier => exact (not_delimited (by decide) hkind).elim
  | semicolon => cases hkind
  | dollarQuote => exact (not_delimited (by decide) hkind).elim
  | symbol hspace hstart hdigit hsemicolon => cases hkind

theorem isSpace_of_space (h : l ∈ lex text) (hkind : l.kind = .space) : ∀ d ∈ l.raw, isSpace d = true := by
  obtain ⟨c, cs, rest, hreads⟩ := reads_of_mem h
  exact hreads.space_raw hkind

theorem raw_of_semicolon (h : l ∈ lex text) (hkind : l.kind = .semicolon) : l.raw = [';'] := by
  obtain ⟨c, cs, rest, hreads⟩ := reads_of_mem h
  exact hreads.semicolon_raw hkind

theorem raw_of_quotedIdentifier (h : l ∈ lex text) (hkind : l.kind = .quotedIdentifier)
    (hescaped : l.isEscaped = false) (hclosed : l.closed = true) :
    ∃ body, l.raw = '"' :: (body ++ ['"']) := by
  obtain ⟨c, cs, rest, hreads⟩ := reads_of_mem h
  exact hreads.quotedIdentifier_raw hkind hescaped hclosed

/-- The name without marks is read as it stands, up to the closing mark. -/
theorem unquote_prefix {mark : Char} (h : mark ∉ unquote mark cs) :
    ∃ rest, cs = unquote mark cs ++ rest ∧ (rest = [] ∨ rest.head? = some mark) := by
  induction cs using unquote.induct mark with
  | case1 => exact ⟨[], rfl, .inl rfl⟩
  | case2 => exact ⟨[mark], by simp [unquote], .inr rfl⟩
  | case3 c hne => exact ⟨[], by simp [unquote, hne], .inl rfl⟩
  | case4 cs ih =>
    rw [unquote, if_pos rfl, if_pos rfl] at h
    exact absurd List.mem_cons_self h
  | case5 c' cs hne => exact ⟨mark :: c' :: cs, by simp [unquote, hne], .inr rfl⟩
  | case6 c c' cs hne ih =>
    rw [unquote, if_neg hne] at h ⊢
    obtain ⟨rest, hrest, hmark⟩ := ih fun hmem => h (List.mem_cons_of_mem _ hmem)
    refine ⟨rest, ?_, hmark⟩
    rw [List.cons_append, ← hrest]

end SqlLexemes
