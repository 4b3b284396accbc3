import SubscriptionSaas.Lib.Proofs.SqlStatementProofs
import SubscriptionSaas.Release.ReadOnlySource

/-!
# The read-only executor of a snapshot source: proofs

A text that is not refused has no semicolon but at its end and no forbidden word among its lexemes. What
it forwards is one statement that reads unless it is of the kinds that the executor overlooks.
-/

namespace SubscriptionSaas.Release.ReadOnlySource

open Patterns SqlLexemes SqlStatements

variable {text : List Char} {l : Lexeme} {ls : List Level} {s : String}

/-! ## Forbidden words -/

/-- The words that are refused. -/
def forbiddenWords : List String := forbiddenKeywords ++ forbiddenFunctions.map (·.map Char.toUpper)

theorem forbiddenWords_chars (hs : s ∈ forbiddenWords) :
    s.toList ≠ [] ∧ ∀ c ∈ s.toList, isWordChar c = true := by
  have hall : ∀ s ∈ forbiddenWords,
      s.toList ≠ [] ∧ (s.toList.all fun c => decide (isWordChar c = true)) = true := by
    decide +kernel
  exact ⟨(hall s hs).1, Texts.forall_chars (hall s hs).2⟩

theorem mem_forbidden (hs : s ∈ forbiddenWords) (k k' : Cursor) (hk : k' ∈ keyword s k) :
    k' ∈ either (anyKeyword forbiddenKeywords)
      (either copyFrom (anyKeyword (forbiddenFunctions.map (·.map Char.toUpper)))) k := by
  rw [either, List.mem_append, either, List.mem_append]
  rcases List.mem_append.1 hs with hs | hs
  · exact .inl (mem_anyKeyword.2 ⟨s, hs, hk⟩)
  · exact .inr (.inr (mem_anyKeyword.2 ⟨s, hs, hk⟩))

/-- A forbidden word that is found where it stands alone. -/
theorem test_forbidden {a w b : List Char} (hs : s ∈ forbiddenWords)
    (hw : w.map Char.toUpper = s.toList) (ha : ∀ c, a.getLast? = some c → isWordChar c = false)
    (hb : ∀ c, b.head? = some c → isWordChar c = false) :
    test forbiddenStatementPattern (a ++ (w ++ b)) = true := by
  obtain ⟨hne, hchars⟩ := forbiddenWords_chars hs
  refine test_of_keyword (mem_forbidden hs) hne hchars hw ?_ ?_
  · cases hlast : a.getLast? with
    | none => rfl
    | some c => exact ha c hlast
  · cases hhead : b.head? with
    | none => rfl
    | some c => exact hb c hhead

/-- A forbidden word among the lexemes. -/
theorem test_of_word (hl : l ∈ lex text) (hkind : l.kind = .word) (hs : s ∈ forbiddenWords)
    (hraw : l.raw.map Char.toUpper = s.toList) : test forbiddenStatementPattern text = true := by
  obtain ⟨before, after, hsplit⟩ := List.append_of_mem hl
  have hwordy : l.isWordy = true := by simp [Lexeme.isWordy, hkind]
  have htext := flatMap_raw text
  rw [hsplit, List.flatMap_append, List.flatMap_cons] at htext
  rw [← htext]
  refine test_forbidden hs hraw ?_ ?_
  · intro c hc
    exact isWordChar_of_endsWords (endsWords_before hsplit hwordy hc)
  · intro d hd
    obtain ⟨ds, hds⟩ := List.head?_eq_some_iff.1 hd
    exact isWordChar_of_endsWords (.inl (not_isIdentPart_after hsplit hwordy hds))

theorem test_of_keywordLexeme (hl : l ∈ lex text) (hs : s ∈ forbiddenWords)
    (hkeyword : l.isKeyword s = true) : test forbiddenStatementPattern text = true := by
  rw [Lexeme.isKeyword, Bool.and_eq_true, beq_iff_eq, beq_iff_eq] at hkeyword
  exact test_of_word hl hkeyword.1 hs hkeyword.2

theorem toUpper_toLower (c : Char) : c.toLower.toUpper = c.toUpper := by
  by_cases h : 'A'.val ≤ c.val ∧ c.val ≤ 'Z'.val
  · have hlow : 65 ≤ c.toNat := UInt32.le_iff_toNat_le.1 h.1
    have hhigh : c.toNat ≤ 90 := UInt32.le_iff_toNat_le.1 h.2
    have hc : ∃ n : Fin 26, c = Char.ofNat (65 + n) := by
      have hsum : 65 + (c.toNat - 65) = c.toNat := by omega
      refine ⟨⟨c.toNat - 65, by omega⟩, ?_⟩
      rw [hsum, Char.ofNat_toNat]
    obtain ⟨n, rfl⟩ := hc
    clear h hlow hhigh
    revert n
    decide
  · rw [show c.toLower = c from dif_neg h]

/-- A forbidden function that is named by a lexeme without escapes. -/
theorem test_of_name (hl : l ∈ lex text) (hclosed : l.closed = true) (hescaped : l.isEscaped = false)
    (hs : s ∈ forbiddenFunctions) (hname : l.nameUnder '\\' = some s.toList) :
    test forbiddenStatementPattern text = true := by
  have hupper : s.map Char.toUpper ∈ forbiddenWords :=
    List.mem_append_right _ (List.mem_map_of_mem hs)
  have hlist : (s.map Char.toUpper).toList = s.toList.map Char.toUpper := String.toList_map
  rw [Lexeme.nameUnder] at hname
  cases hkind : l.kind with
  | word =>
    rw [hkind] at hname
    refine test_of_word hl hkind hupper ?_
    rw [hlist, ← Option.some.inj hname, List.map_map]
    exact List.map_congr_left fun c _ => (toUpper_toLower c).symm
  | quotedIdentifier =>
    rw [hkind] at hname
    simp only [hescaped, Bool.false_eq_true, ↓reduceIte] at hname
    have hname := Option.some.inj hname
    have hmark : '"' ∉ s.toList := by
      have hall : ∀ s ∈ forbiddenFunctions, '"' ∉ s.toList := by decide
      exact hall s hs
    obtain ⟨body, hraw⟩ := raw_of_quotedIdentifier hl hkind hescaped hclosed
    rw [hraw, List.tail_cons] at hname
    obtain ⟨rest, hrest, hend⟩ := unquote_prefix (hname ▸ hmark)
    rw [hname] at hrest
    obtain ⟨before, after, hsplit⟩ := List.append_of_mem hl
    have htext := flatMap_raw text
    rw [hsplit, List.flatMap_append, List.flatMap_cons, hraw, hrest, List.cons_append,
      List.append_assoc, List.append_cons] at htext
    rw [← htext]
    refine test_forbidden hupper hlist.symm ?_ ?_
    · intro c hc
      rw [List.getLast?_concat] at hc
      rw [← Option.some.inj hc]
      rfl
    · intro c hc
      have hnotNil : rest ≠ [] := by
        rintro rfl
        rw [List.append_nil] at hrest
        exact hmark (hrest ▸ List.mem_append_right _ (List.mem_singleton_self _))
      have hhead := hend.resolve_left hnotNil
      rw [List.head?_append, hhead, Option.some_or] at hc
      rw [← Option.some.inj hc]
      rfl
  | space => rw [hkind] at hname; cases hname
  | lineComment => rw [hkind] at hname; cases hname
  | blockComment => rw [hkind] at hname; cases hname
  | number => rw [hkind] at hname; cases hname
  | literal => rw [hkind] at hname; cases hname
  | semicolon => rw [hkind] at hname; cases hname
  | symbol => rw [hkind] at hname; cases hname

/-! ## Texts that are not refused -/

/-- What is known of a text that is not refused. -/
theorem not_refused (h : refuses text = false) :
    tooManySemicolons text = false ∧ test forbiddenStatementPattern text = false := by
  simp only [refuses, Bool.or_eq_false_iff] at h
  exact ⟨h.1.1.2, h.1.2⟩

theorem nothing_after_semicolon (h : tooManySemicolons text = false) {before after : List Lexeme}
    (hsplit : lex text = before ++ l :: after) (hkind : l.kind = .semicolon) : after = [] := by
  have hmem : l ∈ lex text := by
    rw [hsplit]
    exact List.mem_append_right _ List.mem_cons_self
  have htext := flatMap_raw text
  rw [hsplit, List.flatMap_append, List.flatMap_cons, raw_of_semicolon hmem hkind] at htext
  by_contra hne
  obtain ⟨m, after, rfl⟩ := List.exists_cons_of_ne_nil hne
  have hraw : (m :: after).flatMap (·.raw) ≠ [] := by
    have hm : m ∈ lex text := by
      rw [hsplit]
      exact List.mem_append_right _ (List.mem_cons_of_mem _ List.mem_cons_self)
    rw [List.flatMap_cons]
    exact List.append_ne_nil_of_left_ne_nil (raw_ne_nil hm) _
  rw [tooManySemicolons, decide_eq_false_iff_not, semicolonCount, ← htext, List.count_append,
    List.count_append, List.getLast?_append_of_ne_nil _ (by simp),
    List.getLast?_append_of_ne_nil _ hraw] at h
  have hone : List.count ';' [';'] = 1 := rfl
  by_cases hend : ((m :: after).flatMap (·.raw)).getLast? = some ';'
  · have hpos := List.count_pos_iff.2 (List.mem_of_getLast? hend)
    rw [if_pos hend] at h
    omega
  · rw [if_neg hend] at h
    omega

/-- The statement of a text that is not refused, if it has any. -/
theorem statementsOf_forwarded (h : refuses text = false) :
    statementsOf text = [significant ((lex text).filter (·.kind ≠ .semicolon))].filter (· ≠ []) :=
  statementsOf_eq fun _ _ _ hsplit hkind => nothing_after_semicolon (not_refused h).1 hsplit hkind

/-! ## The levels of such a text -/

variable {level : Level}

theorem mem_lex_of_levelsOf (hls : levelsOf text = some ls) (hlevel : level ∈ ls)
    (hl : Item.leaf l ∈ level) : l ∈ lex text := by
  have hmem := mem_of_levels hls hlevel hl
  exact (List.mem_filter.1 (List.mem_filter.1 hmem).1).1

theorem not_isKeyword (h : refuses text = false) (hls : levelsOf text = some ls) (hlevel : level ∈ ls)
    (hl : Item.leaf l ∈ level) (hs : s ∈ forbiddenWords) : l.isKeyword s = false := by
  by_contra hkeyword
  have htest := test_of_keywordLexeme (mem_lex_of_levelsOf hls hlevel hl) hs
    (eq_true_of_ne_false hkeyword)
  rw [(not_refused h).2] at htest
  cases htest

/-- No statement that changes rows. -/
theorem not_changesRows (h : refuses text = false) (hls : levelsOf text = some ls) :
    changesRows ls = false := by
  rw [changesRows, List.any_eq_false]
  intro level hlevel hany
  obtain ⟨s, hs, hfirst⟩ := List.any_eq_true.1 hany
  cases level with
  | nil => cases hfirst
  | cons item items =>
    cases item with
    | group first query => cases hfirst
    | leaf l =>
      have hforbidden : s ∈ forbiddenWords := by
        have hall : ∀ s ∈ ["INSERT", "UPDATE", "DELETE", "MERGE", "TRUNCATE"], s ∈ forbiddenWords := by
          decide
        exact hall s hs
      have hnot := not_isKeyword h hls hlevel List.mem_cons_self hforbidden
      rw [show l.isKeyword s = true from hfirst] at hnot
      cases hnot

/-- Rows are locked only by the clauses that are not refused. -/
theorem locksRows_eq (h : refuses text = false) (hls : levelsOf text = some ls) :
    locksRows ls = (ls.any (hasClause ["FOR", "SHARE"]) || ls.any (hasClause ["FOR", "KEY", "SHARE"])) := by
  have hupdate : ∀ level ∈ ls, ∀ keywords, "UPDATE" ∈ keywords → hasClause keywords level = false := by
    intro level hlevel keywords hkeywords
    by_contra hclause
    obtain ⟨l, hl, hkeyword⟩ := mem_of_hasClause (eq_true_of_ne_false hclause) hkeywords
    rw [not_isKeyword h hls hlevel hl (by decide)] at hkeyword
    cases hkeyword
  rw [Bool.eq_iff_iff, Bool.or_eq_true, locksRows, List.any_eq_true, List.any_eq_true, List.any_eq_true]
  constructor
  · rintro ⟨level, hlevel, hany⟩
    obtain ⟨keywords, hkeywords, hclause⟩ := List.any_eq_true.1 hany
    simp only [lockingClauses, List.mem_cons, List.not_mem_nil, or_false] at hkeywords
    rcases hkeywords with rfl | rfl | rfl | rfl
    · rw [hupdate level hlevel _ (by decide)] at hclause
      cases hclause
    · rw [hupdate level hlevel _ (by decide)] at hclause
      cases hclause
    · exact .inl ⟨level, hlevel, hclause⟩
    · exact .inr ⟨level, hlevel, hclause⟩
  · rintro (⟨level, hlevel, hclause⟩ | ⟨level, hlevel, hclause⟩)
    · exact ⟨level, hlevel, List.any_eq_true.2 ⟨["FOR", "SHARE"], by decide, hclause⟩⟩
    · exact ⟨level, hlevel, List.any_eq_true.2 ⟨["FOR", "KEY", "SHARE"], by decide, hclause⟩⟩

/-- No forbidden function is called without escapes. -/
theorem not_callsPlainly (h : refuses text = false) (hclosed : ∀ l ∈ lex text, l.closed = true)
    (hls : levelsOf text = some ls) : callsSomewhere (callsPlainly forbiddenFunctions) ls = false := by
  rw [callsSomewhere, List.any_eq_false]
  intro level hlevel hany
  obtain ⟨done, item, rest, rfl, hcalls⟩ := anyPlace_iff.1 hany
  cases item with
  | group first query => cases hcalls
  | leaf l =>
    have hl := mem_lex_of_levelsOf hls hlevel (List.mem_append_right done List.mem_cons_self)
    cases rest with
    | nil => cases hcalls
    | cons next rest =>
      simp only [callsPlainly, Bool.and_eq_true, Bool.not_eq_true'] at hcalls
      obtain ⟨⟨hescaped, hnamed⟩, -⟩ := hcalls
      obtain ⟨name, hname, hany⟩ := (Option.any_eq_true _ _).1 hnamed
      obtain ⟨s, hs, hsame⟩ := List.any_eq_true.1 hany
      rw [← eq_of_beq hsame] at hname
      have htest := test_of_name hl (hclosed l hl) hescaped hs hname
      rw [(not_refused h).2] at htest
      cases htest

/-! ## What is forwarded -/

theorem surrounds_trim (text : String) : Surrounds text (Texts.trim text) := by
  have hstart := List.takeWhile_append_dropWhile (p := Texts.isWhiteSpace) (l := text.toList)
  have hend := List.takeWhile_append_dropWhile (p := Texts.isWhiteSpace)
    (l := (text.toList.dropWhile Texts.isWhiteSpace).reverse)
  have hinner := congrArg List.reverse hend
  rw [List.reverse_append, List.reverse_reverse] at hinner
  refine ⟨text.toList.takeWhile Texts.isWhiteSpace,
    ((text.toList.dropWhile Texts.isWhiteSpace).reverse.takeWhile Texts.isWhiteSpace).reverse, ?_, ?_, ?_⟩
  · rw [Texts.trim, String.toList_ofList, List.append_assoc, hinner, hstart]
  · exact fun c hc => List.all_eq_true.1 List.all_takeWhile c hc
  · exact fun c hc => List.all_eq_true.1 List.all_takeWhile c (List.mem_reverse.1 hc)

theorem isRead_iff (h : refuses text = false) : IsRead text ↔ ¬ Overlooks text := by
  have hstatements := statementsOf_forwarded h
  constructor
  · rintro ⟨statement, ls, hone, hclosed, hls, hreads⟩ (⟨l, hl, hopen⟩ | hall)
    · rw [hclosed l hl] at hopen
      cases hopen
    · have hmem : statement ∈
          [significant ((lex text).filter (·.kind ≠ .semicolon))].filter (· ≠ []) := by
        rw [← hstatements, hone]
        exact List.mem_singleton_self _
      rw [List.mem_singleton.1 (List.mem_filter.1 hmem).1] at hls
      simp only [readsOnly, Bool.and_eq_true, Bool.not_eq_true', locksRows_eq h hls,
        Bool.or_eq_false_iff] at hreads
      obtain ⟨⟨⟨⟨⟨hshape, hcreates⟩, -⟩, -⟩, hescaped⟩, hshare, hkeyShare⟩ := hreads
      rcases hall ls hls with hnot | hnot | hnot | hnot | hnot
      · rw [hshape] at hnot
        cases hnot
      · rw [hcreates] at hnot
        cases hnot
      · rw [hshare] at hnot
        cases hnot
      · rw [hkeyShare] at hnot
        cases hnot
      · rw [hescaped] at hnot
        cases hnot
  · intro hnot
    rw [Overlooks, not_or] at hnot
    obtain ⟨hopen, hlevels⟩ := hnot
    have hclosed : ∀ l ∈ lex text, l.closed = true := by
      intro l hl
      by_contra hclosed
      exact hopen ⟨l, hl, eq_false_of_ne_true hclosed⟩
    push Not at hlevels
    obtain ⟨ls, hls, hshape, hcreates, hshare, hkeyShare, hescaped⟩ := hlevels
    have hne : significant ((lex text).filter (·.kind ≠ .semicolon)) ≠ [] := by
      intro hnil
      rw [levelsOf, hnil] at hls
      rw [← Option.some.inj hls] at hshape
      exact hshape rfl
    refine ⟨_, ls, ?_, hclosed, hls, ?_⟩
    · rw [hstatements, List.filter_cons_of_pos (by simpa using hne), List.filter_nil]
    · simp only [readsOnly, Bool.and_eq_true, Bool.not_eq_true', locksRows_eq h hls,
        Bool.or_eq_false_iff]
      refine ⟨⟨⟨⟨⟨?_, ?_⟩, not_changesRows h hls⟩, not_callsPlainly h hclosed hls⟩, ?_⟩, ?_, ?_⟩
      · exact eq_true_of_ne_false hshape
      · exact eq_false_of_ne_true hcreates
      · exact eq_false_of_ne_true hescaped
      · exact eq_false_of_ne_true hshare
      · exact eq_false_of_ne_true hkeyShare

/-- What is forwarded is the text without the white space around it, and one statement that reads just
if it is of no kind that the executor overlooks. -/
theorem execute_isRead_iff {statement forwarded : String} (h : execute (some statement) = .ok forwarded) :
    IsRead forwarded.toList ∧ Surrounds statement forwarded ↔ ¬ Overlooks forwarded.toList := by
  rw [execute] at h
  split at h
  · cases h
  · next hrefuses =>
    cases h
    rw [isRead_iff (eq_false_of_ne_true hrefuses)]
    exact and_iff_left (surrounds_trim statement)

theorem execute_reads : execute (some " SELECT name FROM customer; ") = .ok "SELECT name FROM customer;" ∧
    (IsRead "SELECT name FROM customer;".toList ∧
        Surrounds " SELECT name FROM customer; " "SELECT name FROM customer;" ↔
      ¬ Overlooks "SELECT name FROM customer;".toList) := by
  have h : execute (some " SELECT name FROM customer; ") = .ok "SELECT name FROM customer;" := by
    decide +kernel
  exact ⟨h, execute_isRead_iff h⟩

/-- A query that makes a table is forwarded. -/
theorem execute_into : execute (some "SELECT * INTO copied FROM customer") =
      .ok "SELECT * INTO copied FROM customer" ∧ ¬ IsRead "SELECT * INTO copied FROM customer".toList := by
  have h : execute (some "SELECT * INTO copied FROM customer") =
      .ok "SELECT * INTO copied FROM customer" := by decide +kernel
  refine ⟨h, ?_⟩
  rintro ⟨statement, ls, hone, -, hls, hreads⟩
  have hall : (statementsOf "SELECT * INTO copied FROM customer".toList).all (fun statement =>
      (levels statement).all fun ls => !readsOnly forbiddenFunctions ls) = true := by decide +kernel
  rw [hone, List.all_cons, hls] at hall
  simp [hreads] at hall

end SubscriptionSaas.Release.ReadOnlySource
