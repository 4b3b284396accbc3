import SubscriptionSaas.Lib.SqlStatements

/-!
# Statements of SQL: proofs

The levels of a statement have no other lexemes than it (`mem_of_levels`), and a text in which nothing
comes after a semicolon has one statement (`statementsOf_eq`).
-/

namespace SqlStatements

open SqlLexemes

variable {statement ls before : List Lexeme} {l : Lexeme} {level : Level} {text : List Char}

/-! ## Levels -/

theorem mem_of_groupOf (level : Level) : Item.leaf l ≠ groupOf level := nofun

theorem nest_cons (outer : List Level) (level : Level) (closed : List Level) (l : Lexeme)
    (ls : List Lexeme) :
    nest outer level closed (l :: ls) =
      if isParen '(' l then nest (level :: outer) [] closed ls
      else if isParen ')' l then
        match outer with
        | [] => none
        | above :: outer => nest outer (groupOf level.reverse :: above) (level.reverse :: closed) ls
      else nest outer (.leaf l :: level) closed ls := by
  cases outer with
  | nil => rfl
  | cons above outer => rfl

theorem mem_of_nest {outer closed result : List Level} {ls : List Lexeme}
    (h : nest outer level closed ls = some result) {found : Level} (hfound : found ∈ result)
    (hl : Item.leaf l ∈ found) :
    l ∈ ls ∨ Item.leaf l ∈ level ∨ (∃ above ∈ outer, Item.leaf l ∈ above) ∨
      ∃ other ∈ closed, Item.leaf l ∈ other := by
  induction ls generalizing outer level closed with
  | nil =>
    cases outer with
    | nil =>
      rw [nest] at h
      obtain rfl := Option.some.inj h
      rcases List.mem_cons.1 hfound with rfl | hfound
      · exact .inr (.inl (List.mem_reverse.1 hl))
      · exact .inr (.inr (.inr ⟨found, hfound, hl⟩))
    | cons above outer => cases h
  | cons m ls ih =>
    rw [nest_cons] at h
    by_cases hopen : isParen '(' m = true
    · rw [if_pos hopen] at h
      rcases ih h with hin | hin | ⟨above, habove, hin⟩ | hin
      · exact .inl (List.mem_cons_of_mem _ hin)
      · cases hin
      · rcases List.mem_cons.1 habove with rfl | habove
        · exact .inr (.inl hin)
        · exact .inr (.inr (.inl ⟨above, habove, hin⟩))
      · exact .inr (.inr (.inr hin))
    rw [if_neg hopen] at h
    by_cases hclose : isParen ')' m = true
    · rw [if_pos hclose] at h
      cases outer with
      | nil => cases h
      | cons above outer =>
        rcases ih h with hin | hin | ⟨above', habove, hin⟩ | ⟨other, hother, hin⟩
        · exact .inl (List.mem_cons_of_mem _ hin)
        · rcases List.mem_cons.1 hin with hin | hin
          · exact absurd hin (mem_of_groupOf _)
          · exact .inr (.inr (.inl ⟨above, List.mem_cons_self, hin⟩))
        · exact .inr (.inr (.inl ⟨above', List.mem_cons_of_mem _ habove, hin⟩))
        · rcases List.mem_cons.1 hother with rfl | hother
          · exact .inr (.inl (List.mem_reverse.1 hin))
          · exact .inr (.inr (.inr ⟨other, hother, hin⟩))
    · rw [if_neg hclose] at h
      rcases ih h with hin | hin | hin | hin
      · exact .inl (List.mem_cons_of_mem _ hin)
      · rcases List.mem_cons.1 hin with hin | hin
        · cases hin
          exact .inl List.mem_cons_self
        · exact .inr (.inl hin)
      · exact .inr (.inr (.inl hin))
      · exact .inr (.inr (.inr hin))

/-- A lexeme on a level is one of the statement. -/
theorem mem_of_levels {result : List Level} (h : levels statement = some result)
    (hlevel : level ∈ result) (hl : Item.leaf l ∈ level) : l ∈ statement := by
  rcases mem_of_nest h hlevel hl with hin | hin | ⟨above, habove, -⟩ | ⟨other, hother, -⟩
  · exact hin
  · cases hin
  · cases habove
  · cases hother

/-! ## Places -/

/-- At some place of the level. -/
theorem anyPlace_iff {p : Option Item → List Item → Bool} {first : Option Item} :
    anyPlace p first level = true ↔
      ∃ done item rest, level = done ++ item :: rest ∧ p (done.getLast?.or first) (item :: rest) = true := by
  induction level generalizing first with
  | nil => simp [anyPlace]
  | cons item items ih =>
    rw [anyPlace, Bool.or_eq_true, ih]
    constructor
    · rintro (h | ⟨done, item', rest, rfl, h⟩)
      · exact ⟨[], item, items, rfl, h⟩
      · refine ⟨item :: done, item', rest, rfl, ?_⟩
        rw [List.getLast?_cons]
        cases hdone : done.getLast? with
        | none => simpa [hdone] using h
        | some last => simpa [hdone] using h
    · rintro ⟨done, item', rest, hsplit, h⟩
      cases done with
      | nil =>
        obtain ⟨rfl, rfl⟩ := List.cons.inj hsplit
        exact .inl h
      | cons first' done =>
        obtain ⟨rfl, rfl⟩ := List.cons.inj hsplit
        refine .inr ⟨done, item', rest, rfl, ?_⟩
        rw [List.getLast?_cons] at h
        cases hdone : done.getLast? with
        | none => simpa [hdone] using h
        | some last => simpa [hdone] using h

/-! ## Statements -/

theorem statements_of_none (h : ∀ l ∈ ls, l.kind ≠ .semicolon) : statements ls = [ls] := by
  induction ls with
  | nil => rfl
  | cons l ls ih =>
    obtain ⟨hl, hls⟩ := List.forall_mem_cons.1 h
    rw [statements, if_neg hl, ih hls]

theorem statements_append_semicolon (h : ∀ l ∈ before, l.kind ≠ .semicolon) (hl : l.kind = .semicolon) :
    statements (before ++ [l]) = [before, []] := by
  induction before with
  | nil => rw [List.nil_append, statements, if_pos hl, statements]
  | cons m before ih =>
    obtain ⟨hm, hbefore⟩ := List.forall_mem_cons.1 h
    rw [List.cons_append, statements, if_neg hm, ih hbefore]

/-- The text ends or goes on with a semicolon. -/
def EndsStatement (rest : List Lexeme) : Prop := ∀ l, rest.head? = some l → l.kind = .semicolon

/-- The first statement stands at the beginning, and each other one after a semicolon. -/
theorem statements_split (ls : List Lexeme) : ∃ first others, statements ls = first :: others ∧
    (∃ rest, ls = first ++ rest ∧ EndsStatement rest) ∧ (∀ l ∈ first, l.kind ≠ .semicolon) ∧
      ∀ s ∈ others, (∃ a l rest, ls = a ++ l :: (s ++ rest) ∧ l.kind = .semicolon ∧ EndsStatement rest) ∧
        ∀ l ∈ s, l.kind ≠ .semicolon := by
  induction ls with
  | nil => exact ⟨[], [], rfl, ⟨[], rfl, nofun⟩, by simp, by simp⟩
  | cons m ls ih =>
    obtain ⟨first, others, hstatements, ⟨rest, hrest, hends⟩, hfirst, hothers⟩ := ih
    have hlater : ∀ s ∈ others,
        (∃ a l rest, m :: ls = a ++ l :: (s ++ rest) ∧ l.kind = .semicolon ∧ EndsStatement rest) ∧
          ∀ l ∈ s, l.kind ≠ .semicolon := by
      intro s hs
      obtain ⟨⟨a, l, rest, hsplit, hl⟩, hnone⟩ := hothers s hs
      exact ⟨⟨m :: a, l, rest, by rw [hsplit, List.cons_append], hl⟩, hnone⟩
    by_cases hm : m.kind = .semicolon
    · refine ⟨[], first :: others, by rw [statements, if_pos hm, hstatements], ⟨m :: ls, rfl, ?_⟩,
        by simp, ?_⟩
      · intro l hl
        rwa [← Option.some.inj hl]
      · exact List.forall_mem_cons.2
          ⟨⟨⟨[], m, rest, by rw [hrest, List.nil_append], hm, hends⟩, hfirst⟩, hlater⟩
    · refine ⟨m :: first, others, by rw [statements, if_neg hm, hstatements], ⟨rest, ?_, hends⟩, ?_,
        hlater⟩
      · rw [hrest, List.cons_append]
      · exact List.forall_mem_cons.2 ⟨hm, hfirst⟩

/-- The lexemes up to the next semicolon, without white space and comments. -/
def tokensOf (ls : List Lexeme) : List Lexeme := significant (ls.takeWhile (·.kind ≠ .semicolon))

/-- A statement of a text, with what stands before it. -/
theorem exists_of_mem_statementsOf {st : List Lexeme} (h : st ∈ statementsOf text) :
    ∃ before after, lex text = before ++ after ∧ st = tokensOf after ∧
      (∀ l, before.getLast? = some l → l.kind = .semicolon) := by
  rw [statementsOf] at h
  obtain ⟨s, hs, rfl⟩ := List.mem_map.1 (List.mem_filter.1 h).1
  have htake : ∀ {s rest : List Lexeme}, (∀ l ∈ s, l.kind ≠ .semicolon) → EndsStatement rest →
      (s ++ rest).takeWhile (·.kind ≠ .semicolon) = s := by
    intro s rest hs hends
    rw [List.takeWhile_append_of_pos (by simpa using hs)]
    cases rest with
    | nil => simp
    | cons l rest => simp [hends l rfl]
  obtain ⟨first, others, hstatements, ⟨rest, hrest, hends⟩, hfirst, hothers⟩ :=
    statements_split (lex text)
  rw [hstatements, List.mem_cons] at hs
  rcases hs with rfl | hs
  · exact ⟨[], s ++ rest, hrest, by rw [tokensOf, htake hfirst hends], by simp⟩
  · obtain ⟨⟨a, l, rest, hsplit, hl, hends⟩, hnone⟩ := hothers s hs
    refine ⟨a ++ [l], s ++ rest, ?_, by rw [tokensOf, htake hnone hends], ?_⟩
    · rw [hsplit, List.append_assoc, List.singleton_append]
    · intro m hm
      rw [List.getLast?_concat] at hm
      rwa [← Option.some.inj hm]

theorem tokensOf_append {blanks rest : List Lexeme} (hblanks : ∀ m ∈ blanks, m.isBlank = true)
    (hl : l.isBlank = false) (hkind : l.kind ≠ .semicolon) :
    tokensOf (blanks ++ l :: rest) = l :: tokensOf rest := by
  have hnone : ∀ m ∈ blanks, m.kind ≠ .semicolon := by
    intro m hm hsemi
    have hblank := hblanks m hm
    simp [Lexeme.isBlank, Lexeme.isComment, hsemi] at hblank
  have hfilter : blanks.filter (!·.isBlank) = [] := by
    rw [List.filter_eq_nil_iff]
    intro m hm
    simp [hblanks m hm]
  rw [tokensOf, List.takeWhile_append_of_pos (by simpa using hnone),
    List.takeWhile_cons_of_pos (by simpa using hkind), significant, List.filter_append, hfilter,
    List.nil_append, List.filter_cons_of_pos (by simpa using hl)]
  rfl

theorem tokensOf_cons {m : Lexeme} {rest : List Lexeme} (h : tokensOf ls = m :: rest) :
    ∃ blanks s', ls = blanks ++ m :: s' ∧ (∀ l ∈ blanks, l.isBlank = true) ∧ m.isBlank = false ∧
      tokensOf s' = rest := by
  obtain ⟨blanks, s', htake, hblanks, hm, hrest⟩ := List.filter_eq_cons_iff.1 h
  have hsplit := List.takeWhile_append_dropWhile (p := fun l : Lexeme => decide (l.kind ≠ .semicolon))
    (l := ls)
  rw [htake, List.append_assoc, List.cons_append] at hsplit
  have hall : ∀ l ∈ s', l.kind ≠ .semicolon := by
    intro l hl
    have hmem : l ∈ ls.takeWhile (·.kind ≠ .semicolon) := by
      rw [htake]
      exact List.mem_append_right _ (List.mem_cons_of_mem _ hl)
    simpa using List.all_eq_true.1 List.all_takeWhile l hmem
  refine ⟨blanks, _, hsplit.symm, fun l hl => by simpa using hblanks l hl, by simpa using hm, ?_⟩
  rw [tokensOf, List.takeWhile_append_of_pos (by simpa using hall), ← hrest, significant]
  cases hdrop : ls.dropWhile (·.kind ≠ .semicolon) with
  | nil => simp
  | cons l rest' =>
    have hl := List.head?_dropWhile_not (fun l : Lexeme => decide (l.kind ≠ .semicolon)) ls
    rw [hdrop] at hl
    simp only [List.head?_cons] at hl
    have hkind : l.kind = .semicolon := by simpa using hl
    simp [hkind]

/-- A text in which nothing comes after a semicolon. -/
theorem statementsOf_eq
    (hlast : ∀ before l after, lex text = before ++ l :: after → l.kind = .semicolon → after = []) :
    statementsOf text =
      [significant ((lex text).filter (·.kind ≠ .semicolon))].filter (· ≠ []) := by
  by_cases hsemi : ∃ l ∈ lex text, l.kind = .semicolon
  · obtain ⟨l, hmem, hl⟩ := hsemi
    obtain ⟨before, after, hsplit⟩ := List.append_of_mem hmem
    have hafter := hlast before l after hsplit hl
    rw [hafter] at hsplit
    have hbefore : ∀ m ∈ before, m.kind ≠ .semicolon := by
      intro m hm hkind
      obtain ⟨s, t, rfl⟩ := List.append_of_mem hm
      have hnil := hlast s m (t ++ [l]) (by rw [hsplit, List.append_assoc, List.cons_append]) hkind
      simp at hnil
    have hfilter : (before ++ [l]).filter (·.kind ≠ .semicolon) = before := by
      rw [List.filter_append, List.filter_eq_self.2 (by simpa using hbefore)]
      simp [hl]
    have hblank : [significant []].filter (· ≠ []) = [] := rfl
    rw [hsplit, hfilter, statementsOf, hsplit, statements_append_semicolon hbefore hl]
    exact (List.filter_append [significant before] [significant []]).trans
      (by rw [hblank, List.append_nil])
  · have hnone : ∀ l ∈ lex text, l.kind ≠ .semicolon := fun l hl hkind => hsemi ⟨l, hl, hkind⟩
    have hfilter : (lex text).filter (·.kind ≠ .semicolon) = lex text :=
      List.filter_eq_self.2 (by simpa using hnone)
    rw [hfilter, statementsOf, statements_of_none hnone, List.map_singleton]

/-! ## Clauses -/

theorem mem_of_startsWith {keywords : List String} {items : List Item} {s : String}
    (h : startsWith keywords items = true) (hs : s ∈ keywords) :
    ∃ l, Item.leaf l ∈ items ∧ l.isKeyword s = true := by
  rw [startsWith, Bool.and_eq_true, decide_eq_true_iff, List.all_eq_true] at h
  obtain ⟨hlength, hall⟩ := h
  obtain ⟨i, hi, rfl⟩ := List.mem_iff_getElem.1 hs
  have hitems : i < items.length := by omega
  have hlt : i < (keywords.zip items).length := by
    rw [List.length_zip]
    omega
  have hpair := hall _ (List.getElem_mem hlt)
  rw [List.getElem_zip] at hpair
  cases hitem : items[i] with
  | leaf l =>
    rw [hitem] at hpair
    exact ⟨l, hitem ▸ List.getElem_mem _, hpair⟩
  | group first query =>
    rw [hitem] at hpair
    cases hpair

/-- The keywords of a clause are lexemes of its level. -/
theorem mem_of_hasClause {keywords : List String} {s : String} (h : hasClause keywords level = true)
    (hs : s ∈ keywords) : ∃ l, Item.leaf l ∈ level ∧ l.isKeyword s = true := by
  rw [hasClause, Bool.and_eq_true, anyPlace_iff] at h
  obtain ⟨-, done, item, rest, rfl, hclause⟩ := h
  rw [clause, Bool.and_eq_true] at hclause
  obtain ⟨l, hl, hkeyword⟩ := mem_of_startsWith hclause.2 hs
  exact ⟨l, List.mem_append_right _ hl, hkeyword⟩

end SqlStatements
