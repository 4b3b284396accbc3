import Mathlib.Data.List.Forall2
import SubscriptionSaas.Lib.Texts

/-!
# Regular expressions

The regular expressions of ECMAScript as functions that give, in the order in which they are tried, the
places up to which a pattern matches. A quantifier is one of a class of characters. Letters are compared
with regard to their case, or those of ASCII without it.
-/

namespace Patterns

/-- A place in a text: the character before it and the text after it. -/
structure Cursor where
  before : Option Char
  rest : List Char
  deriving DecidableEq

abbrev Pattern := Cursor → List Cursor

/-! ## Classes -/

/-- `\w`. -/
def isWordChar (c : Char) : Bool := c.isAlphanum || c == '_'

/-- `\s`. -/
def isWhiteSpace (c : Char) : Bool := Texts.isWhiteSpace c

/-! ## Patterns -/

/-- A character of a class. -/
def one (p : Char → Bool) : Pattern
  | ⟨_, []⟩ => []
  | ⟨_, c :: cs⟩ => if p c then [⟨some c, cs⟩] else []

def both (p q : Pattern) : Pattern := fun k => (p k).flatMap q

def either (p q : Pattern) : Pattern := fun k => p k ++ q k

def sequence (ps : List Pattern) : Pattern := ps.foldr both fun k => [k]

def greedyFrom (p : Char → Bool) : Option Char → List Char → List Cursor
  | before, [] => [⟨before, []⟩]
  | before, c :: cs =>
    if p c then greedyFrom p (some c) cs ++ [⟨before, c :: cs⟩] else [⟨before, c :: cs⟩]

/-- `[…]*`. -/
def many (p : Char → Bool) : Pattern := fun k => greedyFrom p k.before k.rest

def lazyFrom (p : Char → Bool) : Option Char → List Char → List Cursor
  | before, [] => [⟨before, []⟩]
  | before, c :: cs => ⟨before, c :: cs⟩ :: if p c then lazyFrom p (some c) cs else []

/-- `[…]*?`. -/
def manyLazy (p : Char → Bool) : Pattern := fun k => lazyFrom p k.before k.rest

/-- `[…]+`. -/
def many1 (p : Char → Bool) : Pattern := both (one p) (many p)

/-- `\s*`. -/
def spaces : Pattern := many isWhiteSpace

/-- `\s+`. -/
def spaces1 : Pattern := many1 isWhiteSpace

def exactly (text : String) : Pattern := sequence (text.toList.map fun c => one (· == c))

/-- A text of capital letters, in letters of any case. -/
def keyword (text : String) : Pattern := sequence (text.toList.map fun c => one (·.toUpper == c))

/-- Of several keywords the first that matches. -/
def anyKeyword (texts : List String) : Pattern :=
  texts.foldr (fun text => either (keyword text)) fun _ => []

def optional (p : Pattern) : Pattern := either p fun k => [k]

def atBoundary (k : Cursor) : Bool := k.before.any isWordChar != k.rest.head?.any isWordChar

/-- `\b`. -/
def boundary : Pattern := fun k => if atBoundary k then [k] else []

/-- `$` without the flag of lines. -/
def atEnd : Pattern := fun k => if k.rest = [] then [k] else []

/-! ## Searches -/

/-- `pattern.test(text)` of a pattern that is not bound to the beginning. -/
def searchFrom (p : Pattern) (before : Option Char) : List Char → Bool
  | [] => !(p ⟨before, []⟩).isEmpty
  | c :: cs => !(p ⟨before, c :: cs⟩).isEmpty || searchFrom p (some c) cs

def test (p : Pattern) (text : List Char) : Bool := searchFrom p none text

/-- `/^…/.test(text)`. -/
def testStart (p : Pattern) (text : List Char) : Bool := !(p ⟨none, text⟩).isEmpty

/-- What the pattern first matches at the place. -/
def matchAt (p : Pattern) (k : Cursor) : Option (List Char) :=
  (p k).head?.map fun k' => k.rest.take (k.rest.length - k'.rest.length)

def matchesFrom (p : Pattern) : Nat → Option Char → List Char → List (List Char)
  | _, _, [] => []
  | skip + 1, _, c :: cs => matchesFrom p skip (some c) cs
  | 0, before, c :: cs =>
    match matchAt p ⟨before, c :: cs⟩ with
    | some matched => matched :: matchesFrom p (matched.length - 1) (some c) cs
    | none => matchesFrom p 0 (some c) cs

/-- `text.matchAll(pattern)`, of a pattern that matches no empty text. -/
def matchAll (p : Pattern) (text : List Char) : List (List Char) := matchesFrom p 0 none text

def replaceFrom (p : Pattern) (replacement : List Char) : Nat → Option Char → List Char → List Char
  | _, _, [] => []
  | skip + 1, _, c :: cs => replaceFrom p replacement skip (some c) cs
  | 0, before, c :: cs =>
    match matchAt p ⟨before, c :: cs⟩ with
    | some matched => replacement ++ replaceFrom p replacement (matched.length - 1) (some c) cs
    | none => c :: replaceFrom p replacement 0 (some c) cs

/-- `text.replace(pattern, replacement)` of such a pattern with the flag `g`. -/
def replaceAll (p : Pattern) (replacement : String) (text : List Char) : List Char :=
  replaceFrom p replacement.toList 0 none text

/-! ## What a pattern spells -/

/-- The character before the place that is reached over the text. -/
def Cursor.past (before : Option Char) (w : List Char) : Option Char := w.getLast?.or before

/-- The pattern matches exactly the texts of the language, wherever they stand. -/
def Spells (p : Pattern) (L : List Char → Prop) : Prop :=
  ∀ before text k, k ∈ p ⟨before, text⟩ ↔
    ∃ w rest, text = w ++ rest ∧ L w ∧ k = ⟨Cursor.past before w, rest⟩

variable {p q : Pattern} {L M : List Char → Prop} {before : Option Char} {text : List Char} {c : Char}
  {k : Cursor}

theorem past_append (before : Option Char) (v w : List Char) :
    Cursor.past before (v ++ w) = Cursor.past (Cursor.past before v) w := by
  rw [Cursor.past, Cursor.past, Cursor.past, List.getLast?_append, Option.or_assoc]

theorem past_cons (before : Option Char) (c : Char) (w : List Char) :
    Cursor.past before (c :: w) = Cursor.past (some c) w :=
  past_append before [c] w

theorem spells_one (f : Char → Bool) : Spells (one f) fun w => ∃ c, f c = true ∧ w = [c] := by
  intro before text k
  cases text with
  | nil =>
    constructor
    · intro hk
      cases hk
    · rintro ⟨w, rest, hsplit, ⟨c, -, rfl⟩, -⟩
      cases hsplit
  | cons c cs =>
    rw [one]
    constructor
    · intro hk
      split at hk
      · next hc => exact ⟨[c], cs, rfl, ⟨c, hc, rfl⟩, List.mem_singleton.1 hk⟩
      · cases hk
    · rintro ⟨w, rest, hsplit, ⟨d, hd, rfl⟩, rfl⟩
      obtain ⟨rfl, rfl⟩ := List.cons.inj hsplit
      rw [if_pos hd]
      exact List.mem_singleton_self _

theorem spells_both (hp : Spells p L) (hq : Spells q M) :
    Spells (both p q) fun w => ∃ u v, w = u ++ v ∧ L u ∧ M v := by
  intro before text k
  rw [both, List.mem_flatMap]
  constructor
  · rintro ⟨mid, hmid, hk⟩
    obtain ⟨u, rest, rfl, hu, rfl⟩ := (hp before text mid).1 hmid
    obtain ⟨v, rest, rfl, hv, rfl⟩ := (hq _ _ k).1 hk
    exact ⟨u ++ v, rest, (List.append_assoc ..).symm, ⟨u, v, rfl, hu, hv⟩, by rw [past_append]⟩
  · rintro ⟨w, rest, rfl, ⟨u, v, rfl, hu, hv⟩, rfl⟩
    refine ⟨⟨Cursor.past before u, v ++ rest⟩, ?_, ?_⟩
    · exact (hp _ _ _).2 ⟨u, v ++ rest, List.append_assoc .., hu, rfl⟩
    · exact (hq _ _ _).2 ⟨v, rest, rfl, hv, by rw [past_append]⟩

theorem Spells.congr (h : Spells p L) (hL : ∀ w, L w ↔ M w) : Spells p M := by
  have hLM : L = M := funext fun w => propext (hL w)
  rwa [← hLM]

theorem spells_nil : Spells (fun k => [k]) fun w => w = [] := by
  intro before text k
  rw [List.mem_singleton]
  constructor
  · rintro rfl
    exact ⟨[], text, rfl, rfl, rfl⟩
  · rintro ⟨w, rest, rfl, rfl, rfl⟩
    rfl

theorem spells_sequence_one (fs : List (Char → Bool)) :
    Spells (sequence (fs.map one)) fun w => List.Forall₂ (fun f c => f c = true) fs w := by
  induction fs with
  | nil => exact spells_nil.congr fun w => List.forall₂_nil_left_iff.symm
  | cons f fs ih =>
    refine (spells_both (spells_one f) ih).congr fun w => ?_
    constructor
    · rintro ⟨u, v, rfl, ⟨c, hc, rfl⟩, hv⟩
      exact List.Forall₂.cons hc hv
    · intro hw
      cases hw with
      | cons hc hv => exact ⟨[_], _, rfl, ⟨_, hc, rfl⟩, hv⟩

theorem spells_keyword (s : String) : Spells (keyword s) fun w => w.map Char.toUpper = s.toList := by
  have h := spells_sequence_one (s.toList.map fun c => fun d : Char => d.toUpper == c)
  rw [List.map_map] at h
  refine h.congr fun w => ?_
  rw [List.forall₂_map_left_iff, ← List.forall₂_eq_eq_eq, List.forall₂_map_left_iff]
  constructor
  · intro hw
    exact (hw.imp fun _ _ hc => eq_of_beq hc).flip
  · intro hw
    exact hw.flip.imp fun _ _ hc => beq_iff_eq.2 hc

theorem spells_exactly (s : String) : Spells (exactly s) fun w => w = s.toList := by
  have h := spells_sequence_one (s.toList.map fun c => fun d : Char => d == c)
  rw [List.map_map] at h
  refine h.congr fun w => ?_
  rw [List.forall₂_map_left_iff, ← List.forall₂_eq_eq_eq]
  constructor
  · intro hw
    exact (hw.imp fun _ _ hc => eq_of_beq hc).flip
  · intro hw
    exact hw.flip.imp fun _ _ hc => beq_iff_eq.2 hc

theorem spells_many (f : Char → Bool) : Spells (many f) fun w => ∀ c ∈ w, f c = true := by
  intro before text k
  rw [many]
  induction text generalizing before with
  | nil =>
    rw [greedyFrom, List.mem_singleton]
    constructor
    · rintro rfl
      exact ⟨[], [], rfl, by simp, rfl⟩
    · rintro ⟨w, rest, hsplit, -, rfl⟩
      obtain ⟨rfl, rfl⟩ := List.append_eq_nil_iff.1 hsplit.symm
      rfl
  | cons c cs ih =>
    rw [greedyFrom]
    by_cases hc : f c = true
    · rw [if_pos hc, List.mem_append, ih, List.mem_singleton]
      constructor
      · rintro (⟨w, rest, rfl, hw, rfl⟩ | rfl)
        · exact ⟨c :: w, rest, rfl, List.forall_mem_cons.2 ⟨hc, hw⟩, by rw [past_cons]⟩
        · exact ⟨[], c :: cs, rfl, by simp, rfl⟩
      · rintro ⟨w, rest, hsplit, hw, rfl⟩
        cases w with
        | nil => exact .inr (by rw [hsplit]; rfl)
        | cons d w =>
          obtain ⟨rfl, rfl⟩ := List.cons.inj hsplit
          exact .inl ⟨w, rest, rfl, (List.forall_mem_cons.1 hw).2, by rw [past_cons]⟩
    · rw [if_neg hc, List.mem_singleton]
      constructor
      · rintro rfl
        exact ⟨[], c :: cs, rfl, by simp, rfl⟩
      · rintro ⟨w, rest, hsplit, hw, rfl⟩
        cases w with
        | nil => rw [hsplit]; rfl
        | cons d w =>
          obtain ⟨rfl, rfl⟩ := List.cons.inj hsplit
          exact absurd (List.forall_mem_cons.1 hw).1 hc

theorem spells_many1 (f : Char → Bool) : Spells (many1 f) fun w => w ≠ [] ∧ ∀ c ∈ w, f c = true := by
  refine (spells_both (spells_one f) (spells_many f)).congr fun w => ?_
  constructor
  · rintro ⟨u, v, rfl, ⟨c, hc, rfl⟩, hv⟩
    exact ⟨List.cons_ne_nil _ _, List.forall_mem_cons.2 ⟨hc, hv⟩⟩
  · rintro ⟨hne, hw⟩
    cases w with
    | nil => exact absurd rfl hne
    | cons c v =>
      obtain ⟨hc, hv⟩ := List.forall_mem_cons.1 hw
      exact ⟨[c], v, rfl, ⟨c, hc, rfl⟩, hv⟩

theorem mem_boundary : k ∈ boundary ⟨before, text⟩ ↔ atBoundary ⟨before, text⟩ = true ∧ k = ⟨before, text⟩ := by
  rw [boundary]
  split
  · next h => simp [h]
  · next h => simp [h]

/-! ## What a search finds -/

theorem searchFrom_iff : searchFrom p before text = true ↔
    ∃ v rest, text = v ++ rest ∧ p ⟨Cursor.past before v, rest⟩ ≠ [] := by
  induction text generalizing before with
  | nil =>
    rw [searchFrom, Bool.not_eq_true', List.isEmpty_eq_false_iff]
    constructor
    · intro h
      exact ⟨[], [], rfl, h⟩
    · rintro ⟨v, rest, hsplit, h⟩
      obtain ⟨rfl, rfl⟩ := List.append_eq_nil_iff.1 hsplit.symm
      exact h
  | cons c cs ih =>
    rw [searchFrom, Bool.or_eq_true, Bool.not_eq_true', List.isEmpty_eq_false_iff, ih]
    constructor
    · rintro (h | ⟨v, rest, rfl, h⟩)
      · exact ⟨[], c :: cs, rfl, h⟩
      · refine ⟨c :: v, rest, rfl, ?_⟩
        rwa [past_cons]
    · rintro ⟨v, rest, hsplit, h⟩
      cases v with
      | nil => exact .inl (by rw [hsplit]; exact h)
      | cons d v =>
        obtain ⟨rfl, rfl⟩ := List.cons.inj hsplit
        refine .inr ⟨v, rest, rfl, ?_⟩
        rwa [past_cons] at h

/-! ## Words -/

/-- A small letter of ASCII is one of 26. -/
theorem exists_small (h : 'a'.val ≤ c.val ∧ c.val ≤ 'z'.val) : ∃ n : Fin 26, c = Char.ofNat (97 + n) := by
  have hlow : 97 ≤ c.toNat := UInt32.le_iff_toNat_le.1 h.1
  have hhigh : c.toNat ≤ 122 := UInt32.le_iff_toNat_le.1 h.2
  have hsum : 97 + (c.toNat - 97) = c.toNat := by omega
  refine ⟨⟨c.toNat - 97, by omega⟩, ?_⟩
  rw [hsum, Char.ofNat_toNat]

theorem isWordChar_toUpper (c : Char) : isWordChar c.toUpper = isWordChar c := by
  by_cases h : 'a'.val ≤ c.val ∧ c.val ≤ 'z'.val
  · obtain ⟨n, rfl⟩ := exists_small h
    revert n
    decide
  · rw [show c.toUpper = c from dif_neg h]

theorem mem_anyKeyword {texts : List String} {k' : Cursor} :
    k' ∈ anyKeyword texts k ↔ ∃ s ∈ texts, k' ∈ keyword s k := by
  induction texts with
  | nil => simp [anyKeyword]
  | cons s texts ih =>
    have hcons : anyKeyword (s :: texts) k = keyword s k ++ anyKeyword texts k := rfl
    rw [hcons, List.mem_append, ih, List.exists_mem_cons_iff]

/-- A pattern between boundaries matches where it matches without them a text that begins and ends as a
word, and nothing of a word stands around it. -/
theorem bounded_ne_nil {a w b : List Char}
    (hq : ∀ before, (⟨Cursor.past before w, b⟩ : Cursor) ∈ q ⟨before, w ++ b⟩) {c d : Char}
    (hfirst : w.head? = some c) (hlast : w.getLast? = some d) (hc : isWordChar c = true)
    (hd : isWordChar d = true) (ha : a.getLast?.any isWordChar = false)
    (hb : b.head?.any isWordChar = false) :
    sequence [boundary, q, boundary] ⟨Cursor.past none a, w ++ b⟩ ≠ [] := by
  have hpast : Cursor.past none a = a.getLast? := by rw [Cursor.past, Option.or_none]
  have hstart : atBoundary ⟨a.getLast?, w ++ b⟩ = true := by
    simp [atBoundary, ha, List.head?_append, hfirst, hc]
  have hend : atBoundary ⟨Cursor.past a.getLast? w, b⟩ = true := by
    simp [atBoundary, Cursor.past, hlast, hb, hd]
  have hmem : (⟨Cursor.past a.getLast? w, b⟩ : Cursor) ∈
      sequence [boundary, q, boundary] ⟨a.getLast?, w ++ b⟩ := by
    refine List.mem_flatMap.2 ⟨_, mem_boundary.2 ⟨hstart, rfl⟩, ?_⟩
    refine List.mem_flatMap.2 ⟨⟨Cursor.past a.getLast? w, b⟩, hq _, ?_⟩
    exact List.mem_flatMap.2 ⟨_, mem_boundary.2 ⟨hend, rfl⟩, List.mem_singleton_self _⟩
  rw [hpast]
  exact List.ne_nil_of_mem hmem

/-- A text is read as a keyword whose characters are those of words. -/
theorem isWordChar_of_keyword {s : String} {w : List Char} (hchars : ∀ c ∈ s.toList, isWordChar c = true)
    (hw : w.map Char.toUpper = s.toList) : ∀ c ∈ w, isWordChar c = true := by
  intro c hc
  rw [← isWordChar_toUpper]
  exact hchars _ (hw ▸ List.mem_map_of_mem hc)

/-- A keyword is found where it stands as a word. -/
theorem test_of_keyword {s : String} {a w b : List Char}
    (hq : ∀ k k', k' ∈ keyword s k → k' ∈ q k) (hne : s.toList ≠ [])
    (hchars : ∀ c ∈ s.toList, isWordChar c = true) (hw : w.map Char.toUpper = s.toList)
    (ha : a.getLast?.any isWordChar = false) (hb : b.head?.any isWordChar = false) :
    test (sequence [boundary, q, boundary]) (a ++ (w ++ b)) = true := by
  have hword := isWordChar_of_keyword hchars hw
  have hwne : w ≠ [] := by
    rintro rfl
    exact hne hw.symm
  rw [test, searchFrom_iff]
  refine ⟨a, w ++ b, rfl, bounded_ne_nil (fun before => hq _ _ ?_) (List.head?_eq_some_head hwne)
    (List.getLast?_eq_some_getLast hwne) (hword _ (List.head_mem hwne)) (hword _ (List.getLast_mem hwne))
    ha hb⟩
  exact (spells_keyword s _ _ _).2 ⟨w, b, rfl, hw, rfl⟩

theorem matchAt_eq_none : matchAt p k = none ↔ p k = [] := by
  rw [matchAt, Option.map_eq_none_iff, List.head?_eq_none_iff]

/-! ## Replacements -/

/-- Up to the first space, what is left of a text when spaces replace the matches is the text. -/
theorem replaceFrom_prefix (before : Option Char) {u a b : List Char} (ha : ' ' ∉ a)
    (h : replaceFrom p [' '] 0 before u = a ++ b) :
    ∃ before' u', u = a ++ u' ∧ b = replaceFrom p [' '] 0 before' u' := by
  induction a generalizing before u with
  | nil => exact ⟨before, u, rfl, h.symm⟩
  | cons c a ih =>
    cases u with
    | nil => cases h
    | cons d u =>
      rw [List.mem_cons, not_or] at ha
      rw [replaceFrom] at h
      cases hm : matchAt p ⟨before, d :: u⟩ with
      | some m =>
        rw [hm] at h
        exact absurd (List.cons.inj h).1 ha.1
      | none =>
        rw [hm] at h
        obtain ⟨rfl, hrest⟩ := List.cons.inj h
        obtain ⟨before', u', rfl, hb⟩ := ih (some d) ha.2 hrest
        exact ⟨before', u', rfl, hb⟩

/-- A character at which no match begins is left. -/
theorem replaceFrom_cons {replacement : List Char} {cs : List Char} (h : p ⟨before, c :: cs⟩ = []) :
    replaceFrom p replacement 0 before (c :: cs) = c :: replaceFrom p replacement 0 (some c) cs := by
  rw [replaceFrom, matchAt_eq_none.2 h]

/-! ## The number of matches -/

/-- A pattern that matches at a place has a match. -/
theorem matchesFrom_ne_nil {u v : List Char} (hsplit : text = u ++ c :: v)
    (hp : p ⟨Cursor.past before u, c :: v⟩ ≠ []) : matchesFrom p 0 before text ≠ [] := by
  induction text generalizing before u with
  | nil => simp at hsplit
  | cons d ds ih =>
    rw [matchesFrom]
    cases hm : matchAt p ⟨before, d :: ds⟩ with
    | some m => exact List.cons_ne_nil _ _
    | none =>
      cases u with
      | nil =>
        obtain ⟨rfl, rfl⟩ := List.cons.inj hsplit
        exact absurd (matchAt_eq_none.1 hm) hp
      | cons e u =>
        obtain ⟨rfl, hds⟩ := List.cons.inj hsplit
        rw [past_cons] at hp
        exact ih hds hp

/-- The places before a character at which the pattern matches. -/
def starts (p : Pattern) : Option Char → List Char → Nat
  | _, [] => 0
  | before, c :: cs => (if p ⟨before, c :: cs⟩ = [] then 0 else 1) + starts p (some c) cs

/-- A pattern that matches only where another does has no more matches than the other has places. -/
theorem length_matchesFrom_le (hpq : ∀ k, q k ≠ [] → p k ≠ []) (skip : Nat) (before : Option Char)
    (text : List Char) : (matchesFrom q skip before text).length ≤ starts p before text := by
  induction text generalizing skip before with
  | nil =>
    cases skip with
    | zero => exact Nat.le_refl _
    | succ skip => exact Nat.le_refl _
  | cons c cs ih =>
    cases skip with
    | succ skip =>
      have hrest := ih skip (some c)
      rw [matchesFrom, starts]
      omega
    | zero =>
      rw [matchesFrom, starts]
      cases hm : matchAt q ⟨before, c :: cs⟩ with
      | none =>
        have hrest := ih 0 (some c)
        simp only
        omega
      | some m =>
        have hp : p ⟨before, c :: cs⟩ ≠ [] := by
          refine hpq _ fun hnil => ?_
          rw [matchAt_eq_none.2 hnil] at hm
          cases hm
        have hrest := ih (m.length - 1) (some c)
        simp only [List.length_cons, if_neg hp]
        omega

/-- When it has as many, it matches at each of the places. -/
theorem exists_match (hpq : ∀ k, q k ≠ [] → p k ≠ []) (skip : Nat) (before : Option Char)
    (text : List Char) (h : starts p before text ≤ (matchesFrom q skip before text).length)
    {u : List Char} {c : Char} {v : List Char} (hsplit : text = u ++ c :: v)
    (hp : p ⟨Cursor.past before u, c :: v⟩ ≠ []) :
    ∃ m, matchAt q ⟨Cursor.past before u, c :: v⟩ = some m ∧ m ∈ matchesFrom q skip before text := by
  induction text generalizing skip before u with
  | nil => simp at hsplit
  | cons d ds ih =>
    have hle := fun skip => length_matchesFrom_le hpq skip (some d) ds
    rw [starts] at h
    cases u with
    | nil =>
      obtain ⟨rfl, rfl⟩ := List.cons.inj hsplit
      have hpHead : p ⟨before, d :: ds⟩ ≠ [] := hp
      rw [if_neg hpHead] at h
      cases skip with
      | succ skip =>
        have hrest := hle skip
        rw [matchesFrom] at h
        omega
      | zero =>
        rw [matchesFrom] at h ⊢
        cases hm : matchAt q ⟨before, d :: ds⟩ with
        | none =>
          have hrest := hle 0
          rw [hm] at h
          simp only at h
          omega
        | some m => exact ⟨m, hm, List.mem_cons_self⟩
    | cons e u =>
      obtain ⟨rfl, hds⟩ := List.cons.inj hsplit
      rw [past_cons] at hp ⊢
      cases skip with
      | succ skip =>
        rw [matchesFrom] at h ⊢
        exact ih skip (some d) (by omega) hds hp
      | zero =>
        rw [matchesFrom] at h ⊢
        cases hm : matchAt q ⟨before, d :: ds⟩ with
        | none =>
          rw [hm] at h
          simp only at h
          exact ih 0 (some d) (by omega) hds hp
        | some m =>
          have hpHead : p ⟨before, d :: ds⟩ ≠ [] := by
            refine hpq _ fun hnil => ?_
            rw [matchAt_eq_none.2 hnil] at hm
            cases hm
          rw [hm, if_neg hpHead] at h
          simp only [List.length_cons] at h
          obtain ⟨m', hm', hmem⟩ := ih (m.length - 1) (some d) (by omega) hds hp
          exact ⟨m', hm', List.mem_cons_of_mem _ hmem⟩

/-- A pattern that begins with a character that it does not have again matches at each of its places. -/
theorem starts_le_length {f : Char → Bool}
    (hfirst : ∀ before c cs, p ⟨before, c :: cs⟩ ≠ [] → f c = true)
    (hrest : ∀ before c cs m, matchAt p ⟨before, c :: cs⟩ = some m →
      ∀ d ∈ cs.take (m.length - 1), f d = false)
    (skip : Nat) (before : Option Char) (text : List Char)
    (hskip : ∀ d ∈ text.take skip, f d = false) :
    starts p before text ≤ (matchesFrom p skip before text).length := by
  induction text generalizing skip before with
  | nil => exact Nat.zero_le _
  | cons c cs ih =>
    rw [starts]
    cases skip with
    | succ skip =>
      rw [List.take_succ_cons, List.forall_mem_cons] at hskip
      have hnone : p ⟨before, c :: cs⟩ = [] := by
        by_contra hp
        rw [hfirst _ _ _ hp] at hskip
        cases hskip.1
      have hnext := ih skip (some c) hskip.2
      rw [if_pos hnone, matchesFrom]
      omega
    | zero =>
      rw [matchesFrom]
      cases hm : matchAt p ⟨before, c :: cs⟩ with
      | none =>
        have hnext := ih 0 (some c) (by simp)
        rw [if_pos (matchAt_eq_none.1 hm)]
        simp only
        omega
      | some m =>
        have hnext := ih (m.length - 1) (some c) (hrest _ _ _ _ hm)
        simp only [List.length_cons]
        split <;> omega

end Patterns
